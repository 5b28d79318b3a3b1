import Mathlib.Data.List.TakeWhile
import TextRules.Text.Basic

/-!
What stands at the ends of a text. Characters of a kind are taken off both ends, and what is left neither begins
    nor ends with such a character (`Bare`). So padding a text changes nothing, a bare text stays as it is, and
    every text is its bare part between two runs of that kind. The pieces of a text between separators are the
    only way to write it with separators between texts that hold none (`splitAt_eq_iff`).
-/

namespace TextRules
namespace Text

/-- A text that neither begins nor ends with a character of a kind. -/
def Bare (p : Char → Bool) (cs : List Char) : Prop :=
  (∀ c ∈ cs.head?, p c = false) ∧ (∀ c ∈ cs.getLast?, p c = false)

theorem bare_iff {p : Char → Bool} {cs : List Char} :
    (cs.head?.all (!p ·) && cs.getLast?.all (!p ·)) = true ↔ Bare p cs := by
  simp only [Bool.and_eq_true, Option.all_eq_true, Bool.not_eq_true']
  rfl

instance (p : Char → Bool) (cs : List Char) : Decidable (Bare p cs) := decidable_of_iff _ bare_iff

/-- A run of blanks, perhaps of none. -/
abbrev Blanks := { cs : List Char // ∀ c ∈ cs, isBlank c = true }

/-- A run of given blanks. -/
def Blanks.ofList (cs : List Char) (h : cs.all isBlank = true) : Blanks := ⟨cs, List.all_eq_true.mp h⟩

variable {p : Char → Bool} {cs : List Char}

theorem dropWhile_eq_self (h : ∀ c ∈ cs.head?, p c = false) : cs.dropWhile p = cs := by
  cases cs with
  | nil => rfl
  | cons c cs => rw [List.dropWhile_cons_of_neg (by simp [h c rfl])]

theorem head?_dropWhile (p : Char → Bool) (cs : List Char) : ∀ c ∈ (cs.dropWhile p).head?, p c = false := by
  intro c member
  have h := List.head?_dropWhile_not p cs
  rw [member] at h
  exact h

theorem stripEnds_of_bare (h : Bare p cs) : stripEnds p cs = cs := by
  have last : ∀ c ∈ cs.reverse.head?, p c = false := by
    rw [List.head?_reverse]
    exact h.2
  rw [stripEnds, dropWhile_eq_self h.1, dropWhile_eq_self last, List.reverse_reverse]

/-- Characters of the kind in front and behind make no difference. -/
theorem stripEnds_pad {l r : List Char} (front : ∀ c ∈ l, p c = true) (back : ∀ c ∈ r, p c = true) :
    stripEnds p (l ++ (cs ++ r)) = stripEnds p cs := by
  have back' : ∀ c ∈ r.reverse, p c = true := fun c member => back c (List.mem_reverse.mp member)
  unfold stripEnds
  rw [List.dropWhile_append_of_pos front, List.dropWhile_append]
  by_cases gone : cs.dropWhile p = []
  · simp only [gone, List.isEmpty_nil, if_true, List.dropWhile_eq_nil_iff.mpr back]
  · have kept : (cs.dropWhile p).isEmpty = false := by simp [gone]
    rw [kept, if_neg Bool.false_ne_true, List.reverse_append, List.dropWhile_append_of_pos back']

/-- A text is its bare part between two runs of the kind. -/
theorem exists_pad (p : Char → Bool) (cs : List Char) :
    ∃ l r, (∀ c ∈ l, p c = true) ∧ (∀ c ∈ r, p c = true) ∧ l ++ (stripEnds p cs ++ r) = cs := by
  refine ⟨cs.takeWhile p, ((cs.dropWhile p).reverse.takeWhile p).reverse, ?_, ?_, ?_⟩
  · exact fun c member => List.mem_takeWhile_imp member
  · exact fun c member => List.mem_takeWhile_imp (List.mem_reverse.mp member)
  · rw [stripEnds, ← List.reverse_append, List.takeWhile_append_dropWhile, List.reverse_reverse,
      List.takeWhile_append_dropWhile]

theorem bare_stripEnds (p : Char → Bool) (cs : List Char) : Bare p (stripEnds p cs) := by
  constructor
  · intro c member
    apply head?_dropWhile p cs c
    have parted : stripEnds p cs ++ ((cs.dropWhile p).reverse.takeWhile p).reverse = cs.dropWhile p := by
      rw [stripEnds, ← List.reverse_append, List.takeWhile_append_dropWhile, List.reverse_reverse]
    rw [← parted, List.head?_append, Option.mem_def.mp member, Option.some_or]
    rfl
  · intro c member
    rw [stripEnds, List.getLast?_reverse] at member
    exact head?_dropWhile p _ c member

theorem stripEnds_eq_self_iff : stripEnds p cs = cs ↔ Bare p cs :=
  ⟨fun h => h ▸ bare_stripEnds p cs, stripEnds_of_bare⟩

/-- What is left of a text when the characters of a kind are taken off both its ends. -/
structure Stripped (p : Char → Bool) (cs core : List Char) : Prop where
  bare : Bare p core
  pad : ∃ l r, (∀ c ∈ l, p c = true) ∧ (∀ c ∈ r, p c = true) ∧ l ++ (core ++ r) = cs

theorem stripEnds_eq_iff {core : List Char} : stripEnds p cs = core ↔ Stripped p cs core := by
  constructor
  · rintro rfl
    exact ⟨bare_stripEnds p cs, exists_pad p cs⟩
  · rintro ⟨bare, l, r, front, back, rfl⟩
    rw [stripEnds_pad front back, stripEnds_of_bare bare]

theorem trim_trim (s : String) : trim (trim s) = trim s := by
  rw [← String.toList_inj, toList_trim, toList_trim]
  exact stripEnds_of_bare (bare_stripEnds isBlank s.toList)

theorem mem_of_mem_stripEnds {c : Char} (h : c ∈ stripEnds p cs) : c ∈ cs := by
  obtain ⟨l, r, -, -, whole⟩ := exists_pad p cs
  rw [← whole]
  simp [h]

/-- Only the characters of the text itself matter for what is taken off. -/
theorem stripEnds_congr {p p' : Char → Bool} (h : ∀ c ∈ cs, p c = p' c) : stripEnds p cs = stripEnds p' cs := by
  obtain ⟨l, r, front, back, whole⟩ := exists_pad p' cs
  have same : ∀ c, c ∈ l ∨ c ∈ stripEnds p' cs ∨ c ∈ r → p c = p' c := by
    intro c member
    apply h
    rw [← whole]
    simpa using member
  have bare : Bare p (stripEnds p' cs) := by
    obtain ⟨head, last⟩ := bare_stripEnds p' cs
    refine ⟨fun c member => ?_, fun c member => ?_⟩
    · rw [same c (Or.inr (Or.inl (List.mem_of_mem_head? member)))]
      exact head c member
    · rw [same c (Or.inr (Or.inl (List.mem_of_mem_getLast? member)))]
      exact last c member
  have pad : stripEnds p (l ++ (stripEnds p' cs ++ r)) = stripEnds p (stripEnds p' cs) :=
    stripEnds_pad (fun c member => (same c (Or.inl member)).trans (front c member))
      (fun c member => (same c (Or.inr (Or.inr member))).trans (back c member))
  rw [whole, stripEnds_of_bare bare] at pad
  exact pad

/-! ### Pieces -/

theorem mem_of_mem_splitAt {sep : Char} {cs piece : List Char} (h : piece ∈ splitAt sep cs) :
    sep ∉ piece ∧ ∀ c ∈ piece, c ∈ cs := by
  fun_induction splitAt sep cs generalizing piece with
  | case1 => simp_all
  | case2 c cs empty => exact absurd empty (splitAt_ne_nil sep cs)
  | case3 cs first pieces parts ih =>
    rcases List.mem_cons.mp h with rfl | h
    · simp
    · exact ⟨(ih (parts ▸ h)).1, fun d member => List.mem_cons_of_mem _ ((ih (parts ▸ h)).2 d member)⟩
  | case4 c cs first pieces parts other ih =>
    rcases List.mem_cons.mp h with rfl | h
    · have free := ih (parts ▸ List.mem_cons_self)
      refine ⟨?_, fun d member => ?_⟩
      · simp only [List.mem_cons, not_or]
        exact ⟨fun same => other same.symm, free.1⟩
      · rcases List.mem_cons.mp member with rfl | member
        · exact List.mem_cons_self
        · exact List.mem_cons_of_mem _ (free.2 d member)
    · have rest := ih (parts ▸ List.mem_cons_of_mem _ h)
      exact ⟨rest.1, fun d member => List.mem_cons_of_mem _ (rest.2 d member)⟩

/-- The pieces of a text between the places where a character stands. -/
structure Pieces (sep : Char) (cs : List Char) (pieces : List (List Char)) : Prop where
  nonempty : pieces ≠ []
  free : ∀ piece ∈ pieces, sep ∉ piece
  joined : [sep].intercalate pieces = cs

theorem splitAt_eq_splitOn (sep : Char) (cs : List Char) : splitAt sep cs = cs.splitOn sep := by
  induction cs with
  | nil => rfl
  | cons c cs ih =>
    have step := List.splitOnP_cons_eq_if_modifyHead (p := (· == sep)) c cs
    rw [List.splitOn, step, ← List.splitOn, ← ih, splitAt]
    split
    · rename_i empty
      exact absurd empty (splitAt_ne_nil sep cs)
    · rename_i piece pieces parts
      by_cases same : c = sep
      · simp [same, parts]
      · simp [same, parts]

theorem splitAt_eq_iff {sep : Char} {pieces : List (List Char)} : splitAt sep cs = pieces ↔ Pieces sep cs pieces := by
  constructor
  · rintro rfl
    refine ⟨splitAt_ne_nil sep cs, fun piece member => (mem_of_mem_splitAt member).1, ?_⟩
    rw [splitAt_eq_splitOn, List.intercalate_splitOn]
  · rintro ⟨nonempty, free, rfl⟩
    rw [splitAt_eq_splitOn, List.splitOn_intercalate sep free nonempty]

theorem splitAt_of_notMem {sep : Char} (h : sep ∉ cs) : splitAt sep cs = [cs] :=
  splitAt_eq_iff.mpr ⟨List.cons_ne_nil _ _, by simpa using h, List.intercalate_singleton⟩

/-- There is one piece more than there are separators. -/
theorem length_splitAt (sep : Char) (cs : List Char) : (splitAt sep cs).length = cs.count sep + 1 := by
  fun_induction splitAt sep cs with
  | case1 => rfl
  | case2 c cs empty => exact absurd empty (splitAt_ne_nil sep cs)
  | case3 cs piece pieces parts ih =>
    rw [parts] at ih
    rw [List.length_cons, ih, List.count_cons_self]
  | case4 c cs piece pieces parts other ih =>
    rw [parts] at ih
    rw [List.count_cons_of_ne other]
    exact ih

end Text
end TextRules
