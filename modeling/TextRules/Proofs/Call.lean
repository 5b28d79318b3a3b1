import TextRules.Proofs.Ends
import TextRules.Rule.Parsed

/-!
Where a rule's call is found. A name directly in front of an open parenthesis at the start of the text is the call's
    name (`find?_of_name`). Behind a close parenthesis only what stands after the last word character counts:
    texts that agree up to there and after there have the same call (`key_behind_close`), whatever stands
    between, as long as it opens no parenthesis. An argument holds neither a close parenthesis nor a comma and
    neither begins nor ends with a quote (`plain_argument`).
-/

namespace TextRules

open Text

/-- What a call's argument can be: no close parenthesis or comma inside, no quote at either end. -/
def PlainArgument (a : List Char) : Prop := ')' ∉ a ∧ ',' ∉ a ∧ Bare isQuote a

instance (a : List Char) : Decidable (PlainArgument a) := inferInstanceAs (Decidable (_ ∧ _))

namespace Call

theorem splitOpen?_word {before run name cs : List Char} (h : ∀ c ∈ name, isWord c = true) :
    splitOpen? before run (name ++ cs) = splitOpen? before (name.reverse ++ run) cs := by
  induction name generalizing run with
  | nil => rfl
  | cons c name ih =>
    have wordChar : isWord c = true := h c List.mem_cons_self
    have notOpen : c ≠ '(' := by
      rintro rfl
      rw [isWord_open] at wordChar
      cases wordChar
    rw [List.cons_append, splitOpen?, if_neg (fun opens => notOpen opens.1), if_pos wordChar,
      ih fun d member => h d (List.mem_cons_of_mem _ member), List.reverse_cons, List.append_assoc]
    rfl

theorem takeWhile_close {inside after : List Char} (h : ')' ∉ inside) :
    (inside ++ ')' :: after).takeWhile (· ≠ ')') = inside := by
  have others : ∀ c ∈ inside, decide (c ≠ ')') = true := fun c member => decide_eq_true fun same => h (same ▸ member)
  rw [List.takeWhile_append_of_pos others, List.takeWhile_cons_of_neg (by simp), List.append_nil]

theorem dropWhile_close {inside after : List Char} (h : ')' ∉ inside) :
    (inside ++ ')' :: after).dropWhile (· ≠ ')') = ')' :: after := by
  have others : ∀ c ∈ inside, decide (c ≠ ')') = true := fun c member => decide_eq_true fun same => h (same ▸ member)
  rw [List.dropWhile_append_of_pos others, List.dropWhile_cons_of_neg (by simp)]

/-- A name in front of the first open parenthesis is taken whole, and the call ends at the first close parenthesis. -/
theorem find?_of_name {name inside : List Char} (named : name ≠ []) (word : ∀ c ∈ name, isWord c = true)
    (unclosed : ')' ∉ inside) (after : List Char) :
    find? (name ++ '(' :: (inside ++ ')' :: after)) = some ⟨[], name, inside, after⟩ := by
  have run_ne : name.reverse ++ [] ≠ [] := by simpa using named
  have opened : splitOpen? [] [] (name ++ '(' :: (inside ++ ')' :: after)) =
      some ([], name, inside ++ ')' :: after) := by
    rw [splitOpen?_word word, splitOpen?, if_pos ⟨rfl, run_ne⟩]
    simp
  simp only [find?, opened, takeWhile_close unclosed, dropWhile_close unclosed]
  simp

/-! ### Arguments -/

theorem notMem_inside {cs : List Char} {c : Call} (h : find? cs = some c) : ')' ∉ c.inside := by
  unfold find? at h
  split at h
  · cases h
  · split at h
    · cases h
      intro member
      simpa using List.mem_takeWhile_imp member
    · cases h

theorem arguments_of_notMem {c : Call} (h : ',' ∉ c.inside) :
    c.arguments = [String.ofList (stripQuotes (trimChars c.inside))] := by
  rw [arguments, splitAt_of_notMem h]
  rfl

theorem exists_argument (c : Call) : ∃ piece ∈ splitAt ',' c.inside,
    c.arguments.headD "" = String.ofList (stripQuotes (trimChars piece)) := by
  unfold arguments
  cases parts : splitAt ',' c.inside with
  | nil => exact absurd parts (splitAt_ne_nil _ _)
  | cons piece pieces => exact ⟨piece, List.mem_cons_self, rfl⟩

theorem plain_argument {cs : List Char} {c : Call} (h : find? cs = some c) :
    PlainArgument (c.arguments.headD "").toList := by
  obtain ⟨piece, listed, taken⟩ := c.exists_argument
  have mem_piece : ∀ {x}, x ∈ stripQuotes (trimChars piece) → x ∈ piece := fun member =>
    mem_of_mem_stripEnds (mem_of_mem_stripEnds member)
  rw [taken, String.toList_ofList]
  refine ⟨fun member => ?_, fun member => ?_, bare_stripEnds _ _⟩
  · exact notMem_inside h ((mem_of_mem_splitAt listed).2 _ (mem_piece member))
  · exact (mem_of_mem_splitAt listed).1 (mem_piece member)

/-! ### What stands behind a close parenthesis -/

theorem splitOpen?_append {before run cs more : List Char} {r : List Char × List Char × List Char}
    (h : splitOpen? before run cs = some r) :
    splitOpen? before run (cs ++ more) = some (r.1, r.2.1, r.2.2 ++ more) := by
  fun_induction splitOpen? before run cs with
  | case1 => cases h
  | case2 before run c cs opens =>
    cases h
    rw [List.cons_append, splitOpen?, if_pos opens]
  | case3 before run c cs opens wordChar ih => rw [List.cons_append, splitOpen?, if_neg opens, if_pos wordChar, ih h]
  | case4 before run c cs opens wordChar ih => rw [List.cons_append, splitOpen?, if_neg opens, if_neg wordChar, ih h]

/-- Behind a text without a call, and a character that belongs to no name, the search begins anew. -/
theorem splitOpen?_skip {before run cs : List Char} (more : List Char) {x : Char} (notOpen : x ≠ '(')
    (notWord : isWord x = false) (h : splitOpen? before run cs = none) :
    ∃ before', splitOpen? before run (cs ++ x :: more) = splitOpen? before' [] more := by
  fun_induction splitOpen? before run cs with
  | case1 before run =>
    exact ⟨_, by rw [List.nil_append, splitOpen?, if_neg fun opens => notOpen opens.1, if_neg (by simp [notWord])]⟩
  | case2 => cases h
  | case3 before run c cs opens wordChar ih =>
    obtain ⟨b, skipped⟩ := ih h
    exact ⟨b, by rw [List.cons_append, splitOpen?, if_neg opens, if_pos wordChar, skipped]⟩
  | case4 before run c cs opens wordChar ih =>
    obtain ⟨b, skipped⟩ := ih h
    exact ⟨b, by rw [List.cons_append, splitOpen?, if_neg opens, if_neg wordChar, skipped]⟩

theorem splitOpen?_of_notMem (before run : List Char) {cs : List Char} (h : '(' ∉ cs) :
    splitOpen? before run cs = none := by
  fun_induction splitOpen? before run cs with
  | case1 => rfl
  | case2 before run c cs opens => exact absurd (opens.1 ▸ List.mem_cons_self) h
  | case3 before run c cs opens wordChar ih => exact ih fun member => h (List.mem_cons_of_mem _ member)
  | case4 before run c cs opens wordChar ih => exact ih fun member => h (List.mem_cons_of_mem _ member)

theorem splitOpen?_before (before before' run cs : List Char) :
    (splitOpen? before run cs).map (·.2) = (splitOpen? before' run cs).map (·.2) := by
  induction cs generalizing before before' run with
  | nil => rfl
  | cons c cs ih =>
    unfold splitOpen?
    split
    · rfl
    · split
      · exact ih _ _ _
      · exact ih _ _ _

/-- What a rule takes from its call: the name and what is inside. -/
def key (c : Call) : List Char × List Char := (c.name, c.inside)

theorem map_key_find? (cs : List Char) : (find? cs).map key =
    ((splitOpen? [] [] cs).map (·.2)).bind fun r => if ')' ∈ r.2 then some (r.1, r.2.takeWhile (· ≠ ')')) else none := by
  unfold find?
  cases splitOpen? [] [] cs with
  | none => rfl
  | some r =>
    simp only [Option.map_some, Option.bind_some]
    split <;> rfl

theorem takeWhile_to_close (s t t' : List Char) :
    (s ++ ')' :: t).takeWhile (· ≠ ')') = (s ++ ')' :: t').takeWhile (· ≠ ')') := by
  induction s with
  | nil => simp
  | cons c s ih =>
    simp only [List.cons_append, List.takeWhile_cons]
    split
    · rw [ih]
    · rfl

/-- Two texts that agree up to a close parenthesis and again behind a character that belongs to no name have the same
    call, if no parenthesis is opened between. -/
theorem key_behind_close (front tail : List Char) {m m' : List Char} {x x' : Char} (unopened : '(' ∉ m ++ [x])
    (unopened' : '(' ∉ m' ++ [x']) (notWord : isWord x = false) (notWord' : isWord x' = false) :
    (find? (front ++ ')' :: (m ++ x :: tail))).map key = (find? (front ++ ')' :: (m' ++ x' :: tail))).map key := by
  rw [map_key_find?, map_key_find?]
  cases found : splitOpen? [] [] front with
  | some r =>
    rw [splitOpen?_append found, splitOpen?_append found]
    simp only [Option.map_some, Option.bind_some, takeWhile_to_close r.2.2 (m ++ x :: tail) (m' ++ x' :: tail)]
    simp
  | none =>
    have skip : ∀ {m : List Char} {x : Char}, '(' ∉ m ++ [x] → isWord x = false →
        ∃ before, splitOpen? [] [] (front ++ ')' :: (m ++ x :: tail)) = splitOpen? before [] tail := by
      intro m x unopened notWord
      have apart : '(' ∉ m ∧ x ≠ '(' := by simpa [eq_comm] using unopened
      obtain ⟨b, skipped⟩ := splitOpen?_skip (m ++ x :: tail) (by decide) isWord_close found
      obtain ⟨b', skipped'⟩ := splitOpen?_skip tail apart.2 notWord (splitOpen?_of_notMem b [] apart.1)
      exact ⟨b', skipped.trans skipped'⟩
    obtain ⟨b, skipped⟩ := skip unopened notWord
    obtain ⟨b', skipped'⟩ := skip unopened' notWord'
    rw [skipped, skipped', splitOpen?_before b b']

end Call
end TextRules
