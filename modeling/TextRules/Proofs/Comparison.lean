import TextRules.Proofs.Literal
import TextRules.Rule.Value

/-!
Where a rule's comparison is found. A comparison is a cut of the text into what stands before, a symbol, blanks and
    a literal (`Valid`), and the one taken is the first of them (`find?_eq_some_iff`). Behind a close parenthesis
    and blanks no earlier comparison is in the way (`find?_behind_close`): its literal would reach over the
    parenthesis, and no literal that ends with another one does.
-/

namespace TextRules

open Text

theorem exists_of_append_eq_append_cons {α : Type} {a b c d : List α} {x : α} (absent : x ∉ a)
    (h : a ++ b = c ++ x :: d) : ∃ e, c = a ++ e ∧ b = e ++ x :: d := by
  rcases List.append_eq_append_iff.mp h with ⟨e, longer, behind⟩ | ⟨e, longer, shorter⟩
  · exact ⟨e, longer, behind⟩
  · cases e with
    | nil => exact ⟨[], by simpa using longer.symm, by simpa using shorter.symm⟩
    | cons y e =>
      obtain ⟨rfl, -⟩ := List.cons.inj shorter
      exact absurd (by rw [longer]; simp) absent

theorem exists_of_append_cons_eq_append {α : Type} {a b c d : List α} {x : α} (absent : x ∉ b)
    (h : c ++ x :: d = a ++ b) : ∃ e, a = c ++ x :: e ∧ d = e ++ b := by
  rcases List.append_eq_append_iff.mp h with ⟨e, longer, shorter⟩ | ⟨e, -, behind⟩
  · cases e with
    | nil => exact absurd (by rw [← show x :: d = b from shorter]; simp) absent
    | cons y e =>
      obtain ⟨rfl, tail⟩ := List.cons.inj shorter
      exact ⟨e, longer, tail⟩
  · exact absurd (by rw [behind]; simp) absent

namespace Comparison

/-- One of the four characters that begin a symbol, perhaps with an equals sign behind it. -/
def IsSymbol (s : List Char) : Prop := ∃ c, beginsSymbol c = true ∧ (s = [c] ∨ s = [c, '='])

/-- A cut whose parts are a symbol, blanks and a literal. -/
structure Valid (c : Comparison) : Prop where
  symbol : IsSymbol c.symbol
  blanks : ∀ x ∈ c.blanks, isBlank x = true
  literal : ∃ l : Literal, l.chars = c.literal

theorem beginsSymbol_iff {c : Char} : beginsSymbol c = true ↔ c = '<' ∨ c = '>' ∨ c = '!' ∨ c = '=' := by
  simp [beginsSymbol, or_assoc]

theorem IsSymbol.beginsSymbol_of_mem {s : List Char} (h : IsSymbol s) {c : Char} (member : c ∈ s) :
    beginsSymbol c = true := by
  obtain ⟨d, begins, rfl | rfl⟩ := h
  · rwa [List.mem_singleton.mp member]
  · rcases List.mem_cons.mp member with rfl | member
    · exact begins
    · rw [List.mem_singleton.mp member]
      decide

theorem isSymbol_symbol (op : Operator) : IsSymbol op.symbol.toList := by
  cases op
  · exact ⟨'>', by decide, Or.inl rfl⟩
  · exact ⟨'<', by decide, Or.inl rfl⟩
  · exact ⟨'>', by decide, Or.inr rfl⟩
  · exact ⟨'<', by decide, Or.inr rfl⟩
  · exact ⟨'=', by decide, Or.inl rfl⟩
  · exact ⟨'!', by decide, Or.inr rfl⟩

theorem beginsSymbol_eq_false_of_isBlank {c : Char} (h : isBlank c = true) : beginsSymbol c = false := by
  by_contra begins
  rw [Bool.not_eq_false, beginsSymbol_iff] at begins
  rcases begins with rfl | rfl | rfl | rfl <;> exact absurd h (by decide)

theorem isBlank_eq_false_of_isNumeralChar {c : Char} (h : isNumeralChar c = true) : isBlank c = false := by
  simp only [isNumeralChar, isDigit, Bool.or_eq_true, Bool.and_eq_true, decide_eq_true_eq, beq_iff_eq] at h
  rcases h with (⟨least, most⟩ | rfl) | rfl
  · have lower : 48 ≤ c.toNat := least
    have upper : c.toNat ≤ 57 := most
    simp only [isBlank, Bool.or_eq_false_iff, Bool.and_eq_false_iff, decide_eq_false_iff_not, beq_eq_false_iff_ne]
    omega
  · decide
  · decide

/-- A literal begins neither with a blank nor with an equals sign. -/
theorem head_literal (l : Literal) : ∃ c cs, l.chars = c :: cs ∧ isBlank c = false ∧ c ≠ '=' := by
  obtain ⟨c, cs, split, first⟩ := l.exists_head
  refine ⟨c, cs, split, ?_, ?_⟩
  · rcases first with first | first
    · exact isBlank_eq_false_of_isNumeralChar first
    · obtain ⟨q, rfl⟩ := Quote.isQuote_iff.mp first
      exact q.isBlank_char
  · rintro rfl
    rcases first with first | first <;> exact absurd first (by decide)

/-- A text that a literal ends does not end in a blank. -/
theorem last_literal (l : Literal) (front : List Char) : ∀ c ∈ (front ++ l.chars).getLast?, isBlank c = false := by
  obtain ⟨cs, c, split, last⟩ := l.exists_last
  rw [split, ← List.append_assoc, List.getLast?_concat]
  rintro _ ⟨⟩
  rcases last with last | last
  · exact isBlank_eq_false_of_isNumeralChar (isNumeralChar_of_isDigit last)
  · obtain ⟨q, rfl⟩ := Quote.isQuote_iff.mp last
    exact q.isBlank_char

theorem readSymbol?_eq_some {cs symbol rest : List Char} (h : readSymbol? cs = some (symbol, rest)) :
    IsSymbol symbol ∧ symbol ++ rest = cs := by
  unfold readSymbol? at h
  split at h
  · split at h
    · rename_i begins
      cases h
      exact ⟨⟨_, begins, Or.inr rfl⟩, rfl⟩
    · cases h
  · split at h
    · rename_i begins
      cases h
      exact ⟨⟨_, begins, Or.inl rfl⟩, rfl⟩
    · cases h
  · cases h

theorem readSymbol?_append {symbol rest : List Char} (h : IsSymbol symbol) (other : ∀ t, rest ≠ '=' :: t) :
    readSymbol? (symbol ++ rest) = some (symbol, rest) := by
  obtain ⟨c, begins, rfl | rfl⟩ := h
  · cases rest with
    | nil => simp [readSymbol?, begins]
    | cons d rest =>
      simp [readSymbol?, begins]
  · simp [readSymbol?, begins]

theorem read?_eq_some_iff {cs : List Char} {c : Comparison} :
    read? cs = some c ↔ c.before = [] ∧ c.Valid ∧ c.whole = cs := by
  constructor
  · intro h
    unfold read? at h
    split at h
    · cases h
    · rename_i symbol rest read
      obtain ⟨isSymbol, joined⟩ := readSymbol?_eq_some read
      dsimp only at h
      split at h
      · rename_i isLiteral
        cases h
        refine ⟨rfl, ⟨isSymbol, fun x member => List.mem_takeWhile_imp member, Literal.isLiteral_iff.mp isLiteral⟩, ?_⟩
        rw [whole, List.nil_append, List.append_assoc, List.takeWhile_append_dropWhile, joined]
      · cases h
  · rintro ⟨first, valid, rfl⟩
    obtain ⟨before, symbol, blanks, literal⟩ := c
    obtain ⟨isSymbol, areBlanks, l, isLiteral⟩ := valid
    dsimp only at first isSymbol areBlanks isLiteral
    subst first isLiteral
    obtain ⟨d, ds, head, visible, other⟩ := head_literal l
    have dropped : (blanks ++ l.chars).dropWhile isBlank = l.chars := by
      rw [List.dropWhile_append_of_pos areBlanks, head, List.dropWhile_cons_of_neg (by simp [visible])]
    have taken : (blanks ++ l.chars).takeWhile isBlank = blanks := by
      rw [List.takeWhile_append_of_pos areBlanks, head, List.takeWhile_cons_of_neg (by simp [visible]), List.append_nil]
    have next : ∀ t, blanks ++ l.chars ≠ '=' :: t := by
      intro t same
      cases blanks with
      | nil =>
        rw [head] at same
        exact other (List.cons.inj same).1
      | cons b blanks =>
        have := areBlanks b List.mem_cons_self
        rw [(List.cons.inj same).1] at this
        exact absurd this (by decide)
    rw [whole, List.nil_append, List.append_assoc, read?, readSymbol?_append isSymbol next]
    simp only [dropped, taken, Literal.isLiteral_iff.mpr ⟨l, rfl⟩, if_true]

theorem Valid.withBefore {c : Comparison} (h : c.Valid) (b : List Char) : Valid { c with before := b } :=
  ⟨h.symbol, h.blanks, h.literal⟩

theorem whole_withBefore (c : Comparison) (b : List Char) :
    ({ c with before := b } : Comparison).whole = b ++ ({ c with before := [] } : Comparison).whole := by
  simp [whole]

theorem findFrom?_eq_some_iff {passed cs : List Char} {c : Comparison} :
    findFrom? passed cs = some c ↔ ∃ p s, p ++ s = cs ∧ c.before = passed.reverse ++ p ∧
      read? s = some { c with before := [] } ∧ ∀ p' s', p' ++ s' = cs → p'.length < p.length → read? s' = none := by
  induction cs generalizing passed with
  | nil =>
    simp only [findFrom?, reduceCtorEq, false_iff]
    rintro ⟨p, s, cut, -, reads, -⟩
    rw [(List.append_eq_nil_iff.mp cut).2] at reads
    cases reads
  | cons x cs ih =>
    cases here : read? (x :: cs) with
    | some found =>
      have atFront := (read?_eq_some_iff.mp here).1
      simp only [findFrom?, here, Option.some.injEq]
      constructor
      · rintro rfl
        refine ⟨[], x :: cs, rfl, (List.append_nil _).symm, ?_, fun p' s' _ earlier => absurd earlier (Nat.not_lt_zero _)⟩
        rw [here, ← atFront]
      · rintro ⟨p, s, cut, placed, reads, least⟩
        cases p with
        | nil =>
          obtain rfl : s = x :: cs := cut
          rw [here, Option.some.injEq] at reads
          rw [reads]
          show { c with before := passed.reverse } = c
          rw [← List.append_nil passed.reverse, ← placed]
        | cons y p => exact absurd (least [] (x :: cs) rfl (Nat.zero_lt_succ _)) (by simp [here])
    | none =>
      simp only [findFrom?, here, ih]
      constructor
      · rintro ⟨p, s, rfl, placed, reads, least⟩
        refine ⟨x :: p, s, rfl, by simpa using placed, reads, fun p' s' cut earlier => ?_⟩
        cases p' with
        | nil =>
          rw [show s' = x :: (p ++ s) from cut]
          exact here
        | cons y p' => exact least p' s' (List.cons.inj cut).2 (Nat.lt_of_succ_lt_succ earlier)
      · rintro ⟨p, s, cut, placed, reads, least⟩
        cases p with
        | nil =>
          rw [show s = x :: cs from cut, here] at reads
          cases reads
        | cons y p =>
          obtain ⟨rfl, rfl⟩ := List.cons.inj cut
          exact ⟨p, s, rfl, by simpa using placed, reads, fun p' s' cut earlier =>
            least (y :: p') s' (by simp [cut]) (Nat.succ_lt_succ earlier)⟩

/-- The comparison found is the first that there is. -/
theorem find?_eq_some_iff {cs : List Char} {c : Comparison} :
    find? cs = some c ↔
      c.Valid ∧ c.whole = cs ∧ ∀ d : Comparison, d.Valid → d.whole = cs → c.before.length ≤ d.before.length := by
  rw [find?, findFrom?_eq_some_iff]
  constructor
  · rintro ⟨p, s, rfl, placed, reads, least⟩
    obtain ⟨-, valid, joined⟩ := read?_eq_some_iff.mp reads
    have placed : c.before = p := placed
    refine ⟨valid.withBefore c.before, ?_, fun d valid' joined' => ?_⟩
    · rw [← joined, ← placed]
      exact whole_withBefore c c.before
    · by_contra earlier
      rw [placed] at earlier
      have unread := least d.before _ ((whole_withBefore d d.before).symm.trans joined') (by omega)
      rw [read?_eq_some_iff.mpr ⟨rfl, valid'.withBefore [], rfl⟩] at unread
      cases unread
  · rintro ⟨valid, rfl, least⟩
    refine ⟨c.before, _, (whole_withBefore c c.before).symm, rfl,
      read?_eq_some_iff.mpr ⟨rfl, valid.withBefore [], rfl⟩, fun p' s' cut earlier => ?_⟩
    cases read : read? s' with
    | none => rfl
    | some e =>
      obtain ⟨placed, found, rejoined⟩ := read?_eq_some_iff.mp read
      have bound : c.before.length ≤ p'.length := by
        apply least { e with before := p' } (found.withBefore p')
        rw [whole_withBefore, ← placed, rejoined, cut]
      omega

theorem Valid.beginsSymbol_of_cons {c : Comparison} (h : c.Valid) {x : Char} {t rest : List Char}
    (same : x :: t = c.symbol ++ rest) : beginsSymbol x = true := by
  obtain ⟨y, begins, symbol | symbol⟩ := h.symbol <;>
  · rw [symbol] at same
    rwa [(List.cons.inj same).1]

theorem notMem_of_beginsSymbol {c : Comparison} (h : c.Valid) {x : Char} (noSymbol : beginsSymbol x = false)
    (visible : isBlank x = false) : x ∉ c.symbol ++ c.blanks := by
  intro member
  rcases List.mem_append.mp member with member | member
  · rw [h.symbol.beginsSymbol_of_mem member] at noSymbol
    cases noSymbol
  · rw [h.blanks x member] at visible
    cases visible

/-- No comparison begins before a close parenthesis and ends with the literal of another one behind it. -/
theorem Valid.not_across_close {c : Comparison} (h : c.Valid) (e rest : List Char) (l : Literal) :
    c.symbol ++ c.blanks ++ c.literal ≠ e ++ ')' :: (rest ++ l.chars) := by
  intro same
  obtain ⟨l', spelled⟩ := h.literal
  obtain ⟨u, -, overlap⟩ := exists_of_append_eq_append_cons (notMem_of_beginsSymbol h (by decide) (by decide)) same
  rw [← spelled, ← List.cons_append, ← List.append_assoc] at overlap
  exact absurd (Literal.isNumeralChar_of_overlap overlap ')' (by simp)) (by decide)

/-- A comparison that follows a close parenthesis and blanks is the one found. -/
theorem find?_behind_close {front w : List Char} {c : Comparison} (areBlanks : ∀ x ∈ w, isBlank x = true) (valid : c.Valid)
    (placed : c.before = front ++ ')' :: w) : find? c.whole = some c := by
  refine find?_eq_some_iff.mpr ⟨valid, rfl, fun d valid' joined' => ?_⟩
  by_contra earlier
  obtain ⟨l, spelled⟩ := valid.literal
  have cut : d.before ++ (d.symbol ++ d.blanks ++ d.literal) =
      (front ++ ')' :: w) ++ (c.symbol ++ c.blanks ++ l.chars) := by
    rw [← placed, spelled]
    simpa [whole] using joined'
  rcases List.append_eq_append_iff.mp cut with ⟨e, split, rest⟩ | ⟨e, split, -⟩
  · rcases List.append_eq_append_iff.mp split with ⟨e', further, tail⟩ | ⟨e', further, rfl⟩
    · cases e' with
      | nil =>
        rw [← show ')' :: w = e from tail] at rest
        exact valid'.not_across_close [] (w ++ (c.symbol ++ c.blanks)) l (by simpa using rest)
      | cons y e' =>
        -- The other comparison begins among the blanks, but no blank begins a symbol.
        have blanks : w = e' ++ e := (List.cons.inj tail).2
        cases e with
        | nil => exact earlier (by simp [placed, further, blanks])
        | cons z e =>
          have noSymbol : beginsSymbol z = false := beginsSymbol_eq_false_of_isBlank (areBlanks z (by simp [blanks]))
          obtain ⟨x, begins, symbol | symbol⟩ := valid'.symbol <;> rw [symbol] at rest <;>
            · rw [(List.cons.inj rest).1, noSymbol] at begins
              cases begins
    · -- The other comparison begins in front of the parenthesis, and its literal reaches over it.
      exact valid'.not_across_close e' (w ++ (c.symbol ++ c.blanks)) l (by simpa using rest)
  · rw [placed, split] at earlier
    simp at earlier

end Comparison
end TextRules
