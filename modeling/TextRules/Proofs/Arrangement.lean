import TextRules.Proofs.Extraction
import TextRules.Proofs.FirstCall

/-!
Where the call and the comparison of a rule stand. Each is looked for in the whole text without regard to the other, so
    a call need not end before the comparison begins (`Call.Precedes`). It may also stand in the quotes of the
    literal (`Call.WithinLiteral`), or begin before the operator and end in those quotes (`Call.RunsInto`). There is
    nothing else (`Call.arranged`), and a quoted literal with a close parenthesis is needed for either. The call
    precedes the comparison exactly if the text before the operator has a call of its own (`Call.precedes_iff`).
-/

namespace TextRules

open Text

namespace Call
variable {cs : List Char} {call : Call} {comparison : Comparison}

/-- The call ends before the operator begins. -/
def Precedes (call : Call) (comparison : Comparison) : Prop :=
  ∃ between, comparison.before = call.before ++ call.name ++ '(' :: (call.inside ++ ')' :: between)

/-- The whole call stands between the quotes of the literal. -/
def WithinLiteral (call : Call) (comparison : Comparison) : Prop :=
  ∃ (q : Quote) (front back : List Char),
    call.before = comparison.before ++ comparison.symbol ++ comparison.blanks ++ q.char :: front ∧
    comparison.literal = q.char :: (front ++ call.name ++ '(' :: (call.inside ++ ')' :: (back ++ [q.char])))

/-- The operator stands in the parentheses of the call, and the call ends between the quotes of the literal. -/
def RunsInto (call : Call) (comparison : Comparison) : Prop :=
  ∃ (q : Quote) (front middle back : List Char),
    comparison.before = call.before ++ call.name ++ '(' :: front ∧
    call.inside = front ++ comparison.symbol ++ comparison.blanks ++ q.char :: middle ∧
    comparison.literal = q.char :: (middle ++ ')' :: (back ++ [q.char]))

/-! ### One of the three -/

theorem isWord_quote (q : Quote) : isWord q.char = false := by cases q <;> decide

theorem First.notMem_name (h : First cs call) {x : Char} (notWord : isWord x = false) : x ∉ call.name := by
  intro member
  rw [h.name_word x member] at notWord
  cases notWord

theorem notMem_of_isNumber {l : Literal} (h : l.isNumber = true) : ')' ∉ l.chars := by
  cases l with
  | numeral n => exact fun member => absurd (n.isNumeralChar_of_mem member) (by decide)
  | quoted q t unquoted => cases h

/-- A literal with a close parenthesis is quoted, and the parenthesis stands between its quotes. -/
theorem exists_quotes {l : Literal} {front back : List Char} (h : l.chars = front ++ ')' :: back) :
    ∃ (q : Quote) (front' back' : List Char), front = q.char :: front' ∧ back = back' ++ [q.char] := by
  cases l with
  | numeral n => exact absurd (by rw [h]; simp) (notMem_of_isNumber (l := .numeral n) rfl)
  | quoted q t unquoted =>
    have notQuote : ')' ≠ q.char := by cases q <;> decide
    obtain ⟨front', rfl, behind⟩ := exists_of_append_eq_append_cons (a := [q.char]) (by simpa using notQuote) h
    obtain ⟨back', -, rfl⟩ := exists_of_append_cons_eq_append (b := [q.char]) (by simpa using notQuote) behind.symm
    exact ⟨q, front', back', rfl, rfl⟩

/-- A call that does not end before the operator begins ends between the quotes of the literal. -/
theorem precedes_or_closes_in_literal (called : First cs call) (cuts : Comparison.Cuts cs comparison) :
    call.Precedes comparison ∨ ∃ (q : Quote) (front back : List Char),
      (call.before ++ call.name) ++ '(' :: call.inside =
        comparison.before ++ (comparison.symbol ++ comparison.blanks ++ q.char :: front) ∧
      comparison.literal = q.char :: (front ++ ')' :: (back ++ [q.char])) := by
  have unclosed : ')' ∉ comparison.symbol ++ comparison.blanks :=
    Comparison.notMem_of_beginsSymbol cuts.valid (by decide) (by decide)
  have cut : ((call.before ++ call.name) ++ '(' :: call.inside) ++ ')' :: call.after =
      comparison.before ++ (comparison.symbol ++ comparison.blanks ++ comparison.literal) := by
    rw [cuts.cut, ← called.whole, Call.whole]
  rcases List.append_eq_append_iff.mp cut with ⟨e, split, behind⟩ | ⟨e, split, behind⟩
  · cases e with
    | nil => exact absurd (cuts.valid.beginsSymbol_of_cons (by simpa using behind)) (by decide)
    | cons y e =>
      obtain ⟨rfl, -⟩ := List.cons.inj behind
      exact Or.inl ⟨e, by simpa using split⟩
  · obtain ⟨u, rfl, literal⟩ := exists_of_append_eq_append_cons unclosed behind
    obtain ⟨l, spelled⟩ := cuts.valid.literal
    obtain ⟨q, front, back, rfl, back_eq⟩ := exists_quotes (spelled.trans literal)
    refine Or.inr ⟨q, front, back, split, ?_⟩
    rw [literal, back_eq]
    simp

theorem arranged (called : First cs call) (cuts : Comparison.Cuts cs comparison) :
    call.Precedes comparison ∨ call.WithinLiteral comparison ∨ call.RunsInto comparison := by
  rcases precedes_or_closes_in_literal called cuts with h | ⟨q, front, back, cut, literal⟩
  · exact Or.inl h
  rcases List.append_eq_append_iff.mp cut with ⟨e, split, behind⟩ | ⟨e, split, behind⟩
  · -- The parenthesis is opened before the operator.
    cases e with
    | nil => exact absurd (cuts.valid.beginsSymbol_of_cons (by simpa using behind)) (by decide)
    | cons y e =>
      obtain ⟨rfl, inside⟩ := List.cons.inj behind
      exact Or.inr (Or.inr ⟨q, e, front, back, split, by simpa using inside, literal⟩)
  · -- It is opened behind the quote that opens the literal, so the name stands behind that quote too.
    have unopened : '(' ∉ comparison.symbol ++ comparison.blanks ++ [q.char] := by
      have notQuote : '(' ≠ q.char := by cases q <;> decide
      have notMem_symbol : '(' ∉ comparison.symbol ++ comparison.blanks :=
        Comparison.notMem_of_beginsSymbol cuts.valid (by decide) (by decide)
      simpa [notQuote] using notMem_symbol
    obtain ⟨u, rfl, rfl⟩ := exists_of_append_eq_append_cons unopened (by simpa using behind)
    have named : (comparison.before ++ comparison.symbol ++ comparison.blanks) ++ q.char :: u =
        call.before ++ call.name := by
      simpa using split.symm
    obtain ⟨front, before, rfl⟩ := exists_of_append_cons_eq_append (called.notMem_name (isWord_quote q)) named
    exact Or.inr (Or.inl ⟨q, front, back, before, by simpa using literal⟩)

/-! ### Only one of the three -/

theorem Precedes.lt (h : call.Precedes comparison) :
    call.before.length + call.name.length + call.inside.length + 1 < comparison.before.length := by
  obtain ⟨between, placed⟩ := h
  rw [placed]
  simp only [List.length_append, List.length_cons]
  omega

theorem WithinLiteral.lt (h : call.WithinLiteral comparison) : comparison.before.length < call.before.length := by
  obtain ⟨q, front, back, placed, -⟩ := h
  rw [placed]
  simp only [List.length_append, List.length_cons]
  omega

theorem RunsInto.le (h : call.RunsInto comparison) :
    call.before.length < comparison.before.length ∧
    comparison.before.length ≤ call.before.length + call.name.length + call.inside.length := by
  obtain ⟨q, front, middle, back, placed, inside, -⟩ := h
  rw [placed, inside]
  simp only [List.length_append, List.length_cons]
  omega

theorem arranged_once : ¬(call.Precedes comparison ∧ call.WithinLiteral comparison) ∧
    ¬(call.Precedes comparison ∧ call.RunsInto comparison) ∧
    ¬(call.WithinLiteral comparison ∧ call.RunsInto comparison) := by
  refine ⟨?_, ?_, ?_⟩
  · rintro ⟨precedes, within⟩
    have := precedes.lt
    have := within.lt
    omega
  · rintro ⟨precedes, runs⟩
    have := precedes.lt
    have := runs.le
    omega
  · rintro ⟨within, runs⟩
    have := within.lt
    have := runs.le
    omega

/-! ### Which of the three -/

theorem precedes_iff_written (cuts : Comparison.Cuts cs comparison) : call.Precedes comparison ↔
    ∃ between, cs = (call.before ++ call.name ++ '(' :: (call.inside ++ ')' :: between)) ++
      (comparison.symbol ++ comparison.blanks ++ comparison.literal) := by
  refine exists_congr fun between => ?_
  rw [← cuts.cut]
  exact (List.append_left_inj _).symm

theorem precedes_iff (called : First cs call) (cuts : Comparison.Cuts cs comparison) :
    call.Precedes comparison ↔ Occurs comparison.before := by
  constructor
  · rintro ⟨between, placed⟩
    obtain ⟨front, w, named, word⟩ := called.exists_last
    exact ⟨call.before ++ front, w, call.inside, between, by rw [placed, named]; simp, word⟩
  · intro h
    obtain ⟨d, first⟩ := h.exists_first
    -- The call in front is the first of the whole text as well.
    have longer := first.append (comparison.symbol ++ comparison.blanks ++ comparison.literal)
    rw [cuts.cut] at longer
    obtain rfl := called.unique longer
    exact ⟨d.after, by rw [← first.whole, Call.whole]; simp⟩

theorem precedes_of_notMem (called : First cs call) (cuts : Comparison.Cuts cs comparison) (h : ')' ∉ comparison.literal) :
    call.Precedes comparison := by
  rcases precedes_or_closes_in_literal called cuts with precedes | ⟨q, front, back, -, literal⟩
  · exact precedes
  · rw [literal] at h
    simp at h

end Call

/-! ### Rules -/

/-- In a rule that compiles the call ends before the operator begins, or the whole call stands between the quotes of the
    literal, or the operator stands in the parentheses of the call and the call ends between those quotes; and only one
    of these holds. The first means that the rule is written as a call, an operator and a literal, with other text only
    in front of the call and in front of the operator. It holds exactly if the text before the operator has a call, and
    always if the literal has no close parenthesis in it, as no number has. -/
theorem compiled_arrangement (rule : String) (c : CompiledRule) (compiles : compile rule = .ok c) :
    ∃ call comparison,
      Call.find? (trimChars rule.toList) = some call ∧ Comparison.find? (trimChars rule.toList) = some comparison ∧
      (call.name = c.function.name.toList ∧ call.arguments.headD "" = c.argument ∧
        comparison.symbol = c.operator.symbol.toList ∧ Value.ofLiteral comparison.literal = c.literal) ∧
      (call.Precedes comparison ∨ call.WithinLiteral comparison ∨ call.RunsInto comparison) ∧
      (¬(call.Precedes comparison ∧ call.WithinLiteral comparison) ∧
        ¬(call.Precedes comparison ∧ call.RunsInto comparison) ∧
        ¬(call.WithinLiteral comparison ∧ call.RunsInto comparison)) ∧
      (call.Precedes comparison ↔ ∃ between, trimChars rule.toList =
        (call.before ++ call.name ++ '(' :: (call.inside ++ ')' :: between)) ++
          (comparison.symbol ++ comparison.blanks ++ comparison.literal)) ∧
      (call.Precedes comparison ↔ Call.Occurs comparison.before) ∧
      (')' ∉ comparison.literal → call.Precedes comparison) ∧
      (c.literal.isNumber = true → call.Precedes comparison) := by
  obtain ⟨call, comparison, called, compared, named, symbol, argument, literal⟩ := compile_eq_ok.mp compiles
  have first := Call.first_of_find? called
  have cuts := (Comparison.find?_eq_some_iff_first.mp compared).1
  refine ⟨call, comparison, called, compared, ⟨named, argument, symbol, literal⟩, Call.arranged first cuts,
    Call.arranged_once, Call.precedes_iff_written cuts, Call.precedes_iff first cuts,
    Call.precedes_of_notMem first cuts, fun number => ?_⟩
  obtain ⟨l, spelled⟩ := cuts.valid.literal
  rw [← literal, ← spelled, l.ofLiteral_chars, l.isNumber_value] at number
  refine Call.precedes_of_notMem first cuts ?_
  rw [← spelled]
  exact Call.notMem_of_isNumber number

/-- A call in front of a literal with a close parenthesis, and one that ends in the literal. -/
theorem compiled_arrangement_overlapping :
    (∃ call comparison, Call.find? "max(a) <= 'b)'".toList = some call ∧
      Comparison.find? "max(a) <= 'b)'".toList = some comparison ∧ call.Precedes comparison) ∧
    ∃ call comparison, Call.find? "count(= 'a)'".toList = some call ∧
      Comparison.find? "count(= 'a)'".toList = some comparison ∧ call.RunsInto comparison := by
  constructor
  · have compiles : compile "max(a) <= 'b)'" = .ok ⟨.max, "a", .le, .text "b)"⟩ := by decide +kernel
    obtain ⟨call, comparison, called, compared, -, -, -, -, precedes, -⟩ := compiled_arrangement _ _ compiles
    refine ⟨call, comparison, called, compared, precedes.mpr ?_⟩
    have found : Comparison.find? "max(a) <= 'b)'".toList =
        some ⟨"max(a) ".toList, "<=".toList, [' '], "'b)'".toList⟩ := by decide +kernel
    cases found.symm.trans compared
    exact Call.isSome_find?_iff.mp (by decide +kernel)
  · have compiles : compile "count(= 'a)'" = .ok ⟨.count, "= 'a", .eq, .text "a)"⟩ := by decide +kernel
    obtain ⟨call, comparison, called, compared, -, one, -, -, precedes, -⟩ := compiled_arrangement _ _ compiles
    refine ⟨call, comparison, called, compared, ?_⟩
    have found : Call.find? "count(= 'a)'".toList = some ⟨[], "count".toList, "= 'a".toList, ['\'']⟩ := by
      decide +kernel
    have found' : Comparison.find? "count(= 'a)'".toList = some ⟨"count(".toList, ['='], [' '], "'a)'".toList⟩ := by
      decide +kernel
    cases found.symm.trans called
    cases found'.symm.trans compared
    rcases one with h | h | h
    · exact absurd (Call.isSome_find?_iff.mpr (precedes.mp h)) (by decide +kernel)
    · exact absurd h.lt (by decide)
    · exact h

/-- A rule that compiles to a call from the quotes of its own literal, so the call does not always come first. -/
theorem call_found_in_literal :
    compile "= 'count(a)'" = .ok ⟨.count, "a", .eq, .text "count(a)"⟩ ∧
    ¬∀ (rule : String) (c : CompiledRule) (call : Call) (comparison : Comparison), compile rule = .ok c →
      Call.find? (trimChars rule.toList) = some call → Comparison.find? (trimChars rule.toList) = some comparison →
      call.Precedes comparison := by
  have compiles : compile "= 'count(a)'" = .ok ⟨.count, "a", .eq, .text "count(a)"⟩ := by decide +kernel
  refine ⟨compiles, fun first => ?_⟩
  have called : Call.find? (trimChars "= 'count(a)'".toList) = some ⟨"= '".toList, "count".toList, ['a'], ['\'']⟩ := by
    decide +kernel
  have compared : Comparison.find? (trimChars "= 'count(a)'".toList) =
      some ⟨[], ['='], [' '], "'count(a)'".toList⟩ := by decide +kernel
  exact absurd (first _ _ _ _ compiles called compared).lt (by decide)

end TextRules
