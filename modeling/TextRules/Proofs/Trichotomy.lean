import TextRules.Proofs.Compiled
import TextRules.Proofs.Ordering

/-!
Rules that differ only in their operator. When a close parenthesis ends the text in front of the operator, all six
    rules compile to the same function, argument and literal if one of them compiles (`compile_closedRule`). So
    their verdicts on a text are what the six operators make of one order, and since no literal is NaN that order
    is missing in one case only: `avg` on the empty text, compared with a number.
-/

namespace TextRules

open Text

/-- A text that a close parenthesis ends, an operator and a literal, with blanks around the operator. -/
def closedRule (call : List Char) (w : Blanks) (op : Operator) (w' : Blanks) (l : Literal) : String :=
  String.ofList (call ++ ')' :: (w ++ (op.symbol.toList ++ (w' ++ l.chars))))

/-! ### Literals are no NaN -/

theorem Literal.value_ne_nan (l : Literal) : l.value ≠ .number .nan := by
  cases l with
  | numeral n =>
    intro h
    exact Number.ofDecimal_ne_nan _ _ _ (Value.number.inj h)
  | quoted q t h => simp [value]

theorem literal_ne_nan_of_compile {rule : String} {c : CompiledRule} (h : compile rule = .ok c) :
    c.literal ≠ .number .nan := by
  obtain ⟨l, spelled⟩ := exists_literal_of_compile h
  rw [← spelled]
  exact l.value_ne_nan

/-- The order is missing only for `avg` on the empty text against a number. -/
theorem compare_literal_eq_none_iff {f : Function} {argument subject : List Char} {l : Literal} :
    (f.call argument subject).compare l.value = none ↔ f = .avg ∧ l.isNumber = true ∧ subject = [] := by
  rw [Value.compare_eq_none_iff]
  constructor
  · rintro ⟨x, y, left_eq, right_eq, rfl | rfl⟩
    · obtain ⟨function, empty⟩ := Function.call_eq_nan_iff.mp left_eq
      refine ⟨function, ?_, empty⟩
      cases l with
      | numeral n => rfl
      | quoted q t h => cases right_eq
    · exact absurd right_eq l.value_ne_nan
  · rintro ⟨rfl, number, rfl⟩
    cases l with
    | numeral n => exact ⟨.nan, n.value, Function.call_eq_nan_iff.mpr ⟨rfl, rfl⟩, rfl, Or.inl rfl⟩
    | quoted q t h => cases number

/-! ### The same call and comparison -/

section Closed
variable (call : List Char) (w w' : Blanks) (l : Literal)

/-- The comparison of the rule, with the call in front of it. -/
def closedComparison (op : Operator) : Comparison :=
  ⟨call.dropWhile isBlank ++ ')' :: w, op.symbol.toList, w', l.chars⟩

theorem trimChars_closedRule (op : Operator) :
    trimChars (closedRule call w op w' l).toList = (closedComparison call w w' l op).whole := by
  have bare : Bare isBlank (closedComparison call w w' l op).whole := by
    constructor
    · intro x first
      cases dropped : call.dropWhile isBlank with
      | nil =>
        rw [closedComparison, dropped] at first
        rw [← Option.some.inj first]
        decide
      | cons y ys =>
        apply head?_dropWhile isBlank call x
        rw [closedComparison, dropped] at first
        rw [dropped]
        exact first
    · exact Comparison.last_literal l _
  have cut : (closedRule call w op w' l).toList =
      call.takeWhile isBlank ++ ((closedComparison call w w' l op).whole ++ []) := by
    simp only [closedRule, String.toList_ofList, Comparison.whole, closedComparison, List.append_nil, List.append_assoc]
    rw [← List.append_assoc (call.takeWhile isBlank), List.takeWhile_append_dropWhile]
    simp
  rw [trimChars, cut, stripEnds_pad (fun c => List.mem_takeWhile_imp) (by simp), stripEnds_of_bare bare]

theorem find?_closedComparison (op : Operator) : Comparison.find? (closedComparison call w w' l op).whole =
    some (closedComparison call w w' l op) :=
  Comparison.find?_behind_close w.2 ⟨Comparison.isSymbol_symbol op, w'.2, l, rfl⟩ rfl

theorem isWord_of_beginsSymbol {c : Char} (h : Comparison.beginsSymbol c = true) : isWord c = false := by
  rcases Comparison.beginsSymbol_iff.mp h with rfl | rfl | rfl | rfl <;> decide

theorem key_closedComparison (op op' : Operator) :
    (Call.find? (closedComparison call w w' l op).whole).map Call.key =
      (Call.find? (closedComparison call w w' l op').whole).map Call.key := by
  have cut : ∀ op, ∃ m x, '(' ∉ m ++ [x] ∧ isWord x = false ∧ (closedComparison call w w' l op).whole =
      call.dropWhile isBlank ++ ')' :: (m ++ x :: (w' ++ l.chars)) := by
    intro op
    have unopened : '(' ∉ w.1 ++ op.symbol.toList := by
      intro member
      rcases List.mem_append.mp member with member | member
      · exact absurd (w.2 _ member) (by decide)
      · exact absurd ((Comparison.isSymbol_symbol op).beginsSymbol_of_mem member) (by decide)
    obtain ⟨c, begins, symbol | symbol⟩ := Comparison.isSymbol_symbol op
    · rw [symbol] at unopened
      exact ⟨w, c, unopened, isWord_of_beginsSymbol begins, by simp [Comparison.whole, closedComparison, symbol]⟩
    · rw [symbol] at unopened
      exact ⟨w ++ [c], '=', by simpa using unopened, by decide, by simp [Comparison.whole, closedComparison, symbol]⟩
  obtain ⟨m, x, unopened, notWord, written⟩ := cut op
  obtain ⟨m', x', unopened', notWord', written'⟩ := cut op'
  rw [written, written']
  exact Call.key_behind_close _ _ unopened unopened' notWord notWord'

/-- Whether a rule compiles does not depend on its operator, and neither do its other parts. -/
theorem compile_closedRule {op : Operator} {c : CompiledRule} (h : compile (closedRule call w op w' l) = .ok c)
    (op' : Operator) : compile (closedRule call w op' w' l) = .ok { c with operator := op', literal := l.value } := by
  obtain ⟨found, comparison, called, compared, named, -, argument, value_eq⟩ := compile_eq_ok.mp h
  rw [trimChars_closedRule] at called compared
  have key_eq := key_closedComparison call w w' l op op'
  rw [called, Option.map_some, eq_comm, Option.map_eq_some_iff] at key_eq
  obtain ⟨found', called', same⟩ := key_eq
  have compared' := find?_closedComparison call w w' l op'
  rw [← trimChars_closedRule] at called' compared'
  obtain ⟨sameName, sameInside⟩ := Prod.mk.inj same
  refine compile_eq_ok.mpr ⟨found', _, called', compared', sameName.trans named, rfl, ?_, l.ofLiteral_chars⟩
  rw [← argument, Call.arguments, Call.arguments, sameInside]

end Closed

/-- Among less, equal and greater exactly one verdict is true, and the other operators say what is made of these;
    only `avg` on the empty text against a number fails all but inequality. -/
theorem verdict_trichotomy :
    (∀ (call : List Char) (w w' : Blanks) (l : Literal) (c : CompiledRule) (subject : String),
      compile (closedRule call w .gt w' l) = .ok c → ∃ verdict : Operator → Bool,
        (∀ op, evaluate (closedRule call w op w' l) subject = .ok (verdict op)) ∧
        (if c.function = .avg ∧ l.isNumber = true ∧ subject = "" then ∀ op, verdict op = decide (op = .ne)
          else [verdict .lt, verdict .eq, verdict .gt].count true = 1) ∧
        verdict .ge = (verdict .gt || verdict .eq) ∧ verdict .le = (verdict .lt || verdict .eq) ∧
        verdict .ne = !verdict .eq) ∧
    (∀ rule c, compile rule = .ok c → c.literal ≠ .number .nan) ∧
    (∀ (f : Function) (argument subject : List Char),
      f.call argument subject = .number .nan ↔ f = .avg ∧ subject = []) := by
  refine ⟨fun call w w' l c subject h => ?_, fun rule c => literal_ne_nan_of_compile,
    fun f argument subject => Function.call_eq_nan_iff⟩
  have unordered_iff : (c.compute subject).compare l.value = none ↔
      c.function = .avg ∧ l.isNumber = true ∧ subject = "" := by
    rw [CompiledRule.compute, compare_literal_eq_none_iff, String.toList_eq_nil_iff]
  refine ⟨fun op => op.accepts ((c.compute subject).compare l.value), fun op => ?_, ?_, rfl, rfl, rfl⟩
  · rw [evaluate, compile_closedRule call w w' l h op]
    exact congrArg Except.ok (Operator.holds_eq_accepts op _ _)
  · split
    · rename_i unordered
      rw [unordered_iff.mpr unordered]
      exact Operator.accepts_none
    · rename_i ordered
      exact Operator.count_accepts fun missing => ordered (unordered_iff.mp missing)

/-- A call with operators and quotes inside, the one exception, and a literal that is no NaN. -/
theorem verdict_trichotomy_cases :
    (∃ verdict : Operator → Bool,
      (∀ op, evaluate (closedRule "count('a'<\"b".toList (.ofList [' '] rfl) op (.ofList [] rfl)
        (.quoted .double ['3'] (by decide))) "a'<\"b" = .ok (verdict op)) ∧
      [verdict .lt, verdict .eq, verdict .gt].count true = 1) ∧
    (∃ verdict : Operator → Bool,
      (∀ op, evaluate (closedRule "avg('a'".toList (.ofList [' '] rfl) op (.ofList [' '] rfl)
        (.numeral (.ofDigits ['0'] rfl (by simp)))) "" = .ok (verdict op)) ∧
      ∀ op, verdict op = decide (op = .ne)) ∧
    compile "avg('a') = 0" = .ok ⟨.avg, "a", .eq, .number .zero⟩ ∧ Value.number .zero ≠ .number .nan := by
  have exception : compile "avg('a') = 0" = .ok ⟨.avg, "a", .eq, .number .zero⟩ := by decide +kernel
  refine ⟨?_, ?_, exception, verdict_trichotomy.2.1 _ _ exception⟩
  · obtain ⟨verdict, holds, counted, -⟩ := verdict_trichotomy.1 "count('a'<\"b".toList (.ofList [' '] rfl) (.ofList [] rfl)
      (.quoted .double ['3'] (by decide)) ⟨.count, "a'<\"b", .gt, .text "3"⟩ "a'<\"b" (by decide +kernel)
    exact ⟨verdict, holds, counted⟩
  · obtain ⟨verdict, holds, counted, -⟩ := verdict_trichotomy.1 "avg('a'".toList (.ofList [' '] rfl) (.ofList [' '] rfl)
      (.numeral (.ofDigits ['0'] rfl (by simp)))
      ⟨.avg, "a", .gt, .number .zero⟩ "" (by decide +kernel)
    exact ⟨verdict, holds, counted⟩

end TextRules
