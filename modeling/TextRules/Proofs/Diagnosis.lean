import TextRules.Proofs.Extraction
import TextRules.Proofs.FirstCall

/-!
Why a rule does not compile. The five outcomes are told apart by what the trimmed text of the rule holds
    (`Diagnosis`): whether there is a call, whether there is a comparison, whether the call's name is a
    function's and whether the comparison's symbol is an operator's, asked in this order. Every rule has one
    diagnosis only, and it is what compiling the rule gives (`compile_eq_iff`).
-/

namespace TextRules

open Text

/-! ### Names and symbols that are not known -/

/-- What is refused for one reason only is refused exactly if it gives nothing. -/
theorem eq_error_of_eq_ok {ε α : Type} {x : Except ε α} {reason e : ε} {gives : α → Prop}
    (ok_iff : ∀ a, x = .ok a ↔ gives a) (error_eq : ∀ e, x = .error e → e = reason) :
    x = .error e ↔ e = reason ∧ ∀ a, ¬gives a := by
  cases x with
  | ok a =>
    have given := (ok_iff a).mp rfl
    constructor
    · intro h
      cases h
    · rintro ⟨-, none_given⟩
      exact absurd given (none_given a)
  | error e' =>
    have same := error_eq e' rfl
    constructor
    · intro h
      cases h
      exact ⟨same, fun a also => by cases (ok_iff a).mpr also⟩
    · rintro ⟨rfl, -⟩
      rw [same]

theorem Function.ofName_eq_error {s : String} {e : RuleError} :
    ofName s = .error e ↔ e = .unknownFunction s ∧ ∀ f : Function, s ≠ f.name := by
  refine eq_error_of_eq_ok (fun f => ofName_eq_ok) fun e h => ?_
  unfold ofName at h
  split at h
  · cases h
  · exact (Except.error.inj h).symm

theorem Operator.ofSymbol_eq_error {s : String} {e : RuleError} :
    ofSymbol s = .error e ↔ e = .unknownOperator s ∧ ∀ op : Operator, s ≠ op.symbol := by
  refine eq_error_of_eq_ok (fun op => ofSymbol_eq_ok) fun e h => ?_
  unfold ofSymbol at h
  split at h
  · cases h
  · exact (Except.error.inj h).symm

/-- Of all symbols that can be read only two are no operator's. -/
theorem Comparison.IsSymbol.unknown_iff {s : List Char} (h : IsSymbol s) :
    (∀ op : Operator, s ≠ op.symbol.toList) ↔ s = ['!'] ∨ s = ['=', '='] := by
  constructor
  · intro unknown
    obtain ⟨c, begins, rfl | rfl⟩ := h
    · rcases beginsSymbol_iff.mp begins with rfl | rfl | rfl | rfl
      · exact absurd rfl (unknown .lt)
      · exact absurd rfl (unknown .gt)
      · exact Or.inl rfl
      · exact absurd rfl (unknown .eq)
    · rcases beginsSymbol_iff.mp begins with rfl | rfl | rfl | rfl
      · exact absurd rfl (unknown .le)
      · exact absurd rfl (unknown .ge)
      · exact absurd rfl (unknown .ne)
      · exact Or.inr rfl
  · rintro (rfl | rfl) op <;> cases op <;> decide

/-! ### The five outcomes -/

/-- Of the cuts of a text the one with the least in front of it. -/
structure Comparison.First (cs : List Char) (c : Comparison) : Prop where
  cuts : Cuts cs c
  least : ∀ d, Cuts cs d → d = c ∨ c.before.length < d.before.length

theorem Comparison.find?_eq_some_iff_isFirst {cs : List Char} {c : Comparison} : find? cs = some c ↔ First cs c :=
  find?_eq_some_iff_first.trans ⟨fun h => ⟨h.1, h.2⟩, fun h => ⟨h.cuts, h.least⟩⟩

theorem Comparison.exists_first {cs : List Char} (h : ∃ c, Cuts cs c) : ∃ c, First cs c := by
  obtain ⟨c, found⟩ := Option.isSome_iff_exists.mp (isSome_find?_iff.mpr h)
  exact ⟨c, find?_eq_some_iff_isFirst.mp found⟩

/-- What comes of a rule. The first thing that its trimmed text lacks decides the error; a text that lacks a call or a
    comparison is refused with the rule as it was passed. -/
inductive Diagnosis (rule : String) : Except RuleError CompiledRule → Prop
  | noCall (h : ¬Call.Occurs (trimChars rule.toList)) : Diagnosis rule (.error (.invalidFunctionSyntax rule))
  | noComparison (called : Call.Occurs (trimChars rule.toList)) (h : ∀ d, ¬Comparison.Cuts (trimChars rule.toList) d) :
      Diagnosis rule (.error (.invalidComparisonSyntax rule))
  | noFunction {call : Call} {comparison : Comparison} (called : Call.First (trimChars rule.toList) call)
      (compared : Comparison.First (trimChars rule.toList) comparison)
      (h : ∀ f : Function, call.name ≠ f.name.toList) :
      Diagnosis rule (.error (.unknownFunction (String.ofList call.name)))
  | noOperator {call : Call} {comparison : Comparison} {f : Function} (called : Call.First (trimChars rule.toList) call)
      (compared : Comparison.First (trimChars rule.toList) comparison) (named : call.name = f.name.toList)
      (h : ∀ op : Operator, comparison.symbol ≠ op.symbol.toList) :
      Diagnosis rule (.error (.unknownOperator (String.ofList comparison.symbol)))
  | compiled {call : Call} {comparison : Comparison} {f : Function} {op : Operator}
      (called : Call.First (trimChars rule.toList) call)
      (compared : Comparison.First (trimChars rule.toList) comparison) (named : call.name = f.name.toList)
      (symbol : comparison.symbol = op.symbol.toList) :
      Diagnosis rule (.ok ⟨f, call.arguments.headD "", op, Value.ofLiteral comparison.literal⟩)

section
variable {rule : String} {outcome : Except RuleError CompiledRule}

theorem ne_toList_iff {cs : List Char} {s : String} : String.ofList cs ≠ s ↔ cs ≠ s.toList := by
  rw [Ne, Ne, ← String.toList_inj, String.toList_ofList]

theorem compile_of_found {call : Call} {comparison : Comparison} (called : Call.First (trimChars rule.toList) call)
    (compared : Comparison.First (trimChars rule.toList) comparison) :
    compile rule = CompiledRule.ofParsed ⟨String.ofList call.name, call.arguments, String.ofList comparison.symbol,
      Value.ofLiteral comparison.literal⟩ := by
  have parsed := ParsedRule.parse_eq_ok.mpr ⟨call, comparison, Call.find?_eq_some_iff.mpr called,
    Comparison.find?_eq_some_iff_isFirst.mpr compared, rfl⟩
  rw [compile, parsed]

theorem Diagnosis.compile_eq (h : Diagnosis rule outcome) : compile rule = outcome := by
  cases h with
  | noCall h => simp only [compile, ParsedRule.parse, Call.find?_eq_none_iff.mpr h]
  | noComparison called h =>
    obtain ⟨call, first⟩ := called.exists_first
    simp only [compile, ParsedRule.parse, Call.find?_eq_some_iff.mpr first, Comparison.find?_eq_none_iff.mpr h]
  | noFunction called compared h =>
    have unnamed := Function.ofName_eq_error.mpr ⟨rfl, fun f => ne_toList_iff.mpr (h f)⟩
    rw [compile_of_found called compared]
    simp only [CompiledRule.ofParsed, unnamed]
  | noOperator called compared named h =>
    have unknown := Operator.ofSymbol_eq_error.mpr ⟨rfl, fun op => ne_toList_iff.mpr (h op)⟩
    rw [compile_of_found called compared, named, String.ofList_toList]
    simp only [CompiledRule.ofParsed, Function.ofName_name, unknown]
  | compiled called compared named symbol =>
    rw [compile_of_found called compared, named, symbol]
    simp only [CompiledRule.ofParsed, String.ofList_toList, Function.ofName_name, Operator.ofSymbol_symbol]
    rfl

theorem exists_diagnosis (rule : String) : ∃ outcome, Diagnosis rule outcome := by
  by_cases called : Call.Occurs (trimChars rule.toList)
  · by_cases cuts : ∃ d, Comparison.Cuts (trimChars rule.toList) d
    · obtain ⟨call, first⟩ := called.exists_first
      obtain ⟨comparison, least⟩ := Comparison.exists_first cuts
      by_cases named : ∃ f : Function, call.name = f.name.toList
      · obtain ⟨f, named⟩ := named
        by_cases symbol : ∃ op : Operator, comparison.symbol = op.symbol.toList
        · obtain ⟨op, symbol⟩ := symbol
          exact ⟨_, .compiled first least named symbol⟩
        · exact ⟨_, .noOperator first least named (not_exists.mp symbol)⟩
      · exact ⟨_, .noFunction first least (not_exists.mp named)⟩
    · exact ⟨_, .noComparison called (not_exists.mp cuts)⟩
  · exact ⟨_, .noCall called⟩

theorem compile_eq_iff : compile rule = outcome ↔ Diagnosis rule outcome := by
  constructor
  · rintro rfl
    obtain ⟨outcome, h⟩ := exists_diagnosis rule
    rw [h.compile_eq]
    exact h
  · exact Diagnosis.compile_eq

theorem Diagnosis.unknownOperator {s : String} (h : Diagnosis rule (.error (.unknownOperator s))) :
    s = "!" ∨ s = "==" := by
  cases h with
  | noOperator called compared named h =>
    rcases compared.cuts.valid.symbol.unknown_iff.mp h with spelled | spelled
    · rw [spelled]
      exact Or.inl rfl
    · rw [spelled]
      exact Or.inr rfl

end

/-- Compiling a rule has one of five outcomes, decided in this order: no call in the trimmed text, or no comparison, each
    refused with the rule as it was passed; a call of a name that is no function's, refused with that name; a symbol that
    is no operator's, refused with that symbol, which is one of two; or the compiled rule. Blanks around the rule change
    nothing but the rule that is carried by one of the first two. -/
theorem compile_diagnosed (rule : String) :
    (∃! outcome, Diagnosis rule outcome) ∧
    (∀ outcome, compile rule = outcome ↔ Diagnosis rule outcome) ∧
    (∀ symbol, compile rule = .error (.unknownOperator symbol) → symbol = "!" ∨ symbol = "==") ∧
    ∀ w w' : Blanks, compile (String.ofList (w ++ (rule.toList ++ w'))) =
      (compile rule).mapError (RuleError.carrying (String.ofList (w ++ (rule.toList ++ w')))) := by
  refine ⟨⟨compile rule, compile_eq_iff.mp rfl, fun outcome h => h.compile_eq.symm⟩, fun outcome => compile_eq_iff,
    fun symbol h => (compile_eq_iff.mp h).unknownOperator, compile_padded rule⟩

/-- A name that is unknown beside a symbol that is unknown too, that symbol behind a known name, and a rule with blanks
    around it. -/
theorem compile_diagnosed_unknown :
    Diagnosis "foo() == 1" (.error (.unknownFunction "foo")) ∧
    (compile "sum(a) == 1" = .error (.unknownOperator "==") ∧ ("==" = "!" ∨ "==" = "==")) ∧
    compile "\tcount(a) \n" = .error (.invalidComparisonSyntax "\tcount(a) \n") := by
  have unknown : compile "sum(a) == 1" = .error (.unknownOperator "==") := by decide +kernel
  have bare : compile "count(a)" = .error (.invalidComparisonSyntax "count(a)") := by decide +kernel
  refine ⟨((compile_diagnosed _).2.1 _).mp (by decide +kernel), ⟨unknown, (compile_diagnosed _).2.2.1 _ unknown⟩, ?_⟩
  have padded := (compile_diagnosed "count(a)").2.2.2 (.ofList ['\t'] rfl) (.ofList [' ', '\n'] rfl)
  rw [bare] at padded
  exact padded

end TextRules
