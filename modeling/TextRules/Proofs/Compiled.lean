import TextRules.Proofs.Call
import TextRules.Proofs.Comparison
import TextRules.Rule.Compiled

/-!
What it takes for a rule to compile: a call and a comparison in the trimmed text, with a name that is a function's
    and a symbol that is an operator's (`compile_eq_ok`). The compiled argument is plain and the compiled literal
    is the value of a spelled one, whatever else the text holds.
-/

namespace TextRules

open Text

theorem Function.ofName_eq_ok {s : String} {f : Function} : ofName s = .ok f ↔ s = f.name := by
  constructor
  · intro h
    unfold ofName ofName? at h
    split at h
    · rename_i g found
      cases h
      have named := List.find?_some found
      exact (beq_iff_eq.mp named).symm
    · cases h
  · rintro rfl
    exact ofName_name f

theorem Operator.ofSymbol_eq_ok {s : String} {op : Operator} : ofSymbol s = .ok op ↔ s = op.symbol := by
  constructor
  · intro h
    unfold ofSymbol ofSymbol? at h
    split at h
    · rename_i o found
      cases h
      have named := List.find?_some found
      exact (beq_iff_eq.mp named).symm
    · cases h
  · rintro rfl
    exact ofSymbol_symbol op

theorem CompiledRule.ofParsed_eq_ok {p : ParsedRule} {c : CompiledRule} : ofParsed p = .ok c ↔
    p.function = c.function.name ∧ p.argument = c.argument ∧ p.operator = c.operator.symbol ∧ p.literal = c.literal := by
  rw [← Function.ofName_eq_ok, ← Operator.ofSymbol_eq_ok]
  obtain ⟨f, a, op, v⟩ := c
  unfold ofParsed
  cases Function.ofName p.function with
  | error e => simp
  | ok g =>
    cases Operator.ofSymbol p.operator with
    | error e => simp
    | ok o => simp

theorem ParsedRule.parse_eq_ok {rule : String} {p : ParsedRule} : parse rule = .ok p ↔
    ∃ call comparison, Call.find? (trimChars rule.toList) = some call ∧
      Comparison.find? (trimChars rule.toList) = some comparison ∧
      p = ⟨String.ofList call.name, call.arguments, String.ofList comparison.symbol,
        Value.ofLiteral comparison.literal⟩ := by
  simp only [parse]
  cases called : Call.find? (trimChars rule.toList) with
  | none => simp
  | some call =>
    cases compared : Comparison.find? (trimChars rule.toList) with
    | none => simp
    | some comparison => simp [eq_comm]

/-- A rule compiles to the parts of the call and of the comparison that are found in its trimmed text. -/
theorem compile_eq_ok {rule : String} {c : CompiledRule} : compile rule = .ok c ↔
    ∃ call comparison, Call.find? (trimChars rule.toList) = some call ∧
      Comparison.find? (trimChars rule.toList) = some comparison ∧
      call.name = c.function.name.toList ∧ comparison.symbol = c.operator.symbol.toList ∧
      call.arguments.headD "" = c.argument ∧ Value.ofLiteral comparison.literal = c.literal := by
  have ofList_eq : ∀ {cs : List Char} {s : String}, String.ofList cs = s ↔ cs = s.toList := by
    intro cs s
    rw [← String.toList_inj, String.toList_ofList]
  have stages : compile rule = .ok c ↔ ∃ p, ParsedRule.parse rule = .ok p ∧ CompiledRule.ofParsed p = .ok c := by
    unfold compile
    cases ParsedRule.parse rule with
    | error e => simp
    | ok p => simp
  rw [stages]
  constructor
  · rintro ⟨p, parsed, compiled⟩
    obtain ⟨call, comparison, called, compared, rfl⟩ := ParsedRule.parse_eq_ok.mp parsed
    obtain ⟨function, argument, operator, literal⟩ := CompiledRule.ofParsed_eq_ok.mp compiled
    exact ⟨call, comparison, called, compared, ofList_eq.mp function, ofList_eq.mp operator, argument, literal⟩
  · rintro ⟨call, comparison, called, compared, function, operator, argument, literal⟩
    exact ⟨_, ParsedRule.parse_eq_ok.mpr ⟨call, comparison, called, compared, rfl⟩,
      CompiledRule.ofParsed_eq_ok.mpr ⟨ofList_eq.mpr function, argument, ofList_eq.mpr operator, literal⟩⟩

/-- Whether a rule compiles. -/
def Compiles (rule : String) : Prop := ∃ c, compile rule = .ok c

instance (rule : String) : Decidable (Compiles rule) :=
  match h : compile rule with
  | .ok c => .isTrue ⟨c, h⟩
  | .error e => .isFalse fun ⟨c, compiled⟩ => by
    rw [h] at compiled
    cases compiled

theorem not_compiles_iff {rule : String} : ¬Compiles rule ↔ ∃ e, compile rule = .error e := by
  unfold Compiles
  cases compile rule <;> simp

/-- Errors that carry a rule, made to carry the given one. -/
def RuleError.carrying (rule : String) : RuleError → RuleError
  | invalidFunctionSyntax _ => invalidFunctionSyntax rule
  | invalidComparisonSyntax _ => invalidComparisonSyntax rule
  | unknownFunction name => unknownFunction name
  | unknownOperator symbol => unknownOperator symbol

theorem CompiledRule.ofParsed_carrying (p : ParsedRule) (rule : String) :
    (ofParsed p).mapError (RuleError.carrying rule) = ofParsed p := by
  unfold ofParsed Function.ofName Operator.ofSymbol
  cases Function.ofName? p.function with
  | none => rfl
  | some f => cases Operator.ofSymbol? p.operator <;> rfl

/-- Two rules that are the same once trimmed compile in the same way, except for the rule that a syntax error
    carries. -/
theorem compile_congr {rule rule' : String} (same : trimChars rule.toList = trimChars rule'.toList) :
    compile rule' = (compile rule).mapError (RuleError.carrying rule') := by
  simp only [compile, ParsedRule.parse, same]
  cases Call.find? (trimChars rule'.toList) with
  | none => rfl
  | some call =>
    cases Comparison.find? (trimChars rule'.toList) with
    | none => rfl
    | some comparison => exact (CompiledRule.ofParsed_carrying _ rule').symm

/-- A syntax error carries the rule as it was passed. -/
theorem carrying_of_compile {rule : String} {e : RuleError} (h : compile rule = .error e) : e.carrying rule = e := by
  have own : compile rule = (compile rule).mapError (RuleError.carrying rule) := compile_congr rfl
  rw [h] at own
  exact (Except.error.inj own).symm

/-- Blanks around a rule make no difference to what it compiles to, except for the rule that a syntax error carries. -/
theorem compile_trim (rule : String) : compile (trim rule) = (compile rule).mapError (RuleError.carrying (trim rule)) := by
  refine compile_congr ?_
  rw [toList_trim]
  exact (stripEnds_of_bare (bare_stripEnds isBlank rule.toList)).symm

theorem compile_padded (rule : String) (w w' : Blanks) :
    compile (String.ofList (w ++ (rule.toList ++ w'))) =
      (compile rule).mapError (RuleError.carrying (String.ofList (w ++ (rule.toList ++ w')))) := by
  refine compile_congr ?_
  rw [String.toList_ofList]
  exact (stripEnds_pad w.2 w'.2).symm

theorem compile_trim_eq_ok {rule : String} {c : CompiledRule} : compile (trim rule) = .ok c ↔ compile rule = .ok c := by
  rw [compile_trim]
  cases compile rule <;> simp [Except.mapError]

theorem evaluate_trim (rule subject : String) :
    evaluate (trim rule) subject = (evaluate rule subject).mapError (RuleError.carrying (trim rule)) := by
  rw [evaluate, compile_trim, evaluate]
  cases compile rule <;> rfl

theorem carrying_of_evaluate {rule subject : String} {e : RuleError} (h : evaluate rule subject = .error e) :
    e.carrying rule = e := by
  refine carrying_of_compile ?_
  unfold evaluate at h
  cases compiled : compile rule <;> simp_all

theorem compiles_trim {rule : String} : Compiles (trim rule) ↔ Compiles rule :=
  exists_congr fun _ => compile_trim_eq_ok

theorem plainArgument_of_compile {rule : String} {c : CompiledRule} (h : compile rule = .ok c) :
    PlainArgument c.argument.toList := by
  obtain ⟨call, comparison, called, -, -, -, argument, -⟩ := compile_eq_ok.mp h
  rw [← argument]
  exact Call.plain_argument called

theorem exists_literal_of_compile {rule : String} {c : CompiledRule} (h : compile rule = .ok c) :
    ∃ l : Literal, l.value = c.literal := by
  obtain ⟨call, comparison, -, compared, -, -, -, literal⟩ := compile_eq_ok.mp h
  obtain ⟨l, spelled⟩ := (Comparison.find?_eq_some_iff.mp compared).1.literal
  exact ⟨l, by rw [← literal, ← spelled, Literal.ofLiteral_chars]⟩

end TextRules
