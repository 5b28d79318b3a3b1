import TextRules.Proofs.StrictRule

/-!
A normal form of the rules that compile. Whatever stands before, between and inside the call and the comparison, what a
    rule compiles to can be written as a rule of nothing but a name, an argument in single quotes, an operator and a
    literal (`CompiledRule.normalForm`), and that rule compiles to the same. So the compiled rules are those whose
    argument is plain and whose literal is spelled by something (`exists_compile_iff`).
-/

namespace TextRules

open Text

/-! ### Literals -/

/-- What a quoted literal can mean: no quote at either end, and not both kinds of quote inside. -/
def PlainText (t : List Char) : Prop := Bare isQuote t ∧ ∃ q : Quote, q.char ∉ t

/-- A literal whose quotes enclose just the text that it means. -/
def Literal.Exact (l : Literal) : Prop := ∀ q t h, l = .quoted q t h → l.value = .text (String.ofList t)

theorem Quote.bare_other {q : Quote} {t : List Char} (h : q.char ∉ t) :
    Bare (· == q.other.char) t ↔ Bare isQuote t := by
  have same_kind : ∀ c ∈ t, isQuote c = (c == q.other.char) := fun c member =>
    isQuote_eq_other fun same => h (same ▸ member)
  constructor
  · rintro ⟨head, last⟩
    exact ⟨fun c member => (same_kind c (List.mem_of_mem_head? member)).trans (head c member),
      fun c member => (same_kind c (List.mem_of_mem_getLast? member)).trans (last c member)⟩
  · rintro ⟨head, last⟩
    exact ⟨fun c member => (same_kind c (List.mem_of_mem_head? member)).symm.trans (head c member),
      fun c member => (same_kind c (List.mem_of_mem_getLast? member)).symm.trans (last c member)⟩

namespace Literal

theorem value_quoted_of_bare {q : Quote} {t : List Char} (h : q.char ∉ t) (bare : Bare isQuote t) :
    (quoted q t h).value = .text (String.ofList t) := by
  rw [value, stripEnds_of_bare ((Quote.bare_other h).mpr bare)]

theorem plainText_of_value {l : Literal} {s : String} (h : l.value = .text s) : PlainText s.toList := by
  cases l with
  | numeral n => cases h
  | quoted q t unquoted =>
    obtain rfl := Value.text.inj h
    have absent : q.char ∉ stripEnds (· == q.other.char) t := fun member => unquoted (mem_of_mem_stripEnds member)
    rw [String.toList_ofList]
    exact ⟨(Quote.bare_other absent).mp (bare_stripEnds _ _), q, absent⟩

/-- What a literal means can be written without quotes that do not count. -/
theorem exists_exact (l : Literal) : ∃ l' : Literal, l'.value = l.value ∧ l'.Exact := by
  cases l with
  | numeral n => exact ⟨.numeral n, rfl, nofun⟩
  | quoted q t unquoted =>
    obtain ⟨bare, q', absent'⟩ := plainText_of_value (l := .quoted q t unquoted) rfl
    rw [String.toList_ofList] at bare absent'
    have value_eq := value_quoted_of_bare absent' bare
    refine ⟨.quoted q' _ absent', value_eq, ?_⟩
    rintro _ _ _ ⟨⟩
    exact value_eq

end Literal

/-! ### Rules -/

namespace CompiledRule

/-- The rule in its plainest shape, with a literal that has to spell its own. -/
def normalForm (c : CompiledRule) (l : Literal) : String :=
  c.function.name ++ "('" ++ c.argument ++ "') " ++ c.operator.symbol ++ " " ++ String.ofList l.chars

/-- The normal form put together from its parts. -/
def parts (c : CompiledRule) (l : Literal) : StrictRule where
  front := .ofList [] rfl
  function := c.function
  afterOpen := .ofList [] rfl
  quote := .single
  argument := c.argument.toList
  beforeClose := .ofList [] rfl
  afterClose := .ofList [' '] rfl
  operator := c.operator
  afterOperator := .ofList [' '] rfl
  literal := l
  back := .ofList [] rfl

theorem text_parts (c : CompiledRule) (l : Literal) : (c.parts l).text = c.normalForm l := by
  rw [← String.toList_inj]
  simp [StrictRule.text, StrictRule.comparison, StrictRule.inside, Comparison.whole, parts, normalForm, Blanks.ofList,
    Quote.char]

/-- The normal form of a rule with a plain argument compiles to that rule. -/
theorem compile_normalForm {c : CompiledRule} (h : PlainArgument c.argument.toList) {l : Literal}
    (spelled : l.value = c.literal) : compile (c.normalForm l) = .ok c := by
  have compiled := (c.parts l).compile_of_plain h
  rw [text_parts] at compiled
  rw [compiled, parts, spelled, String.ofList_toList]

end CompiledRule

/-- What a rule can compile to: any function and operator, a plain argument and what some literal means. -/
theorem exists_compile_iff {c : CompiledRule} :
    (∃ rule, compile rule = .ok c) ↔ PlainArgument c.argument.toList ∧ ∃ l : Literal, l.value = c.literal := by
  constructor
  · rintro ⟨rule, h⟩
    exact ⟨plainArgument_of_compile h, exists_literal_of_compile h⟩
  · rintro ⟨h, l, spelled⟩
    exact ⟨c.normalForm l, CompiledRule.compile_normalForm h spelled⟩

/-- Every rule that compiles has a normal form, of just a name, an argument in single quotes, an operator and a literal:
    it compiles to the same and so has the same verdict on every text. The literal is a number or encloses in its quotes
    just the text that it means. The argument holds neither a close parenthesis nor a comma and neither begins nor ends
    with a quote, and a text to compare with neither begins nor ends with a quote nor holds quotes of both kinds. -/
theorem normal_form (rule : String) (c : CompiledRule) (compiles : compile rule = .ok c) :
    (∃ l : Literal, l.value = c.literal ∧ l.Exact ∧ compile (c.normalForm l) = .ok c ∧
      ∀ subject, evaluate (c.normalForm l) subject = evaluate rule subject) ∧
    (')' ∉ c.argument.toList ∧ ',' ∉ c.argument.toList ∧ Bare isQuote c.argument.toList) ∧
    ∀ s, c.literal = .text s → Bare isQuote s.toList ∧ ¬('\'' ∈ s.toList ∧ '"' ∈ s.toList) := by
  have argument := plainArgument_of_compile compiles
  obtain ⟨spelled, literal⟩ := exists_literal_of_compile compiles
  obtain ⟨l, same, exactly⟩ := spelled.exists_exact
  have value := same.trans literal
  have normal := CompiledRule.compile_normalForm argument value
  refine ⟨⟨l, value, exactly, normal, fun subject => ?_⟩, argument, fun s is_text => ?_⟩
  · simp only [evaluate, normal, compiles]
  · obtain ⟨bare, q, absent⟩ := Literal.plainText_of_value (literal.trans is_text)
    refine ⟨bare, ?_⟩
    rintro ⟨single, double⟩
    cases q
    · exact absent single
    · exact absent double

/-- A rule with text in front, an argument cut at a comma, a second call behind the first, and quotes of both kinds
    around the literal. -/
theorem normal_form_cluttered :
    let rule := " (= max( '\"a'b\", c) or sum(z) < 1) != '\"it is\"' "
    let c : CompiledRule := ⟨.max, "a'b", .ne, .text "it is"⟩
    compile rule = .ok c ∧ (∃ l : Literal, l.value = .text "it is" ∧ l.Exact ∧ compile (c.normalForm l) = .ok c) ∧
      ')' ∉ "a'b".toList ∧ ¬('\'' ∈ "it is".toList ∧ '"' ∈ "it is".toList) := by
  intro rule c
  have compiles : compile rule = .ok c := by decide +kernel
  obtain ⟨⟨l, value, exactly, normal, -⟩, ⟨unclosed, -⟩, texts⟩ := normal_form rule c compiles
  exact ⟨compiles, ⟨l, value, exactly, normal⟩, unclosed, (texts _ rfl).2⟩

end TextRules
