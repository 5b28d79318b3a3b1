import TextRules.Proofs.Compiled

/-!
Rules in the strict shape, put together from their parts with blanks wherever the shape has room for them. A strict
    rule with a plain argument compiles to exactly those parts, whatever its argument and its literal are made of:
    the first open parenthesis behind a word is its own, and no comparison begins before its own operator.
-/

namespace TextRules

open Text

/-- A rule written as a name, a quoted argument in parentheses, an operator and a literal, with blanks between. -/
structure StrictRule where
  front : Blanks
  function : Function
  afterOpen : Blanks
  quote : Quote
  argument : List Char
  beforeClose : Blanks
  afterClose : Blanks
  operator : Operator
  afterOperator : Blanks
  literal : Literal
  back : Blanks

namespace StrictRule
variable (r : StrictRule)

/-- What is inside the parentheses. -/
def inside : List Char := r.afterOpen ++ ((r.quote.char :: (r.argument ++ [r.quote.char])) ++ r.beforeClose)

/-- The comparison, with the call in front of it. -/
def comparison : Comparison where
  before := r.function.name.toList ++ '(' :: r.inside ++ ')' :: r.afterClose
  symbol := r.operator.symbol.toList
  blanks := r.afterOperator
  literal := r.literal.chars

/-- The rule as it is written. -/
def text : String := String.ofList (r.front ++ (r.comparison.whole ++ r.back))

theorem comparison_valid : r.comparison.Valid :=
  ⟨Comparison.isSymbol_symbol _, r.afterOperator.2, r.literal, rfl⟩

theorem find?_comparison : Comparison.find? r.comparison.whole = some r.comparison :=
  Comparison.find?_behind_close r.afterClose.2 r.comparison_valid rfl

theorem isWord_name {f : Function} : ∀ c ∈ f.name.toList, isWord c = true :=
  List.all_eq_true.mp (by cases f <;> decide)

theorem name_ne_nil {f : Function} : f.name.toList ≠ [] := by cases f <;> decide

theorem bare_whole : Bare isBlank r.comparison.whole := by
  constructor
  · have bare_name : ∀ c ∈ r.function.name.toList.head?, isBlank c = false := by
      cases r.function <;>
      · rintro c ⟨⟩
        decide
    have named : r.function.name.toList ≠ [] := name_ne_nil
    intro x member
    apply bare_name x
    simpa [Comparison.whole, comparison, List.head?_append, Option.or_of_isSome, List.isSome_head?, named] using member
  · exact Comparison.last_literal r.literal _

theorem trimChars_text : trimChars r.text.toList = r.comparison.whole := by
  rw [text, String.toList_ofList, trimChars, stripEnds_pad r.front.2 r.back.2, stripEnds_of_bare r.bare_whole]

theorem notMem_inside {c : Char} (visible : isBlank c = false) (notQuote : isQuote c = false) (h : c ∉ r.argument) :
    c ∉ r.inside := by
  have notMem_blanks : ∀ w : Blanks, c ∉ w.1 := fun w member => by
    rw [w.2 c member] at visible
    cases visible
  have ne_quote : c ≠ r.quote.char := Quote.ne_char notQuote
  simp [inside, notMem_blanks, ne_quote, h]

/-- What is behind the call. -/
def rest : List Char :=
  r.afterClose ++ (r.operator.symbol.toList ++ (r.afterOperator ++ r.literal.chars))

theorem find?_call (h : ')' ∉ r.argument) :
    Call.find? r.comparison.whole = some ⟨[], r.function.name.toList, r.inside, r.rest⟩ := by
  have unclosed : ')' ∉ r.inside := r.notMem_inside (by decide) (by decide) h
  rw [← Call.find?_of_name name_ne_nil isWord_name unclosed r.rest]
  simp [Comparison.whole, comparison, rest]

theorem stripQuotes_inside (h : Bare isQuote r.argument) : stripQuotes (trimChars r.inside) = r.argument := by
  rw [inside, trimChars, stripEnds_pad r.afterOpen.2 r.beforeClose.2, stripEnds_of_bare (r.quote.bare_around _),
    r.quote.stripQuotes_around]
  exact stripEnds_of_bare h

theorem compile_of_plain (h : PlainArgument r.argument) :
    compile r.text = .ok ⟨r.function, String.ofList r.argument, r.operator, r.literal.value⟩ := by
  have called := r.find?_call h.1
  have compared := r.find?_comparison
  have single : ',' ∉ r.inside := r.notMem_inside (by decide) (by decide) h.2.1
  rw [← r.trimChars_text] at called compared
  refine compile_eq_ok.mpr ⟨_, _, called, compared, rfl, rfl, ?_, r.literal.ofLiteral_chars⟩
  rw [Call.arguments_of_notMem single, List.headD_cons, r.stripQuotes_inside h.2.2]

end StrictRule

/-- A strict rule compiles to its parts if its argument is plain; otherwise its argument is never the compiled one. A
    quoted literal keeps its text exactly if that text neither begins nor ends with a quote of the other kind. -/
theorem compile_strict (r : StrictRule) :
    (PlainArgument r.argument →
      compile r.text = .ok ⟨r.function, String.ofList r.argument, r.operator, r.literal.value⟩) ∧
    (¬PlainArgument r.argument → ∀ c, compile r.text = .ok c → c.argument ≠ String.ofList r.argument) ∧
    (∀ q t h, r.literal = .quoted q t h →
      (r.literal.value = .text (String.ofList t) ↔ Bare (· == q.other.char) t)) := by
  refine ⟨r.compile_of_plain, fun cluttered c compiles same => ?_, ?_⟩
  · have := plainArgument_of_compile compiles
    rw [same, String.toList_ofList] at this
    exact cluttered this
  · rintro q t h quoted
    rw [quoted, Literal.value, Value.text.injEq, ← String.toList_inj, String.toList_ofList, String.toList_ofList]
    exact stripEnds_eq_self_iff

/-- An argument full of what a rule is made of, with a literal that loses a quote, and an argument that is cut. -/
theorem compile_strict_nested :
    (PlainArgument "x<'2'(=y".toList ∧
      compile "\tcount( \"x<'2'(=y\" ) >=  '\"sum(z) > 3' " = .ok ⟨.count, "x<'2'(=y", .ge, .text "sum(z) > 3"⟩ ∧
      ¬Bare (· == '"') "\"sum(z) > 3".toList ∧ Value.text "sum(z) > 3" ≠ .text "\"sum(z) > 3") ∧
    (¬PlainArgument "a,b".toList ∧ compile "max('a,b')<1" = .ok ⟨.max, "a", .lt, .number (.ofNat 1)⟩ ∧ "a" ≠ "a,b") := by
  have nested := compile_strict ⟨.ofList ['\t'] rfl, .count, .ofList [' '] rfl, .double, "x<'2'(=y".toList,
    .ofList [' '] rfl, .ofList [' '] rfl, .ge, .ofList [' ', ' '] rfl,
    .quoted .single "\"sum(z) > 3".toList (by decide), .ofList [' '] rfl⟩
  have cut := compile_strict ⟨.ofList [] rfl, .max, .ofList [] rfl, .single, "a,b".toList, .ofList [] rfl,
    .ofList [] rfl, .lt, .ofList [] rfl, .numeral (.ofDigits ['1'] rfl (by simp)), .ofList [] rfl⟩
  have quoteAtFront : ¬Bare (· == '"') "\"sum(z) > 3".toList := by decide
  have compiled : compile "max('a,b')<1" = .ok ⟨.max, "a", .lt, .number (.ofNat 1)⟩ := by decide +kernel
  refine ⟨⟨by decide, nested.1 (by decide), quoteAtFront, ?_⟩, by decide, compiled, cut.2.1 (by decide) _ compiled⟩
  exact fun kept => quoteAtFront ((nested.2.2 _ _ _ rfl).mp kept)

end TextRules
