import TextRules.Proofs.Compiled

/-!
What a rule's comparison is read as. The text of a rule may be cut in several ways into something, a symbol, blanks and
    a literal, but in only one way at each place (`Cuts.unique`), so the cut that begins first is well defined; it is
    the one taken. Whether the literal is a number shows in the last character of the text alone.
-/

namespace TextRules

open Text

/-! ### Numbers and texts -/

/-- Whether a value is a number. -/
def Value.isNumber : Value → Bool
  | number _ => true
  | text _ => false

/-- Whether the last character of a text is a digit. -/
def endsInDigit (cs : List Char) : Bool := cs.getLast?.any isDigit

theorem Literal.isNumber_value (l : Literal) : l.value.isNumber = l.isNumber := by cases l <;> rfl

/-- A literal is a number exactly if the text that it ends does so in a digit. -/
theorem Literal.endsInDigit_append (l : Literal) (front : List Char) : endsInDigit (front ++ l.chars) = l.isNumber := by
  cases l with
  | numeral n =>
    obtain ⟨cs, c, h, digit⟩ := n.exists_last
    rw [chars, h, ← List.append_assoc, endsInDigit, List.getLast?_concat]
    exact digit
  | quoted q t unquoted =>
    rw [chars, ← List.cons_append, ← List.append_assoc, endsInDigit, List.getLast?_concat]
    exact q.isDigit_char

/-! ### Cuts -/

namespace Comparison
variable {cs : List Char} {c d : Comparison}

/-- A text is cut into something, a symbol, blanks and a literal. -/
structure Cuts (cs : List Char) (c : Comparison) : Prop where
  valid : c.Valid
  whole : c.whole = cs

theorem Cuts.cut (h : Cuts cs c) : c.before ++ (c.symbol ++ c.blanks ++ c.literal) = cs := by
  rw [← h.whole, Comparison.whole]
  simp only [List.append_assoc]

/-- At one place a text is cut in one way only. -/
theorem Cuts.unique (cuts : Cuts cs c) (cuts' : Cuts cs d) (h : c.before.length = d.before.length) : c = d := by
  have same : c.before ++ ({ c with before := [] } : Comparison).whole =
      d.before ++ ({ d with before := [] } : Comparison).whole := by
    rw [← whole_withBefore, ← whole_withBefore]
    exact cuts.whole.trans cuts'.whole.symm
  obtain ⟨placed, rest⟩ := List.append_inj same h
  -- What follows the place is read in one way.
  have read := read?_eq_some_iff.mpr ⟨rfl, cuts.valid.withBefore [], rest⟩
  rw [read?_eq_some_iff.mpr ⟨rfl, cuts'.valid.withBefore [], rfl⟩] at read
  obtain ⟨before, symbol, blanks, literal⟩ := c
  obtain ⟨before', symbol', blanks', literal'⟩ := d
  cases placed
  cases read
  rfl

/-- The cut that is taken is the one with the least in front of it. -/
theorem find?_eq_some_iff_first :
    find? cs = some c ↔ Cuts cs c ∧ ∀ d, Cuts cs d → d = c ∨ c.before.length < d.before.length := by
  rw [find?_eq_some_iff]
  constructor
  · rintro ⟨valid, joined, least⟩
    refine ⟨⟨valid, joined⟩, fun d cuts' => ?_⟩
    rcases Nat.lt_or_eq_of_le (least d cuts'.valid cuts'.whole) with h | h
    · exact Or.inr h
    · exact Or.inl (cuts'.unique ⟨valid, joined⟩ h.symm)
  · rintro ⟨cuts, least⟩
    refine ⟨cuts.valid, cuts.whole, fun d valid joined => ?_⟩
    rcases least d ⟨valid, joined⟩ with rfl | h
    · exact Nat.le_refl _
    · exact Nat.le_of_lt h

theorem read?_eq_none_of_findFrom? {passed p s : List Char} (h : findFrom? passed cs = none) (joined : p ++ s = cs) :
    read? s = none := by
  induction cs generalizing passed p with
  | nil =>
    obtain ⟨-, rfl⟩ := List.append_eq_nil_iff.mp joined
    rfl
  | cons x cs ih =>
    unfold findFrom? at h
    split at h
    · cases h
    · rename_i unread
      rcases List.append_eq_cons_iff.mp joined with ⟨-, rfl⟩ | ⟨p, -, joined⟩
      · exact unread
      · exact ih h joined.symm

/-- A comparison is found if there is any cut at all. -/
theorem isSome_find?_iff : (find? cs).isSome = true ↔ ∃ c, Cuts cs c := by
  constructor
  · intro h
    obtain ⟨c, cuts⟩ := Option.isSome_iff_exists.mp h
    exact ⟨c, (find?_eq_some_iff_first.mp cuts).1⟩
  · rintro ⟨c, cuts⟩
    by_contra h
    have unread := read?_eq_none_of_findFrom? (Option.not_isSome_iff_eq_none.mp h)
      ((whole_withBefore c c.before).symm.trans cuts.whole)
    rw [read?_eq_some_iff.mpr ⟨rfl, cuts.valid.withBefore [], rfl⟩] at unread
    cases unread

theorem find?_eq_none_iff : find? cs = none ↔ ∀ c, ¬Cuts cs c := by
  rw [← not_exists, ← isSome_find?_iff, Bool.not_eq_true, Option.isSome_eq_false_iff, Option.isNone_iff_eq_none]

theorem Cuts.isNumber_ofLiteral (h : Cuts cs c) : (Value.ofLiteral c.literal).isNumber = endsInDigit cs := by
  obtain ⟨l, spelled⟩ := h.valid.literal
  rw [← h.whole, Comparison.whole, ← spelled, l.ofLiteral_chars, l.endsInDigit_append, l.isNumber_value]

end Comparison

/-! ### Rules -/

theorem ParsedRule.parse_of_call {rule : String} {call : Call} (h : Call.find? (trimChars rule.toList) = some call) :
    parse rule = match Comparison.find? (trimChars rule.toList) with
      | none => .error (.invalidComparisonSyntax rule)
      | some c => .ok ⟨String.ofList call.name, call.arguments, String.ofList c.symbol, Value.ofLiteral c.literal⟩ := by
  cases compared : Comparison.find? (trimChars rule.toList) <;> simp only [parse, h, compared]

/-- A rule has a comparison exactly if its trimmed text can be cut into something, a symbol, blanks and a literal. At one
    place there is no more than one such cut, and the one with the least in front of it is the comparison: its symbol
    and its literal are what a rule with a call is read to have, and without one such a rule is refused. The literal is
    a number exactly if the text ends in a digit, and a text otherwise. -/
theorem comparison_extracted (rule : String) :
    let text := trimChars rule.toList
    ((Comparison.find? text).isSome = true ↔ ∃ c, Comparison.Cuts text c) ∧
    (∀ c d, Comparison.Cuts text c → Comparison.Cuts text d → c.before.length = d.before.length → c = d) ∧
    (∀ c, Comparison.find? text = some c ↔
      Comparison.Cuts text c ∧ ∀ d, Comparison.Cuts text d → d = c ∨ c.before.length < d.before.length) ∧
    (∀ c, Comparison.find? text = some c → (Value.ofLiteral c.literal).isNumber = endsInDigit text) ∧
    ∀ call, Call.find? text = some call →
      (∀ c, Comparison.find? text = some c → ∃ p, ParsedRule.parse rule = .ok p ∧
        p.operator = String.ofList c.symbol ∧ p.literal = Value.ofLiteral c.literal) ∧
      (Comparison.find? text = none → ParsedRule.parse rule = .error (.invalidComparisonSyntax rule)) := by
  intro text
  refine ⟨Comparison.isSome_find?_iff, fun c d found cuts' h => found.unique cuts' h,
    fun c => Comparison.find?_eq_some_iff_first, fun c found => ?_, fun call called => ?_⟩
  · exact (Comparison.find?_eq_some_iff_first.mp found).1.isNumber_ofLiteral
  · have parsed := ParsedRule.parse_of_call called
    refine ⟨fun c found => ?_, fun unfound => ?_⟩
    · rw [found] at parsed
      exact ⟨_, parsed, rfl, rfl⟩
    · rw [unfound] at parsed
      exact parsed

/-- An operator in the argument that begins no comparison, and a run of equals signs that can be cut twice. -/
theorem comparison_extracted_chained :
    let rule := " sum('<1') === 3 "
    let text := trimChars rule.toList
    let first : Comparison := ⟨"sum('<1') =".toList, ['=', '='], [' '], ['3']⟩
    let later : Comparison := ⟨"sum('<1') ==".toList, ['='], [' '], ['3']⟩
    Comparison.find? text = some first ∧ Comparison.Cuts text later ∧ first.before.length < later.before.length ∧
      (Value.ofLiteral first.literal).isNumber = endsInDigit text ∧
      ∃ p, ParsedRule.parse rule = .ok p ∧ p.operator = "==" ∧ p.literal = Value.ofLiteral ['3'] := by
  intro rule text first later
  obtain ⟨-, -, found, kind, parsed⟩ := comparison_extracted rule
  have firstFound : Comparison.find? text = some first := by decide +kernel
  have laterCuts : Comparison.Cuts text later :=
    ⟨⟨⟨'=', rfl, .inl rfl⟩, by simp [later, isBlank], .numeral (.ofDigits ['3'] rfl (by simp)), rfl⟩, by decide +kernel⟩
  have called : Call.find? text = some ⟨[], "sum".toList, "'<1'".toList, " === 3".toList⟩ := by decide +kernel
  obtain ⟨p, read, operator, literal⟩ := (parsed _ called).1 first firstFound
  refine ⟨firstFound, laterCuts, ?_, kind first firstFound, p, read, operator, literal⟩
  rcases ((found first).mp firstFound).2 later laterCuts with h | h
  · exact absurd (congrArg Comparison.symbol h) (by decide)
  · exact h

end TextRules
