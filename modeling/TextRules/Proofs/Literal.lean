import TextRules.Number.Decimal
import TextRules.Proofs.Ends
import TextRules.Rule.Parsed
import TextRules.Rule.Value

/-!
Literals as they are spelled. A `PlainNumeral` carries the parts of an unquoted number and a `Literal` is such a
    number or a text in quotes it does not contain; their spellings are exactly the texts that pass as a
    literal of a comparison (`isLiteral_iff`), and each has the value that its parts say (`ofLiteral_chars`).
    A literal cannot begin before another one that ends the same text, unless with characters of a number
    (`isNumeralChar_of_overlap`): a quote in front of a quoted text finds its partner too early.
-/

namespace TextRules

open Text

/-! ### Unquoted numbers -/

/-- The parts of an unquoted number: digits, and perhaps a point with at least one digit after it. -/
structure PlainNumeral where
  negative : Bool
  whole : List Char
  fraction : Option (List Char)
  whole_digits : ∀ c ∈ whole, isDigit c = true
  fraction_digits : ∀ ds ∈ fraction, ∀ c ∈ ds, isDigit c = true
  ends_in_digit : fraction.getD whole ≠ []

/-- A character of an unquoted number. -/
def isNumeralChar (c : Char) : Bool := isDigit c || c == '.' || c == '-'

theorem isNumeralChar_of_isDigit {c : Char} (h : isDigit c = true) : isNumeralChar c = true := by
  simp [isNumeralChar, h]

namespace PlainNumeral

/-- The number spelled by nothing but digits. -/
def ofDigits (ds : List Char) (h : ds.all isDigit = true) (some : ds ≠ []) : PlainNumeral :=
  ⟨false, ds, none, List.all_eq_true.mp h, nofun, some⟩

/-- The spelling without the minus. -/
def unsigned (n : PlainNumeral) : List Char :=
  match n.fraction with
  | none => n.whole
  | some ds => n.whole ++ '.' :: ds

/-- The spelling. -/
def chars (n : PlainNumeral) : List Char := Number.withSign n.negative n.unsigned

/-- The digits after the point. -/
def places (n : PlainNumeral) : List Char := n.fraction.getD []

/-- The number nearest to the decimal that is spelled. -/
def value (n : PlainNumeral) : Number :=
  Number.ofDecimal n.negative (decimalValue (n.whole ++ n.places)) (-(n.places.length : Int))

theorem isNumeralChar_of_mem {n : PlainNumeral} {c : Char} (h : c ∈ n.chars) : isNumeralChar c = true := by
  have unsigned_mem : c ∈ n.unsigned → isNumeralChar c = true := by
    intro member
    unfold unsigned at member
    split at member
    · exact isNumeralChar_of_isDigit (n.whole_digits c member)
    · rename_i ds fraction
      rcases List.mem_append.mp member with member | member
      · exact isNumeralChar_of_isDigit (n.whole_digits c member)
      · rcases List.mem_cons.mp member with rfl | member
        · decide
        · exact isNumeralChar_of_isDigit (n.fraction_digits ds fraction c member)
  unfold chars Number.withSign at h
  split at h
  · rcases List.mem_cons.mp h with rfl | h
    · decide
    · exact unsigned_mem h
  · exact unsigned_mem h

/-- An unquoted number ends in a digit. -/
theorem exists_last (n : PlainNumeral) : ∃ front c, n.chars = front ++ [c] ∧ isDigit c = true := by
  have exists_unsigned : ∃ front c, n.unsigned = front ++ [c] ∧ isDigit c = true := by
    have ends := n.ends_in_digit
    unfold unsigned
    split <;> rename_i fraction
    · rw [fraction, Option.getD_none] at ends
      refine ⟨n.whole.dropLast, n.whole.getLast ends, (List.dropLast_concat_getLast ends).symm, ?_⟩
      exact n.whole_digits _ (List.getLast_mem ends)
    · rename_i ds
      rw [fraction, Option.getD_some] at ends
      refine ⟨n.whole ++ '.' :: ds.dropLast, ds.getLast ends, ?_, ?_⟩
      · rw [List.append_assoc, List.cons_append, List.dropLast_concat_getLast ends]
      · exact n.fraction_digits ds fraction _ (List.getLast_mem ends)
  obtain ⟨front, c, ending, digit⟩ := exists_unsigned
  unfold chars Number.withSign
  rw [ending]
  split
  · exact ⟨'-' :: front, c, rfl, digit⟩
  · exact ⟨front, c, rfl, digit⟩

/-- Without its minus, an unquoted number begins with a digit or with the point. -/
theorem exists_head (n : PlainNumeral) : ∃ c cs, n.unsigned = c :: cs ∧ (isDigit c = true ∨ c = '.') := by
  have ends := n.ends_in_digit
  unfold unsigned
  cases whole : n.whole with
  | nil =>
    cases fraction : n.fraction with
    | none => rw [fraction, whole] at ends; exact absurd rfl ends
    | some ds => exact ⟨'.', ds, rfl, Or.inr rfl⟩
  | cons c cs =>
    have digit : isDigit c = true := n.whole_digits c (by rw [whole]; exact List.mem_cons_self)
    cases fraction : n.fraction with
    | none => exact ⟨c, cs, rfl, Or.inl digit⟩
    | some ds => exact ⟨c, cs ++ '.' :: ds, rfl, Or.inl digit⟩

theorem unsigned_ne_cons (n : PlainNumeral) {c : Char} (noDigit : isDigit c = false) (noPoint : c ≠ '.') (cs : List Char) :
    n.unsigned ≠ c :: cs := by
  obtain ⟨d, ds, begins, h⟩ := n.exists_head
  rw [begins]
  rintro ⟨⟩
  rcases h with h | h
  · rw [noDigit] at h; cases h
  · exact noPoint h

end PlainNumeral

/-! ### The numbers that pass as a literal -/

theorem isDigit_point : isDigit '.' = false := by decide

theorem Comparison.isUnsignedNumeral_unsigned (n : PlainNumeral) : isUnsignedNumeral n.unsigned = true := by
  have ends := n.ends_in_digit
  unfold isUnsignedNumeral PlainNumeral.unsigned
  cases fraction : n.fraction with
  | none =>
    rw [fraction, Option.getD_none] at ends
    simp [List.dropWhile_eq_nil_iff.mpr n.whole_digits, ends]
  | some ds =>
    rw [fraction, Option.getD_some] at ends
    have digits : ds.all isDigit = true := List.all_eq_true.mpr (n.fraction_digits ds fraction)
    simp [List.dropWhile_append_of_pos n.whole_digits, isDigit_point, ends, digits]

theorem Comparison.exists_unsigned {cs : List Char} (h : isUnsignedNumeral cs = true) (negative : Bool) :
    ∃ n : PlainNumeral, n.negative = negative ∧ n.unsigned = cs := by
  have whole : ∀ c ∈ cs.takeWhile isDigit, isDigit c = true := fun c member => List.mem_takeWhile_imp member
  unfold isUnsignedNumeral at h
  split at h
  · rename_i empty
    refine ⟨⟨negative, cs, none, List.dropWhile_eq_nil_iff.mp empty, by simp, by simpa using h⟩, rfl, rfl⟩
  · rename_i ds fraction
    simp only [Bool.and_eq_true, Bool.not_eq_true', List.isEmpty_eq_false_iff, List.all_eq_true] at h
    refine ⟨⟨negative, cs.takeWhile isDigit, some ds, whole, ?_, h.1⟩, rfl, ?_⟩
    · rintro _ ⟨⟩
      exact h.2
    · show cs.takeWhile isDigit ++ '.' :: ds = cs
      rw [← fraction, List.takeWhile_append_dropWhile]
  · cases h

theorem Comparison.isNumeral_of_ne {cs : List Char} (h : ∀ t, cs ≠ '-' :: t) :
    isNumeral cs = isUnsignedNumeral cs := by
  unfold isNumeral
  split
  · exact absurd rfl (h _)
  · rfl

theorem Comparison.isNumeral_iff {cs : List Char} : isNumeral cs = true ↔ ∃ n : PlainNumeral, n.chars = cs := by
  constructor
  · intro h
    by_cases minus : ∃ t, cs = '-' :: t
    · obtain ⟨t, rfl⟩ := minus
      obtain ⟨n, sign, spelled⟩ := exists_unsigned h true
      exact ⟨n, by rw [PlainNumeral.chars, sign, spelled]; rfl⟩
    · rw [isNumeral_of_ne fun t spelled => minus ⟨t, spelled⟩] at h
      obtain ⟨n, sign, spelled⟩ := exists_unsigned h false
      exact ⟨n, by rw [PlainNumeral.chars, sign, spelled]; rfl⟩
  · rintro ⟨n, rfl⟩
    unfold PlainNumeral.chars Number.withSign
    split
    · exact isUnsignedNumeral_unsigned n
    · rw [isNumeral_of_ne (n.unsigned_ne_cons (by decide) (by decide))]
      exact isUnsignedNumeral_unsigned n

theorem Number.readSign_of_ne {cs : List Char} (noMinus : ∀ t, cs ≠ '-' :: t) (noPlus : ∀ t, cs ≠ '+' :: t) :
    readSign cs = (false, cs) := by
  unfold readSign
  split
  · exact absurd rfl (noMinus _)
  · exact absurd rfl (noPlus _)
  · rfl

theorem Number.readUnsigned?_unsigned (n : PlainNumeral) : readUnsigned? n.negative n.unsigned = some n.value := by
  have ends := n.ends_in_digit
  have taken := List.takeWhile_eq_self_iff.mpr n.whole_digits
  have dropped := List.dropWhile_eq_nil_iff.mpr n.whole_digits
  unfold PlainNumeral.value PlainNumeral.places PlainNumeral.unsigned
  cases fraction : n.fraction with
  | none =>
    rw [fraction, Option.getD_none] at ends
    simp [readUnsigned?, readExponent?, taken, dropped, ends]
  | some ds =>
    rw [fraction, Option.getD_some] at ends
    have digits := n.fraction_digits ds fraction
    have taken' : (n.whole ++ '.' :: ds).takeWhile isDigit = n.whole := by
      rw [List.takeWhile_append_of_pos n.whole_digits, List.takeWhile_cons_of_neg (by decide), List.append_nil]
    have dropped' : (n.whole ++ '.' :: ds).dropWhile isDigit = '.' :: ds := by
      rw [List.dropWhile_append_of_pos n.whole_digits, List.dropWhile_cons_of_neg (by decide)]
    simp [readUnsigned?, readExponent?, taken', dropped', List.takeWhile_eq_self_iff.mpr digits,
      List.dropWhile_eq_nil_iff.mpr digits, ends]

/-- An unquoted number spells the number nearest to its decimal. -/
theorem Number.parse?_chars (n : PlainNumeral) : parse? n.chars = some n.value := by
  have read := readUnsigned?_unsigned n
  unfold parse? PlainNumeral.chars withSign
  cases sign : n.negative <;> rw [sign] at read
  · rw [if_neg Bool.false_ne_true,
      readSign_of_ne (n.unsigned_ne_cons (by decide) (by decide)) (n.unsigned_ne_cons (by decide) (by decide))]
    simp only [read, Option.some_or]
  · simp only [if_true, readSign, read, Option.some_or]

/-! ### Quoted texts -/

/-- A kind of quote. -/
inductive Quote where
  | single
  | double
  deriving DecidableEq

namespace Quote

/-- The quote itself. -/
def char : Quote → Char
  | single => '\''
  | double => '"'

/-- The other kind. -/
def other : Quote → Quote
  | single => double
  | double => single

theorem isQuote_iff {c : Char} : isQuote c = true ↔ ∃ q : Quote, q.char = c := by
  simp only [isQuote, Bool.or_eq_true, beq_iff_eq]
  constructor
  · rintro (rfl | rfl)
    · exact ⟨single, rfl⟩
    · exact ⟨double, rfl⟩
  · rintro ⟨q, rfl⟩
    cases q
    · exact Or.inl rfl
    · exact Or.inr rfl

@[simp] theorem isQuote_char (q : Quote) : isQuote q.char = true := isQuote_iff.mpr ⟨q, rfl⟩

@[simp] theorem isBlank_char (q : Quote) : isBlank q.char = false := by cases q <;> decide

@[simp] theorem isDigit_char (q : Quote) : isDigit q.char = false := by cases q <;> decide

theorem ne_char {q : Quote} {c : Char} (h : isQuote c = false) : c ≠ q.char := by
  rintro rfl
  rw [q.isQuote_char] at h
  cases h

theorem isQuote_eq_other {q : Quote} {c : Char} (h : c ≠ q.char) : isQuote c = (c == q.other.char) := by
  cases q <;> simp_all [isQuote, char, other]

theorem bare_around (q : Quote) (t : List Char) : Bare isBlank (q.char :: (t ++ [q.char])) := by
  constructor
  · simp
  · rw [← List.cons_append, List.getLast?_concat]
    simp

theorem stripQuotes_around (q : Quote) (t : List Char) : stripQuotes (q.char :: (t ++ [q.char])) = stripQuotes t := by
  have pad : stripEnds isQuote ([q.char] ++ (t ++ [q.char])) = stripEnds isQuote t :=
    stripEnds_pad (by simp) (by simp)
  exact pad

end Quote

/-- A literal of a comparison: an unquoted number, or a text in quotes of a kind that it does not contain. -/
inductive Literal where
  | numeral (n : PlainNumeral)
  | quoted (q : Quote) (t : List Char) (h : q.char ∉ t)

namespace Literal

/-- The spelling. -/
def chars : Literal → List Char
  | numeral n => n.chars
  | quoted q t _ => q.char :: (t ++ [q.char])

/-- The value: the number, or the text without the quotes of the other kind at its ends. -/
def value : Literal → Value
  | numeral n => .number n.value
  | quoted q t _ => .text (String.ofList (stripEnds (· == q.other.char) t))

/-- Whether a literal is an unquoted number. -/
def isNumber : Literal → Bool
  | numeral _ => true
  | quoted _ _ _ => false

/-- A literal begins with a character of a number or with a quote. -/
theorem exists_head (l : Literal) : ∃ c cs, l.chars = c :: cs ∧ (isNumeralChar c = true ∨ isQuote c = true) := by
  cases l with
  | numeral n =>
    obtain ⟨front, last, ending, -⟩ := n.exists_last
    cases front with
    | nil => exact ⟨last, [], ending, Or.inl (n.isNumeralChar_of_mem (by simp [ending]))⟩
    | cons c cs => exact ⟨c, cs ++ [last], ending, Or.inl (n.isNumeralChar_of_mem (by simp [ending]))⟩
  | quoted q t h => exact ⟨q.char, t ++ [q.char], rfl, Or.inr q.isQuote_char⟩

/-- A literal ends in a digit or in a quote. -/
theorem exists_last (l : Literal) : ∃ front c, l.chars = front ++ [c] ∧ (isDigit c = true ∨ isQuote c = true) := by
  cases l with
  | numeral n =>
    obtain ⟨front, c, ending, digit⟩ := n.exists_last
    exact ⟨front, c, ending, Or.inl digit⟩
  | quoted q t h => exact ⟨q.char :: t, q.char, rfl, Or.inr q.isQuote_char⟩

/-- What stands before a literal inside another one that ends with it belongs to a number. -/
theorem isNumeralChar_of_overlap {l l' : Literal} {u : List Char} (h : l'.chars = u ++ l.chars) :
    ∀ c ∈ u, isNumeralChar c = true := by
  cases l' with
  | numeral n =>
    intro c member
    exact n.isNumeralChar_of_mem (by rw [show n.chars = u ++ l.chars from h]; exact List.mem_append_left _ member)
  | quoted q t unquoted =>
    intro c member
    exfalso
    obtain ⟨x, u, rfl⟩ := List.exists_cons_of_ne_nil (List.ne_nil_of_mem member)
    have tail : t ++ [q.char] = u ++ l.chars := (List.cons.inj h).2
    -- `l` ends in the same quote, so it is quoted, and its opening quote stands inside `t`.
    cases l with
    | numeral n =>
      obtain ⟨front, d, ending, digit⟩ := n.exists_last
      rw [chars, ending, ← List.append_assoc, List.append_singleton_inj] at tail
      rw [← tail.2, q.isDigit_char] at digit
      cases digit
    | quoted q' t' unquoted' =>
      rw [chars, ← List.cons_append, ← List.append_assoc, List.append_singleton_inj] at tail
      apply unquoted
      rw [tail.1, tail.2]
      simp

/-! ### The texts that pass as a literal -/

theorem isQuotedText_chars {q : Quote} {t : List Char} (h : q.char ∉ t) :
    Comparison.isQuotedText (q.char :: (t ++ [q.char])) = true := by
  have other : ∀ c ∈ t, decide (c ≠ q.char) = true := fun c member => decide_eq_true fun same => h (same ▸ member)
  rw [Comparison.isQuotedText, List.dropWhile_append_of_pos other]
  simp

theorem exists_quoted {cs : List Char} (h : Comparison.isQuotedText cs = true) :
    ∃ q t, ∃ unquoted : q.char ∉ t, (quoted q t unquoted).chars = cs := by
  cases cs with
  | nil => cases h
  | cons c cs =>
    simp only [Comparison.isQuotedText, Bool.and_eq_true, beq_iff_eq] at h
    obtain ⟨quote, closed⟩ := h
    obtain ⟨q, rfl⟩ := Quote.isQuote_iff.mp quote
    refine ⟨q, cs.takeWhile (· ≠ q.char), ?_, ?_⟩
    · intro member
      simpa using List.mem_takeWhile_imp member
    · show q.char :: (_ ++ [q.char]) = q.char :: cs
      rw [← closed, List.takeWhile_append_dropWhile]

theorem isLiteral_iff {cs : List Char} :
    Comparison.isLiteral cs = true ↔ ∃ l : Literal, l.chars = cs := by
  rw [Comparison.isLiteral, Bool.or_eq_true, Comparison.isNumeral_iff]
  constructor
  · rintro (⟨n, numeral_chars⟩ | h)
    · exact ⟨numeral n, numeral_chars⟩
    · obtain ⟨q, t, unquoted, spelled⟩ := exists_quoted h
      exact ⟨quoted q t unquoted, spelled⟩
  · rintro ⟨l, rfl⟩
    cases l with
    | numeral n => exact Or.inl ⟨n, rfl⟩
    | quoted q t unquoted => exact Or.inr (isQuotedText_chars unquoted)

/-! ### Their values -/

theorem parse?_quoted (q : Quote) (cs : List Char) : Number.parse? (q.char :: cs) = none := by
  cases q <;> simp [Quote.char, Number.parse?, Number.readSign, Number.readUnsigned?, Number.readWord?,
    isDigit]

theorem stripQuotes_quoted {q : Quote} {t : List Char} (h : q.char ∉ t) :
    stripQuotes (q.char :: (t ++ [q.char])) = stripEnds (· == q.other.char) t :=
  (q.stripQuotes_around t).trans (stripEnds_congr fun _ member => Quote.isQuote_eq_other fun same => h (same ▸ member))

theorem ofLiteral_chars (l : Literal) : Value.ofLiteral l.chars = l.value := by
  cases l with
  | numeral n => simp only [Value.ofLiteral, chars, value, Number.parse?_chars]
  | quoted q t unquoted =>
    simp only [Value.ofLiteral, chars, value, parse?_quoted, trimChars, stripEnds_of_bare (q.bare_around t),
      stripQuotes_quoted unquoted]

end Literal
end TextRules
