import TextRules.Json.Numeral

/-!
JSON texts as tokens. Reading goes from left to right and ends with one token for the first place that cannot
    be read, so what is read of a text does not depend on anything behind. A string in which a surrogate
    stands alone or a piece is ill-formed is still a token, without a value, and so is a numeral that is too
    large; whoever passes over them does not notice.
-/

namespace TextRules
namespace Json

open Text Utf8

/-- A piece of a JSON text: punctuation, a word, a string, a number, or a place that cannot be read. -/
inductive Token where
  | beginArray
  | endArray
  | beginObject
  | endObject
  | comma
  | colon
  | null
  | bool (b : Bool)
  | string (s : Option String)
  | number (n : Option Number)
  | unreadable

/-! ### Strings -/

/-- A string of which a part is read: its characters, latest first, a high surrogate that waits for its low
    one, and whether all was well-formed. -/
structure PartialString where
  chars : List Char := []
  high : Option Nat := none
  valid : Bool := true

namespace PartialString

/-- With one more character. -/
def push (s : PartialString) (c : Char) : PartialString := ⟨c :: s.chars, none, s.valid && s.high.isNone⟩

/-- With an ill-formed piece. -/
def spoil (s : PartialString) : PartialString := { s with valid := false }

/-- With one more UTF-16 unit, which may be half of a character. -/
def pushUnit (s : PartialString) (n : Nat) : PartialString :=
  if 0xD800 ≤ n ∧ n ≤ 0xDBFF then ⟨s.chars, some n, s.valid && s.high.isNone⟩
  else if 0xDC00 ≤ n ∧ n ≤ 0xDFFF then
    match s.high with
    | some high => ⟨Char.ofNat (0x10000 + (high - 0xD800) * 0x400 + (n - 0xDC00)) :: s.chars, none, s.valid⟩
    | none => s.spoil
  else s.push (Char.ofNat n)

/-- The text, if all of it was well-formed. -/
def text? (s : PartialString) : Option String :=
  if s.valid && s.high.isNone then some (String.ofList s.chars.reverse) else none

end PartialString

/-- What a letter after a backslash stands for. -/
def simpleEscape? (c : Char) : Option Char :=
  if c = '"' ∨ c = '\\' ∨ c = '/' then some c
  else if c = 'b' then some (Char.ofNat 0x08)
  else if c = 'f' then some (Char.ofNat 0x0C)
  else if c = 'n' then some '\n'
  else if c = 'r' then some '\r'
  else if c = 't' then some '\t'
  else none

/-- The number of four hexadecimal digits. -/
def hexUnit? (a b c d : Char) : Option Nat :=
  match hexValue? a, hexValue? b, hexValue? c, hexValue? d with
  | some a, some b, some c, some d => some (((a * 16 + b) * 16 + c) * 16 + d)
  | _, _, _, _ => none

/-- The rest of a string behind its opening quote: its text, if well-formed, and what follows the closing
    quote. There is none if the string does not end, has a bad escape or a bare control character. -/
def readString? (s : PartialString) : List Symbol → Option (Option String × List Symbol)
  | [] => none
  | none :: rest => readString? s.spoil rest
  | some c :: rest =>
    if c = '"' then some (s.text?, rest)
    else if c = '\\' then
      match rest with
      | some 'u' :: some h :: some i :: some j :: some k :: rest =>
        match hexUnit? h i j k with
        | some n => readString? (s.pushUnit n) rest
        | none => none
      | some e :: rest =>
        match simpleEscape? e with
        | some c => readString? (s.push c) rest
        | none => none
      | _ => none
    else if c.toNat < 0x20 then none
    else readString? (s.push c) rest

/-! ### Other tokens -/

/-- What follows `word`, if the text begins with it. -/
def dropWord? : List Char → List Symbol → Option (List Symbol)
  | [], rest => some rest
  | c :: word, some d :: rest => if c = d then dropWord? word rest else none
  | _ :: _, _ => none

/-- One of the four blanks of JSON. -/
def isSpace (c : Char) : Bool := c == ' ' || c == '\t' || c == '\n' || c == '\r'

/-- The token that is a single character. -/
def punctuation? (c : Char) : Option Token :=
  if c = '[' then some .beginArray
  else if c = ']' then some .endArray
  else if c = '\x7b' then some .beginObject
  else if c = '\x7d' then some .endObject
  else if c = ',' then some .comma
  else if c = ':' then some .colon
  else none

/-- The token that begins with `c`, which is no punctuation, and what follows it. -/
def readLonger? (c : Char) (rest : List Symbol) : Option (Token × List Symbol) :=
  if c = '"' then (readString? {} rest).map fun (s, rest) => (.string s, rest)
  else if c = '-' then (readNumeral? true rest).map fun (n, rest) => (.number n.value?, rest)
  else if isDigit c then (readNumeral? false (some c :: rest)).map fun (n, rest) => (.number n.value?, rest)
  else if c = 'n' then (dropWord? ['u', 'l', 'l'] rest).map fun rest => (.null, rest)
  else if c = 't' then (dropWord? ['r', 'u', 'e'] rest).map fun rest => (.bool true, rest)
  else if c = 'f' then (dropWord? ['a', 'l', 's', 'e'] rest).map fun rest => (.bool false, rest)
  else none

/-! ### Reading shortens the text -/

theorem readString?_length {s : PartialString} {cs rest : List Symbol} {t : Option String}
    (h : readString? s cs = some (t, rest)) : rest.length < cs.length := by
  fun_induction readString? s cs <;> simp_all <;> omega

theorem dropWord?_length {word : List Char} {cs rest : List Symbol} (h : dropWord? word cs = some rest) :
    rest.length ≤ cs.length := by
  fun_induction dropWord? word cs <;> simp_all
  omega

theorem readDigits_length (cs : List Symbol) : (readDigits cs).1.length + (readDigits cs).2.length = cs.length := by
  fun_induction readDigits cs <;> simp_all
  omega

theorem readSomeDigits?_length {cs rest : List Symbol} {digits : List Char}
    (h : readSomeDigits? cs = some (digits, rest)) : rest.length < cs.length := by
  have lengths := readDigits_length cs
  simp only [readSomeDigits?] at h
  split at h
  · cases h
  · rename_i some_digit
    cases h
    have := List.length_pos_iff.mpr (by simpa using some_digit)
    omega

theorem readFraction?_length {cs rest : List Symbol} {fraction : Option (List Char)}
    (h : readFraction? cs = some (fraction, rest)) : rest.length ≤ cs.length := by
  unfold readFraction? at h
  split at h
  · obtain ⟨⟨digits, after⟩, digits_read, same⟩ := Option.map_eq_some_iff.mp h
    cases same
    exact Nat.le_succ_of_le (Nat.le_of_lt (readSomeDigits?_length digits_read))
  · cases h
    exact Nat.le_refl _

theorem readExponentSign_length (cs : List Symbol) : (readExponentSign cs).2.length ≤ cs.length := by
  unfold readExponentSign
  split <;> simp

theorem readExponent?_length {cs rest : List Symbol} {exponent : Option (Bool × List Char)}
    (h : readExponent? cs = some (exponent, rest)) : rest.length ≤ cs.length := by
  unfold readExponent? at h
  split at h
  · rename_i c tail
    split at h
    · obtain ⟨⟨digits, after⟩, digits_read, same⟩ := Option.map_eq_some_iff.mp h
      cases same
      have sign_le := readExponentSign_length tail
      have rest_lt := readSomeDigits?_length digits_read
      simp only [List.length_cons]
      omega
    · cases h
      exact Nat.le_refl _
  · cases h
    exact Nat.le_refl _
  · cases h
    exact Nat.le_refl _

theorem readNumeral?_length {negative : Bool} {cs rest : List Symbol} {n : Numeral}
    (h : readNumeral? negative cs = some (n, rest)) : rest.length < cs.length := by
  unfold readNumeral? at h
  split at h
  · cases h
  · rename_i whole after whole_read
    split at h
    · cases h
    · split at h
      · cases h
      · rename_i fraction after fraction_read
        split at h
        · cases h
        · rename_i exponent after exponent_read
          cases h
          have whole_read := readSomeDigits?_length whole_read
          have fraction_read := readFraction?_length fraction_read
          have exponent_read := readExponent?_length exponent_read
          omega

theorem readLonger?_length {c : Char} {cs rest : List Symbol} {t : Token}
    (h : readLonger? c cs = some (t, rest)) : rest.length ≤ cs.length := by
  unfold readLonger? at h
  split at h
  · obtain ⟨⟨s, after⟩, string, same⟩ := Option.map_eq_some_iff.mp h
    cases same
    exact Nat.le_of_lt (readString?_length string)
  split at h
  · obtain ⟨⟨n, after⟩, numeral, same⟩ := Option.map_eq_some_iff.mp h
    cases same
    exact Nat.le_of_lt (readNumeral?_length numeral)
  split at h
  · obtain ⟨⟨n, after⟩, numeral, same⟩ := Option.map_eq_some_iff.mp h
    cases same
    exact Nat.le_of_lt_succ (readNumeral?_length numeral)
  split at h
  · obtain ⟨after, word, same⟩ := Option.map_eq_some_iff.mp h
    cases same
    exact dropWord?_length word
  split at h
  · obtain ⟨after, word, same⟩ := Option.map_eq_some_iff.mp h
    cases same
    exact dropWord?_length word
  split at h
  · obtain ⟨after, word, same⟩ := Option.map_eq_some_iff.mp h
    cases same
    exact dropWord?_length word
  · cases h

/-! ### Texts -/

/-- The tokens of a text, up to the first place that cannot be read. -/
def tokens : List Symbol → List Token
  | [] => []
  | none :: _ => [.unreadable]
  | some c :: rest =>
    if isSpace c then tokens rest
    else
      match punctuation? c with
      | some t => t :: tokens rest
      | none =>
        match _h : readLonger? c rest with
        | some (t, after) => t :: tokens after
        | none => [.unreadable]
termination_by cs => cs.length
decreasing_by
  · simp
  · simp
  · exact Nat.lt_succ_of_le (readLonger?_length (by assumption))

end Json
end TextRules
