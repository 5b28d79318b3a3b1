/-!
Blanks, quotes and digits. Blanks are the 25 code points of the Unicode property White_Space; `trim` removes them
    from both ends and `stripQuotes` removes both kinds of quote, so each of the two, done twice, does no more
    than once. A run of digits is read as the number it spells, leading zeros included, and a number is written
    in the one way without leading zeros. Hexadecimal digits are read one at a time.
-/

namespace TextRules
namespace Text

/-- White space, in the sense of the Unicode property White_Space. -/
def isBlank (c : Char) : Bool :=
  let n := c.toNat
  (0x09 ≤ n && n ≤ 0x0D) || n == 0x20 || n == 0x85 || n == 0xA0 || n == 0x1680 ||
    (0x2000 ≤ n && n ≤ 0x200A) || n == 0x2028 || n == 0x2029 || n == 0x202F || n == 0x205F || n == 0x3000

/-- A single or a double quote. -/
def isQuote (c : Char) : Bool := c == '\'' || c == '"'

/-- `cs` without the characters at both ends that satisfy `p`. -/
def stripEnds (p : Char → Bool) (cs : List Char) : List Char :=
  ((cs.dropWhile p).reverse.dropWhile p).reverse

/-- `cs` without the blanks at both ends. -/
def trimChars (cs : List Char) : List Char := stripEnds isBlank cs

/-- `cs` without the quotes at both ends, whichever kind they are. -/
def stripQuotes (cs : List Char) : List Char := stripEnds isQuote cs

/-- A text without the blanks at both ends. -/
def trim (s : String) : String := String.ofList (trimChars s.toList)

/-- The pieces of `cs` between the characters equal to `sep`; there is always at least one. -/
def splitAt (sep : Char) : List Char → List (List Char)
  | [] => [[]]
  | c :: cs =>
    match splitAt sep cs with
    | [] => [[c]]
    | piece :: pieces => if c = sep then [] :: piece :: pieces else (c :: piece) :: pieces

/-! ### Small facts -/

@[simp] theorem stripEnds_nil (p : Char → Bool) : stripEnds p [] = [] := rfl

theorem splitAt_ne_nil (sep : Char) (cs : List Char) : splitAt sep cs ≠ [] := by
  cases cs with
  | nil => simp [splitAt]
  | cons c cs =>
    simp only [splitAt]
    split
    · simp
    · split <;> simp

@[simp] theorem toList_trim (s : String) : (trim s).toList = trimChars s.toList := by
  simp [trim]

end Text

/-! ### Digits -/

namespace Text

/-- One of the ten ASCII digits. -/
def isDigit (c : Char) : Bool := '0' ≤ c && c ≤ '9'

/-- The number that a digit stands for. -/
def digitValue (c : Char) : Nat := c.toNat - '0'.toNat

/-- The number spelled by a run of digits, the most significant first. -/
def decimalValue (cs : List Char) : Nat := cs.foldl (fun n c => 10 * n + digitValue c) 0

/-- The digits of `n` without leading zeros; zero is one digit. -/
def decimalDigits (n : Nat) : List Char := Nat.toDigits 10 n

/-- The number that a hexadecimal digit of either case stands for. -/
def hexValue? (c : Char) : Option Nat :=
  if isDigit c then some (digitValue c)
  else if 'a' ≤ c && c ≤ 'f' then some (c.toNat - 'a'.toNat + 10)
  else if 'A' ≤ c && c ≤ 'F' then some (c.toNat - 'A'.toNat + 10)
  else none

/-- The hexadecimal digit of lower case that stands for `n`, which is below 16. -/
def hexDigit (n : Nat) : Char :=
  if n < 10 then Char.ofNat ('0'.toNat + n) else Char.ofNat ('a'.toNat + (n - 10))

end Text
end TextRules
