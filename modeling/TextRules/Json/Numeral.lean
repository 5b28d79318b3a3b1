import TextRules.Number.Decimal
import TextRules.Text.Utf8

/-!
Numbers in JSON. A numeral is a sign, digits without leading zeros, and optional fraction and exponent. Its
    digits are collected into a 64 bit integer as long as they fit: further digits before the point only
    count as powers of ten and further digits after it are dropped. The integer is rounded to a number and
    then multiplied or divided by the power of ten, itself a rounded number, so the result may differ from
    the nearest number in the last place. A numeral too large for a number has no value.
-/

namespace TextRules
namespace Json

open Text Utf8

/-- A numeral cut into its parts. -/
structure Numeral where
  negative : Bool
  whole : List Char
  fraction : Option (List Char)
  exponent : Option (Bool × List Char)

namespace Numeral

/-- The largest integer into which digits are collected. -/
def capacity : Nat := Nat.pow 2 64 - 1

/-- Digits added to an integer as long as they fit, and the digits that are left. -/
def collect (n : Nat) : List Char → Nat × List Char
  | [] => (n, [])
  | c :: cs =>
    if 10 * n + digitValue c ≤ capacity then collect (10 * n + digitValue c) cs else (n, c :: cs)

/-- The number nearest to a power of ten. -/
def powerOfTen (k : Nat) : Number := Number.ofDecimal false 1 k

/-- A number divided by a power of ten, 308 places at a time. -/
def scaleDown (x : Number) (k : Nat) : Number :=
  if k ≤ 308 then x.div (powerOfTen k)
  else if x = Number.zero then x
  else scaleDown (x.div (powerOfTen 308)) (k - 308)
termination_by k

/-- A number multiplied by a power of ten, unless the product is too large. -/
def scaleUp? (x : Number) (k : Nat) : Option Number :=
  if k ≤ 308 then
    let product := x.mul (powerOfTen k)
    if product.isInfinite then none else some product
  else if x = Number.zero then some x
  else none

/-- `n · 10 ^ exponent`, unless it is too large. -/
def scale? (n : Nat) (exponent : Int) : Option Number :=
  if exponent ≥ 0 then scaleUp? (Number.ofNat n) exponent.toNat
  else some (scaleDown (Number.ofNat n) (-exponent).toNat)

/-- The value of a numeral without its sign. -/
def magnitude? (x : Numeral) : Option Number :=
  let (whole, beyond) := collect 0 x.whole
  let (n, dropped) := collect whole (x.fraction.getD [])
  let places : Int := beyond.length - (((x.fraction.getD []).length - dropped.length : Nat) : Int)
  match x.exponent with
  | none => if x.fraction.isNone && beyond.isEmpty then some (Number.ofNat n) else scale? n places
  | some (negative, digits) =>
    let power := decimalValue digits
    if power ≤ Nat.pow 2 31 - 1 then scale? n (if negative then places - power else places + power)
    else if n ≠ 0 ∧ !negative then none
    else some Number.zero

/-- The value of a numeral, unless it is too large for a number. -/
def value? (x : Numeral) : Option Number :=
  x.magnitude?.map fun n => if x.negative then n.negate else n

end Numeral

/-- The digits at the front of a list of symbols, and what follows them. -/
def readDigits : List Symbol → List Char × List Symbol
  | some c :: rest =>
    if isDigit c then
      let (digits, after) := readDigits rest
      (c :: digits, after)
    else ([], some c :: rest)
  | rest => ([], rest)

/-- Digits, at least one. -/
def readSomeDigits? (cs : List Symbol) : Option (List Char × List Symbol) :=
  let (digits, rest) := readDigits cs
  if digits.isEmpty then none else some (digits, rest)

/-- The fraction of a numeral, if a point follows. -/
def readFraction? : List Symbol → Option (Option (List Char) × List Symbol)
  | some '.' :: rest => (readSomeDigits? rest).map fun (digits, after) => (some digits, after)
  | rest => some (none, rest)

/-- The sign of an exponent: whether it is a minus. -/
def readExponentSign : List Symbol → Bool × List Symbol
  | some '-' :: rest => (true, rest)
  | some '+' :: rest => (false, rest)
  | rest => (false, rest)

/-- The exponent of a numeral, if a letter for one follows. -/
def readExponent? : List Symbol → Option (Option (Bool × List Char) × List Symbol)
  | some c :: rest =>
    if c = 'e' ∨ c = 'E' then
      let sign := readExponentSign rest
      (readSomeDigits? sign.2).map fun (digits, after) => (some (sign.1, digits), after)
    else some (none, some c :: rest)
  | [] => some (none, [])
  | none :: rest => some (none, none :: rest)

/-- An unsigned numeral; a leading zero stands alone before the point. -/
def readNumeral? (negative : Bool) (cs : List Symbol) : Option (Numeral × List Symbol) :=
  match readSomeDigits? cs with
  | none => none
  | some (whole, rest) =>
    if whole.head? = some '0' ∧ whole.length ≠ 1 then none
    else
      match readFraction? rest with
      | none => none
      | some (fraction, rest) =>
        match readExponent? rest with
        | none => none
        | some (exponent, rest) => some (⟨negative, whole, fraction, exponent⟩, rest)

end Json
end TextRules
