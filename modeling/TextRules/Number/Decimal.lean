import TextRules.Number.Basic
import TextRules.Text.Basic

/-!
Numbers in decimal. A text is a number if it is an optional sign and then a word for infinity or for NaN in any
    case, or digits with at most one point among them and perhaps an exponent. Its value is the number nearest to
    the decimal, a half to the even neighbour; what is too large is infinite and what is too small is zero, with
    the sign kept. A number is written with the digits of its shortest decimal: among the decimals that round to the
    number, one with the fewest digits, and of those the nearest. The plain form never has an exponent and writes
    whole numbers without a point; the form inside JSON marks whole numbers by a final zero, turns to an
    exponent below 1e-5 and from 1e16 on, and has `null` for what is not finite.
-/

namespace TextRules

/-! ### Reading -/

namespace Number

open Text

/-- The number nearest to `digits · 10 ^ exponent`. Exponents at which the outcome no longer depends on the
    digits are decided without computing the power. -/
def ofDecimal (negative : Bool) (digits : Nat) (exponent : Int) : Number :=
  if digits = 0 then signed negative 0
  else if exponent ≥ 400 then signed negative Rank.infinity
  else if exponent + (digits.log2 : Int) < -1200 then signed negative 0
  else if exponent ≥ 0 then ofRatio negative (digits * Nat.pow 10 exponent.toNat) 1
  else ofRatio negative digits (Nat.pow 10 (-exponent).toNat)

/-- The sign in front of a text, whether it is a minus, and the text after it. -/
def readSign : List Char → Bool × List Char
  | '-' :: cs => (true, cs)
  | '+' :: cs => (false, cs)
  | cs => (false, cs)

/-- The exponent that ends a decimal: absent, or a letter, an optional sign and digits. -/
def readExponent? : List Char → Option Int
  | [] => some 0
  | c :: cs =>
    if c = 'e' ∨ c = 'E' then
      let (negative, digits) := readSign cs
      if !digits.isEmpty && digits.all isDigit then
        some (if negative then -(decimalValue digits : Int) else decimalValue digits)
      else none
    else none

/-- An unsigned decimal: digits before and after an optional point, at least one in all, and an exponent. -/
def readUnsigned? (negative : Bool) (cs : List Char) : Option Number :=
  let whole := cs.takeWhile isDigit
  let rest := cs.dropWhile isDigit
  let (fraction, tail) : List Char × List Char :=
    match rest with
    | '.' :: after => (after.takeWhile isDigit, after.dropWhile isDigit)
    | _ => ([], rest)
  if whole.isEmpty && fraction.isEmpty then none
  else (readExponent? tail).map fun exponent =>
    ofDecimal negative (decimalValue (whole ++ fraction)) (exponent - fraction.length)

/-- The words for numbers without digits, in lower case. -/
def readWord? (negative : Bool) (word : List Char) : Option Number :=
  if word = ['i', 'n', 'f'] ∨ word = ['i', 'n', 'f', 'i', 'n', 'i', 't', 'y'] then
    some (signed negative Rank.infinity)
  else if word = ['n', 'a', 'n'] then some nan
  else none

/-- The number that a text spells, if it spells one. -/
def parse? (cs : List Char) : Option Number :=
  let (negative, rest) := readSign cs
  (readUnsigned? negative rest).or (readWord? negative (rest.map Char.toLower))

end Number

/-! ### The shortest decimal -/

namespace Rank

/-- Which way a decimal exactly half way between two of its kind goes. -/
inductive Tie where
  | up
  | even
  deriving DecidableEq

/-- A number as a multiple of 10⁻¹⁰⁷⁴. -/
def fine (rank : Nat) : Nat := scaled rank * Nat.pow 5 1074

/-- Whether `x`, a multiple of 10⁻¹⁰⁷⁴, rounds to the rank, which is positive. -/
def covers (rank x : Nat) : Bool :=
  let low := fine (rank - 1) + fine rank
  let high := fine rank + fine (rank + 1)
  if rank % 2 = 0 then low ≤ 2 * x && 2 * x ≤ high else low < 2 * x && 2 * x < high

/-- The multiple of 10 to the `place` that rounds to the rank and is nearest to it, if there is one. -/
def nearestAt (tie : Tie) (rank place : Nat) : Option Nat :=
  let unit := Nat.pow 10 place
  let below := fine rank / unit
  let rest := fine rank % unit
  let down := covers rank (below * unit)
  let up := covers rank ((below + 1) * unit)
  if down && up then
    if 2 * rest < unit then some below
    else if unit < 2 * rest then some (below + 1)
    else match tie with
      | .up => some (below + 1)
      | .even => some (below + below % 2)
  else if down then some below
  else if up then some (below + 1)
  else none

/-- The first hit from the given place downwards, as digits and place. -/
def shortestFrom (tie : Tie) (rank : Nat) : Nat → Nat × Nat
  | 0 => (fine rank, 0)
  | place + 1 =>
    match nearestAt tie rank (place + 1) with
    | some digits => (digits, place + 1)
    | none => shortestFrom tie rank place

/-- The shortest decimal of a positive finite rank: `(d, e)` stands for `d · 10 ^ e`. -/
def shortest (tie : Tie) (rank : Nat) : Nat × Int :=
  let (digits, place) := shortestFrom tie rank ((fine rank).log2 / 3 + 1)
  (digits, place - 1074)

end Rank

/-! ### Writing -/

namespace Number

open Text

/-- A point is put before the last `places` digits, with zeros in front where there are too few. -/
def withPoint (digits : List Char) (places : Nat) : List Char :=
  let padded := List.replicate (places + 1 - digits.length) '0' ++ digits
  padded.take (padded.length - places) ++ '.' :: padded.drop (padded.length - places)

/-- `digits · 10 ^ exponent` without an exponent. -/
def positional (digits : List Char) (exponent : Int) : List Char :=
  if exponent ≥ 0 then digits ++ List.replicate exponent.toNat '0'
  else withPoint digits (-exponent).toNat

/-- `digits · 10 ^ exponent` with a point after the first digit and a signed exponent. -/
def scientific (digits : List Char) (exponent : Int) : List Char :=
  let power := exponent + (digits.length - 1)
  let sign := if power < 0 then '-' else '+'
  let mantissa := if digits.length ≤ 1 then digits else digits.take 1 ++ '.' :: digits.drop 1
  mantissa ++ 'e' :: sign :: decimalDigits power.natAbs

/-- A minus is put before a negative number. -/
def withSign (negative : Bool) (cs : List Char) : List Char := if negative then '-' :: cs else cs

/-- The plain form of a number. A half way decimal goes up. -/
def display : Number → String
  | nan => "NaN"
  | signed negative rank =>
    String.ofList <| withSign negative <|
      if rank = Rank.infinity then ['i', 'n', 'f']
      else if rank = 0 then ['0']
      else
        let (digits, exponent) := Rank.shortest .up rank
        positional (decimalDigits digits) exponent

/-- The form of a number inside JSON. A half way decimal goes to the even digit. -/
def json : Number → String
  | nan => "null"
  | signed negative rank =>
    if rank = Rank.infinity then "null"
    else String.ofList <| withSign negative <|
      if rank = 0 then ['0', '.', '0']
      else
        let (value, exponent) := Rank.shortest .even rank
        let digits := decimalDigits value
        let point := exponent + digits.length
        if -5 < point ∧ point ≤ 16 then
          if exponent ≥ 0 then positional digits exponent ++ ['.', '0'] else positional digits exponent
        else scientific digits exponent

end Number
end TextRules
