/-!
Binary64 numbers. The non-negative ones, infinity included, are numbered in ascending order from zero, and
    a number is a sign and such a rank, or not a number. So each number but NaN has one representation,
    comparing numbers is comparing ranks, the two zeros are equal, and NaN is unordered. A quotient of natural
    numbers is rounded to the nearest number, a half to the even neighbour, and beyond the largest number to
    infinity. Integers, products and quotients of numbers are exact quotients of natural numbers, each rounded
    once.
-/

namespace TextRules

/-- The place of a non-negative number among all of them, zero having rank 0 and infinity the last. -/
abbrev Rank := Fin (2047 * Nat.pow 2 52 + 1)

-- Chosen before the general ones, so that the rank 0 is one and the same term wherever it is written.
instance (priority := high) Rank.instNeZero : @NeZero Nat Zero.ofOfNat0 (2047 * Nat.pow 2 52 + 1) := ⟨Nat.succ_ne_zero _⟩

/-- A binary64 number. -/
inductive Number where
  | nan
  | signed (negative : Bool) (rank : Rank)
  deriving DecidableEq, Repr

namespace Rank

/-- The rank of infinity. -/
def infinity : Rank := Fin.last _

/-- How often the unit 2⁻¹⁰⁷⁴ is doubled to give the distance from one number to the next. -/
def binade (rank : Nat) : Nat := rank / Nat.pow 2 52 - 1

/-- A number as a multiple of the distance to the next. -/
def significand (rank : Nat) : Nat := rank - binade rank * Nat.pow 2 52

/-- A number as a multiple of 2⁻¹⁰⁷⁴. -/
def scaled (rank : Nat) : Nat := significand rank * Nat.pow 2 (binade rank)

/-- The rank, or that of infinity where it would lie beyond. -/
def clamp (rank : Nat) : Rank :=
  if h : rank < 2047 * Nat.pow 2 52 + 1 then ⟨rank, h⟩ else infinity

end Rank

namespace Number

/-- The positive zero. -/
def zero : Number := signed false 0

/-- The signed rank, by which numbers are ordered; NaN has none. -/
def order? : Number → Option Int
  | nan => none
  | signed negative rank => some (if negative then -(rank.val : Int) else rank.val)

/-- The order of two numbers, absent when one of them is NaN. -/
def compare (x y : Number) : Option Ordering :=
  match x.order?, y.order? with
  | some a, some b => some (Ord.compare a b)
  | _, _ => none

/-- Equality of numbers: the zeros are equal and NaN is equal to nothing. -/
def equals (x y : Number) : Bool :=
  match x.order?, y.order? with
  | some a, some b => a == b
  | _, _ => false

/-- The number with the other sign. -/
def negate : Number → Number
  | nan => nan
  | signed negative rank => signed (!negative) rank

/-! ### Small facts -/

@[simp] theorem order?_nan : nan.order? = none := rfl

theorem compare_eq_none_iff {x y : Number} : compare x y = none ↔ x = nan ∨ y = nan := by
  cases x <;> cases y <;> simp [compare, order?]

theorem equals_eq_true_iff {x y : Number} : equals x y = true ↔ compare x y = some .eq := by
  cases x <;> cases y <;> simp [compare, equals, order?]

end Number

/-! ### Correct rounding -/

/-- `n / d` rounded to the nearest natural number, a half to the even one. -/
def roundHalfEven (n d : Nat) : Nat :=
  let q := n / d
  let r := n % d
  if 2 * r < d then q else if d < 2 * r then q + 1 else q + q % 2

namespace Rank

/-- The rank of the number nearest to `n / d`, for a positive `d`. -/
def ofRatio (n d : Nat) : Rank :=
  let units := n * Nat.pow 2 1074
  let doublings := (units / d).log2 - 52
  clamp (doublings * Nat.pow 2 52 + roundHalfEven units (d * Nat.pow 2 doublings))

end Rank

namespace Number

/-- The number nearest to `n / d`, for a positive `d`, with the given sign. -/
def ofRatio (negative : Bool) (n d : Nat) : Number := signed negative (Rank.ofRatio n d)

/-- The number nearest to a size. Sizes are words of 64 bits, so a greater one counts as the greatest word. -/
def ofNat (n : Nat) : Number := ofRatio false (min n (Nat.pow 2 64 - 1)) 1

/-- The number nearest to a quotient; 0 / 0 and ∞ / ∞ are NaN, and anything else by 0 is infinite. -/
def div : Number → Number → Number
  | signed s a, signed t b =>
    if a = Rank.infinity then if b = Rank.infinity then nan else signed (s != t) a
    else if b = Rank.infinity then signed (s != t) 0
    else if b = 0 then if a = 0 then nan else signed (s != t) Rank.infinity
    else ofRatio (s != t) (Rank.scaled a) (Rank.scaled b)
  | _, _ => nan

/-- The number nearest to a product; 0 · ∞ is NaN. -/
def mul : Number → Number → Number
  | signed s a, signed t b =>
    if a = Rank.infinity ∨ b = Rank.infinity then
      if a = 0 ∨ b = 0 then nan else signed (s != t) Rank.infinity
    else ofRatio (s != t) (Rank.scaled a * Rank.scaled b) (Nat.pow 2 2148)
  | _, _ => nan

/-- Whether a number is infinite, of either sign. -/
def isInfinite : Number → Bool
  | nan => false
  | signed _ rank => rank == Rank.infinity

end Number
end TextRules
