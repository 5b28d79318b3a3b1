import Mathlib.Algebra.Order.Ring.Nat
import Mathlib.Data.Nat.Dist
import Mathlib.Order.Monotone.Basic
import Mathlib.Tactic.Ring
import TextRules.Number.Decimal

/-!
Rounding. The rank that a quotient is rounded to is that of the nearest number, and of two that are equally near that of
    the even one (`Rank.nearest_ofRatio`); there is only one such rank (`Rank.Nearest.unique`). So a numeral, with a
    fraction or an exponent or without, is read as the number nearest to the decimal that it spells
    (`Number.ofDecimal_nearest`). Infinity counts as the number that would come after the greatest one.
-/

namespace TextRules

theorem roundHalfEven_cases (n d : Nat) :
    (roundHalfEven n d = n / d ∧ 2 * (n % d) ≤ d ∧ (2 * (n % d) = d → n / d % 2 = 0)) ∨
      roundHalfEven n d = n / d + 1 ∧ d ≤ 2 * (n % d) ∧ (2 * (n % d) = d → (n / d + 1) % 2 = 0) := by
  unfold roundHalfEven
  dsimp only
  split
  · omega
  · split <;> omega

namespace Rank

/-! ### The distances between numbers -/

theorem binade_eq (rank : Nat) : binade rank = rank / 4503599627370496 - 1 := rfl

theorem significand_eq (rank : Nat) : significand rank = rank - binade rank * 4503599627370496 := rfl

theorem scaled_eq (rank : Nat) : scaled rank = significand rank * 2 ^ binade rank := rfl

theorem scaled_succ (rank : Nat) : scaled (rank + 1) = scaled rank + 2 ^ binade rank := by
  have before := significand_eq rank
  have after := significand_eq (rank + 1)
  rw [binade_eq] at before after
  by_cases same : binade (rank + 1) = binade rank
  · have next : significand (rank + 1) = significand rank + 1 := by
      rw [binade_eq, binade_eq] at same
      omega
    rw [scaled_eq, scaled_eq, same, next]
    ring
  · have up : binade (rank + 1) = binade rank + 1 ∧ significand (rank + 1) * 2 = significand rank + 1 := by
      rw [binade_eq, binade_eq] at *
      omega
    calc scaled (rank + 1) = significand (rank + 1) * 2 * 2 ^ binade rank := by
          rw [scaled_eq, up.1]
          ring
      _ = scaled rank + 2 ^ binade rank := by
          rw [up.2, scaled_eq]
          ring

theorem strictMono_scaled : StrictMono scaled := by
  refine strictMono_nat_of_lt_succ fun rank => ?_
  rw [scaled_succ]
  exact Nat.lt_add_of_pos_right (Nat.two_pow_pos _)

/-- As far as the significand of a rank has at most 53 binary digits, it is told by the place above a binade. -/
theorem scaled_of_le {doublings m : Nat} (low : doublings = 0 ∨ 2 ^ 52 ≤ m) (high : m ≤ 2 ^ 53) :
    scaled (doublings * 2 ^ 52 + m) = m * 2 ^ doublings := by
  rw [scaled_eq, significand_eq, binade_eq]
  by_cases last : m = 2 ^ 53
  · have binade : (doublings * 2 ^ 52 + m) / 4503599627370496 - 1 = doublings + 1 := by omega
    rw [binade, last, Nat.pow_succ 2 doublings]
    have half : doublings * 2 ^ 52 + 2 ^ 53 - (doublings + 1) * 4503599627370496 = 2 ^ 52 := by omega
    rw [half]
    ring
  · have binade : (doublings * 2 ^ 52 + m) / 4503599627370496 - 1 = doublings := by omega
    rw [binade]
    congr 1
    omega

theorem val_clamp {rank : Nat} (h : rank < 2047 * 2 ^ 52 + 1) : (clamp rank).val = rank := by
  rw [clamp]
  exact congrArg Fin.val (dif_pos h)

theorem val_clamp_of_le {rank : Nat} (beyond : 2047 * 2 ^ 52 ≤ rank) : (clamp rank).val = 2047 * 2 ^ 52 := by
  by_cases last : rank = 2047 * 2 ^ 52
  · rw [val_clamp (by omega), last]
  · rw [clamp]
    have outside : ¬rank < 2047 * Nat.pow 2 52 + 1 := fun inside => by
      rw [Nat.pow_eq] at inside
      omega
    rw [dif_neg outside]
    rfl

theorem val_le (rank : Rank) : rank.val ≤ 2047 * 2 ^ 52 := Nat.le_of_lt_succ rank.isLt

theorem val_infinity : infinity.val = 2047 * 2 ^ 52 := rfl

/-! ### The nearest number -/

/-- How far a number is from a quotient, as a multiple of 2⁻¹⁰⁷⁴ divided by the denominator. -/
def distance (n d rank : Nat) : Nat := Nat.dist (n * Nat.pow 2 1074) (scaled rank * d)

/-- The number nearest to a quotient, the even one if there are two. -/
structure Nearest (n d : Nat) (rank : Rank) : Prop where
  closest : ∀ other : Rank, distance n d rank ≤ distance n d other
  even : ∀ other : Rank, distance n d other = distance n d rank → other ≠ rank → rank.val % 2 = 0

section Between
variable {d x floor rank : Nat}

/-- Of two neighbours around a quotient the nearer one is nearer than any other rank, and another is as near only if
    the quotient is half way between them. -/
theorem closest_of_between (pos : 0 < d) (low : scaled floor * d ≤ x) (high : x ≤ scaled (floor + 1) * d)
    (choice : rank = floor ∧ x - scaled floor * d ≤ scaled (floor + 1) * d - x ∨
      rank = floor + 1 ∧ scaled (floor + 1) * d - x ≤ x - scaled floor * d) (other : Nat) :
    Nat.dist x (scaled rank * d) ≤ Nat.dist x (scaled other * d) ∧
      (Nat.dist x (scaled other * d) = Nat.dist x (scaled rank * d) → other ≠ rank →
        x - scaled floor * d = scaled (floor + 1) * d - x) := by
  have apart : ∀ {a b}, a < b → scaled a * d < scaled b * d := fun less =>
    Nat.mul_lt_mul_of_pos_right (strictMono_scaled less) pos
  have gap := apart (Nat.lt_add_one floor)
  have place : other < floor ∧ scaled other * d < scaled floor * d ∨ other = floor ∨ other = floor + 1 ∨
      floor + 1 < other ∧ scaled (floor + 1) * d < scaled other * d := by
    rcases Nat.lt_trichotomy other floor with less | same | more
    · exact .inl ⟨less, apart less⟩
    · exact .inr (.inl same)
    · rcases Nat.eq_or_lt_of_le (Nat.add_one_le_iff.mpr more) with same | more
      · exact .inr (.inr (.inl same.symm))
      · exact .inr (.inr (.inr ⟨more, apart more⟩))
  unfold Nat.dist
  rcases place with ⟨less, before⟩ | rfl | rfl | ⟨more, behind⟩ <;>
    rcases choice with ⟨rfl, near⟩ | ⟨rfl, near⟩ <;> omega

end Between

-- The exponent of the unit is a variable in the lemmas, so that no step computes one of its powers.
section Exponent
variable {e : Nat} (fixed : e = 1074)
include fixed

theorem distance_eq (n d rank : Nat) : distance n d rank = Nat.dist (n * 2 ^ e) (scaled rank * d) := by
  unfold distance
  generalize 1074 = exponent at *
  rw [fixed, Nat.pow_eq]

theorem ofRatio_eq (n d : Nat) : ofRatio n d = clamp (((n * 2 ^ e / d).log2 - 52) * 2 ^ 52 +
    roundHalfEven (n * 2 ^ e) (d * 2 ^ ((n * 2 ^ e / d).log2 - 52))) := by
  unfold ofRatio
  generalize 1074 = exponent at *
  simp only [fixed, Nat.pow_eq]

end Exponent

/-- A quotient divided by as many doublings as leave it 53 binary digits. -/
theorem significand_bounds (q : Nat) : q / 2 ^ (q.log2 - 52) < 2 ^ 53 ∧
    (q.log2 - 52 = 0 ∨ 2 ^ 52 ≤ q / 2 ^ (q.log2 - 52)) := by
  rcases Nat.eq_zero_or_pos q with rfl | pos
  · exact ⟨by simp, .inl rfl⟩
  · obtain ⟨low, high⟩ := (Nat.log2_eq_iff pos.ne').mp rfl
    constructor
    · rw [Nat.div_lt_iff_lt_mul (Nat.two_pow_pos _), ← Nat.pow_add]
      exact high.trans_le (Nat.pow_le_pow_right (by decide) (by omega))
    · by_cases wide : q.log2 - 52 = 0
      · exact .inl wide
      · rw [Nat.le_div_iff_mul_le (Nat.two_pow_pos _), ← Nat.pow_add]
        exact .inr ((Nat.pow_le_pow_right (by decide) (by omega)).trans low)

/-- The neighbours between which a quotient is rounded, and how. -/
theorem exists_between (x : Nat) {d doublings : Nat} (pos : 0 < d) (width : (x / d).log2 - 52 = doublings) :
    ∃ floor, scaled floor * d ≤ x ∧ x ≤ scaled (floor + 1) * d ∧
      (doublings * 2 ^ 52 + roundHalfEven x (d * 2 ^ doublings) = floor ∧
          x - scaled floor * d ≤ scaled (floor + 1) * d - x ∨
        doublings * 2 ^ 52 + roundHalfEven x (d * 2 ^ doublings) = floor + 1 ∧
          scaled (floor + 1) * d - x ≤ x - scaled floor * d) ∧
      (x - scaled floor * d = scaled (floor + 1) * d - x →
        (doublings * 2 ^ 52 + roundHalfEven x (d * 2 ^ doublings)) % 2 = 0) := by
  obtain ⟨high, low⟩ := significand_bounds (x / d)
  rw [width, Nat.div_div_eq_div_mul] at high low
  have rounded := roundHalfEven_cases x (d * 2 ^ doublings)
  have parts := Nat.div_add_mod x (d * 2 ^ doublings)
  have rest := Nat.mod_lt x (Nat.mul_pos pos (Nat.two_pow_pos doublings))
  generalize x / (d * 2 ^ doublings) = m at *
  have here := scaled_of_le low (Nat.le_of_lt high)
  have next := scaled_of_le (low.imp_right Nat.le_succ_of_le) high
  refine ⟨doublings * 2 ^ 52 + m, ?_⟩
  rw [here, Nat.add_assoc, next]
  have lower : m * 2 ^ doublings * d = d * 2 ^ doublings * m := by ring
  have upper : (m + 1) * 2 ^ doublings * d = d * 2 ^ doublings * m + d * 2 ^ doublings := by ring
  rw [lower, upper]
  omega

/-- Infinity is nearest to whatever is at least as great. -/
theorem nearest_infinity {e n d : Nat} (fixed : e = 1074) (beyond : scaled (2047 * 2 ^ 52) * d ≤ n * 2 ^ e) :
    Nearest n d infinity := by
  constructor
  · intro other
    have before := Nat.mul_le_mul_right d (strictMono_scaled.monotone other.val_le)
    rw [distance_eq fixed, distance_eq fixed, val_infinity]
    unfold Nat.dist
    omega
  · intro other _ _
    decide

/-- Zero is nearest to whatever is at most half of the first number after it. -/
theorem nearest_zero {e n d : Nat} (fixed : e = 1074) (small : 2 * (n * 2 ^ e) ≤ d) : Nearest n d 0 := by
  constructor
  · intro other
    show distance n d 0 ≤ distance n d other
    rw [distance_eq fixed, distance_eq fixed]
    unfold Nat.dist
    rcases Nat.eq_zero_or_pos other.val with same | more
    · rw [same]
    · have first := Nat.mul_le_mul_right d (strictMono_scaled.monotone (Nat.succ_le_of_lt more))
      have one : scaled 1 = 1 := rfl
      have zero : scaled 0 = 0 := rfl
      rw [Nat.succ_eq_add_one, Nat.zero_add, one] at first
      rw [zero]
      omega
  · intro other _ _
    rfl

/-- A quotient is rounded to the nearest number; beyond the greatest one that is infinity. -/
theorem nearest_ofRatio (n : Nat) {d : Nat} (pos : 0 < d) : Nearest n d (ofRatio n d) := by
  obtain ⟨e, fixed⟩ : ∃ e, e = 1074 := ⟨_, rfl⟩
  obtain ⟨floor, low, high, choice, half⟩ := exists_between (n * 2 ^ e) pos rfl
  have closest := closest_of_between pos low high choice
  have rounded := ofRatio_eq fixed n d
  generalize (n * 2 ^ e / d).log2 - 52 = doublings at *
  generalize doublings * 2 ^ 52 + roundHalfEven (n * 2 ^ e) (d * 2 ^ doublings) = rank at *
  by_cases inside : rank < 2047 * 2 ^ 52 + 1
  · have value : (ofRatio n d).val = rank := by rw [rounded, val_clamp inside]
    constructor
    · intro other
      rw [distance_eq fixed, distance_eq fixed, value]
      exact (closest other).1
    · intro other near different
      rw [distance_eq fixed, distance_eq fixed, value] at near
      rw [value]
      exact half ((closest other).2 near fun same => different (Fin.ext (same.trans value.symm)))
  · have last : ofRatio n d = infinity := by
      refine Fin.ext ?_
      rw [rounded, val_clamp_of_le (by omega)]
      rfl
    rw [last]
    exact nearest_infinity fixed ((Nat.mul_le_mul_right d (strictMono_scaled.monotone (by omega))).trans low)

theorem Nearest.le {n d : Nat} {rank rank' : Rank} (pos : 0 < d) (nearest : Nearest n d rank)
    (nearest' : Nearest n d rank') : rank' ≤ rank := by
  obtain ⟨e, fixed⟩ : ∃ e, e = 1074 := ⟨_, rfl⟩
  by_contra more
  have more : rank.val < rank'.val := not_le.mp more
  have same := Nat.le_antisymm (nearest.closest rank') (nearest'.closest rank)
  have different : rank' ≠ rank := fun equal => absurd (congrArg Fin.val equal) more.ne'
  have even := nearest.even rank' same.symm different
  have even' := nearest'.even rank same different.symm
  -- Both are even, so there is a rank between them, which would be nearer than either.
  have between := nearest.closest ⟨rank.val + 1, Nat.lt_of_le_of_lt more rank'.isLt⟩
  have low := Nat.mul_lt_mul_of_pos_right (strictMono_scaled (Nat.lt_add_one rank.val)) pos
  have high := Nat.mul_lt_mul_of_pos_right (strictMono_scaled (show rank.val + 1 < rank'.val by omega)) pos
  rw [distance_eq fixed, distance_eq fixed] at same between
  unfold Nat.dist at same between
  generalize scaled rank.val * d = near at *
  dsimp only at between
  omega

/-- There is only one nearest number. -/
theorem Nearest.unique {n d : Nat} {rank rank' : Rank} (pos : 0 < d) (nearest : Nearest n d rank)
    (nearest' : Nearest n d rank') : rank = rank' :=
  Fin.le_antisymm (nearest'.le pos nearest) (nearest.le pos nearest')

/-- A quotient that is a number is not rounded. -/
theorem val_ofRatio_of_exact {e n d rank : Nat} (fixed : e = 1074) (pos : 0 < d) (exact : n * 2 ^ e = scaled rank * d)
    (inside : rank < 2047 * 2 ^ 52 + 1) : (ofRatio n d).val = rank := by
  have closest := (nearest_ofRatio n pos).closest ⟨rank, inside⟩
  rw [distance_eq fixed, distance_eq fixed, exact, Nat.dist_self, Nat.le_zero] at closest
  have same := Nat.eq_of_dist_eq_zero closest
  exact (strictMono_scaled.injective (Nat.eq_of_mul_eq_mul_right pos same)).symm

theorem scaled_infinity {doublings : Nat} (last : doublings = 2046) :
    scaled (2047 * 2 ^ 52) = 2 ^ (52 + doublings) := by
  have place : 2047 * 2 ^ 52 = doublings * 2 ^ 52 + 2 ^ 52 := by omega
  rw [place, scaled_of_le (.inr (le_refl _)) (by decide), Nat.pow_add]

theorem nearest_infinity_of_pow {n k : Nat} (pos : 0 < n) (large : 400 ≤ k) : Nearest (n * 10 ^ k) 1 infinity := by
  obtain ⟨e, fixed⟩ : ∃ e, e = 1074 := ⟨_, rfl⟩
  obtain ⟨doublings, last⟩ : ∃ doublings, doublings = 2046 := ⟨_, rfl⟩
  refine nearest_infinity fixed ?_
  calc scaled (2047 * 2 ^ 52) * 1 = 2 ^ (52 + doublings) := by rw [Nat.mul_one, scaled_infinity last]
    _ ≤ 2 ^ (3 * k + e) := Nat.pow_le_pow_right (by decide) (by omega)
    _ = 8 ^ k * 2 ^ e := by rw [Nat.pow_add, Nat.pow_mul]
    _ ≤ 10 ^ k * 2 ^ e := Nat.mul_le_mul_right _ (Nat.pow_le_pow_left (by decide) k)
    _ ≤ n * 10 ^ k * 2 ^ e := Nat.mul_le_mul_right _ (Nat.le_mul_of_pos_left _ pos)

theorem nearest_zero_of_pow {n k : Nat} (pos : 0 < n) (small : 1200 + n.log2 < k) : Nearest n (10 ^ k) 0 := by
  obtain ⟨e, fixed⟩ : ∃ e, e = 1074 := ⟨_, rfl⟩
  obtain ⟨-, bound⟩ := (Nat.log2_eq_iff pos.ne').mp rfl
  refine nearest_zero fixed ?_
  calc 2 * (n * 2 ^ e) ≤ 2 * (2 ^ (n.log2 + 1) * 2 ^ e) :=
        Nat.mul_le_mul_left 2 (Nat.mul_le_mul_right _ (Nat.le_of_lt bound))
    _ = 2 ^ (1 + (n.log2 + 1 + e)) := by rw [Nat.pow_add 2 1, Nat.pow_add 2 (n.log2 + 1), Nat.pow_one]
    _ ≤ 2 ^ k := Nat.pow_le_pow_right (by decide) (by omega)
    _ ≤ 10 ^ k := Nat.pow_le_pow_left (by decide) k

/-! ### Sizes -/

theorem ofRatio_zero : ofRatio 0 1 = 0 := by
  obtain ⟨e, fixed⟩ : ∃ e, e = 1074 := ⟨_, rfl⟩
  refine Fin.ext (val_ofRatio_of_exact fixed Nat.one_pos ?_ (by decide))
  rw [Nat.zero_mul]
  rfl

/-- One is a number. -/
theorem scaled_one {e : Nat} (fixed : e = 1074) : scaled (1023 * 2 ^ 52) = 2 ^ e := by
  obtain ⟨doublings, last⟩ : ∃ doublings, doublings = 1022 := ⟨_, rfl⟩
  have place : 1023 * 2 ^ 52 = doublings * 2 ^ 52 + 2 ^ 52 := by omega
  rw [place, scaled_of_le (.inr (le_refl _)) (by decide), ← Nat.pow_add]
  congr 1
  omega

theorem ofRatio_one_eq_zero_iff {n : Nat} : ofRatio n 1 = 0 ↔ n = 0 := by
  obtain ⟨e, fixed⟩ : ∃ e, e = 1074 := ⟨_, rfl⟩
  refine ⟨fun zero => ?_, fun zero => zero ▸ ofRatio_zero⟩
  by_contra some
  -- One is nearer to a natural number than zero.
  obtain ⟨one, value⟩ : ∃ one : Rank, one.val = 1023 * 2 ^ 52 := ⟨⟨1023 * 2 ^ 52, by decide⟩, rfl⟩
  have closest := (nearest_ofRatio n Nat.one_pos).closest one
  have none : scaled (0 : Rank).val = 0 := rfl
  rw [zero, distance_eq fixed, distance_eq fixed, value, scaled_one fixed, none] at closest
  have least : 2 ^ e ≤ n * 2 ^ e := Nat.le_mul_of_pos_left _ (Nat.pos_of_ne_zero some)
  have unit := Nat.two_pow_pos e
  unfold Nat.dist at closest
  omega

theorem ofRatio_one_ne_infinity {n : Nat} (word : n < 2 ^ 64) : ofRatio n 1 ≠ infinity := by
  obtain ⟨e, fixed⟩ : ∃ e, e = 1074 := ⟨_, rfl⟩
  obtain ⟨doublings, last⟩ : ∃ doublings, doublings = 2046 := ⟨_, rfl⟩
  intro infinite
  -- Zero is nearer to a word than infinity.
  have closest := (nearest_ofRatio n Nat.one_pos).closest 0
  have none : scaled (0 : Rank).val = 0 := rfl
  rw [infinite, distance_eq fixed, distance_eq fixed, val_infinity, scaled_infinity last, none] at closest
  have value : n * 2 ^ e < 2 ^ (64 + e) := by
    rw [Nat.pow_add]
    exact Nat.mul_lt_mul_of_pos_right word (Nat.two_pow_pos e)
  have far : 2 ^ (64 + e) * 2 ≤ 2 ^ (52 + doublings) := by
    rw [← Nat.pow_succ]
    exact Nat.pow_le_pow_right (by decide) (by omega)
  unfold Nat.dist at closest
  omega

theorem ofRatio_min_ne_infinity (n : Nat) : ofRatio (min n (Nat.pow 2 64 - 1)) 1 ≠ infinity :=
  ofRatio_one_ne_infinity (Nat.lt_of_le_of_lt (Nat.min_le_right _ _) (by decide))

theorem ofRatio_min_eq_zero_iff (n : Nat) : ofRatio (min n (Nat.pow 2 64 - 1)) 1 = 0 ↔ n = 0 := by
  have word : Nat.pow 2 64 - 1 ≠ 0 := by decide
  rw [ofRatio_one_eq_zero_iff]
  omega

end Rank

namespace Number

theorem ofNat_eq {n : Nat} (word : n < 2 ^ 64) : ofNat n = ofRatio false n 1 := by
  have fits : min n (Nat.pow 2 64 - 1) = n := Nat.min_eq_left (Nat.le_pred_of_lt word)
  rw [ofNat, fits]

/-- A decimal is read as the nearest number, whatever its exponent. -/
theorem ofDecimal_nearest (negative : Bool) (digits : Nat) (exponent : Int) :
    ∃ rank, ofDecimal negative digits exponent = signed negative rank ∧
      Rank.Nearest (digits * 10 ^ exponent.toNat) (10 ^ (-exponent).toNat) rank := by
  have denominator : 0 < 10 ^ (-exponent).toNat := Nat.pow_pos (by decide)
  unfold ofDecimal
  split
  case isTrue zero =>
    obtain ⟨e, fixed⟩ : ∃ e, e = 1074 := ⟨_, rfl⟩
    refine ⟨0, rfl, Rank.nearest_zero fixed ?_⟩
    rw [zero, Nat.zero_mul, Nat.zero_mul]
    exact Nat.zero_le _
  case isFalse some =>
    have pos := Nat.pos_of_ne_zero some
    split
    case isTrue large =>
      refine ⟨Rank.infinity, rfl, ?_⟩
      rw [show (-exponent).toNat = 0 by omega, Nat.pow_zero]
      exact Rank.nearest_infinity_of_pow pos (by omega)
    case isFalse =>
      split
      case isTrue small =>
        refine ⟨0, rfl, ?_⟩
        rw [show exponent.toNat = 0 by omega, Nat.pow_zero, Nat.mul_one]
        exact Rank.nearest_zero_of_pow pos (by omega)
      case isFalse =>
        split
        case isTrue whole =>
          refine ⟨_, rfl, ?_⟩
          rw [show (-exponent).toNat = 0 by omega, Nat.pow_zero]
          exact Rank.nearest_ofRatio _ Nat.one_pos
        case isFalse =>
          refine ⟨_, rfl, ?_⟩
          rw [show exponent.toNat = 0 by omega, Nat.pow_zero, Nat.mul_one]
          exact Rank.nearest_ofRatio _ denominator

end Number
end TextRules
