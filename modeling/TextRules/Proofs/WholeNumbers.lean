import TextRules.Number.Decimal
import TextRules.Proofs.Decimals
import TextRules.Proofs.Rounding

/-!
Natural numbers among the binary64 numbers. Below 2⁵³ a natural number is not rounded, and the numbers next to it are at
    most one away (`Rank.whole_ofRatio`). So its rank covers no other natural number, and the search for the shortest
    decimal, which comes down from places above the ones, ends with its own digits but for zeros behind them
    (`Rank.Whole.shortest_eq`). Order and plain form are then those of the natural numbers.
-/

namespace TextRules

theorem mul_three_le_log2 {x e : Nat} (h : 10 ^ e ≤ x) : e * 3 ≤ x.log2 := by
  have pos : 0 < 10 ^ e := Nat.pow_pos (by decide)
  refine (Nat.le_log2 (pos.trans_le h).ne').mpr (le_trans ?_ h)
  rw [Nat.mul_comm, Nat.pow_mul]
  exact Nat.pow_le_pow_left (by decide) e

namespace Rank

/-! ### The distances between numbers -/

theorem binade_le_binade {rank rank' : Nat} (h : rank ≤ rank') : binade rank ≤ binade rank' :=
  Nat.sub_le_sub_right (Nat.div_le_div_right h) 1

theorem binade_normal {doublings m : Nat} (low : 2 ^ 52 ≤ m) (high : m < 2 ^ 53) :
    binade (doublings * 2 ^ 52 + m) = doublings := by
  rw [binade_eq]
  omega

/-! ### Whole multiples of a unit -/

-- The exponent of the unit is a variable in the lemmas, so that no step computes one of its powers.
section Exponent
variable {e : Nat} (fixed : e = 1074)
include fixed

theorem fine_eq (rank : Nat) : fine rank = scaled rank * 5 ^ e := by
  unfold fine
  generalize 1074 = exponent at *
  rw [fixed, Nat.pow_eq]

theorem fine_succ (rank : Nat) : fine (rank + 1) = fine rank + 2 ^ binade rank * 5 ^ e := by
  rw [fine_eq fixed, scaled_succ, Nat.add_mul, fine_eq fixed]

theorem fine_succ_le {rank : Nat} (near : binade rank ≤ e) : fine (rank + 1) ≤ fine rank + 10 ^ e := by
  have gap := Nat.mul_le_mul_right (5 ^ e) (Nat.pow_le_pow_right (show 0 < 2 by decide) near)
  rw [← Nat.mul_pow] at gap
  rw [fine_succ fixed]
  exact Nat.add_le_add_left gap _

theorem shortest_of_found {tie : Tie} {rank digits place : Nat}
    (found : shortestFrom tie rank ((fine rank).log2 / 3 + 1) = (digits, place)) :
    shortest tie rank = (digits, (place : Int) - e) := by
  -- Opened as a function, since the kernel would run the search once it is applied.
  have opened : @shortest = @shortest := rfl
  conv at opened => rhs; delta shortest
  rw [opened]
  beta_reduce
  rw [found, fixed]
  rfl

end Exponent

theorem strictMono_fine : StrictMono fine := by
  obtain ⟨e, fixed⟩ : ∃ e, e = 1074 := ⟨_, rfl⟩
  refine strictMono_nat_of_lt_succ fun rank => ?_
  rw [fine_succ fixed]
  exact Nat.lt_add_of_pos_right (Nat.mul_pos (Nat.two_pow_pos _) (Nat.pow_pos (by decide)))

theorem fine_zero : fine 0 = 0 := by
  obtain ⟨e, fixed⟩ : ∃ e, e = 1074 := ⟨_, rfl⟩
  rw [fine_eq fixed]
  exact Nat.zero_mul _

/-- A rank stands for a number of units, and its neighbours are at most one unit away. -/
structure Whole (unit n rank : Nat) : Prop where
  value : fine rank = n * unit
  above : fine (rank + 1) ≤ fine rank + unit
  below : fine rank ≤ fine (rank - 1) + unit

namespace Whole
variable {unit n n' rank rank' : Nat}

theorem unit_pos (h : Whole unit n rank) : 0 < unit := by
  have above := h.above
  have : fine rank < fine (rank + 1) := strictMono_fine (Nat.lt_succ_self rank)
  omega

theorem lt_iff (h : Whole unit n rank) (h' : Whole unit n' rank') : rank < rank' ↔ n < n' := by
  rw [← strictMono_fine.lt_iff_lt, h.value, h'.value]
  exact Nat.mul_lt_mul_right h.unit_pos

theorem rank_pos_iff (h : Whole unit n rank) : 0 < rank ↔ 0 < n := by
  rw [← strictMono_fine.lt_iff_lt, fine_zero, h.value]
  exact Nat.mul_pos_iff_of_pos_right h.unit_pos

/-- Of the multiples of the unit a rank covers its own only. -/
theorem covers_iff (h : Whole unit n rank) (pos : 0 < n) (m : Nat) : covers rank (m * unit) = true ↔ m = n := by
  have rankPos := h.rank_pos_iff.mpr pos
  obtain ⟨value, above, below⟩ := h
  have behind : fine rank < fine (rank + 1) := strictMono_fine (Nat.lt_succ_self rank)
  have front : fine (rank - 1) < fine rank := strictMono_fine (Nat.sub_lt rankPos Nat.one_pos)
  have order : m < n ∧ m * unit + unit ≤ fine rank ∨ m = n ∧ m * unit = fine rank ∨
      n < m ∧ fine rank + unit ≤ m * unit := by
    rw [value]
    rcases Nat.lt_trichotomy m n with lt | rfl | gt
    · exact Or.inl ⟨lt, Nat.succ_mul m unit ▸ Nat.mul_le_mul_right unit lt⟩
    · exact Or.inr (Or.inl ⟨rfl, rfl⟩)
    · exact Or.inr (Or.inr ⟨gt, Nat.succ_mul n unit ▸ Nat.mul_le_mul_right unit gt⟩)
  rw [covers]
  split <;> rw [Bool.and_eq_true, decide_eq_true_iff, decide_eq_true_iff] <;> omega

end Whole

/-! ### The shortest decimal -/

theorem nearestAt_of_not_up {tie : Tie} {rank place unit : Nat} (power : 10 ^ place = unit)
    (up : covers rank ((fine rank / unit + 1) * unit) = false) : nearestAt tie rank place =
      if covers rank (fine rank / unit * unit) = true then some (fine rank / unit) else none := by
  subst power
  simp only [nearestAt, Nat.pow_eq, up, Bool.and_false, Bool.false_eq_true, if_false]

theorem shortestFrom_of_pos {tie : Tie} {rank place : Nat} (pos : 0 < place) : shortestFrom tie rank place =
    match nearestAt tie rank place with
    | some digits => (digits, place)
    | none => shortestFrom tie rank (place - 1) := by
  obtain ⟨place, rfl⟩ := Nat.exists_eq_succ_of_ne_zero pos.ne'
  rfl

namespace Whole
variable {n rank e : Nat}

theorem nearestAt_eq (h : Whole (10 ^ e) n rank) (pos : 0 < n) (tie : Tie) (zeros : Nat) :
    nearestAt tie rank (e + zeros) = if 10 ^ zeros ∣ n then some (n / 10 ^ zeros) else none := by
  have power : 10 ^ (e + zeros) = 10 ^ zeros * 10 ^ e := by rw [Nat.add_comm, Nat.pow_add]
  have digits : fine rank / (10 ^ zeros * 10 ^ e) = n / 10 ^ zeros := by
    rw [h.value, Nat.mul_div_mul_right _ _ h.unit_pos]
  have tens : 0 < 10 ^ zeros := Nat.pow_pos (by decide)
  rw [nearestAt_of_not_up power, digits]
  · have hit : covers rank (n / 10 ^ zeros * (10 ^ zeros * 10 ^ e)) = true ↔ 10 ^ zeros ∣ n := by
      rw [← Nat.mul_assoc, h.covers_iff pos, Nat.dvd_iff_div_mul_eq]
    by_cases whole : 10 ^ zeros ∣ n
    · rw [if_pos whole, if_pos (hit.mpr whole)]
    · rw [if_neg whole, if_neg fun covered => whole (hit.mp covered)]
  · rw [digits, ← Nat.mul_assoc, ← Bool.not_eq_true, h.covers_iff pos, Nat.succ_mul]
    have := Nat.lt_div_mul_add tens (a := n)
    omega

/-- From a place where the unit is one or more the search ends with the digits that are in front of some zeros. -/
theorem shortestFrom_eq (h : Whole (10 ^ e) n rank) (pos : 0 < n) (placePos : 0 < e) (tie : Tie) (extra : Nat) :
    ∃ digits zeros, digits * 10 ^ zeros = n ∧ shortestFrom tie rank (e + extra) = (digits, e + zeros) := by
  induction extra with
  | zero =>
    refine ⟨n, 0, Nat.mul_one n, ?_⟩
    rw [shortestFrom_of_pos (show 0 < e + 0 from placePos), h.nearestAt_eq pos, Nat.pow_zero,
      if_pos (Nat.one_dvd n), Nat.div_one]
  | succ extra ih =>
    rw [shortestFrom_of_pos (show 0 < e + (extra + 1) from Nat.succ_pos _), h.nearestAt_eq pos, Nat.add_succ_sub_one]
    by_cases whole : 10 ^ (extra + 1) ∣ n
    · rw [if_pos whole]
      exact ⟨_, _, Nat.div_mul_cancel whole, rfl⟩
    · rw [if_neg whole]
      exact ih

theorem shortest_eq (fixed : e = 1074) (h : Whole (10 ^ e) n rank) (pos : 0 < n) (tie : Tie) :
    ∃ digits zeros : Nat, digits * 10 ^ zeros = n ∧ shortest tie rank = (digits, (zeros : Int)) := by
  have high : 10 ^ e ≤ fine rank := by
    rw [h.value]
    exact Nat.le_mul_of_pos_left _ pos
  have enough := mul_three_le_log2 high
  obtain ⟨extra, start⟩ := Nat.exists_eq_add_of_le (show e ≤ (fine rank).log2 / 3 + 1 by omega)
  obtain ⟨digits, zeros, cut, found⟩ := h.shortestFrom_eq pos (by omega) tie extra
  rw [← start] at found
  refine ⟨digits, zeros, cut, ?_⟩
  rw [shortest_of_found fixed found, Nat.cast_add, add_sub_cancel_left]

end Whole

/-! ### Natural numbers -/

theorem exists_normal {n e : Nat} (pos : 0 < n) (small : n < 2 ^ 53) (wide : 52 ≤ e) :
    ∃ m doublings, doublings ≤ e ∧ 2 ^ 52 ≤ m ∧ m < 2 ^ 53 ∧ n * 2 ^ e = m * 2 ^ doublings := by
  obtain ⟨low, high⟩ := (Nat.log2_eq_iff pos.ne').mp rfl
  have bits : n.log2 < 53 := (Nat.log2_lt pos.ne').mpr small
  have split : ∀ {a b c}, a + b = c → 2 ^ c = 2 ^ a * 2 ^ b := by
    rintro a b c rfl
    exact Nat.pow_add 2 a b
  refine ⟨n * 2 ^ (52 - n.log2), e - (52 - n.log2), by omega, ?_, ?_, ?_⟩
  · rw [split (show n.log2 + (52 - n.log2) = 52 by omega)]
    exact Nat.mul_le_mul_right _ low
  · rw [split (show n.log2 + 1 + (52 - n.log2) = 53 by omega)]
    exact Nat.mul_lt_mul_of_pos_right high (Nat.two_pow_pos _)
  · rw [Nat.mul_assoc, ← split (show 52 - n.log2 + (e - (52 - n.log2)) = e by omega)]

theorem scaled_ofRatio_one {e : Nat} (fixed : e = 1074) {n : Nat} (small : n < 2 ^ 53) :
    scaled (ofRatio n 1).val = n * 2 ^ e ∧ binade (ofRatio n 1).val ≤ e := by
  rcases Nat.eq_zero_or_pos n with rfl | pos
  · rw [ofRatio_zero, Nat.zero_mul]
    exact ⟨rfl, Nat.zero_le _⟩
  · obtain ⟨m, doublings, near, low, high, exact⟩ := exists_normal pos small (show 52 ≤ e by omega)
    have value : scaled (doublings * 2 ^ 52 + m) = m * 2 ^ doublings := scaled_of_le (.inr low) (Nat.le_of_lt high)
    rw [← value, ← Nat.mul_one (scaled _)] at exact
    rw [val_ofRatio_of_exact fixed Nat.one_pos exact (by omega), binade_normal low high, exact, Nat.mul_one]
    exact ⟨rfl, near⟩

/-- A natural number below 2⁵³ has a rank of its own, and between its neighbours there is no other. -/
theorem whole_ofRatio {e : Nat} (fixed : e = 1074) {n : Nat} (small : n < 2 ^ 53) :
    Whole (10 ^ e) n (ofRatio n 1).val := by
  obtain ⟨value, near⟩ := scaled_ofRatio_one fixed small
  refine ⟨?_, fine_succ_le fixed near, ?_⟩
  · rw [fine_eq fixed, value, Nat.mul_assoc, ← Nat.mul_pow]
  · generalize (ofRatio n 1).val = rank at near
    cases rank with
    | zero => exact Nat.le_add_right _ _
    | succ before => exact fine_succ_le fixed ((binade_le_binade (Nat.le_succ before)).trans near)

end Rank

namespace Number

theorem ofDecimal_zero_exponent (negative : Bool) (n : Nat) : ofDecimal negative n 0 = ofRatio negative n 1 := by
  rcases Nat.eq_zero_or_pos n with rfl | pos
  · rw [ofRatio, Rank.ofRatio_zero]
    rfl
  · rw [ofDecimal, if_neg pos.ne', if_neg (by omega), if_neg (by omega), if_pos (le_refl 0)]
    rw [Int.toNat_zero, Nat.pow_eq, Nat.pow_zero, Nat.mul_one]

theorem compare_congr {x y u v : Int} (less : x < y ↔ u < v) (greater : y < x ↔ v < u) :
    Ord.compare x y = Ord.compare u v := by
  have equal : x = y ↔ u = v := by omega
  show compareOfLessAndEq x y = compareOfLessAndEq u v
  simp only [compareOfLessAndEq, less, equal]

theorem compare_signed (rank rank' : Rank) (negative : Bool) : (signed false rank).compare (signed negative rank') =
    some (Ord.compare (rank.val : Int) (if negative then -(rank'.val : Int) else rank'.val)) := rfl

/-- Natural numbers below 2⁵³ are ordered as integers, also against negative ones. -/
theorem compare_ofNat_ofDecimal {m n : Nat} (small : m < 2 ^ 53) (small' : n < 2 ^ 53) (negative : Bool) :
    (ofNat m).compare (ofDecimal negative n 0) =
      some (Ord.compare (m : Int) (if negative then -(n : Int) else n)) := by
  obtain ⟨e, fixed⟩ : ∃ e, e = 1074 := ⟨_, rfl⟩
  have whole : ∀ {k}, k < 2 ^ 53 → Rank.Whole (10 ^ e) k (Rank.ofRatio k 1).val := Rank.whole_ofRatio fixed
  have less := (whole small).lt_iff (whole small')
  have greater := (whole small').lt_iff (whole small)
  have left := (whole small).rank_pos_iff
  have right := (whole small').rank_pos_iff
  rw [ofDecimal_zero_exponent, ofNat_eq (by omega), ofRatio, ofRatio, compare_signed]
  refine congrArg some ?_
  cases negative with
  | false =>
    exact compare_congr (Int.ofNat_lt.trans (less.trans Int.ofNat_lt.symm))
      (Int.ofNat_lt.trans (greater.trans Int.ofNat_lt.symm))
  | true =>
    rw [if_pos rfl, if_pos rfl]
    exact compare_congr (by omega) (by omega)

theorem display_ofNat {n : Nat} (small : n < 2 ^ 53) : (ofNat n).display = String.ofList (Text.decimalDigits n) := by
  obtain ⟨e, fixed⟩ : ∃ e, e = 1074 := ⟨_, rfl⟩
  have whole := Rank.whole_ofRatio fixed small
  rcases Nat.eq_zero_or_pos n with rfl | pos
  · rw [ofNat_eq (by decide), ofRatio, Rank.ofRatio_zero]
    rfl
  · obtain ⟨digits, zeros, rfl, shortest⟩ := whole.shortest_eq fixed pos .up
    have finite : Rank.ofRatio (digits * 10 ^ zeros) 1 ≠ Rank.infinity := Rank.ofRatio_one_ne_infinity (by omega)
    have some : Rank.ofRatio (digits * 10 ^ zeros) 1 ≠ 0 := fun zero =>
      absurd (Rank.ofRatio_one_eq_zero_iff.mp zero) pos.ne'
    rw [ofNat_eq (by omega), ofRatio, display, if_neg finite, if_neg some, shortest]
    refine congrArg String.ofList ?_
    show positional (Text.decimalDigits digits) zeros = _
    rw [positional, if_pos (Int.natCast_nonneg zeros), Int.toNat_natCast,
      Text.decimalDigits_append_zeros (Nat.pos_of_mul_pos_right pos)]

end Number
end TextRules
