import Mathlib.Algebra.Order.Ring.Nat
import Mathlib.Data.List.Induction
import TextRules.Text.Basic

/-!
The canonical decimal form of a natural number. Among the runs of digits that spell a number exactly one has no zero in
    front that could be left out (`canonicalDecimal_iff`), and it is the one that is written. To write zeros behind the
    digits of a number other than zero is to multiply it by a power of ten.
-/

namespace TextRules
namespace Text

/-! ### Digits and what they spell -/

theorem isDigit_iff {c : Char} : isDigit c = true ↔ 48 ≤ c.toNat ∧ c.toNat ≤ 57 := by
  rw [isDigit, Bool.and_eq_true, decide_eq_true_iff, decide_eq_true_iff]
  rfl

theorem isDigit_eq (c : Char) : isDigit c = c.isDigit := by
  rw [Bool.eq_iff_iff, isDigit_iff, Char.isDigit, Bool.and_eq_true, decide_eq_true_iff, decide_eq_true_iff]
  rfl

theorem digitValue_lt {c : Char} (h : isDigit c = true) : digitValue c < 10 := by
  have := isDigit_iff.mp h
  show c.toNat - 48 < 10
  omega

theorem digitChar_digitValue {c : Char} (h : isDigit c = true) : Nat.digitChar (digitValue c) = c := by
  have bounds := isDigit_iff.mp h
  rw [← Char.toNat_inj, Nat.toNat_digitChar_of_lt_ten (digitValue_lt h)]
  show 48 + (c.toNat - 48) = c.toNat
  omega

theorem decimalValue_concat (cs : List Char) (c : Char) :
    decimalValue (cs ++ [c]) = 10 * decimalValue cs + digitValue c := by
  rw [decimalValue, List.foldl_append]
  rfl

theorem decimalValue_decimalDigits (n : Nat) : decimalValue (decimalDigits n) = n := Nat.ofDigitChars_ten_toDigits

theorem decimalDigits_ne_nil (n : Nat) : decimalDigits n ≠ [] := Nat.toDigits_ne_nil

theorem isDigit_of_mem_decimalDigits {n : Nat} {c : Char} (h : c ∈ decimalDigits n) : isDigit c = true := by
  rw [isDigit_eq]
  exact Nat.isDigit_of_mem_toDigits (by decide) (by decide) h

theorem decimalDigits_append {n d : Nat} (pos : 0 < n) (small : d < 10) :
    decimalDigits n ++ [Nat.digitChar d] = decimalDigits (10 * n + d) := by
  rw [← Nat.toDigits_of_lt_base small]
  exact Nat.toDigits_append_toDigits (by decide) pos small

theorem decimalDigits_append_zeros {n : Nat} (pos : 0 < n) (zeros : Nat) :
    decimalDigits n ++ List.replicate zeros '0' = decimalDigits (n * 10 ^ zeros) := by
  induction zeros with
  | zero => rw [Nat.pow_zero, Nat.mul_one, List.replicate_zero, List.append_nil]
  | succ zeros ih =>
    have more : 0 < n * 10 ^ zeros := Nat.mul_pos pos (Nat.pow_pos (by decide))
    have last := decimalDigits_append more (show 0 < 10 by decide)
    rw [List.replicate_succ', ← List.append_assoc, ih]
    refine last.trans (congrArg decimalDigits ?_)
    rw [Nat.add_zero, Nat.pow_succ, Nat.mul_comm, Nat.mul_assoc]

/-! ### The canonical form -/

/-- A run of digits that spells a number without a sign and without zeros in front. -/
structure CanonicalDecimal (n : Nat) (cs : List Char) : Prop where
  nonempty : cs ≠ []
  digits : ∀ c ∈ cs, isDigit c = true
  unpadded : cs.head? = some '0' → cs = ['0']
  spells : decimalValue cs = n

theorem canonicalDecimal_decimalDigits (n : Nat) : CanonicalDecimal n (decimalDigits n) := by
  refine ⟨decimalDigits_ne_nil n, fun c member => isDigit_of_mem_decimalDigits member, ?_, decimalValue_decimalDigits n⟩
  induction n using Nat.strongRecOn with
  | ind n ih =>
    intro zero
    have cut : decimalDigits n = if n < 10 then [n.digitChar] else decimalDigits (n / 10) ++ [(n % 10).digitChar] :=
      Nat.toDigits_eq_if (by decide)
    by_cases small : n < 10
    · rw [if_pos small] at cut
      rw [cut] at zero ⊢
      rw [List.head?_cons] at zero
      rw [Option.some.inj zero]
    · -- The digits in front spell a tenth of the number, which is no zero.
      rw [if_neg small] at cut
      rw [cut, List.head?_append, Option.or_of_isSome (List.isSome_head?.mpr (decimalDigits_ne_nil _))] at zero
      have front := ih (n / 10) (by omega) zero
      have tenth := decimalValue_decimalDigits (n / 10)
      rw [front] at tenth
      have : n / 10 = 0 := tenth.symm
      omega

theorem CanonicalDecimal.eq {n : Nat} {cs : List Char} (h : CanonicalDecimal n cs) : cs = decimalDigits n := by
  obtain ⟨nonempty, digits, unpadded, rfl⟩ := h
  induction cs using List.reverseRecOn with
  | nil => exact absurd rfl nonempty
  | append_singleton front c ih =>
    have last : isDigit c = true := digits c (by simp)
    rw [decimalValue_concat]
    by_cases alone : front = []
    · subst alone
      show [c] = Nat.toDigits 10 (0 + digitValue c)
      rw [Nat.zero_add, Nat.toDigits_of_lt_base (digitValue_lt last), digitChar_digitValue last]
    · have begins : front.head? ≠ some '0' := by
        intro zero
        have whole := unpadded (by rw [List.head?_append, zero, Option.some_or])
        cases front with
        | nil => exact alone rfl
        | cons d ds => simp at whole
      have spelled : front = decimalDigits (decimalValue front) :=
        ih alone (fun d member => digits d (by simp [member])) fun zero => absurd zero begins
      have pos : 0 < decimalValue front := by
        refine Nat.pos_of_ne_zero fun zero => begins ?_
        rw [spelled, zero]
        rfl
      rw [← decimalDigits_append pos (digitValue_lt last), digitChar_digitValue last, ← spelled]

theorem canonicalDecimal_iff {n : Nat} {cs : List Char} : CanonicalDecimal n cs ↔ cs = decimalDigits n := by
  refine ⟨CanonicalDecimal.eq, ?_⟩
  rintro rfl
  exact canonicalDecimal_decimalDigits n

instance (n : Nat) (cs : List Char) : Decidable (CanonicalDecimal n cs) := decidable_of_iff _ canonicalDecimal_iff.symm

/-- Of the runs of digits that spell the same number only one is canonical. -/
example : CanonicalDecimal 7 ['7'] ∧ ¬CanonicalDecimal 7 ['0', '7'] ∧ CanonicalDecimal 0 ['0'] := by decide

end Text
end TextRules
