import Mathlib.Data.Finset.Card
import Mathlib.Order.Bounds.Basic
import TextRules.Rule.Function

/-!
How many occurrences of a text fit beside each other into another. Counting from the left takes the first occurrence
    and goes on behind it. Of any set of occurrences that do not overlap at most one begins before the one just taken
    ends, so no such set is larger than the count (`card_le_countFrom`), and the occurrences taken are such a
    set (`exists_packed`).
-/

namespace TextRules

open Text

namespace Occurrences
variable {needle subject cs : List Char} {skip k : Nat} {places : Finset Nat}

/-- The needle stands at a place of the text. -/
def At (needle subject : List Char) (place : Nat) : Prop := needle <+: subject.drop place

/-- A set of places at which the needle stands, no two of them so near that it overlaps with itself. -/
structure Packed (needle subject : List Char) (places : Finset Nat) : Prop where
  found : ∀ i ∈ places, At needle subject i
  apart : ∀ i ∈ places, ∀ j ∈ places, i < j → i + needle.length ≤ j

/-- How many occurrences of the needle a set of occurrences that do not overlap can have. -/
def packedSizes (needle subject : List Char) : Set Nat := {n | ∃ places, Packed needle subject places ∧ places.card = n}

theorem Packed.subset (h : Packed needle subject places) {fewer : Finset Nat} (fewer_subset : fewer ⊆ places) :
    Packed needle subject fewer :=
  ⟨fun i member => h.found i (fewer_subset member),
    fun i member j member' => h.apart i (fewer_subset member) j (fewer_subset member')⟩

theorem packed_empty : Packed needle subject ∅ := ⟨by simp, by simp⟩

/-- A set of occurrences goes with one more that ends before all of them begin. -/
theorem Packed.insert (h : Packed needle subject places) (here : At needle subject k)
    (before : ∀ i ∈ places, k + needle.length ≤ i) : Packed needle subject (insert k places) := by
  refine ⟨fun i member => ?_, fun i member j member' less => ?_⟩
  · rcases Finset.mem_insert.mp member with rfl | member
    · exact here
    · exact h.found i member
  · rcases Finset.mem_insert.mp member with rfl | listed <;> rcases Finset.mem_insert.mp member' with rfl | listed'
    · omega
    · exact before j listed'
    · have := before i listed
      omega
    · exact h.apart i listed j listed' less

theorem drop_succ {c : Char} (h : subject.drop k = c :: cs) : subject.drop (k + 1) = cs := by
  rw [← List.tail_drop, h, List.tail_cons]

/-- No set of occurrences that do not overlap is larger than the count. -/
theorem card_le_countFrom (filled : needle ≠ []) (rest : subject.drop k = cs) (packed : Packed needle subject places)
    (beyond : ∀ i ∈ places, k + skip ≤ i) : places.card ≤ countFrom needle skip cs := by
  fun_induction countFrom needle skip cs generalizing k places with
  | case1 skip =>
    have empty : places = ∅ := by
      refine Finset.eq_empty_of_forall_notMem fun i member => filled ?_
      have length := List.drop_eq_nil_iff.mp rest
      have bound := beyond i member
      have found := packed.found i member
      rw [At, List.drop_eq_nil_of_le (by omega)] at found
      exact List.prefix_nil.mp found
    simp [empty]
  | case2 skip c cs ih =>
    refine ih (drop_succ rest) packed fun i member => ?_
    have := beyond i member
    omega
  | case3 c cs found ih =>
    have positive := List.length_pos_iff.mpr filled
    -- Two occurrences that begin within the one just taken would overlap.
    have single : (places.filter (· < k + needle.length)).card ≤ 1 := by
      refine Finset.card_le_one.mpr fun i member j member' => ?_
      rw [Finset.mem_filter] at member member'
      have := beyond i member.1
      have := beyond j member'.1
      rcases Nat.lt_trichotomy i j with less | same | less
      · have := packed.apart i member.1 j member'.1 less
        omega
      · exact same
      · have := packed.apart j member'.1 i member.1 less
        omega
    have others : (places.filter (¬· < k + needle.length)).card ≤ countFrom needle (needle.length - 1) cs := by
      refine ih (drop_succ rest) (packed.subset (Finset.filter_subset _ _)) fun i member => ?_
      have := (Finset.mem_filter.mp member).2
      omega
    have parted := Finset.card_filter_add_card_filter_not (s := places) (· < k + needle.length)
    omega
  | case4 c cs found ih =>
    refine ih (drop_succ rest) packed fun i member => ?_
    have bound := beyond i member
    rcases Nat.lt_or_eq_of_le bound with less | rfl
    · omega
    · have stands := packed.found _ member
      rw [At, Nat.add_zero, rest, ← List.isPrefixOf_iff_prefix] at stands
      exact absurd stands found

/-- The occurrences that are counted do not overlap. -/
theorem exists_packed (skip : Nat) (filled : needle ≠ []) (rest : subject.drop k = cs) :
    ∃ places, Packed needle subject places ∧ (∀ i ∈ places, k + skip ≤ i) ∧ places.card = countFrom needle skip cs := by
  fun_induction countFrom needle skip cs generalizing k with
  | case1 skip => exact ⟨∅, packed_empty, by simp, rfl⟩
  | case2 skip c cs ih =>
    obtain ⟨places, packed, beyond, card⟩ := ih (drop_succ rest)
    refine ⟨places, packed, fun i member => ?_, card⟩
    have := beyond i member
    omega
  | case3 c cs found ih =>
    obtain ⟨places, packed, beyond, card⟩ := ih (drop_succ rest)
    have positive := List.length_pos_iff.mpr filled
    have before : ∀ i ∈ places, k + needle.length ≤ i := by
      intro i member
      have := beyond i member
      omega
    have new : k ∉ places := by
      intro here
      have := before k here
      omega
    have here : At needle subject k := by
      rw [At, rest]
      exact List.isPrefixOf_iff_prefix.mp found
    refine ⟨insert k places, packed.insert here before, fun i member => ?_, by rw [Finset.card_insert_of_notMem new, card]⟩
    rcases Finset.mem_insert.mp member with rfl | member
    · omega
    · have := before i member
      omega
  | case4 c cs found ih =>
    obtain ⟨places, packed, beyond, card⟩ := ih (drop_succ rest)
    refine ⟨places, packed, fun i member => ?_, card⟩
    have := beyond i member
    omega

theorem countFrom_mul_length_le : countFrom needle skip cs * needle.length ≤ cs.length - skip := by
  fun_induction countFrom needle skip cs with
  | case1 => simp
  | case2 skip c cs ih => simpa using ih
  | case3 c cs found ih =>
    have length := (List.isPrefixOf_iff_prefix.mp found).length_le
    rw [List.length_cons] at length ⊢
    rw [Nat.succ_mul]
    omega
  | case4 c cs found ih =>
    rw [List.length_cons]
    omega

/-! ### The count of a text -/

theorem count_of_ne_nil (filled : needle ≠ []) : count needle subject = countFrom needle 0 subject := if_neg filled

/-- A single character occurs as often as it is in the text. -/
theorem count_singleton (c : Char) (subject : List Char) : count [c] subject = subject.count c := by
  rw [count_of_ne_nil (List.cons_ne_nil c [])]
  induction subject with
  | nil => rfl
  | cons d subject ih =>
    by_cases same : c = d
    · subst same
      simp [countFrom, ih]
    · simp [countFrom, ih, same, List.count_cons_of_ne (Ne.symm same)]

theorem isGreatest_count (subject : List Char) (filled : needle ≠ []) :
    IsGreatest (packedSizes needle subject) (count needle subject) := by
  rw [count_of_ne_nil filled]
  constructor
  · obtain ⟨places, packed, -, card⟩ := exists_packed 0 filled (List.drop_zero (l := subject))
    exact ⟨places, packed, card⟩
  · rintro n ⟨places, packed, rfl⟩
    exact card_le_countFrom filled List.drop_zero packed fun i _ => by omega

theorem count_mul_length_le : count needle subject * needle.length ≤ subject.length := by
  by_cases filled : needle = []
  · simp [filled]
  · rw [count_of_ne_nil filled]
    exact countFrom_mul_length_le

theorem count_le_length : count needle subject ≤ subject.length := by
  by_cases filled : needle = []
  · simp [count, filled]
  · exact (Nat.le_mul_of_pos_right _ (List.length_pos_iff.mpr filled)).trans count_mul_length_le

theorem exists_at_iff : (∃ place, At needle subject place) ↔ needle <:+: subject := by
  constructor
  · rintro ⟨place, h⟩
    exact h.isInfix.trans (List.drop_suffix place subject).isInfix
  · intro h
    obtain ⟨rest, begins, ends⟩ := List.infix_iff_prefix_suffix.mp h
    refine ⟨subject.length - rest.length, ?_⟩
    rwa [At, ← List.suffix_iff_eq_drop.mp ends]

theorem count_eq_zero_iff : count needle subject = 0 ↔ needle = [] ∨ ¬needle <:+: subject := by
  by_cases filled : needle = []
  · simp [count, filled]
  · obtain ⟨⟨places, packed, card⟩, most⟩ := isGreatest_count subject filled
    rw [← exists_at_iff]
    constructor
    · rintro zero
      refine Or.inr ?_
      rintro ⟨place, found⟩
      -- A single occurrence would be more than none.
      have single : Packed needle subject {place} := ⟨by simpa using found, by simp⟩
      have bound := most ⟨{place}, single, Finset.card_singleton place⟩
      omega
    · rintro (h | h)
      · exact absurd h filled
      · rw [← card, Finset.card_eq_zero]
        exact Finset.eq_empty_of_forall_notMem fun i member => h ⟨i, packed.found i member⟩

end Occurrences

/-- The count of a text that is not empty is the largest number of its occurrences that do not overlap; this number is
    what `count` gives and what `avg` divides by the length. So the counted occurrences are together no longer than the
    text, and there are none exactly if the needle is empty or does not occur. -/
theorem count_optimal (needle subject : List Char) :
    (needle ≠ [] → IsGreatest (Occurrences.packedSizes needle subject) (Occurrences.count needle subject) ∧
      ∀ n, IsGreatest (Occurrences.packedSizes needle subject) n →
        Function.count.call needle subject = .number (.ofNat n) ∧
        Function.avg.call needle subject = .number ((Number.ofNat n).div (Number.ofNat subject.length))) ∧
    Occurrences.count needle subject * needle.length ≤ subject.length ∧
    (Occurrences.count needle subject = 0 ↔ needle = [] ∨ ¬needle <:+: subject) := by
  refine ⟨fun filled => ⟨Occurrences.isGreatest_count subject filled, fun n greatest => ?_⟩, Occurrences.count_mul_length_le,
    Occurrences.count_eq_zero_iff⟩
  rw [greatest.unique (Occurrences.isGreatest_count subject filled)]
  exact ⟨rfl, rfl⟩

/-- Four occurrences that overlap, of which two fit beside each other. -/
theorem count_optimal_overlapping :
    "aba".toList ≠ [] ∧ IsGreatest (Occurrences.packedSizes "aba".toList "ababababa".toList) 2 ∧
    Function.count.call "aba".toList "ababababa".toList = .number (.ofNat 2) ∧
    2 * "aba".length ≤ "ababababa".length := by
  have filled : "aba".toList ≠ [] := by decide
  have counted : Occurrences.count "aba".toList "ababababa".toList = 2 := by decide
  obtain ⟨optimal, bounded, -⟩ := count_optimal "aba".toList "ababababa".toList
  obtain ⟨greatest, reported⟩ := optimal filled
  rw [counted] at greatest bounded
  exact ⟨filled, greatest, (reported 2 greatest).1, bounded⟩

end TextRules
