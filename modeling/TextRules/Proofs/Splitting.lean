import TextRules.Proofs.Distinct
import TextRules.Proofs.Packing

/-!
What a count makes of a subject in two parts. Occurrences in each part are occurrences in the whole, and they stay apart,
    so the whole holds at least as many as its parts together (`add_count_le`). Of the occurrences in the whole that
    do not overlap, all lie in one of the parts but those that cross the cut, and there is at most one of these
    (`count_append_le`). The scan of the whole may well pick other occurrences than the scans of its parts: only the
    greatest number that fits is compared, not what is picked.
-/

namespace TextRules
namespace Occurrences
variable {needle s t : List Char} {places places' : Finset Nat} {place : Nat}

/-! ### Places in the parts and in the whole -/

theorem At.end_le (filled : needle ≠ []) (h : At needle s place) : place + needle.length ≤ s.length := by
  have length := h.length_le
  have positive := List.length_pos_iff.mpr filled
  rw [List.length_drop] at length
  omega

theorem At.append (h : At needle s place) (t : List Char) : At needle (s ++ t) place := by
  rw [At, List.drop_append]
  exact h.trans (List.prefix_append _ _)

theorem at_append_iff_left (inside : place + needle.length ≤ s.length) :
    At needle (s ++ t) place ↔ At needle s place := by
  refine ⟨fun h => ?_, fun h => h.append t⟩
  rw [At, List.drop_append] at h
  refine List.prefix_of_prefix_length_le h (List.prefix_append _ _) ?_
  rw [List.length_drop]
  omega

theorem at_append_iff_right : At needle (s ++ t) (place + s.length) ↔ At needle t place := by
  rw [At, At, List.drop_append, List.drop_eq_nil_of_le (by omega), List.nil_append, Nat.add_sub_cancel]

/-! ### Occurrences that do not overlap -/

theorem Packed.append (filled : needle ≠ []) (h : Packed needle s places) (h' : Packed needle t places') :
    Packed needle (s ++ t) (places ∪ places'.image (· + s.length)) := by
  have cut : ∀ i ∈ places, i + needle.length ≤ s.length := fun i member => (h.found i member).end_le filled
  refine ⟨fun i member => ?_, fun i member j member' less => ?_⟩
  · rcases Finset.mem_union.mp member with member | member
    · exact (h.found i member).append t
    · obtain ⟨k, origin, rfl⟩ := Finset.mem_image.mp member
      exact at_append_iff_right.mpr (h'.found k origin)
  · rcases Finset.mem_union.mp member with member | member <;> rcases Finset.mem_union.mp member' with member' | member'
    · exact h.apart i member j member' less
    · obtain ⟨k, -, rfl⟩ := Finset.mem_image.mp member'
      have := cut i member
      omega
    · obtain ⟨k, -, rfl⟩ := Finset.mem_image.mp member
      have := cut j member'
      omega
    · obtain ⟨k, origin, rfl⟩ := Finset.mem_image.mp member
      obtain ⟨m, origin', rfl⟩ := Finset.mem_image.mp member'
      have := h'.apart k origin m origin' (by omega)
      omega

theorem Packed.left (h : Packed needle (s ++ t) places) :
    Packed needle s (places.filter fun i => i + needle.length ≤ s.length) := by
  refine ⟨fun i member => ?_, (h.subset (Finset.filter_subset _ _)).apart⟩
  obtain ⟨member, ends⟩ := Finset.mem_filter.mp member
  exact (at_append_iff_left ends).mp (h.found i member)

theorem Packed.right (h : Packed needle (s ++ t) places) :
    Packed needle t ((places.filter fun i => s.length ≤ i).image (· - s.length)) := by
  have back : ∀ i ∈ (places.filter fun i => s.length ≤ i).image (· - s.length), i + s.length ∈ places := by
    intro i member
    obtain ⟨k, origin, rfl⟩ := Finset.mem_image.mp member
    obtain ⟨origin, bound⟩ := Finset.mem_filter.mp origin
    rwa [Nat.sub_add_cancel bound]
  refine ⟨fun i member => at_append_iff_right.mp (h.found _ (back i member)), fun i member j member' less => ?_⟩
  have := h.apart _ (back i member) _ (back j member') (by omega)
  omega

/-- Two occurrences that both cross the cut would overlap there. -/
theorem Packed.card_crossing_le_one (h : Packed needle s places) (cut : Nat) :
    (places.filter fun i => i < cut ∧ cut < i + needle.length).card ≤ 1 := by
  refine Finset.card_le_one.mpr fun i member j member' => ?_
  obtain ⟨member, begins, ends⟩ := Finset.mem_filter.mp member
  obtain ⟨member', begins', ends'⟩ := Finset.mem_filter.mp member'
  rcases Nat.lt_trichotomy i j with less | same | less
  · have := h.apart i member j member' less
    omega
  · exact same
  · have := h.apart j member' i member less
    omega

/-! ### Counts -/

theorem card_le_count (filled : needle ≠ []) (h : Packed needle s places) : places.card ≤ count needle s :=
  (isGreatest_count s filled).2 ⟨places, h, rfl⟩

theorem exists_card_eq_count (s : List Char) (filled : needle ≠ []) :
    ∃ places, Packed needle s places ∧ places.card = count needle s :=
  (isGreatest_count s filled).1

theorem count_nil (s : List Char) : count [] s = 0 := if_pos rfl

theorem add_count_le (needle s t : List Char) : count needle s + count needle t ≤ count needle (s ++ t) := by
  by_cases filled : needle = []
  · simp [filled, count_nil]
  · obtain ⟨places, h, card⟩ := exists_card_eq_count s filled
    obtain ⟨places', h', card'⟩ := exists_card_eq_count t filled
    have apart : Disjoint places (places'.image (· + s.length)) := by
      refine Finset.disjoint_left.mpr fun i member member' => ?_
      obtain ⟨k, -, rfl⟩ := Finset.mem_image.mp member'
      have := (h.found _ member).end_le filled
      have := List.length_pos_iff.mpr filled
      omega
    have shifted : (places'.image (· + s.length)).card = places'.card :=
      Finset.card_image_of_injective _ fun _ _ => Nat.add_right_cancel
    calc count needle s + count needle t
        = (places ∪ places'.image (· + s.length)).card := by
          rw [Finset.card_union_of_disjoint apart, shifted, card, card']
      _ ≤ count needle (s ++ t) := card_le_count filled (h.append filled h')

theorem Packed.card_right_le (filled : needle ≠ []) (h : Packed needle (s ++ t) places) :
    (places.filter fun i => s.length ≤ i).card ≤ count needle t := by
  have distinct : Set.InjOn (· - s.length) (places.filter fun i => s.length ≤ i : Set Nat) := by
    intro i member j member' same
    have member := (Finset.mem_filter.mp member).2
    have member' := (Finset.mem_filter.mp member').2
    simp only at same
    omega
  rw [← Finset.card_image_of_injOn distinct]
  exact card_le_count filled h.right

theorem count_append_le (needle s t : List Char) : count needle (s ++ t) ≤ count needle s + count needle t + 1 := by
  by_cases filled : needle = []
  · simp [filled, count_nil]
  · obtain ⟨places, h, card⟩ := exists_card_eq_count (s ++ t) filled
    have left := card_le_count filled h.left
    have right := h.card_right_le filled
    have crossing := h.card_crossing_le_one s.length
    -- An occurrence that neither ends within the first part nor begins in the second crosses the cut.
    have covered : places ⊆ (places.filter fun i => i + needle.length ≤ s.length) ∪
        ((places.filter fun i => s.length ≤ i) ∪
          places.filter fun i => i < s.length ∧ s.length < i + needle.length) := by
      intro i member
      simp only [Finset.mem_union, Finset.mem_filter, member, true_and]
      omega
    have total := (Finset.card_le_card covered).trans (Finset.card_union_le _ _)
    have rest := Finset.card_union_le (places.filter fun i => s.length ≤ i)
      (places.filter fun i => i < s.length ∧ s.length < i + needle.length)
    omega

theorem count_append_of_length_le_one (short : needle.length ≤ 1) :
    count needle (s ++ t) = count needle s + count needle t := by
  match needle, short with
  | [], _ => simp [count_nil]
  | [c], _ => rw [count_singleton, count_singleton, count_singleton, List.count_append]

end Occurrences

/-- Two subjects one behind the other hold at least as many occurrences as both together, and at most one more; exactly
    as many if the needle is empty or a single character. So a single character is counted alike in every order of the
    characters, and the counts of the distinct characters add up to the length, which is what `sum` gives. -/
theorem count_append_bounds (needle s t : List Char) :
    Occurrences.count needle s + Occurrences.count needle t ≤ Occurrences.count needle (s ++ t) ∧
    Occurrences.count needle (s ++ t) ≤ Occurrences.count needle s + Occurrences.count needle t + 1 ∧
    (needle.length ≤ 1 →
      Occurrences.count needle s + Occurrences.count needle t = Occurrences.count needle (s ++ t)) ∧
    (∀ c, s.Perm t → Occurrences.count [c] s = Occurrences.count [c] t) ∧
    (s.eraseDups.map fun c => Occurrences.count [c] s).sum = s.length ∧
    ∀ argument, Function.sum.call argument s =
      .number (.ofNat (s.eraseDups.map fun c => Occurrences.count [c] s).sum) := by
  have total : (s.eraseDups.map fun c => Occurrences.count [c] s).sum = s.length := by
    simp only [Occurrences.count_singleton]
    exact sum_count_eraseDups s
  refine ⟨Occurrences.add_count_le needle s t, Occurrences.count_append_le needle s t,
    fun short => (Occurrences.count_append_of_length_le_one short).symm, fun c reordered => ?_, total, fun argument => ?_⟩
  · rw [Occurrences.count_singleton, Occurrences.count_singleton, reordered.count_eq]
  · rw [total]
    rfl

/-- A needle that overlaps with itself and is found anew across the cut, and a character in another order of the text. -/
theorem count_append_bounds_realigned :
    (Occurrences.count "aa".toList "baaa".toList = 1 ∧ Occurrences.count "aa".toList "aaab".toList = 1 ∧
      Occurrences.count "aa".toList ("baaa".toList ++ "aaab".toList) ≤ 1 + 1 + 1) ∧
    ("a".toList.length ≤ 1 ∧ Occurrences.count "a".toList "baaa".toList + Occurrences.count "a".toList "aaab".toList =
      Occurrences.count "a".toList ("baaa".toList ++ "aaab".toList)) ∧
    "baaa".toList.Perm "aaab".toList ∧
    Occurrences.count ['a'] "baaa".toList = Occurrences.count ['a'] "aaab".toList := by
  have first : Occurrences.count "aa".toList "baaa".toList = 1 := by decide
  have second : Occurrences.count "aa".toList "aaab".toList = 1 := by decide
  have reordered : "baaa".toList.Perm "aaab".toList := by decide
  obtain ⟨-, above, -⟩ := count_append_bounds "aa".toList "baaa".toList "aaab".toList
  obtain ⟨-, -, single, perm, -⟩ := count_append_bounds "a".toList "baaa".toList "aaab".toList
  rw [first, second] at above
  exact ⟨⟨first, second, above⟩, ⟨by decide, single (by decide)⟩, reordered, perm 'a' reordered⟩

end TextRules
