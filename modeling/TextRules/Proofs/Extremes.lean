import Mathlib.Order.OrderDual
import TextRules.Proofs.Frequencies
import TextRules.Proofs.Packing

/-!
The rarest and the most frequent character. The scan keeps an entry as long as no later one beats it, so the entry that
    is picked beats all in front of it and is beaten by none behind it (`exists_picked`). The entries stand in the
    order of first occurrence, so of the characters with the best count the one that is picked occurs first (`Leads`).
    What beats what is told by a key of the counts, the count itself for the rarest and its opposite for the most
    frequent character.
-/

namespace TextRules

section Key
variable {κ : Type} [LinearOrder κ] {key : Nat → κ} {beats : Nat → Nat → Bool}

/-! ### The scan -/

theorem pickExtreme_concat (beats : Nat → Nat → Bool) (entries : List (Char × Nat)) (entry : Char × Nat) :
    pickExtreme beats (entries ++ [entry]) =
      match pickExtreme beats entries with
      | none => some entry
      | some (c, n) => if beats entry.2 n then some entry else some (c, n) := by
  rw [pickExtreme, List.foldl_append]
  rfl

theorem exists_picked (better : ∀ n m, beats n m = true ↔ key n < key m) {entries : List (Char × Nat)}
    (nonempty : entries ≠ []) :
    ∃ before entry after, pickExtreme beats entries = some entry ∧ entries = before ++ entry :: after ∧
      (∀ e ∈ before, key entry.2 < key e.2) ∧ ∀ e ∈ after, key entry.2 ≤ key e.2 := by
  induction entries using List.reverseRecOn with
  | nil => exact absurd rfl nonempty
  | append_singleton entries new ih =>
    by_cases first : entries = []
    · subst first
      exact ⟨[], new, [], rfl, rfl, by simp, by simp⟩
    · obtain ⟨before, best, after, picked, cut, ahead, behind⟩ := ih first
      rw [pickExtreme_concat, picked]
      by_cases beaten : beats new.2 best.2 = true
      · -- The best so far beat all in front of it, so the new entry does as well.
        refine ⟨entries, new, [], if_pos beaten, rfl, fun e member => ?_, by simp⟩
        have lower := (better _ _).mp beaten
        rw [cut] at member
        rcases List.mem_append.mp member with member | member
        · exact lower.trans (ahead e member)
        · rcases List.mem_cons.mp member with rfl | member
          · exact lower
          · exact lower.trans_le (behind e member)
      · refine ⟨before, best, after ++ [new], if_neg beaten, by rw [cut]; simp, ahead, fun e member => ?_⟩
        rcases List.mem_append.mp member with member | member
        · exact behind e member
        · rw [List.mem_singleton.mp member]
          exact not_lt.mp fun lower => beaten ((better _ _).mpr lower)

/-! ### The character that is picked -/

/-- A character of a text with the least key, which occurs before all others with that key. -/
structure Leads (key : Nat → κ) (subject : List Char) (c : Char) : Prop where
  occurs : c ∈ subject
  least : ∀ d ∈ subject, key (subject.count c) ≤ key (subject.count d)
  first : ∀ d, subject.idxOf d < subject.idxOf c → key (subject.count c) < key (subject.count d)

theorem mem_of_idxOf_lt {before after : List Char} {c d : Char} (new : c ∉ before)
    (first : (before ++ c :: after).idxOf d < (before ++ c :: after).idxOf c) : d ∈ before := by
  by_contra late
  rw [List.idxOf_append_of_notMem new, List.idxOf_append_of_notMem late, List.idxOf_cons_self] at first
  omega

theorem exists_leads (key : Nat → κ) (beats : Nat → Nat → Bool) (better : ∀ n m, beats n m = true ↔ key n < key m)
    {subject : List Char} (nonempty : subject ≠ []) : ∃ c, extreme beats subject = [c] ∧ Leads key subject c := by
  have counted : frequencies subject ≠ [] := by
    obtain ⟨c, member⟩ := List.exists_mem_of_ne_nil subject nonempty
    rw [frequencies_eq]
    exact List.ne_nil_of_mem (List.mem_map_of_mem (List.mem_eraseDups.mpr member))
  obtain ⟨before, entry, after, picked, cut, ahead, behind⟩ := exists_picked better counted
  rw [frequencies_eq, List.map_eq_append_iff] at cut
  obtain ⟨front, rest, distinct, rfl, tail⟩ := cut
  obtain ⟨c, back, rfl, rfl, rfl⟩ := List.map_eq_cons_iff.mp tail
  have once : c ∉ front := by
    have nodup := nodup_eraseDups subject
    rw [distinct, List.nodup_middle, List.nodup_cons] at nodup
    exact fun member => nodup.1 (List.mem_append_left back member)
  refine ⟨c, by rw [extreme, picked], ?_, fun d member => ?_, fun d earlier => ?_⟩
  · rw [← List.mem_eraseDups, distinct]
    simp
  · rw [← List.mem_eraseDups, distinct] at member
    rcases List.mem_append.mp member with member | member
    · exact (ahead _ (List.mem_map_of_mem member)).le
    · rcases List.mem_cons.mp member with rfl | member
      · exact le_refl _
      · exact behind _ (List.mem_map_of_mem member)
  · have listed := idxOf_eraseDups_lt earlier
    rw [distinct] at listed
    exact ahead _ (List.mem_map_of_mem (mem_of_idxOf_lt once listed))

end Key

/-- On a text that is not empty `min` gives a character of the text that occurs no more often than any other and, of
    those that do so, first: what occurs before it occurs more often. `max` gives the same with most for least. On the
    empty text both give the empty text, and never does the argument matter. -/
theorem extremes_first (subject : List Char) :
    (∀ c, Function.count.call [c] subject = .number (.ofNat (subject.count c))) ∧
    (subject ≠ [] →
      (∃ c ∈ subject, (∀ argument, Function.min.call argument subject = .text (String.singleton c)) ∧
        (∀ d ∈ subject, subject.count c ≤ subject.count d) ∧
        ∀ d, subject.idxOf d < subject.idxOf c → subject.count c < subject.count d) ∧
      ∃ c ∈ subject, (∀ argument, Function.max.call argument subject = .text (String.singleton c)) ∧
        (∀ d ∈ subject, subject.count d ≤ subject.count c) ∧
        ∀ d, subject.idxOf d < subject.idxOf c → subject.count d < subject.count c) ∧
    ∀ argument, Function.min.call argument [] = .text "" ∧ Function.max.call argument [] = .text "" := by
  refine ⟨fun c => ?_, fun nonempty => ⟨?_, ?_⟩, fun argument => ⟨rfl, rfl⟩⟩
  · rw [Function.call, Occurrences.count_singleton]
  · obtain ⟨c, picked, leads⟩ := exists_leads id (fun n best => n < best) (by simp) nonempty
    exact ⟨c, leads.occurs, fun argument => by rw [Function.call, picked]; rfl, leads.least, leads.first⟩
  · obtain ⟨c, picked, leads⟩ := exists_leads OrderDual.toDual (fun n best => n > best) (by simp) nonempty
    exact ⟨c, leads.occurs, fun argument => by rw [Function.call, picked]; rfl, leads.least, leads.first⟩

/-- A text in which two characters are the rarest and two the most frequent. -/
theorem extremes_first_tied :
    let subject := "bbaacd".toList
    subject ≠ [] ∧
    (∀ argument, Function.min.call argument subject = .text "c") ∧
    (∀ d ∈ subject, subject.count 'c' ≤ subject.count d) ∧
    (∀ d, subject.idxOf d < subject.idxOf 'c' → subject.count 'c' < subject.count d) ∧
    (∀ argument, Function.max.call argument subject = .text "b") ∧
    (∀ d ∈ subject, subject.count d ≤ subject.count 'b') ∧
    ∀ d, subject.idxOf d < subject.idxOf 'b' → subject.count d < subject.count 'b' := by
  intro subject
  have nonempty : subject ≠ [] := by decide
  have rarest : Function.min.call [] subject = .text (String.singleton 'c') := by decide +kernel
  have commonest : Function.max.call [] subject = .text (String.singleton 'b') := by decide +kernel
  obtain ⟨⟨c, -, rare, least, early⟩, d, -, common, most, first⟩ := (extremes_first subject).2.1 nonempty
  have shown : ∀ x y, Value.text (String.singleton x) = .text (String.singleton y) → x = y := by
    intro x y same
    simpa using congrArg String.toList (Value.text.inj same)
  obtain rfl := shown _ _ ((rare []).symm.trans rarest)
  obtain rfl := shown _ _ ((common []).symm.trans commonest)
  exact ⟨nonempty, rare, least, early, common, most, first⟩

end TextRules
