import TextRules.Proofs.Distinct
import TextRules.Rule.Function

/-!
What the table of frequencies holds. After any number of characters its entries are the distinct characters so far, in
    the order in which they first occurred, each with its count, and the map gives for each of them its place among
    the entries and for no other character a place (`FrequencyTable.Counts`). Both branches of a step keep this. So the
    map and the characters of the table are inverse to each other (`Counts.slots_iff`), and a place in the map is
    never beyond the table.
-/

namespace TextRules

/-- Changing the image at the place of one element changes the images of no others. -/
theorem modify_idxOf {α β : Type} [BEq α] [LawfulBEq α] {xs : List α} {x : α} {f g : α → β} {change : β → β}
    (once : xs.Nodup) (here : change (f x) = g x) (elsewhere : ∀ y ∈ xs, y ≠ x → f y = g y) :
    (xs.map f).modify (xs.idxOf x) change = xs.map g := by
  refine List.ext_getElem (by simp) fun i left right => ?_
  have inside : i < xs.length := by simpa using right
  simp only [List.getElem_modify, List.getElem_map]
  by_cases same : xs.idxOf x = i
  · subst same
    rw [if_pos rfl, List.getElem_idxOf inside, here]
  · rw [if_neg same]
    refine elsewhere _ (List.getElem_mem inside) fun found => same ?_
    rw [← found, once.idxOf_getElem i inside]

namespace FrequencyTable
variable {table : FrequencyTable} {seen : List Char}

/-- The table has counted the characters of a text: its entries are the distinct characters with their counts, and the
    map knows where each of them stands. -/
structure Counts (table : FrequencyTable) (seen : List Char) : Prop where
  entries : table.entries.toList = seen.eraseDups.map fun c => (c, seen.count c)
  slots : ∀ c, table.slots[c]? = if c ∈ seen then some (seen.eraseDups.idxOf c) else none

theorem counts_empty : Counts empty [] := ⟨rfl, fun c => by simp [empty]⟩

theorem Counts.add (counts : Counts table seen) (c : Char) : Counts (table.add c) (seen ++ [c]) := by
  have place := counts.slots c
  by_cases old : c ∈ seen
  · rw [if_pos old] at place
    have distinct : (seen ++ [c]).eraseDups = seen.eraseDups := by rw [eraseDups_concat, if_pos old]
    refine ⟨?_, fun d => ?_⟩
    · rw [distinct, FrequencyTable.add, place, Array.toList_modify, counts.entries]
      refine modify_idxOf (nodup_eraseDups seen) ?_ ?_
      · simp
      · intro d _ other
        simp [List.count_cons_of_ne other.symm]
    · rw [distinct, FrequencyTable.add, place]
      have same : d ∈ seen ++ [c] ↔ d ∈ seen := by grind
      simp only [same, counts.slots d]
  · rw [if_neg old] at place
    -- Its place is the number of entries so far, which is where the new entry is put.
    have distinct : (seen ++ [c]).eraseDups = seen.eraseDups ++ [c] := by rw [eraseDups_concat, if_neg old]
    refine ⟨?_, fun d => ?_⟩
    · rw [distinct, FrequencyTable.add, place, Array.toList_push, counts.entries, List.map_append]
      congr 1
      · refine List.map_congr_left fun d listed => ?_
        have other : d ≠ c := by
          rintro rfl
          exact old (List.mem_eraseDups.mp listed)
        simp [List.count_cons_of_ne other.symm]
      · simp [List.count_eq_zero_of_not_mem old]
    · rw [distinct, FrequencyTable.add, place]
      have size : table.entries.size = seen.eraseDups.length := by
        rw [← Array.length_toList, counts.entries, List.length_map]
      simp only [Std.TreeMap.getElem?_insert, counts.slots d, size, Std.compare_eq_iff_eq]
      by_cases same : c = d
      · subst same
        simp [List.idxOf_append_of_notMem, old]
      · by_cases old' : d ∈ seen
        · simp [same, old', List.idxOf_append_of_mem (List.mem_eraseDups.mpr old')]
        · simp [same, Ne.symm same, old']

theorem Counts.chars (counts : Counts table seen) : table.entries.toList.map Prod.fst = seen.eraseDups := by
  rw [counts.entries, List.map_map]
  exact List.map_id _

/-- The map and the characters of the table are inverse to each other. -/
theorem Counts.slots_iff (counts : Counts table seen) {c : Char} {place : Nat} :
    table.slots[c]? = some place ↔ table.entries[place]?.map Prod.fst = some c := by
  have char : table.entries[place]?.map Prod.fst = seen.eraseDups[place]? := by
    rw [← counts.chars, List.getElem?_map, Array.getElem?_toList]
  rw [char, counts.slots c]
  constructor
  · intro found
    split at found
    case isTrue old =>
      obtain rfl := Option.some.inj found
      exact List.getElem?_idxOf (List.mem_eraseDups.mpr old)
    case isFalse => cases found
  · intro listed
    obtain ⟨inside, rfl⟩ := List.getElem?_eq_some_iff.mp listed
    rw [if_pos (List.mem_eraseDups.mp (List.getElem_mem inside)), (nodup_eraseDups seen).idxOf_getElem place inside]

theorem Counts.isSome_slots_iff (counts : Counts table seen) {c : Char} : table.slots[c]?.isSome ↔ c ∈ seen := by
  rw [counts.slots c]
  split <;> simp_all

theorem Counts.lt_size (counts : Counts table seen) {c : Char} {place : Nat} (held : table.slots[c]? = some place) :
    place < table.entries.size := by
  obtain ⟨entry, here, -⟩ := Option.map_eq_some_iff.mp (counts.slots_iff.mp held)
  exact (Array.getElem?_eq_some_iff.mp here).1

theorem counts_ofText (subject : List Char) : Counts (ofText subject) subject := by
  induction subject using List.reverseRecOn with
  | nil => exact counts_empty
  | append_singleton seen c ih =>
    rw [ofText, List.foldl_append]
    exact ih.add c

end FrequencyTable

theorem frequencies_eq (subject : List Char) :
    frequencies subject = subject.eraseDups.map fun c => (c, subject.count c) :=
  (FrequencyTable.counts_ofText subject).entries

/-- The table of frequencies lists each character of a text once, in the order of first occurrence, with its number of
    occurrences, so no entry is zero and they add up to the length. After any number of characters the map and the
    table so far are inverse to each other: a character has a place exactly if it has occurred, and at that place the
    table has its entry. So what is counted again always stands within the table. -/
theorem frequencies_exact (subject : List Char) :
    let chars := (frequencies subject).map Prod.fst
    chars.Nodup ∧ (∀ c, c ∈ chars ↔ c ∈ subject) ∧ chars.Pairwise (fun c d => subject.idxOf c < subject.idxOf d) ∧
    (∀ entry ∈ frequencies subject, entry.2 = subject.count entry.1 ∧ 1 ≤ entry.2) ∧
    ((frequencies subject).map Prod.snd).sum = subject.length ∧
    ∀ k, let table := FrequencyTable.ofText (subject.take k)
      (∀ c : Char, table.slots[c]?.isSome ↔ c ∈ subject.take k) ∧
      (∀ (c : Char) (place : Nat), table.slots[c]? = some place ↔ table.entries[place]?.map Prod.fst = some c) ∧
      ∀ (c : Char) (place : Nat), table.slots[c]? = some place → place < table.entries.size := by
  intro chars
  have distinct : chars = subject.eraseDups := (FrequencyTable.counts_ofText subject).chars
  refine ⟨?_, fun c => ?_, ?_, fun entry listed => ?_, ?_, fun k => ?_⟩
  · rw [distinct]
    exact nodup_eraseDups subject
  · rw [distinct, List.mem_eraseDups]
  · rw [distinct]
    exact pairwise_idxOf_eraseDups subject
  · rw [frequencies_eq] at listed
    obtain ⟨c, occurs, rfl⟩ := List.mem_map.mp listed
    exact ⟨rfl, List.count_pos_iff.mpr (List.mem_eraseDups.mp occurs)⟩
  · rw [frequencies_eq, List.map_map]
    exact sum_count_eraseDups subject
  · intro table
    have counts : table.Counts (subject.take k) := FrequencyTable.counts_ofText _
    exact ⟨fun c => counts.isSome_slots_iff, fun c place => counts.slots_iff, fun c place => counts.lt_size⟩

/-- A text in which two of three characters are repeated, and its table before the last two characters. -/
theorem frequencies_exact_repeated :
    let subject := "banana".toList
    let table := FrequencyTable.ofText (subject.take 4)
    frequencies subject = [('b', 1), ('a', 3), ('n', 2)] ∧ ('n', 2) ∈ frequencies subject ∧
    2 = subject.count 'n' ∧ ((frequencies subject).map Prod.snd).sum = 6 ∧
    table.slots['a']? = some 1 ∧ table.entries[1]?.map Prod.fst = some 'a' ∧ 1 < table.entries.size := by
  intro subject table
  have listed : frequencies subject = [('b', 1), ('a', 3), ('n', 2)] := by decide +kernel
  have held : table.slots['a']? = some 1 := by decide +kernel
  have member : ('n', 2) ∈ frequencies subject := by rw [listed]; decide
  obtain ⟨-, -, -, counted, total, places⟩ := frequencies_exact subject
  obtain ⟨-, inverse, inside⟩ := places 4
  exact ⟨listed, member, (counted _ member).1, total, held, (inverse _ _).mp held, inside _ _ held⟩

end TextRules
