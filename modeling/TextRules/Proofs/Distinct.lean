import Mathlib.Algebra.BigOperators.Group.List.Lemmas
import Mathlib.Algebra.Ring.Nat
import Mathlib.Data.List.Dedup
import Mathlib.Data.List.Induction
import Mathlib.Data.List.Nodup

/-!
The distinct elements of a list, in the order in which they first occur. Each is listed once (`nodup_eraseDups`) and the
    ones that occur first are listed first (`pairwise_idxOf_eraseDups`), a list without repetitions is left as it is,
    and a list behind another one adds what that one does not hold (`eraseDups_append_filter`). Each counted, they
    make up the whole list (`sum_count_eraseDups`).
-/

namespace TextRules

variable {α : Type} [BEq α] [LawfulBEq α] {xs : List α} {x y : α}

theorem eraseDups_concat (xs : List α) (x : α) :
    (xs ++ [x]).eraseDups = if x ∈ xs then xs.eraseDups else xs.eraseDups ++ [x] := by
  rw [List.eraseDups_append]
  split
  case isTrue old => simp [List.removeAll, old]
  case isFalse new => simp [List.removeAll, new, List.eraseDups_cons]

theorem pairwise_idxOf_eraseDups (xs : List α) : xs.eraseDups.Pairwise fun x y => xs.idxOf x < xs.idxOf y := by
  induction xs using List.reverseRecOn with
  | nil => exact List.Pairwise.nil
  | append_singleton xs x ih =>
    have kept : ∀ y ∈ xs.eraseDups, (xs ++ [x]).idxOf y = xs.idxOf y := fun y listed =>
      List.idxOf_append_of_mem (List.mem_eraseDups.mp listed)
    have sorted : xs.eraseDups.Pairwise fun y z => (xs ++ [x]).idxOf y < (xs ++ [x]).idxOf z := by
      refine ih.imp_of_mem fun listed listed' first => ?_
      rwa [kept _ listed, kept _ listed']
    rw [eraseDups_concat]
    split
    case isTrue old => exact sorted
    case isFalse new =>
      rw [List.pairwise_append]
      refine ⟨sorted, List.pairwise_singleton _ x, fun y listed z last => ?_⟩
      rw [List.mem_singleton.mp last, kept y listed, List.idxOf_append_of_notMem new]
      exact Nat.lt_add_right _ (List.idxOf_lt_length_of_mem (List.mem_eraseDups.mp listed))

theorem nodup_eraseDups (xs : List α) : xs.eraseDups.Nodup := by
  refine (pairwise_idxOf_eraseDups xs).imp ?_
  rintro x y first rfl
  exact Nat.lt_irrefl _ first

/-- Of two elements the one that occurs first is listed first. -/
theorem idxOf_eraseDups_lt (first : xs.idxOf y < xs.idxOf x) : xs.eraseDups.idxOf y < xs.eraseDups.idxOf x := by
  induction xs using List.reverseRecOn with
  | nil => exact first
  | append_singleton xs z ih =>
    rw [eraseDups_concat]
    grind [List.mem_eraseDups, List.idxOf_lt_length_iff]

theorem eraseDups_of_nodup (once : xs.Nodup) : xs.eraseDups = xs := by
  induction xs using List.reverseRecOn with
  | nil => rfl
  | append_singleton xs x ih =>
    rw [List.nodup_append] at once
    obtain ⟨front, -, apart⟩ := once
    have new : x ∉ xs := fun old => apart x old x (List.mem_singleton_self x) rfl
    rw [eraseDups_concat, if_neg new, ih front]

theorem eraseDups_append_filter (xs ys : List α) :
    (xs ++ ys).eraseDups = xs.eraseDups ++ ys.eraseDups.filter (· ∉ xs) := by
  induction ys using List.reverseRecOn with
  | nil => simp
  | append_singleton ys y ih =>
    rw [← List.append_assoc, eraseDups_concat, ih, eraseDups_concat ys]
    by_cases here : y ∈ ys
    · rw [if_pos (List.mem_append_right xs here), if_pos here]
    · rw [if_neg here, List.filter_append]
      by_cases there : y ∈ xs
      · rw [if_pos (List.mem_append_left ys there)]
        simp [there]
      · have new : y ∉ xs ++ ys := by
          rw [List.mem_append, not_or]
          exact ⟨there, here⟩
        rw [if_neg new]
        simp [there]

/-- The distinct elements occur together as often as there are elements. -/
theorem sum_count_eraseDups {β : Type} [DecidableEq β] (xs : List β) :
    (xs.eraseDups.map fun x => xs.count x).sum = xs.length := by
  have same : xs.eraseDups.Perm xs.dedup := by
    refine (List.perm_ext_iff_of_nodup (nodup_eraseDups xs) xs.nodup_dedup).mpr fun x => ?_
    rw [List.mem_eraseDups, List.mem_dedup]
  rw [(same.map _).sum_eq]
  exact List.sum_map_count_dedup_eq_length xs

end TextRules
