import Mathlib.Data.List.Lattice
import TextRules.Proofs.Operations

/-!
Operations on different rules. Whether an operation succeeds depends on no rules but those that it names, and an
    operation changes for no others whether they are listed, so of two operations that name no rule in common each
    has the same outcome before the other and after it. Their effects commute (`RuleStore.effect_comm`), with one
    exception: of two new rules, the one that was created later is last.
-/

namespace TextRules

open Text

/-- The rules that an operation names, trimmed. -/
@[simp] def StoreOperation.named : StoreOperation → List String
  | create rule | delete rule => [trim rule]
  | update rule replacement => [trim rule, trim replacement]

namespace RuleStore
variable {store store' : RuleStore} {op first second : StoreOperation} {r : String}

/-! ### Outcomes -/

theorem mem_effect_of_notMem (unnamed : r ∉ op.named) : r ∈ (store.effect op).rules ↔ r ∈ store.rules := by
  cases op with
  | create rule =>
    have other : r ≠ trim rule := by simpa using unnamed
    simp [effect, other]
  | update rule replacement =>
    obtain ⟨other, other'⟩ : r ≠ trim rule ∧ r ≠ trim replacement := by simpa using unnamed
    exact mem_replace_of_ne other other'
  | delete rule =>
    have other : r ≠ trim rule := by simpa using unnamed
    exact List.mem_erase_of_ne other

theorem mem_apply_of_notMem (unnamed : r ∉ op.named) : r ∈ (store.apply op).2.rules ↔ r ∈ store.rules := by
  rcases apply_cases store op with ⟨removed, -, h⟩ | ⟨e, -, h⟩ <;> rw [h]
  exact mem_effect_of_notMem unnamed

/-- What stands in the way of an operation depends on the rules that it names. -/
theorem objections_congr (same : ∀ r ∈ op.named, (r ∈ store.rules ↔ r ∈ store'.rules)) :
    store.objections op = store'.objections op := by
  cases op with
  | create rule =>
    have listed := same (trim rule) (by simp)
    simp only [objections, listed]
  | update rule replacement =>
    have listed := same (trim rule) (by simp)
    have taken := same (trim replacement) (by simp)
    simp only [objections, listed, taken]
  | delete rule =>
    have listed := same (trim rule) (by simp)
    simp only [objections, listed]

theorem objections_apply (apart : first.named.Disjoint second.named) :
    (store.apply first).2.objections second = store.objections second :=
  objections_congr fun _ named => mem_apply_of_notMem fun named' => apart named' named

/-- An operation has the same outcome after one that names other rules. -/
theorem outcome_apply (apart : first.named.Disjoint second.named) :
    ((store.apply first).2.apply second).1 = (store.apply second).1 := by
  rw [apply_eq, objections_apply apart, apply_eq store second]
  cases (store.objections second).head? <;> rfl

/-! ### Effects -/

/-- A rule at the end that an operation does not name stays at the end, unless another one is put there. -/
theorem effect_concat (other : ∀ rule, op ≠ .create rule) (unnamed : r ∉ op.named) :
    (⟨store.rules ++ [r]⟩ : RuleStore).effect op = ⟨(store.effect op).rules ++ [r]⟩ := by
  cases op with
  | create rule => exact absurd rfl (other rule)
  | update rule replacement =>
    have kept : trim rule ∉ [r] := by
      rw [List.mem_singleton]
      rintro rfl
      exact unnamed List.mem_cons_self
    simp only [effect, List.replace_append]
    split
    · rfl
    · rw [List.replace_of_not_mem kept, List.replace_of_not_mem ‹_›]
  | delete rule =>
    have kept : trim rule ∉ [r] := by simpa [eq_comm] using unnamed
    simp only [effect]
    -- The rule that goes need not be listed: then both sides stay as they are.
    by_cases listed : trim rule ∈ store.rules
    · rw [List.erase_append_left _ listed]
    · rw [List.erase_append_right _ listed, List.erase_of_not_mem kept, List.erase_of_not_mem listed]

theorem effect_comm (store : RuleStore) (apart : first.named.Disjoint second.named) :
    (store.effect first).effect second = (store.effect second).effect first ∨
      ∃ rule rule', first = .create rule ∧ second = .create rule' := by
  have ne := List.disjoint_iff_ne.mp apart
  cases first with
  | create rule =>
    have unnamed : trim rule ∉ second.named := apart List.mem_cons_self
    cases second with
    | create rule' => exact .inr ⟨rule, rule', rfl, rfl⟩
    | update rule' replacement' => exact .inl (effect_concat (by simp) unnamed)
    | delete rule' => exact .inl (effect_concat (by simp) unnamed)
  | update rule replacement =>
    left
    cases second with
    | create rule' => exact (effect_concat (by simp) (apart.symm List.mem_cons_self)).symm
    | update rule' replacement' =>
      have other : trim rule ≠ trim rule' := ne _ (by simp) _ (by simp)
      have kept : trim rule ≠ trim replacement' := ne _ (by simp) _ (by simp)
      have kept' : trim replacement ≠ trim rule' := ne _ (by simp) _ (by simp)
      exact congrArg mk (replace_comm other kept kept' store.rules)
    | delete rule' =>
      have other : trim rule ≠ trim rule' := ne _ (by simp) _ (by simp)
      have kept : trim replacement ≠ trim rule' := ne _ (by simp) _ (by simp)
      exact congrArg mk (erase_replace_comm other kept store.rules)
  | delete rule =>
    left
    cases second with
    | create rule' => exact (effect_concat (by simp) (apart.symm List.mem_cons_self)).symm
    | update rule' replacement' =>
      have other : trim rule' ≠ trim rule := (ne _ (by simp) _ (by simp)).symm
      have kept : trim replacement' ≠ trim rule := (ne _ (by simp) _ (by simp)).symm
      exact congrArg mk (erase_replace_comm other kept store.rules).symm
    | delete rule' => exact congrArg mk (List.erase_comm (trim rule) (trim rule'))

/-! ### Two orders -/

theorem store_apply_of_accepts (accepted : store.Accepts op) : (store.apply op).2 = store.effect op := by
  rw [apply_eq, accepts_iff.mp accepted]

theorem store_apply_of_not_accepts (refused : ¬store.Accepts op) : (store.apply op).2 = store := by
  rcases apply_cases store op with ⟨removed, accepted, -⟩ | ⟨e, -, h⟩
  · exact absurd accepted refused
  · rw [h]

theorem accepts_apply (apart : first.named.Disjoint second.named) :
    (store.apply first).2.Accepts second ↔ store.Accepts second := by
  rw [accepts_iff, objections_apply apart, accepts_iff]

/-- Unless both operations are carried out, the order makes no difference: the one that is refused does nothing. -/
theorem store_apply_comm (store : RuleStore) (apart : first.named.Disjoint second.named) :
    ((store.apply first).2.apply second).2 = ((store.apply second).2.apply first).2 ∨
      ((store.apply first).2.apply second).2 = (store.effect first).effect second ∧
        ((store.apply second).2.apply first).2 = (store.effect second).effect first := by
  have later : (store.apply first).2.Accepts second ↔ store.Accepts second := accepts_apply apart
  have later' : (store.apply second).2.Accepts first ↔ store.Accepts first := accepts_apply apart.symm
  by_cases accepted : store.Accepts first
  · by_cases accepted' : store.Accepts second
    · right
      rw [store_apply_of_accepts (later.mpr accepted'), store_apply_of_accepts (later'.mpr accepted),
        store_apply_of_accepts accepted, store_apply_of_accepts accepted']
      exact ⟨rfl, rfl⟩
    · left
      rw [store_apply_of_not_accepts (later.not.mpr accepted'), store_apply_of_not_accepts accepted']
  · left
    rw [store_apply_of_not_accepts (later'.not.mpr accepted), store_apply_of_not_accepts accepted]

/-- In every store that a run has led to, two operations that name no rule in common may change places: each has the
    same outcome as the first of the two and as the second, the same rules are listed in the end, and in the same
    order unless both operations create a rule, where the two new rules at the end may be exchanged. -/
theorem independent_operations (seeds : List String) (earlier : List StoreOperation) (first second : StoreOperation)
    (apart : first.named.Disjoint second.named) :
    let store := (ofSeeds seeds).run earlier
    let forward := (store.apply first).2.apply second
    let backward := (store.apply second).2.apply first
    (store.apply first).1 = backward.1 ∧ (store.apply second).1 = forward.1 ∧
    forward.2.rules.Perm backward.2.rules ∧
    (forward.2 = backward.2 ∨ ∃ rule rule', first = .create rule ∧ second = .create rule' ∧
      forward.2.rules = store.rules ++ [trim rule, trim rule'] ∧
      backward.2.rules = store.rules ++ [trim rule', trim rule]) := by
  intro store forward backward
  have exchanged : forward.2 = backward.2 ∨ ∃ rule rule', first = .create rule ∧ second = .create rule' ∧
      forward.2.rules = store.rules ++ [trim rule, trim rule'] ∧
      backward.2.rules = store.rules ++ [trim rule', trim rule] := by
    rcases store_apply_comm store apart with same | ⟨ahead, back⟩
    · exact .inl same
    · rcases effect_comm store apart with same | ⟨rule, rule', rfl, rfl⟩
      · exact .inl (ahead.trans (same.trans back.symm))
      · refine .inr ⟨rule, rule', rfl, rfl, ?_, ?_⟩
        · rw [ahead, effect, effect, List.append_assoc, List.singleton_append]
        · rw [back, effect, effect, List.append_assoc, List.singleton_append]
  refine ⟨(outcome_apply apart.symm).symm, (outcome_apply apart).symm, ?_, exchanged⟩
  rcases exchanged with same | ⟨rule, rule', -, -, ahead, back⟩
  · rw [same]
  · rw [ahead, back]
    exact (List.Perm.swap (trim rule') (trim rule) []).append_left store.rules

/-- A malformed seed is replaced and another rule deleted in either order; of two new rules the later one is last. -/
theorem independent_operations_exchanged :
    let seeds := [" sum() > 1", "broken", "> 3"]
    let earlier : List StoreOperation := [.delete "> 3", .create "avg('a') < 1"]
    let store := (ofSeeds seeds).run earlier
    let replacing : StoreOperation := .update "broken " "sum() > 2"
    let removing : StoreOperation := .delete "sum() > 1 "
    let one : StoreOperation := .create "max() = 'a' "
    let other : StoreOperation := .create " min() = 'b'"
    replacing.named.Disjoint removing.named ∧
    ((store.apply replacing).2.apply removing).2 = ((store.apply removing).2.apply replacing).2 ∧
    ((store.apply replacing).2.apply removing).2.rules = ["sum() > 2", "avg('a') < 1"] ∧
    one.named.Disjoint other.named ∧ (store.apply one).1 = ((store.apply other).2.apply one).1 ∧
    ((store.apply one).2.apply other).2.rules.Perm ((store.apply other).2.apply one).2.rules ∧
    ((store.apply one).2.apply other).2.rules = store.rules ++ ["max() = 'a'", "min() = 'b'"] ∧
    ((store.apply other).2.apply one).2.rules = store.rules ++ ["min() = 'b'", "max() = 'a'"] := by
  intro seeds earlier store replacing removing one other
  have shared : ∀ r ∈ replacing.named, r ∉ removing.named := by decide +kernel
  have shared' : ∀ r ∈ one.named, r ∉ other.named := by decide +kernel
  have apart : replacing.named.Disjoint removing.named := fun r => shared r
  have apart' : one.named.Disjoint other.named := fun r => shared' r
  obtain ⟨-, -, -, same⟩ := independent_operations seeds earlier replacing removing apart
  obtain ⟨outcome, -, perm, -⟩ := independent_operations seeds earlier one other apart'
  have result : ((store.apply replacing).2.apply removing).2.rules = ["sum() > 2", "avg('a') < 1"] := by decide +kernel
  have ahead : ((store.apply one).2.apply other).2.rules = store.rules ++ ["max() = 'a'", "min() = 'b'"] := by
    decide +kernel
  have back : ((store.apply other).2.apply one).2.rules = store.rules ++ ["min() = 'b'", "max() = 'a'"] := by
    decide +kernel
  refine ⟨apart, ?_, result, apart', outcome, perm, ahead, back⟩
  rcases same with same | ⟨rule, rule', impossible, -⟩
  · exact same
  · exact StoreOperation.noConfusion impossible

end RuleStore
end TextRules
