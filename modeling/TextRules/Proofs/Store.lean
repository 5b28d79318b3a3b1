import Mathlib.Data.List.Nodup
import TextRules.Proofs.Compiled
import TextRules.Proofs.Distinct
import TextRules.Proofs.Ends
import TextRules.Store.Basic

/-!
Which rules a store lists. A store takes seed after seed and passes over those that it lists already, so it lists the
    distinct texts to which the seeds trim, in the order in which they first occur (`RuleStore.rules_ofSeeds`). An
    operation that succeeds appends a rule that compiles, puts a rule that compiles in the place of a listed one, or
    removes a listed one (`Change`); an operation that fails does nothing. So no operation lists a malformed rule, and
    no rule is ever listed twice.
-/

namespace TextRules

open Text

/-! ### Seeding -/

namespace RuleStore

theorem ofSeeds_concat (seeds : List String) (seed : String) :
    ofSeeds (seeds ++ [seed]) = (ofSeeds seeds).addNew (trim seed) := by
  rw [ofSeeds, List.foldl_append]
  rfl

theorem rules_ofSeeds (seeds : List String) : (ofSeeds seeds).rules = (seeds.map trim).eraseDups := by
  induction seeds using List.reverseRecOn with
  | nil => rfl
  | append_singleton seeds seed ih =>
    have listed : trim seed ∈ (ofSeeds seeds).rules ↔ trim seed ∈ seeds.map trim := by rw [ih, List.mem_eraseDups]
    rw [ofSeeds_concat, addNew, List.map_append, List.map_singleton, eraseDups_concat]
    by_cases old : trim seed ∈ seeds.map trim
    · rw [if_pos old, if_pos (listed.mpr old), ih]
    · rw [if_neg old, if_neg (listed.not.mpr old), ih]

theorem mem_ofSeeds {seeds : List String} {r : String} : r ∈ (ofSeeds seeds).rules ↔ r ∈ seeds.map trim := by
  rw [rules_ofSeeds, List.mem_eraseDups]

theorem ofSeeds_nodup (seeds : List String) : (ofSeeds seeds).rules.Nodup := by
  rw [rules_ofSeeds]
  exact nodup_eraseDups (seeds.map trim)

theorem trim_of_mem_ofSeeds {seeds : List String} {r : String} (listed : r ∈ (ofSeeds seeds).rules) : trim r = r := by
  obtain ⟨seed, -, rfl⟩ := List.mem_map.mp (mem_ofSeeds.mp listed)
  exact trim_trim seed

/-- Rules that are trimmed and not repeated are listed as they are. -/
theorem rules_ofSeeds_of_nodup {rules : List String} (trimmed : ∀ rule ∈ rules, trim rule = rule) (once : rules.Nodup) :
    (ofSeeds rules).rules = rules := by
  have same : rules.map trim = rules := by
    rw [List.map_congr_left (g := id) trimmed, List.map_id]
  rw [rules_ofSeeds, same, eraseDups_of_nodup once]

/-- A seeded store lists the texts to which the seeds trim, those that do not compile included, each of them once and in
    the order in which they first occur among the trimmed seeds. Its rules, taken as seeds, give the same store. Further
    seeds put those of the rules behind that they would give on their own and that are not listed yet. -/
theorem seeds_deduplicated (seeds more : List String) :
    (∀ rule, rule ∈ (ofSeeds seeds).rules ↔ ∃ seed ∈ seeds, trim seed = rule) ∧ (ofSeeds seeds).rules.Nodup ∧
    ((ofSeeds seeds).rules.Pairwise fun r r' => (seeds.map trim).idxOf r < (seeds.map trim).idxOf r') ∧
    ofSeeds (ofSeeds seeds).rules = ofSeeds seeds ∧
    (ofSeeds (seeds ++ more)).rules =
      (ofSeeds seeds).rules ++ (ofSeeds more).rules.filter (· ∉ (ofSeeds seeds).rules) := by
  refine ⟨fun rule => mem_ofSeeds.trans List.mem_map, ofSeeds_nodup seeds, ?_, ?_, ?_⟩
  · rw [rules_ofSeeds]
    exact pairwise_idxOf_eraseDups (seeds.map trim)
  · exact congrArg mk (rules_ofSeeds_of_nodup (fun _ => trim_of_mem_ofSeeds) (ofSeeds_nodup seeds))
  · rw [rules_ofSeeds, rules_ofSeeds, rules_ofSeeds, List.map_append, eraseDups_append_filter]
    simp only [List.mem_eraseDups]

example : (ofSeeds ["> 3", " sum() > 1", "", "sum() > 1", "  "]).rules = ["> 3", "sum() > 1", ""] := by
  decide +kernel

end RuleStore

namespace RuleStore
variable {store store' : RuleStore}

/-! ### Replacing a listed rule

The place at which a rule is replaced is the first at which it is listed, so the new list is the library's
`List.replace`. -/

section Replace
variable {rules : List String} {rule replacement other other' : String}

theorem replace_cons_eq (first : String) (rules : List String) (rule replacement : String) :
    (first :: rules).replace rule replacement =
      if first = rule then replacement :: rules else first :: rules.replace rule replacement := by
  grind

theorem getElem?_of_idxOf? {place : Nat} (found : rules.idxOf? rule = some place) : rules[place]? = some rule := by
  obtain ⟨bound, here, -⟩ := List.idxOf?_eq_some_iff.mp found
  rw [List.getElem?_eq_getElem bound, here]

theorem mem_of_idxOf? {place : Nat} (found : rules.idxOf? rule = some place) : rule ∈ rules :=
  List.mem_of_getElem? (getElem?_of_idxOf? found)

theorem set_eq_replace {place : Nat} (found : rules.idxOf? rule = some place) (replacement : String) :
    rules.set place replacement = rules.replace rule replacement := by
  induction rules generalizing place with
  | nil => cases found
  | cons first rules ih =>
    rw [List.idxOf?_cons] at found
    rw [replace_cons_eq]
    by_cases here : first = rule
    · simp only [here, beq_self_eq_true, if_true, Option.some.injEq] at found
      rw [← found, List.set_cons_zero, if_pos here]
    · rw [if_neg (by simpa using here)] at found
      obtain ⟨later, later_found, rfl⟩ := Option.map_eq_some_iff.mp found
      rw [List.set_cons_succ, ih later_found, if_neg here]

theorem mem_of_mem_replace (listed : other ∈ rules.replace rule replacement) :
    other ∈ rules ∨ other = replacement := by
  induction rules <;> grind

theorem mem_replace_of_ne (kept : other ≠ rule) (old : other ≠ replacement) :
    other ∈ rules.replace rule replacement ↔ other ∈ rules := by
  induction rules <;> grind

theorem nodup_replace (once : rules.Nodup) (free : rule = replacement ∨ replacement ∉ rules) :
    (rules.replace rule replacement).Nodup := by
  induction rules with
  | nil => exact once
  | cons first rules ih =>
    have from_rules := @mem_of_mem_replace rules rule replacement first
    grind

theorem count_replace (rules : List String) (rule replacement other : String) :
    (rules.replace rule replacement).count other + (if rule ∈ rules ∧ rule = other then 1 else 0) =
      rules.count other + if rule ∈ rules ∧ replacement = other then 1 else 0 := by
  induction rules <;> grind

theorem replace_comm (apart : rule ≠ other) (kept : rule ≠ other') (kept' : replacement ≠ other)
    (rules : List String) :
    (rules.replace rule replacement).replace other other' = (rules.replace other other').replace rule replacement := by
  induction rules <;> grind

theorem erase_replace_comm (apart : rule ≠ other) (kept : replacement ≠ other) (rules : List String) :
    (rules.replace rule replacement).erase other = (rules.erase other).replace rule replacement := by
  induction rules with
  | nil => rfl
  | cons first rules ih =>
    rw [replace_cons_eq, List.erase_cons]
    grind

theorem filter_replace_sublist (p : String → Bool) (fails : p replacement = false) :
    ((rules.replace rule replacement).filter p).Sublist (rules.filter p) := by
  induction rules with
  | nil => exact List.Sublist.refl _
  | cons first rules ih =>
    rw [replace_cons_eq]
    split
    · rw [List.filter_cons_of_neg (by simp [fails])]
      exact (List.sublist_cons_self first rules).filter p
    · rw [List.filter_cons, List.filter_cons]
      split
      · exact ih.cons_cons first
      · exact ih

theorem sublist_replace {kept : List String} (listed : kept.Sublist rules) (spared : rule ∉ kept)
    (replacement : String) : kept.Sublist (rules.replace rule replacement) := by
  induction listed with
  | slnil => exact List.Sublist.slnil
  | cons first rest ih =>
    rw [replace_cons_eq]
    split
    · exact rest.cons replacement
    · exact (ih spared).cons first
  | cons_cons first rest ih =>
    rw [List.mem_cons, not_or] at spared
    rw [replace_cons_eq, if_neg (Ne.symm spared.1)]
    exact (ih spared.2).cons_cons first

end Replace

/-! ### Single operations -/

theorem create_eq_ok {rule : String} : store.create rule = .ok store' ↔
    Compiles (trim rule) ∧ trim rule ∉ store.rules ∧ store' = ⟨store.rules ++ [trim rule]⟩ := by
  cases compiled : compile (trim rule) with
  | error e => simp [create, Compiles, compiled]
  | ok c =>
    by_cases listed : trim rule ∈ store.rules
    · simp [create, compiled, listed]
    · simp [create, Compiles, compiled, listed, eq_comm]

theorem update_eq_ok {rule replacement : String} : store.update rule replacement = .ok store' ↔
    Compiles (trim replacement) ∧ trim rule ∈ store.rules ∧
      (trim rule = trim replacement ∨ trim replacement ∉ store.rules) ∧
      store' = ⟨store.rules.replace (trim rule) (trim replacement)⟩ := by
  cases compiled : compile (trim replacement) with
  | error e => simp [update, Compiles, compiled]
  | ok c =>
    have free : (trim rule = trim replacement ∨ trim replacement ∉ store.rules) ↔
        ¬(trim rule ≠ trim replacement ∧ trim replacement ∈ store.rules) := by
      rw [not_and_or, not_ne_iff]
    rw [free]
    cases found : store.rules.idxOf? (trim rule) with
    | none =>
      have absent := List.idxOf?_eq_none_iff.mp found
      simp [update, compiled, found, absent]
    | some place =>
      have listed := mem_of_idxOf? found
      rw [← set_eq_replace found]
      by_cases taken : trim rule ≠ trim replacement ∧ trim replacement ∈ store.rules
      · simp [update, compiled, found, taken]
      · simp only [update, compiled, found, listed, taken]
        simp [Compiles, compiled, eq_comm]

theorem delete_eq_ok {rule removed : String} : store.delete rule = .ok (removed, store') ↔
    trim rule ∈ store.rules ∧ removed = trim rule ∧ store' = ⟨store.rules.erase (trim rule)⟩ := by
  by_cases listed : trim rule ∈ store.rules
  · simp [delete, listed, eq_comm]
  · simp [delete, listed]

/-- What an operation needs to succeed. -/
def Accepts (store : RuleStore) : StoreOperation → Prop
  | .create rule => Compiles (trim rule) ∧ trim rule ∉ store.rules
  | .update rule replacement => Compiles (trim replacement) ∧ trim rule ∈ store.rules ∧
      (trim rule = trim replacement ∨ trim replacement ∉ store.rules)
  | .delete rule => trim rule ∈ store.rules

/-- The store after an operation that succeeds. -/
def effect (store : RuleStore) : StoreOperation → RuleStore
  | .create rule => ⟨store.rules ++ [trim rule]⟩
  | .update rule replacement => ⟨store.rules.replace (trim rule) (trim replacement)⟩
  | .delete rule => ⟨store.rules.erase (trim rule)⟩

theorem apply_cases (store : RuleStore) (op : StoreOperation) :
    (∃ removed, store.Accepts op ∧ store.apply op = (.ok removed, store.effect op)) ∨
      ∃ e, ¬store.Accepts op ∧ store.apply op = (.error e, store) := by
  cases op with
  | create rule =>
    cases h : store.create rule with
    | ok after =>
      obtain ⟨compiles, new, rfl⟩ := create_eq_ok.mp h
      exact .inl ⟨none, ⟨compiles, new⟩, by simp [apply, h, effect]⟩
    | error e =>
      refine .inr ⟨e, ?_, by simp [apply, h]⟩
      rintro ⟨compiles, new⟩
      rw [create_eq_ok.mpr ⟨compiles, new, rfl⟩] at h
      cases h
  | update rule replacement =>
    cases h : store.update rule replacement with
    | ok after =>
      obtain ⟨compiles, listed, free, rfl⟩ := update_eq_ok.mp h
      exact .inl ⟨none, ⟨compiles, listed, free⟩, by simp [apply, h, effect]⟩
    | error e =>
      refine .inr ⟨e, ?_, by simp [apply, h]⟩
      rintro ⟨compiles, listed, free⟩
      rw [update_eq_ok.mpr ⟨compiles, listed, free, rfl⟩] at h
      cases h
  | delete rule =>
    cases h : store.delete rule with
    | ok deleted =>
      obtain ⟨removed, after⟩ := deleted
      obtain ⟨listed, rfl, rfl⟩ := delete_eq_ok.mp h
      exact .inl ⟨some (trim rule), listed, by simp [apply, h, effect]⟩
    | error e =>
      refine .inr ⟨e, fun (listed : trim rule ∈ store.rules) => ?_, by simp [apply, h]⟩
      rw [delete_eq_ok.mpr ⟨listed, rfl, rfl⟩] at h
      cases h

/-- What an operation may make of a store. -/
inductive Change (store : RuleStore) : RuleStore → Prop
  | refused : Change store store
  | created (rule : String) (compiles : Compiles (trim rule)) (new : trim rule ∉ store.rules) :
    Change store ⟨store.rules ++ [trim rule]⟩
  | updated (rule replacement : String) (compiles : Compiles (trim replacement)) (listed : trim rule ∈ store.rules)
    (free : trim rule = trim replacement ∨ trim replacement ∉ store.rules) :
    Change store ⟨store.rules.replace (trim rule) (trim replacement)⟩
  | deleted (rule : String) (listed : trim rule ∈ store.rules) : Change store ⟨store.rules.erase (trim rule)⟩

theorem change_apply (store : RuleStore) (op : StoreOperation) : Change store (store.apply op).2 := by
  rcases apply_cases store op with ⟨removed, accepted, h⟩ | ⟨e, -, h⟩ <;> rw [h]
  · cases op with
    | create rule => exact .created rule accepted.1 accepted.2
    | update rule replacement => exact .updated rule replacement accepted.1 accepted.2.1 accepted.2.2
    | delete rule => exact .deleted rule accepted
  · exact .refused

/-! ### No rule twice -/

theorem append_nodup {rule : String} (once : store.rules.Nodup) (new : rule ∉ store.rules) :
    (store.rules ++ [rule]).Nodup := by
  rw [List.nodup_append]
  refine ⟨once, List.nodup_singleton rule, ?_⟩
  rintro r listed s member rfl
  exact new (List.mem_singleton.mp member ▸ listed)

theorem Change.nodup (change : Change store store') (once : store.rules.Nodup) : store'.rules.Nodup := by
  cases change with
  | refused => exact once
  | created rule compiles new => exact append_nodup once new
  | updated rule replacement compiles listed free => exact nodup_replace once free
  | deleted rule listed => exact once.erase _

/-! ### Malformed rules -/

/-- The listed rules that do not compile. -/
def malformed (store : RuleStore) : List String := store.rules.filter fun rule => ¬Compiles rule

theorem Change.malformed_sublist (change : Change store store') : store'.malformed.Sublist store.malformed := by
  cases change with
  | refused => exact List.Sublist.refl _
  | created rule compiles new => simp [malformed, compiles]
  | updated rule replacement compiles listed free =>
    exact filter_replace_sublist _ (by simpa using compiles)
  | deleted rule listed => exact List.erase_sublist.filter _

/-! ### Runs -/

/-- The store after a list of operations, each of which may succeed or fail. -/
def run (store : RuleStore) (ops : List StoreOperation) : RuleStore :=
  ops.foldl (fun store op => (store.apply op).2) store

theorem run_append (store : RuleStore) (ops later : List StoreOperation) :
    store.run (ops ++ later) = (store.run ops).run later := List.foldl_append

/-- What every change keeps is kept by a run. -/
theorem run_keeps {P : RuleStore → Prop} (keeps : ∀ {s s'}, Change s s' → P s → P s') (start : P store)
    (ops : List StoreOperation) : P (store.run ops) := by
  induction ops generalizing store with
  | nil => exact start
  | cons op ops ih => exact ih (keeps (change_apply store op) start)

theorem run_nodup (once : store.rules.Nodup) (ops : List StoreOperation) : (store.run ops).rules.Nodup :=
  run_keeps Change.nodup once ops

theorem run_malformed_sublist (store : RuleStore) (ops : List StoreOperation) :
    (store.run ops).malformed.Sublist store.malformed :=
  run_keeps (fun change before => change.malformed_sublist.trans before) (List.Sublist.refl _) ops

end RuleStore
end TextRules
