import TextRules.Proofs.Store

/-!
The books of a rule store. Every listed rule is trimmed and stands there once, and for each text what has brought it
    in (a seed, a creation, a replacement by it) and what has taken it out (a deletion, its own replacement) add up
    to whether it is listed. So of the requests that race to take a rule out, no more succeed than it has been
    brought in, in whichever order they are served.
-/

namespace TextRules

open Text

/-! ### Entries -/

namespace StoreOperation

/-- A creation of the text. -/
def creates (r : String) : StoreOperation → Bool
  | create rule => trim rule = r
  | _ => false

/-- A replacement by the text. -/
def updatesInto (r : String) : StoreOperation → Bool
  | update _ replacement => trim replacement = r
  | _ => false

/-- A deletion of the text. -/
def deletes (r : String) : StoreOperation → Bool
  | delete rule => trim rule = r
  | _ => false

/-- A replacement of the text. -/
def updatesAway (r : String) : StoreOperation → Bool
  | update rule _ => trim rule = r
  | _ => false

/-- What brings the text in. -/
def brings (r : String) : StoreOperation → Bool
  | create rule => trim rule = r
  | update _ replacement => trim replacement = r
  | delete _ => false

/-- What takes the text out. -/
def takes (r : String) : StoreOperation → Bool
  | create _ => false
  | update rule _ | delete rule => trim rule = r

theorem countP_brings (r : String) (ops : List StoreOperation) :
    ops.countP (brings r) = ops.countP (creates r) + ops.countP (updatesInto r) := by
  induction ops with
  | nil => rfl
  | cons op ops ih =>
    simp only [List.countP_cons, ih]
    cases op <;> grind [brings, creates, updatesInto]

theorem countP_takes (r : String) (ops : List StoreOperation) :
    ops.countP (takes r) = ops.countP (deletes r) + ops.countP (updatesAway r) := by
  induction ops with
  | nil => rfl
  | cons op ops ih =>
    simp only [List.countP_cons, ih]
    cases op <;> grind [takes, deletes, updatesAway]

end StoreOperation

namespace RuleStore
variable {store store' : RuleStore}

/-! ### Trimmed rules -/

/-- Every listed rule is trimmed. -/
def Trimmed (store : RuleStore) : Prop := ∀ rule ∈ store.rules, trim rule = rule

theorem Change.trimmed (change : Change store store') (trimmed : store.Trimmed) : store'.Trimmed := by
  intro r listed
  cases change with
  | refused => exact trimmed r listed
  | created rule compiles new =>
    rcases List.mem_append.mp listed with listed | listed
    · exact trimmed r listed
    · rw [List.mem_singleton.mp listed, trim_trim]
  | updated rule replacement compiles found free =>
    rcases mem_of_mem_replace listed with before | rfl
    · exact trimmed r before
    · exact trim_trim replacement
  | deleted rule found => exact trimmed r (List.mem_of_mem_erase listed)

theorem trimmed_ofSeeds (seeds : List String) : (ofSeeds seeds).Trimmed := fun _ => trim_of_mem_ofSeeds

/-! ### The balance -/

theorem count_eq (once : store.rules.Nodup) (r : String) :
    store.rules.count r = if r ∈ store.rules then 1 else 0 := by
  by_cases listed : r ∈ store.rules
  · rw [if_pos listed, List.count_eq_one_of_mem once listed]
  · rw [if_neg listed, List.count_eq_zero_of_not_mem listed]

/-- An operation that succeeds changes how often a text is listed by what it brings in and takes out. -/
theorem count_effect {op : StoreOperation} (accepted : store.Accepts op) (r : String) :
    (store.effect op).rules.count r + (if op.takes r then 1 else 0) =
      store.rules.count r + if op.brings r then 1 else 0 := by
  cases op with
  | create rule => simp [effect, StoreOperation.takes, StoreOperation.brings, List.count_singleton]
  | update rule replacement =>
    have balance := count_replace store.rules (trim rule) (trim replacement) r
    simpa [effect, StoreOperation.takes, StoreOperation.brings, accepted.2.1] using balance
  | delete rule =>
    have listed : 0 < store.rules.count (trim rule) := List.count_pos_iff.mpr accepted
    by_cases same : trim rule = r
    · subst same
      simp only [effect, StoreOperation.takes, StoreOperation.brings, List.count_erase_self, decide_true, if_true]
      simp
      omega
    · simp [effect, StoreOperation.takes, StoreOperation.brings, same, List.count_erase_of_ne (Ne.symm same)]

/-- The operations of a run that succeed. -/
def succeeded (store : RuleStore) : List StoreOperation → List StoreOperation
  | [] => []
  | op :: ops =>
    let rest := (store.apply op).2.succeeded ops
    if (store.apply op).1.isOk then op :: rest else rest

theorem count_run (store : RuleStore) (ops : List StoreOperation) (r : String) :
    (store.run ops).rules.count r + (store.succeeded ops).countP (StoreOperation.takes r) =
      store.rules.count r + (store.succeeded ops).countP (StoreOperation.brings r) := by
  induction ops generalizing store with
  | nil => rfl
  | cons op ops ih =>
    have rest := ih (store.apply op).2
    rcases apply_cases store op with ⟨removed, accepted, h⟩ | ⟨e, -, h⟩
    · have first := count_effect accepted r
      rw [h] at rest
      simp only [run, List.foldl_cons, succeeded, h, Except.isOk, Except.toBool, if_true, List.countP_cons] at rest ⊢
      omega
    · rw [h] at rest
      simpa only [run, List.foldl_cons, succeeded, h, Except.isOk, Except.toBool, Bool.false_eq_true, if_false] using rest

/-- Every listed rule is trimmed and listed once. Whatever the operations, the seed, creations and replacements that
    brought a text in, less the deletions and replacements that took it out, are one if the text is listed and none if
    it is not. Of later operations no more succeed in taking a text out than it is then listed and brought in again. -/
theorem listed_balance (seeds : List String) (ops : List StoreOperation) :
    let store := (ofSeeds seeds).run ops
    let done := (ofSeeds seeds).succeeded ops
    store.rules.Nodup ∧ (∀ rule ∈ store.rules, trim rule = rule) ∧
    (∀ r, (if ∃ seed ∈ seeds, trim seed = r then 1 else 0 : ℤ) + done.countP (StoreOperation.creates r) +
      done.countP (StoreOperation.updatesInto r) - done.countP (StoreOperation.deletes r) -
      done.countP (StoreOperation.updatesAway r) = if r ∈ store.rules then 1 else 0) ∧
    ∀ racing r, (store.succeeded racing).countP (StoreOperation.takes r) ≤
      (if r ∈ store.rules then 1 else 0) + (store.succeeded racing).countP (StoreOperation.brings r) := by
  intro store done
  have start := ofSeeds_nodup seeds
  have once : store.rules.Nodup := run_nodup start ops
  refine ⟨once, run_keeps Change.trimmed (trimmed_ofSeeds seeds) ops, fun r => ?_, fun racing r => ?_⟩
  · have balance : store.rules.count r + done.countP (StoreOperation.takes r) =
        (ofSeeds seeds).rules.count r + done.countP (StoreOperation.brings r) := count_run (ofSeeds seeds) ops r
    have seeded : r ∈ (ofSeeds seeds).rules ↔ ∃ seed ∈ seeds, trim seed = r := mem_ofSeeds.trans List.mem_map
    rw [count_eq once, count_eq start, StoreOperation.countP_brings, StoreOperation.countP_takes] at balance
    simp only [seeded] at balance
    split_ifs at balance ⊢ <;> omega
  · have balance := count_run store racing r
    rw [count_eq once] at balance
    omega

end RuleStore
end TextRules
