import TextRules.Proofs.Ledger

/-!
What each operation of the store does, to the position. An operation that succeeds appends a rule, puts one in the place
    of another or takes one out of its place, and all other rules stay where they are (`RuleStore.Edits`). One that
    fails does nothing, and its error is the first of what stands in its way (`RuleStore.objections`). So rules that
    no operation takes out keep their order over any run (`RuleStore.sublist_run`).
-/

namespace TextRules

open Text

/-- The rule that an operation gives back when it succeeds. -/
def StoreOperation.removed : StoreOperation → Option String
  | create _ | update .. => none
  | delete rule => some (trim rule)

namespace RuleStore
variable {store after : RuleStore} {op : StoreOperation}

/-! ### Operations that succeed -/

/-- What an operation makes of a list, and the rule that it gives back. -/
inductive Edits (rules : List String) : StoreOperation → Option String → List String → Prop
  | appends (rule : String) (compiles : Compiles (trim rule)) (new : trim rule ∉ rules) :
    Edits rules (.create rule) none (rules ++ [trim rule])
  | replaces (rule replacement : String) (before after : List String) (compiles : Compiles (trim replacement))
    (here : rules = before ++ trim rule :: after) (free : trim rule = trim replacement ∨ trim replacement ∉ rules) :
    Edits rules (.update rule replacement) none (before ++ trim replacement :: after)
  | removes (rule : String) (before after : List String) (here : rules = before ++ trim rule :: after) :
    Edits rules (.delete rule) (some (trim rule)) (before ++ after)

/-- A rule that is listed once is listed neither in front of its place nor behind it. -/
theorem notMem_sides {before after : List String} {rule : String} (once : (before ++ rule :: after).Nodup) :
    rule ∉ before ∧ rule ∉ after := by
  have absent := (List.nodup_cons.mp (List.nodup_middle.mp once)).1
  rwa [List.mem_append, not_or] at absent

theorem replace_at {before after : List String} {rule replacement : String}
    (once : (before ++ rule :: after).Nodup) :
    (before ++ rule :: after).replace rule replacement = before ++ replacement :: after := by
  rw [List.replace_append, if_neg (notMem_sides once).1, replace_cons_eq, if_pos rfl]

theorem erase_at {before after : List String} {rule : String} (once : (before ++ rule :: after).Nodup) :
    (before ++ rule :: after).erase rule = before ++ after := by
  rw [List.erase_append_right _ (notMem_sides once).1, List.erase_cons_head]

theorem edits_iff (once : store.rules.Nodup) {removed : Option String} {rules : List String} :
    Edits store.rules op removed rules ↔ store.Accepts op ∧ removed = op.removed ∧ rules = (store.effect op).rules := by
  constructor
  · intro edits
    cases edits with
    | appends rule compiles new => exact ⟨⟨compiles, new⟩, rfl, rfl⟩
    | replaces rule replacement before after compiles here free =>
      refine ⟨⟨compiles, ?_, free⟩, rfl, ?_⟩
      · rw [here]
        exact List.mem_append_right before List.mem_cons_self
      · rw [effect, here]
        exact (replace_at (here ▸ once)).symm
    | removes rule before after here =>
      refine ⟨?_, rfl, ?_⟩
      · rw [Accepts, here]
        exact List.mem_append_right before List.mem_cons_self
      · rw [effect, here]
        exact (erase_at (here ▸ once)).symm
  · rintro ⟨accepted, rfl, rfl⟩
    cases op with
    | create rule => exact .appends rule accepted.1 accepted.2
    | update rule replacement =>
      obtain ⟨compiles, listed, free⟩ := accepted
      obtain ⟨before, after, here⟩ := List.append_of_mem listed
      have edits := Edits.replaces rule replacement before after compiles here free
      rwa [effect, here, replace_at (here ▸ once), ← here]
    | delete rule =>
      obtain ⟨before, after, here⟩ := List.append_of_mem accepted
      have edits := Edits.removes rule before after here
      rwa [effect, here, erase_at (here ▸ once), ← here]

/-! ### Operations that fail -/

/-- The objection to a rule that does not compile. -/
def malformedRule (rule : String) : List StoreError :=
  match compile rule with
  | .error e => [.invalidRule e]
  | .ok _ => []

/-- All that stands in the way of an operation: first a rule that does not compile, then one that is not listed,
    then one that is listed already. -/
def objections (store : RuleStore) : StoreOperation → List StoreError
  | .create rule => malformedRule (trim rule) ++ if trim rule ∈ store.rules then [.ruleExists (trim rule)] else []
  | .update rule replacement => malformedRule (trim replacement) ++
      (if trim rule ∈ store.rules then [] else [.ruleNotFound (trim rule)]) ++
      if trim rule ≠ trim replacement ∧ trim replacement ∈ store.rules then [.ruleExists (trim replacement)] else []
  | .delete rule => if trim rule ∈ store.rules then [] else [.ruleNotFound (trim rule)]

/-- An operation does what it is there for, unless there is an objection; the first one is then its error. -/
theorem apply_eq (store : RuleStore) (op : StoreOperation) : store.apply op =
    match (store.objections op).head? with
    | some e => (.error e, store)
    | none => (.ok op.removed, store.effect op) := by
  cases op with
  | create rule =>
    cases compiled : compile (trim rule) with
    | error reason => simp [objections, malformedRule, apply, create, compiled]
    | ok c =>
      by_cases listed : trim rule ∈ store.rules <;>
        simp [objections, malformedRule, apply, create, effect, StoreOperation.removed, compiled, listed]
  | update rule replacement =>
    cases compiled : compile (trim replacement) with
    | error reason => simp [objections, malformedRule, apply, update, compiled]
    | ok c =>
      cases found : store.rules.idxOf? (trim rule) with
      | none =>
        have absent := List.idxOf?_eq_none_iff.mp found
        simp [objections, malformedRule, apply, update, compiled, found, absent]
      | some place =>
        have listed := mem_of_idxOf? found
        by_cases taken : trim rule ≠ trim replacement ∧ trim replacement ∈ store.rules <;>
          simp [objections, malformedRule, apply, update, effect, StoreOperation.removed, compiled, found, listed, taken,
            set_eq_replace found]
  | delete rule =>
    by_cases listed : trim rule ∈ store.rules <;>
      simp [objections, apply, delete, effect, StoreOperation.removed, listed]

theorem apply_eq_error_iff {e : StoreError} :
    store.apply op = (.error e, after) ↔ (store.objections op).head? = some e ∧ after = store := by
  rw [apply_eq]
  cases (store.objections op).head? with
  | none => simp
  | some first => simp [eq_comm]

theorem accepts_iff : store.Accepts op ↔ (store.objections op).head? = none := by
  have outcome := apply_eq store op
  rcases apply_cases store op with ⟨removed, accepted, h⟩ | ⟨e, refused, h⟩ <;> rw [h] at outcome
  · refine iff_of_true accepted ?_
    split at outcome
    · cases outcome
    · assumption
  · refine iff_of_false refused fun free => ?_
    rw [free] at outcome
    cases outcome

theorem apply_eq_ok_iff (once : store.rules.Nodup) {removed : Option String} :
    store.apply op = (.ok removed, after) ↔ Edits store.rules op removed after.rules := by
  rw [edits_iff once, accepts_iff, apply_eq]
  cases (store.objections op).head? with
  | some e => simp
  | none =>
    constructor
    · rintro ⟨⟩
      exact ⟨rfl, rfl, rfl⟩
    · obtain ⟨rules⟩ := after
      rintro ⟨-, rfl, rfl⟩
      rfl

theorem isOk_apply_iff : (store.apply op).1.isOk = true ↔ store.Accepts op := by
  rcases apply_cases store op with ⟨removed, accepted, h⟩ | ⟨e, refused, h⟩
  · exact iff_of_true (by rw [h]; rfl) accepted
  · exact iff_of_false (by rw [h]; exact Bool.false_ne_true) refused

/-! ### The order of the rules -/

/-- Rules that an operation does not take out are listed in the same order after it. -/
theorem sublist_effect {kept : List String} (listed : kept.Sublist store.rules)
    (untouched : ∀ rule ∈ kept, op.takes rule = false) : kept.Sublist (store.effect op).rules := by
  have spared : ∀ rule, op.takes rule = true → rule ∉ kept := by
    intro rule taken member
    rw [untouched rule member] at taken
    cases taken
  cases op with
  | create rule => exact listed.trans (List.sublist_append_left _ _)
  | update rule replacement =>
    exact sublist_replace listed (spared (trim rule) (by simp [StoreOperation.takes])) (trim replacement)
  | delete rule =>
    have erased := listed.erase (trim rule)
    rwa [List.erase_of_not_mem (spared (trim rule) (by simp [StoreOperation.takes]))] at erased

theorem sublist_run {kept : List String} (listed : kept.Sublist store.rules) {ops : List StoreOperation}
    (untouched : ∀ op ∈ store.succeeded ops, ∀ rule ∈ kept, op.takes rule = false) :
    kept.Sublist (store.run ops).rules := by
  induction ops generalizing store with
  | nil => exact listed
  | cons op ops ih =>
    rcases apply_cases store op with ⟨removed, accepted, h⟩ | ⟨e, -, h⟩
    · simp only [run, List.foldl_cons, h]
      simp only [succeeded, h, Except.isOk, Except.toBool, if_true] at untouched
      refine ih (sublist_effect listed (untouched op List.mem_cons_self)) fun later member => ?_
      exact untouched later (List.mem_cons_of_mem op member)
    · simp only [run, List.foldl_cons, h]
      simp only [succeeded, h, Except.isOk, Except.toBool, Bool.false_eq_true, if_false] at untouched
      exact ih listed untouched

/-- In every store that a run has led to, an operation succeeds exactly if the rule that it brings in compiles and is
    not listed (but a rule may be replaced by itself) and the rule that it takes out is listed. It then appends,
    replaces or removes in exactly one place; otherwise the store stays as it is, and the error is the first objection.
    So every listed rule, malformed or not, can be deleted or replaced under the text that is listed. Any two listed
    rules, and any more, that no successful operation of a later run takes out stay in the same order. -/
theorem operations_exact (seeds : List String) (earlier : List StoreOperation) :
    let store := (ofSeeds seeds).run earlier
    (∀ op, (store.apply op).1.isOk = true ↔ store.Accepts op) ∧
    (∀ op removed after, store.apply op = (.ok removed, after) ↔ Edits store.rules op removed after.rules) ∧
    (∀ op e after, store.apply op = (.error e, after) ↔ (store.objections op).head? = some e ∧ after = store) ∧
    (∀ rule ∈ store.rules, (∃ after, store.apply (.delete rule) = (.ok (some rule), after)) ∧
      ∀ replacement, Compiles (trim replacement) → trim replacement = rule ∨ trim replacement ∉ store.rules →
        ∃ after, store.apply (.update rule replacement) = (.ok none, after)) ∧
    ∀ (later : List StoreOperation) (kept : List String), kept.Sublist store.rules →
      (∀ op ∈ store.succeeded later, ∀ rule ∈ kept, op.takes rule = false) →
      kept.Sublist (store.run later).rules := by
  intro store
  have once : store.rules.Nodup := run_nodup (ofSeeds_nodup seeds) earlier
  have trimmed : store.Trimmed := run_keeps Change.trimmed (trimmed_ofSeeds seeds) earlier
  refine ⟨fun op => isOk_apply_iff, fun op removed after => apply_eq_ok_iff once, fun op e after => apply_eq_error_iff,
    fun rule listed => ⟨?_, fun replacement compiles free => ?_⟩, fun later kept listed => sublist_run listed⟩
  · obtain ⟨before, after, here⟩ := List.append_of_mem listed
    have own := trimmed rule listed
    have edits := Edits.removes rule before after (own.symm ▸ here)
    rw [own] at edits
    exact ⟨⟨before ++ after⟩, (apply_eq_ok_iff once).mpr edits⟩
  · obtain ⟨before, after, here⟩ := List.append_of_mem listed
    have own := trimmed rule listed
    have allowed : trim rule = trim replacement ∨ trim replacement ∉ store.rules := own.symm ▸ free.imp_left Eq.symm
    have edits := Edits.replaces rule replacement before after compiles (own.symm ▸ here) allowed
    exact ⟨⟨before ++ trim replacement :: after⟩, (apply_eq_ok_iff once).mpr edits⟩

/-- A malformed seed is replaced and another one deleted under their texts, a rule that is listed already is refused,
    and the rules on both sides stay in order. -/
theorem operations_exact_malformed :
    let seeds := [" sum() > 1", "broken", "> 3"]
    let earlier : List StoreOperation := [.create "max() = 'a' ", .delete "gone"]
    let later : List StoreOperation := [.update "broken " "min() = 'b'", .create "sum() > 1", .delete "> 3"]
    let store := (ofSeeds seeds).run earlier
    let kept := ["sum() > 1", "max() = 'a'"]
    (∃ after, store.apply (.delete "> 3") = (.ok (some "> 3"), after)) ∧
    store.apply (.update "nowhere" "broken") =
      (.error (.invalidRule (.invalidFunctionSyntax "broken")), store) ∧
    kept.Sublist store.rules ∧ (∀ op ∈ store.succeeded later, ∀ rule ∈ kept, op.takes rule = false) ∧
    kept.Sublist (store.run later).rules ∧ (store.run later).rules = ["sum() > 1", "min() = 'b'", "max() = 'a'"] := by
  intro seeds earlier later store kept
  obtain ⟨-, -, fails, present, ordered⟩ := operations_exact seeds earlier
  have listed : "> 3" ∈ store.rules := by decide +kernel
  have objection : (store.objections (.update "nowhere" "broken")).head? =
      some (.invalidRule (.invalidFunctionSyntax "broken")) := by decide +kernel
  have held : kept.Sublist store.rules := by decide +kernel
  have untouched : ∀ op ∈ store.succeeded later, ∀ rule ∈ kept, op.takes rule = false := by decide +kernel
  have deleted := (present "> 3" listed).1
  have refused := (fails (.update "nowhere" "broken") _ store).mpr ⟨objection, rfl⟩
  have sorted := ordered later kept held untouched
  have result : (store.run later).rules = ["sum() > 1", "min() = 'b'", "max() = 'a'"] := by decide +kernel
  exact ⟨deleted, refused, held, untouched, sorted, result⟩

end RuleStore
end TextRules
