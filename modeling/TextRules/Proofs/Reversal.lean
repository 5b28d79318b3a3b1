import TextRules.Proofs.Operations

/-!
What takes an operation of the store back. A creation is taken back by the deletion, and a replacement by the opposite
    replacement, which finds the one place again because no rule is listed twice. Two things are not taken back: the
    replacement of a malformed rule, which no operation lists again, and the place of a deleted rule, which is
    created again at the end.
-/

namespace TextRules

open Text

namespace RuleStore
variable {store after : RuleStore} {op : StoreOperation} {rules rules' : List String} {rule replacement : String}
  {removed : Option String}

theorem nodup_of_apply_eq (once : store.rules.Nodup) (applied : store.apply op = (.ok removed, after)) :
    after.rules.Nodup := by
  have change := change_apply store op
  rw [applied] at change
  exact change.nodup once

theorem Edits.delete_of_create (edits : Edits rules (.create rule) removed rules') :
    Edits rules' (.delete rule) (some (trim rule)) rules := by
  cases edits with
  | appends _ compiles new =>
    have removes : Edits (rules ++ [trim rule]) (.delete rule) (some (trim rule)) (rules ++ []) :=
      .removes rule rules [] rfl
    rwa [List.append_nil] at removes

theorem Edits.update_of_update (once : rules.Nodup) (edits : Edits rules (.update rule replacement) removed rules')
    (compiles : Compiles (trim rule)) : Edits rules' (.update replacement rule) none rules := by
  cases edits with
  | replaces _ _ before behind _ here free =>
    subst here
    refine .replaces replacement rule before behind compiles rfl ?_
    obtain ⟨front, back⟩ := notMem_sides once
    by_cases same : trim replacement = trim rule
    · exact .inl same
    · right
      simp [front, back, Ne.symm same]

theorem Edits.create_of_delete (once : rules.Nodup) (edits : Edits rules (.delete rule) removed rules')
    (compiles : Compiles (trim rule)) : ∃ before behind, rules = before ++ trim rule :: behind ∧
      Edits rules' (.create rule) none (before ++ behind ++ [trim rule]) := by
  cases edits with
  | removes _ before behind here =>
    subst here
    have gone : trim rule ∉ before ++ behind := by
      rw [List.mem_append, not_or]
      exact notMem_sides once
    exact ⟨before, behind, rfl, .appends rule compiles gone⟩

/-- The replacement of a malformed rule cannot be taken back. -/
theorem apply_update_of_malformed (store : RuleStore) {e : RuleError} (malformed : compile (trim rule) = .error e) :
    store.apply (.update replacement rule) = (.error (.invalidRule e), store) := by
  rw [apply_eq_error_iff]
  exact ⟨by simp [objections, malformedRule, malformed], rfl⟩

/-- A deleted rule that is created again has its place again only if that was the last one. -/
theorem restored_iff (once : store.rules.Nodup) (deleted : store.apply (.delete rule) = (.ok removed, after)) :
    (after.apply (.create rule)).2 = store ↔ Compiles (trim rule) ∧ store.rules.getLast? = some (trim rule) := by
  obtain ⟨listed, -, left⟩ := (edits_iff once).mp ((apply_eq_ok_iff once).mp deleted)
  have shorter : after.rules.length < store.rules.length := by
    rw [left, effect, List.length_erase_of_mem listed]
    exact Nat.sub_lt (List.length_pos_of_mem listed) Nat.one_pos
  rcases apply_cases after (.create rule) with ⟨_, accepted, h⟩ | ⟨e, refused, h⟩ <;> rw [h]
  · constructor
    · intro restored
      refine ⟨accepted.1, ?_⟩
      rw [← restored, effect, List.getLast?_concat]
    · rintro ⟨-, last⟩
      obtain ⟨before, here⟩ := List.getLast?_eq_some_iff.mp last
      have rest : after.rules = before := by
        rw [left, effect, here, erase_at (here ▸ once), List.append_nil]
      obtain ⟨rules⟩ := store
      rw [effect, rest, ← here]
  · constructor
    · rintro rfl
      exact absurd shorter (Nat.lt_irrefl _)
    · rintro ⟨compiles, -⟩
      refine absurd ⟨compiles, ?_⟩ refused
      rw [left]
      exact once.not_mem_erase

/-- In every store that a run has led to: a creation is taken back by the deletion. A replacement is taken back by the
    opposite one if the rule that was replaced compiles; otherwise that one fails and changes nothing. After a deletion
    the store that was there before is restored by a creation exactly if the rule compiles and was the last one. If it
    compiles, wherever it stood, the creation puts it behind all the others, which stay in order. -/
theorem operations_reversed (seeds : List String) (earlier : List StoreOperation) :
    let store := (ofSeeds seeds).run earlier
    (∀ rule removed after, store.apply (.create rule) = (.ok removed, after) →
      after.apply (.delete rule) = (.ok (some (trim rule)), store)) ∧
    (∀ rule replacement removed after, store.apply (.update rule replacement) = (.ok removed, after) →
      (Compiles (trim rule) → after.apply (.update replacement rule) = (.ok none, store)) ∧
      ∀ e, compile (trim rule) = .error e →
        after.apply (.update replacement rule) = (.error (.invalidRule e), after)) ∧
    ∀ rule removed after, store.apply (.delete rule) = (.ok removed, after) →
      ((after.apply (.create rule)).2 = store ↔
        Compiles (trim rule) ∧ store.rules.getLast? = some (trim rule)) ∧
      (Compiles (trim rule) → ∃ before behind, store.rules = before ++ trim rule :: behind ∧
        after.apply (.create rule) = (.ok none, ⟨before ++ behind ++ [trim rule]⟩)) := by
  intro store
  have once : store.rules.Nodup := run_nodup (ofSeeds_nodup seeds) earlier
  refine ⟨fun rule removed after created => ?_, fun rule replacement removed after updated => ⟨?_, ?_⟩,
    fun rule removed after deleted => ⟨restored_iff once deleted, fun compiles => ?_⟩⟩
  · rw [apply_eq_ok_iff (nodup_of_apply_eq once created)]
    exact ((apply_eq_ok_iff once).mp created).delete_of_create
  · intro compiles
    rw [apply_eq_ok_iff (nodup_of_apply_eq once updated)]
    exact ((apply_eq_ok_iff once).mp updated).update_of_update once compiles
  · intro e malformed
    exact apply_update_of_malformed after malformed
  · obtain ⟨before, behind, here, edits⟩ := ((apply_eq_ok_iff once).mp deleted).create_of_delete once compiles
    exact ⟨before, behind, here, (apply_eq_ok_iff (nodup_of_apply_eq once deleted)).mpr edits⟩

/-- A new rule is taken out again and a replaced one put back, but not a malformed seed; a rule that was deleted from
    the middle ends up last. -/
theorem operations_reversed_malformed :
    let seeds := ["> 3", " sum() > 1", "max() = 'a'"]
    let earlier : List StoreOperation := [.delete "> 4"]
    let store := (ofSeeds seeds).run earlier
    let longer : RuleStore := ⟨store.rules ++ ["min() = 'b'"]⟩
    let swapped : RuleStore := ⟨["> 3", "sum() > 2", "max() = 'a'"]⟩
    let mended : RuleStore := ⟨["sum() > 2", "sum() > 1", "max() = 'a'"]⟩
    let shorter : RuleStore := ⟨["> 3", "max() = 'a'"]⟩
    store.apply (.create "min() = 'b' ") = (.ok none, longer) ∧
    longer.apply (.delete "min() = 'b' ") = (.ok (some (trim "min() = 'b' ")), store) ∧
    store.apply (.update "sum() > 1" "sum() > 2") = (.ok none, swapped) ∧
    swapped.apply (.update "sum() > 2" "sum() > 1") = (.ok none, store) ∧
    store.apply (.update "> 3 " "sum() > 2") = (.ok none, mended) ∧
    mended.apply (.update "sum() > 2" "> 3 ") = (.error (.invalidRule (.invalidFunctionSyntax "> 3")), mended) ∧
    store.apply (.delete "sum() > 1") = (.ok (some "sum() > 1"), shorter) ∧
    (shorter.apply (.create "sum() > 1")).2 ≠ store ∧
    ∃ before behind, store.rules = before ++ trim "sum() > 1" :: behind ∧
      shorter.apply (.create "sum() > 1") = (.ok none, ⟨before ++ behind ++ [trim "sum() > 1"]⟩) := by
  intro seeds earlier store longer swapped mended shorter
  obtain ⟨creations, updates, deletions⟩ := operations_reversed seeds earlier
  have created : store.apply (.create "min() = 'b' ") = (.ok none, longer) := by decide +kernel
  have updated : store.apply (.update "sum() > 1" "sum() > 2") = (.ok none, swapped) := by decide +kernel
  have compiles : Compiles (trim "sum() > 1") := by decide +kernel
  have updated' : store.apply (.update "> 3 " "sum() > 2") = (.ok none, mended) := by decide +kernel
  have malformed : compile (trim "> 3 ") = .error (.invalidFunctionSyntax "> 3") := by decide +kernel
  have deleted : store.apply (.delete "sum() > 1") = (.ok (some "sum() > 1"), shorter) := by decide +kernel
  have last : store.rules.getLast? ≠ some (trim "sum() > 1") := by decide +kernel
  obtain ⟨restored, moved⟩ := deletions _ _ _ deleted
  refine ⟨created, creations _ _ _ created, updated, (updates _ _ _ _ updated).1 compiles, updated',
    (updates _ _ _ _ updated').2 _ malformed, deleted, fun back => ?_, moved compiles⟩
  exact last (restored.mp back).2

end RuleStore
end TextRules
