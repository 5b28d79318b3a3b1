import Mathlib.Data.Finset.Card
import TextRules.Proofs.Run
import TextRules.Proofs.Store

/-!
Checked rules do not fail. A rule that enters a store by an operation compiles, and what a session evaluates is
    what the store lists, so in a classification only seeds that do not compile can fail, each of them in the one
    slot where it is still listed.
-/

namespace TextRules

open Text

/-- The trimmed seeds that do not compile. -/
def malformedSeeds (seeds : List String) : Finset String :=
  ((seeds.map trim).filter fun rule => ¬Compiles rule).toFinset

/-- A classification of a message by listed rules in which nothing fails but malformed seeds, of which every listed
    one does. -/
structure OnlySeedsFail (seeds rules : List String) (message : String) (result : Classification) : Prop where
  slots : result.outcomes.map Outcome.rule = rules
  verdicts : ∀ o ∈ result.outcomes, o.rule ∉ malformedSeeds seeds →
    ∃ b, evaluate o.rule message = .ok b ∧ o = .verdict o.rule b
  failures : result.errorCount = (malformedSeeds seeds ∩ rules.toFinset).card

theorem mem_malformedSeeds {seeds : List String} {rule : String} :
    rule ∈ malformedSeeds seeds ↔ rule ∈ seeds.map trim ∧ ¬Compiles rule := by
  simp [malformedSeeds]

namespace RuleStore

theorem mem_malformed {store : RuleStore} {rule : String} :
    rule ∈ store.malformed ↔ rule ∈ store.rules ∧ ¬Compiles rule := by
  simp [malformed]

theorem malformed_ofSeeds_subset (seeds : List String) :
    ∀ rule ∈ (ofSeeds seeds).malformed, rule ∈ malformedSeeds seeds := by
  intro rule member
  obtain ⟨listed, fails⟩ := mem_malformed.mp member
  exact mem_malformedSeeds.mpr ⟨mem_ofSeeds.mp listed, fails⟩

theorem malformed_run_subset (seeds : List String) (ops : List StoreOperation) :
    ∀ rule ∈ ((ofSeeds seeds).run ops).malformed, rule ∈ malformedSeeds seeds := fun rule member =>
  malformed_ofSeeds_subset seeds rule ((run_malformed_sublist (ofSeeds seeds) ops).subset member)

/-- The listed rules that do not compile are the malformed seeds that are still listed. -/
theorem length_malformed_run (seeds : List String) (ops : List StoreOperation) :
    ((ofSeeds seeds).run ops).malformed.length =
      (malformedSeeds seeds ∩ ((ofSeeds seeds).run ops).rules.toFinset).card := by
  have once : ((ofSeeds seeds).run ops).malformed.Nodup := (run_nodup (ofSeeds_nodup seeds) ops).filter _
  have same : ((ofSeeds seeds).run ops).malformed.toFinset =
      malformedSeeds seeds ∩ ((ofSeeds seeds).run ops).rules.toFinset := by
    ext rule
    rw [Finset.mem_inter, List.mem_toFinset, List.mem_toFinset]
    constructor
    · intro member
      exact ⟨malformed_run_subset seeds ops rule member, (mem_malformed.mp member).1⟩
    · rintro ⟨seed, listed⟩
      exact mem_malformed.mpr ⟨listed, (mem_malformedSeeds.mp seed).2⟩
  rw [← same, List.toFinset_card_of_nodup once]

theorem onlySeedsFail_classify (seeds : List String) (ops : List StoreOperation) (message : String) :
    OnlySeedsFail seeds ((ofSeeds seeds).run ops).rules message
      (classify ((ofSeeds seeds).run ops).rules message) where
  slots := rules_classify _ message
  verdicts o member sound := by
    obtain ⟨listed, slot⟩ := mem_classify.mp member
    have compiles : Compiles o.rule := by
      by_contra fails
      exact sound (malformed_run_subset seeds ops o.rule (mem_malformed.mpr ⟨listed, fails⟩))
    obtain ⟨b, value, verdict⟩ := compiles.exists_verdict message
    exact ⟨b, value, slot.trans verdict⟩
  failures := (errorCount_classify _ message).trans (length_malformed_run seeds ops)

end RuleStore

/-- Whatever operations a seeded store has gone through, a listed rule that does not compile is a malformed seed, and
    later operations list no other one. A session opened on the store has an answer to every message, and there and
    in every run over a stream of inputs all other rules have verdicts. -/
theorem only_malformed_seeds_fail (seeds : List String) (ops : List StoreOperation) :
    (∀ rule ∈ ((RuleStore.ofSeeds seeds).run ops).rules, ¬Compiles rule → rule ∈ malformedSeeds seeds) ∧
    (∀ later, ((RuleStore.ofSeeds seeds).run (ops ++ later)).malformed ⊆ ((RuleStore.ofSeeds seeds).run ops).malformed) ∧
    ∀ fetches earlier, let rules := ((RuleStore.ofSeeds seeds).run ops).rules
      let s := Session.opened rules fetches earlier
      (∀ message, ∃ result, (s.classify message).1 = .ok result ∧ OnlySeedsFail seeds rules message result) ∧
      (∀ room inputs, ∀ result ∈ (s.run room inputs).2.observed,
        ∃ message, .message message ∈ inputs ∧ OnlySeedsFail seeds rules message result) := by
  refine ⟨fun rule listed fails => ?_, fun later => ?_, fun fetches earlier => ⟨fun message => ?_, ?_⟩⟩
  · exact RuleStore.malformed_run_subset seeds ops rule (RuleStore.mem_malformed.mpr ⟨listed, fails⟩)
  · rw [RuleStore.run_append]
    exact (RuleStore.run_malformed_sublist _ later).subset
  · rw [(Session.on_opened _ fetches earlier).classify_eq]
    exact ⟨_, rfl, RuleStore.onlySeedsFail_classify seeds ops message⟩
  · intro room inputs result observed
    obtain ⟨message, arrived, rfl⟩ :=
      Session.mem_observed_run (Session.on_opened _ fetches earlier) room inputs result observed
    exact ⟨message, arrived, RuleStore.onlySeedsFail_classify seeds ops message⟩

/-- A store that had two malformed seeds and has one of them left. -/
theorem only_malformed_seeds_fail_listed :
    let seeds := [" sum() > 1 ", "broken", "worse"]
    let ops : List StoreOperation := [.delete " worse", .create "worst", .update "sum() > 1" "max() = 'a'"]
    ((RuleStore.ofSeeds seeds).run ops).rules = ["max() = 'a'", "broken"] ∧ ¬Compiles "broken" ∧
      "broken" ∈ malformedSeeds seeds ∧ "max() = 'a'" ∉ malformedSeeds seeds ∧
      ∃ result, ((Session.opened ["max() = 'a'", "broken"] 0 ["b"]).classify "a").1 = .ok result ∧
        result.errorCount = 1 ∧ ∃ b, evaluate "max() = 'a'" "a" = .ok b ∧ .verdict "max() = 'a'" b ∈ result.outcomes := by
  intro seeds ops
  have listed : ((RuleStore.ofSeeds seeds).run ops).rules = ["max() = 'a'", "broken"] := by decide +kernel
  have left : malformedSeeds seeds ∩ ["max() = 'a'", "broken"].toFinset = {"broken"} := by decide +kernel
  have sound : "max() = 'a'" ∉ malformedSeeds seeds := by decide +kernel
  have broken : ¬Compiles "broken" := by decide +kernel
  obtain ⟨malformed, -, sessions⟩ := only_malformed_seeds_fail seeds ops
  rw [listed] at malformed sessions
  obtain ⟨result, answer, fails⟩ := (sessions 0 ["b"]).1 "a"
  refine ⟨listed, broken, malformed "broken" (by simp) broken, sound, result, answer, ?_, ?_⟩
  · rw [fails.failures, left]
    rfl
  · have slot : "max() = 'a'" ∈ result.outcomes.map Outcome.rule := by simp [fails.slots]
    obtain ⟨o, member, rule⟩ := List.mem_map.mp slot
    obtain ⟨b, value, verdict⟩ := fails.verdicts o member (rule ▸ sound)
    rw [rule] at value verdict
    exact ⟨b, value, verdict ▸ member⟩

end TextRules
