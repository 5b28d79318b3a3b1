import Mathlib.Data.List.Forall2
import Mathlib.Data.List.Induction
import TextRules.Proofs.Compiled
import TextRules.Rule.Compiled
import TextRules.Session.Basic

/-!
What the slots of a classification hold. A slot carries a verdict exactly if its rule compiles, whatever the message,
    so the number of errors depends on the rules alone. A session classifies by the rules it took when it was opened.
    The slots do not depend on each other. Each rule adds a slot of its own behind those of the rules before it
    (`classify_concat`). What is wrong with a rule is found before the message is looked at (`Outcome.error_ofRule`),
    so the same slots fail, in the same words, on every message.
-/

namespace TextRules

/-! ### Slots -/

theorem Compiles.exists_verdict {rule : String} (h : Compiles rule) (message : String) :
    ∃ b, evaluate rule message = .ok b ∧ Outcome.ofRule rule message = .verdict rule b := by
  obtain ⟨c, compiled⟩ := h
  have verdict : evaluate rule message = .ok (c.verdict message) := by simp [evaluate, compiled]
  exact ⟨c.verdict message, verdict, by simp [Outcome.ofRule, verdict]⟩

theorem exists_failed_of_not_compiles {rule : String} (h : ¬Compiles rule) (message : String) :
    ∃ e, evaluate rule message = .error e ∧ Outcome.ofRule rule message = .failed rule e := by
  obtain ⟨e, error⟩ := not_compiles_iff.mp h
  have failed : evaluate rule message = .error e := by simp [evaluate, error]
  exact ⟨e, failed, by simp [Outcome.ofRule, failed]⟩

theorem Outcome.isOk_ofRule (rule message : String) : (ofRule rule message).isOk = decide (Compiles rule) := by
  by_cases compiles : Compiles rule
  · obtain ⟨b, -, verdict⟩ := compiles.exists_verdict message
    rw [verdict, decide_eq_true compiles]
    rfl
  · obtain ⟨e, -, failed⟩ := exists_failed_of_not_compiles compiles message
    rw [failed, decide_eq_false compiles]
    rfl

theorem Outcome.rule_ofRule (rule message : String) : (ofRule rule message).rule = rule := by
  unfold ofRule
  split <;> rfl

theorem rules_classify (rules : List String) (message : String) :
    (classify rules message).outcomes.map Outcome.rule = rules := by
  have slot : Outcome.rule ∘ (fun rule => Outcome.ofRule rule message) = id := by
    funext rule
    exact Outcome.rule_ofRule rule message
  rw [classify, List.map_map, slot, List.map_id]

theorem mem_classify {rules : List String} {message : String} {o : Outcome} :
    o ∈ (classify rules message).outcomes ↔ o.rule ∈ rules ∧ o = Outcome.ofRule o.rule message := by
  rw [classify, List.mem_map]
  constructor
  · rintro ⟨rule, listed, rfl⟩
    rw [Outcome.rule_ofRule]
    exact ⟨listed, rfl⟩
  · rintro ⟨listed, same⟩
    exact ⟨o.rule, listed, same.symm⟩

theorem errorCount_classify (rules : List String) (message : String) :
    (classify rules message).errorCount = (rules.filter fun rule => ¬Compiles rule).length := by
  rw [Classification.errorCount, classify, List.countP_map, List.countP_eq_length_filter]
  have fails : ((fun o => !o.isOk) ∘ fun rule => Outcome.ofRule rule message) = fun rule => decide ¬Compiles rule := by
    funext rule
    rw [Function.comp_apply, Outcome.isOk_ofRule, decide_not]
  rw [fails]

/-! ### Sessions -/

namespace Session

/-- The session is active on the rules. -/
structure On (rules : List String) (s : Session) : Prop where
  active : s.state = .active
  took : s.rules = rules

/-- A session opened on the rules that a source answers with, and then given some messages. -/
def opened (rules : List String) (fetches : Nat) (earlier : List String) : Session :=
  earlier.foldl (fun s message => (s.classify message).2) (new.activate ⟨.ok rules, fetches⟩).2.1

variable {rules : List String} {s : Session}

theorem On.classify_eq (h : s.On rules) (message : String) :
    s.classify message = (.ok (TextRules.classify rules message), (s.record message).2) := by
  rw [classify, if_pos h.active, ← h.took]
  rfl

theorem On.record (h : s.On rules) (message : String) : (s.record message).2.On rules := ⟨h.active, h.took⟩

theorem on_opened (rules : List String) (fetches : Nat) (earlier : List String) :
    (opened rules fetches earlier).On rules := by
  have start : (new.activate ⟨.ok rules, fetches⟩).2.1.On rules := ⟨rfl, rfl⟩
  unfold opened
  generalize (new.activate ⟨.ok rules, fetches⟩).2.1 = s at start
  induction earlier generalizing s with
  | nil => exact start
  | cons message earlier ih =>
    rw [List.foldl_cons, start.classify_eq]
    exact ih _ (start.record message)

end Session

/-! ### Slot after slot -/

/-- A slot tells what a rule says about a message: it carries the verdict or the wording of the error, and not both. -/
inductive Outcome.Tells (message rule : String) : Outcome → Prop
  | verdict (b : Bool) (holds : evaluate rule message = .ok b) : Tells message rule ⟨rule, some b, none⟩
  | failed (e : RuleError) (fails : evaluate rule message = .error e) : Tells message rule ⟨rule, none, some e.message⟩

theorem Outcome.tells_ofRule (message rule : String) : Tells message rule (ofRule rule message) := by
  unfold ofRule
  cases h : evaluate rule message with
  | ok b => exact .verdict b h
  | error e => exact .failed e h

theorem Outcome.error_ofRule (rule message : String) :
    (ofRule rule message).error = (RuleCheck.fault? rule).map RuleError.message := by
  unfold ofRule evaluate RuleCheck.fault?
  cases compile rule <;> rfl

theorem classify_concat (rules : List String) (rule message : String) :
    classify (rules ++ [rule]) message = (classify rules message).push (.ofRule rule message) := by
  rw [classify, List.map_append]
  rfl

/-- A classification is made slot after slot. -/
theorem classify_eq_foldl (rules : List String) (message : String) :
    classify rules message = rules.foldl (fun c rule => c.push (.ofRule rule message)) .empty := by
  induction rules using List.reverseRecOn with
  | nil => rfl
  | append_singleton rules rule ih => rw [classify_concat, ih, List.foldl_concat]

theorem errors_classify (rules : List String) (message : String) : (classify rules message).outcomes.map Outcome.error =
    rules.map fun rule => (RuleCheck.fault? rule).map RuleError.message := by
  rw [classify, List.map_map]
  exact List.map_congr_left fun rule _ => Outcome.error_ofRule rule message

/-- Rules are applied one after the other, and the slots of a list of rules are those of its two parts. Every rule has
    its slot, in order, with the verdict or the error and under the text of the rule. The same slots carry the
    same errors whatever the message, as many as there are rules that do not compile, and another rule in one place
    makes another slot in that place only. -/
theorem slots_independent (rules more : List String) (message other : String) :
    classify rules message = rules.foldl (fun c rule => c.push (.ofRule rule message)) .empty ∧
    (classify (rules ++ more) message).outcomes =
      (classify rules message).outcomes ++ (classify more message).outcomes ∧
    List.Forall₂ (Outcome.Tells message) rules (classify rules message).outcomes ∧
    (classify rules message).outcomes.map Outcome.error = (classify rules other).outcomes.map Outcome.error ∧
    (classify rules message).errorCount = rules.countP (fun rule => ¬Compiles rule) ∧
    ∀ i rule, (classify (rules.set i rule) message).outcomes =
      (classify rules message).outcomes.set i (.ofRule rule message) := by
  refine ⟨classify_eq_foldl rules message, List.map_append, ?_, ?_, ?_, fun i rule => List.map_set⟩
  · rw [classify, List.forall₂_map_right_iff, List.forall₂_same]
    exact fun rule _ => Outcome.tells_ofRule message rule
  · rw [errors_classify, errors_classify]
  · rw [errorCount_classify, List.countP_eq_length_filter]

end TextRules
