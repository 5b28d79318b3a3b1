import TextRules.CommandLine
import TextRules.Proofs.Run
import TextRules.Proofs.Store

/-!
Checking a rule file beforehand. The check compiles the rules as they are written, and a store that the file fills
    lists them trimmed and without repetitions. Neither blanks nor repetitions decide whether a rule compiles, and
    a rule fails on every message or on none, so the rules that its lines call invalid are just those that will fail.
-/

namespace TextRules

open Text

/-! ### Slots that fail -/

theorem error_ofRule_iff {rule message : String} : (Outcome.ofRule rule message).error ≠ none ↔ ¬Compiles rule := by
  have verdict : (Outcome.ofRule rule message).error.isNone = decide (Compiles rule) := Outcome.isOk_ofRule rule message
  rw [Ne, ← Option.isNone_iff_eq_none, verdict, decide_eq_true_iff]

/-- The rules of the slots that carry an error are the rules that do not compile. -/
theorem exists_error_iff {rules : List String} {message rule : String} :
    (∃ o ∈ (classify rules message).outcomes, o.rule = rule ∧ o.error ≠ none) ↔ rule ∈ rules ∧ ¬Compiles rule := by
  constructor
  · rintro ⟨o, member, rfl, fails⟩
    obtain ⟨listed, slot⟩ := mem_classify.mp member
    rw [slot, error_ofRule_iff] at fails
    exact ⟨listed, fails⟩
  · rintro ⟨listed, fails⟩
    have slot := Outcome.rule_ofRule rule message
    refine ⟨Outcome.ofRule rule message, mem_classify.mpr ?_, slot, error_ofRule_iff.mpr fails⟩
    rw [slot]
    exact ⟨listed, rfl⟩

theorem errorCount_eq_zero_iff {rules : List String} {message : String} :
    (classify rules message).errorCount = 0 ↔ ∀ rule ∈ rules, Compiles rule := by
  rw [errorCount_classify, List.length_eq_zero_iff, List.filter_eq_nil_iff]
  simp

/-! ### Sessions -/

namespace Session

/-- A classification that a session opened on the rules makes, of a single message or in a run. -/
inductive Makes (rules : List String) : Classification → Prop
  | answered {fetches : Nat} {earlier : List String} {message : String} {result : Classification}
    (answer : ((opened rules fetches earlier).classify message).1 = .ok result) : Makes rules result
  | observed {fetches : Nat} {earlier : List String} {room : Option Nat} {inputs : List SessionInput}
    {result : Classification} (seen : result ∈ ((opened rules fetches earlier).run room inputs).2.observed) :
    Makes rules result

theorem makes_iff {rules : List String} {result : Classification} :
    Makes rules result ↔ ∃ message, result = TextRules.classify rules message := by
  constructor
  · rintro (@⟨fetches, earlier, message, _, answer⟩ | @⟨fetches, earlier, room, inputs, _, seen⟩)
    · rw [(on_opened rules fetches earlier).classify_eq] at answer
      exact ⟨message, (Except.ok.inj answer).symm⟩
    · obtain ⟨message, -, made⟩ := mem_observed_run (on_opened rules fetches earlier) room inputs result seen
      exact ⟨message, made⟩
  · rintro ⟨message, rfl⟩
    have answer := (on_opened rules 0 []).classify_eq message
    exact .answered (congrArg Prod.fst answer)

end Session

/-! ### The check -/

namespace RuleCheck
variable {rules : List String}

/-- What a line of the check says of a rule: that it is fine, or what is wrong with it. -/
inductive Tells (rule : String) : String → Prop
  | fine (compiles : Compiles rule) : Tells rule ("ok      " ++ rule)
  | faulty {e : RuleError} (fails : compile rule = .error e) : Tells rule ("invalid " ++ rule ++ " (" ++ e.message ++ ")")

/-- The rules that are invalid as one reads it in the lines printed on them: those whose line begins with that word. -/
def readInvalid (rules lines : List String) : List String :=
  ((rules.zip lines).filter fun printed => "invalid ".toList <+: printed.2.toList).map Prod.fst

theorem tells_line (rule : String) : Tells rule (line (rule, fault? rule)) := by
  unfold line fault?
  cases compiled : compile rule with
  | ok r => exact .fine ⟨r, compiled⟩
  | error e => exact .faulty compiled

theorem isSome_fault?_iff {rule : String} : (fault? rule).isSome = true ↔ ¬Compiles rule := by
  unfold fault?
  rw [not_compiles_iff]
  cases compile rule <;> simp

theorem Tells.begins_invalid_iff {rule printed : String} (tells : Tells rule printed) :
    "invalid ".toList <+: printed.toList ↔ ¬Compiles rule := by
  cases tells with
  | fine compiles =>
    refine iff_of_false (fun begins => ?_) (not_not_intro compiles)
    rw [String.toList_append] at begins
    exact absurd (List.cons_prefix_cons.mp begins).1 (by decide)
  | faulty fails =>
    refine iff_of_true ?_ (not_compiles_iff.mpr ⟨_, fails⟩)
    simp only [String.toList_append, List.append_assoc]
    exact List.prefix_append ..

theorem length_findings : (ofRules rules).findings.length = rules.length := List.length_map _

theorem lines_eq : (ofRules rules).lines =
    rules.map (fun rule => line (rule, fault? rule)) ++
      if (ofRules rules).passes then [(ofRules rules).summary] else [] := by
  rw [lines]
  congr 1
  exact List.map_map

theorem invalid_eq : (ofRules rules).invalid = rules.filter fun rule => ¬Compiles rule := by
  have test : (fun finding : String × Option RuleError => finding.2.isSome) ∘ (fun rule => (rule, fault? rule)) =
      fun rule => decide (¬Compiles rule) := by
    funext rule
    rw [Function.comp_apply, Bool.eq_iff_iff, decide_eq_true_iff]
    exact isSome_fault?_iff
  rw [invalid, ofRules, List.filter_map, List.map_map, test]
  exact List.map_id _

theorem zip_map_append {α β : Type} (xs : List α) (f : α → β) (ys : List β) :
    xs.zip (xs.map f ++ ys) = xs.map fun x => (x, f x) := by
  induction xs with
  | nil => rfl
  | cons x xs ih => rw [List.map_cons, List.cons_append, List.zip_cons_cons, ih, List.map_cons]

/-- One reads in the lines just which rules do not compile. -/
theorem readInvalid_eq : readInvalid rules (ofRules rules).lines = rules.filter fun rule => ¬Compiles rule := by
  have test : (fun printed : String × String => decide ("invalid ".toList <+: printed.2.toList)) ∘
      (fun rule => (rule, line (rule, fault? rule))) = fun rule => decide (¬Compiles rule) := by
    funext rule
    exact decide_eq_decide.mpr (tells_line rule).begins_invalid_iff
  rw [readInvalid, lines_eq, zip_map_append, List.filter_map, List.map_map, test]
  exact List.map_id _

theorem passes_iff : (ofRules rules).passes = true ↔ ∀ rule ∈ rules, Compiles rule := by
  rw [passes, List.isEmpty_iff, invalid_eq, List.filter_eq_nil_iff]
  simp

/-- The rules read to be invalid are, once trimmed, those of the store that do not compile. -/
theorem mem_map_trim_readInvalid {rule : String} : rule ∈ (readInvalid rules (ofRules rules).lines).map trim ↔
    rule ∈ (RuleStore.ofSeeds rules).rules ∧ ¬Compiles rule := by
  rw [readInvalid_eq, RuleStore.mem_ofSeeds, List.mem_map, List.mem_map]
  constructor
  · rintro ⟨written, invalid, rfl⟩
    obtain ⟨listed, fails⟩ := List.mem_filter.mp invalid
    exact ⟨⟨written, listed, rfl⟩, compiles_trim.not.mpr (of_decide_eq_true fails)⟩
  · rintro ⟨⟨written, listed, rfl⟩, fails⟩
    exact ⟨written, List.mem_filter.mpr ⟨listed, decide_eq_true (compiles_trim.not.mp fails)⟩, rfl⟩

theorem passes_iff_ofSeeds : (ofRules rules).passes = true ↔ ∀ rule ∈ (RuleStore.ofSeeds rules).rules, Compiles rule := by
  simp only [passes_iff, RuleStore.mem_ofSeeds, List.forall_mem_map, compiles_trim]

end RuleCheck

namespace CommandReport

/-- What the check command reports of the rules that it found under a path: a line on each rule in order, and then that
    all of them are fine, or how many are not. -/
structure Covers (report : CommandReport) (path : String) (rules : List String) : Prop where
  each : List.Forall₂ RuleCheck.Tells rules (report.lines.take rules.length)
  passed : report.failure = none → report.lines.drop rules.length = [toString rules.length ++ " rules OK"]
  failed : ∀ reason, report.failure = some reason → report.lines.drop rules.length = [] ∧ reason.message =
    toString (RuleCheck.readInvalid rules report.lines).length ++ " of " ++ toString rules.length ++ " rules in " ++
      path ++ " are invalid"

theorem failure_ofRuleFile_eq_none_iff (path : String) (file : RuleFile) :
    (ofRuleFile path file).failure = none ↔ ∀ rule ∈ file.store.rules, Compiles rule := by
  have passes : (RuleCheck.ofRules file.rules).passes = true ↔ ∀ rule ∈ file.store.rules, Compiles rule :=
    RuleCheck.passes_iff_ofSeeds
  rw [← passes, ofRuleFile]
  simp

theorem drop_lines_ofRuleFile (path : String) (file : RuleFile) :
    (ofRuleFile path file).lines.drop file.rules.length =
      if (RuleCheck.ofRules file.rules).passes then [toString file.rules.length ++ " rules OK"] else [] := by
  show (RuleCheck.ofRules file.rules).lines.drop file.rules.length = _
  rw [RuleCheck.lines_eq, List.drop_left' (List.length_map _), RuleCheck.summary, RuleCheck.length_findings]

theorem covers_ofRuleFile (path : String) (file : RuleFile) : (ofRuleFile path file).Covers path file.rules := by
  constructor
  · show List.Forall₂ RuleCheck.Tells file.rules ((RuleCheck.ofRules file.rules).lines.take file.rules.length)
    rw [RuleCheck.lines_eq, List.take_left' (List.length_map _), List.forall₂_map_right_iff, List.forall₂_same]
    exact fun rule _ => RuleCheck.tells_line rule
  · intro passed
    have passes : (RuleCheck.ofRules file.rules).passes = true := by simpa [ofRuleFile] using passed
    rw [drop_lines_ofRuleFile, if_pos passes]
  · intro reason failed
    have read : RuleCheck.readInvalid file.rules (ofRuleFile path file).lines = (RuleCheck.ofRules file.rules).invalid :=
      RuleCheck.readInvalid_eq.trans RuleCheck.invalid_eq.symm
    rw [read, drop_lines_ofRuleFile]
    rw [ofRuleFile] at failed
    split at failed
    case isTrue => cases failed
    case isFalse faulty =>
      obtain rfl := Option.some.inj failed
      rw [if_neg faulty, CommandFailure.message, RuleCheck.complaint, RuleCheck.length_findings]
      exact ⟨rfl, rfl⟩

end CommandReport

/-- The check of a rule file passes exactly if nothing ever fails in a store that the file fills: every classification
    by a session opened on the store is free of errors. The rules that its lines call invalid are, once trimmed, those
    whose slots carry an error in every classification, and no classification has an error in any other slot. -/
theorem check_foretells_errors (path : String) (file : RuleFile) :
    let report := CommandReport.ofRuleFile path file
    let invalid := (RuleCheck.readInvalid file.rules report.lines).map trim
    (∀ content, RuleFile.load content = .ok file → CommandReport.ofCheck path content = report) ∧
    report.Covers path file.rules ∧
    (report.failure = none ↔ ∀ result, Session.Makes file.store.rules result → result.errorCount = 0) ∧
    (∀ rule, rule ∈ invalid ↔ ∀ result, Session.Makes file.store.rules result →
      ∃ o ∈ result.outcomes, o.rule = rule ∧ o.error ≠ none) ∧
    ∀ result, Session.Makes file.store.rules result → ∀ o ∈ result.outcomes, o.error ≠ none → o.rule ∈ invalid := by
  intro report invalid
  -- There is a classification to look at: a session may be given any message.
  have first : Session.Makes file.store.rules (classify file.store.rules "") := Session.makes_iff.mpr ⟨"", rfl⟩
  have mem_invalid {rule : String} : rule ∈ invalid ↔ rule ∈ file.store.rules ∧ ¬Compiles rule :=
    RuleCheck.mem_map_trim_readInvalid
  refine ⟨fun content loaded => ?_, CommandReport.covers_ofRuleFile path file, ?_, fun rule => ?_, ?_⟩
  · rw [CommandReport.ofCheck, loaded]
  · rw [CommandReport.failure_ofRuleFile_eq_none_iff]
    constructor
    · intro compile result made
      obtain ⟨message, rfl⟩ := Session.makes_iff.mp made
      exact errorCount_eq_zero_iff.mpr compile
    · intro clean
      exact errorCount_eq_zero_iff.mp (clean _ first)
  · rw [mem_invalid]
    constructor
    · intro fails result made
      obtain ⟨message, rfl⟩ := Session.makes_iff.mp made
      exact exists_error_iff.mpr fails
    · intro always
      exact exists_error_iff.mp (always _ first)
  · intro result made o member fails
    obtain ⟨message, rfl⟩ := Session.makes_iff.mp made
    exact mem_invalid.mpr (exists_error_iff.mp ⟨o, member, rfl, fails⟩)

/-- A file with a rule that does not compile, written twice with different blanks around it. -/
theorem check_foretells_errors_blanks :
    let text := "rules: [' sum() > 1 ', broken, ' broken']"
    let content : FileContent := .bytes (Utf8.encode text.toList)
    let file : RuleFile := { rules := [" sum() > 1 ", "broken", " broken"] }
    let report := CommandReport.ofCheck "rules.yaml" content
    RuleFile.load content = .ok file ∧ file.store.rules = ["sum() > 1", "broken"] ∧
      report.lines = ["ok       sum() > 1 ", "invalid broken (invalid function syntax in rule `broken`)",
        "invalid  broken (invalid function syntax in rule ` broken`)"] ∧
      report.failure.map CommandFailure.message = some "2 of 3 rules in rules.yaml are invalid" ∧
      (RuleCheck.readInvalid file.rules report.lines).map trim = ["broken", "broken"] ∧
      (∃ result, Session.Makes file.store.rules result ∧ result.errorCount ≠ 0) ∧
      ∀ result, Session.Makes file.store.rules result →
        (∃ o ∈ result.outcomes, o.rule = "broken" ∧ o.error ≠ none) ∧
        ∀ o ∈ result.outcomes, o.error ≠ none → o.rule = "broken" := by
  intro text content file report
  have read : content.text? = some text := by decide +kernel
  have parsed : RuleFile.parse? text = some file := by decide +kernel
  have loaded : RuleFile.load content = .ok file := by simp only [RuleFile.load, read, parsed]
  have store : file.store.rules = ["sum() > 1", "broken"] := by decide +kernel
  obtain ⟨checked, -, passes, always, nowhere⟩ := check_foretells_errors "rules.yaml" file
  have same : report = CommandReport.ofRuleFile "rules.yaml" file := checked content loaded
  have message : report.failure.map CommandFailure.message = some "2 of 3 rules in rules.yaml are invalid" := by
    rw [same]
    decide +kernel
  have invalid : (RuleCheck.readInvalid file.rules report.lines).map trim = ["broken", "broken"] := by
    rw [same]
    decide +kernel
  rw [← same] at passes always nowhere
  rw [invalid] at always nowhere
  refine ⟨loaded, store, ?_, message, invalid, ?_, fun result made => ⟨?_, fun o member error => ?_⟩⟩
  · rw [same]
    decide +kernel
  · by_contra clean
    have passed := passes.mpr fun result made => by_contra fun error => clean ⟨result, made, error⟩
    rw [passed] at message
    cases message
  · exact (always "broken").mp (by simp) result made
  · simpa using nowhere result made o member error

end TextRules
