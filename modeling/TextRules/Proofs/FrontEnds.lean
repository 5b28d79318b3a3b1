import TextRules.CommandLine
import TextRules.Proofs.Documents
import TextRules.Proofs.Encoding
import TextRules.Proofs.Frames
import TextRules.Proofs.Payload
import TextRules.Proofs.Store

/-!
The ways to a verdict. A rule and a text reach the evaluation by a request, by the command and by a session on a store
    that lists the rule. Only the store trims the rule on the way, and blanks around a rule make no difference but to
    the text that a syntax error carries. So all of them report the same verdict or the same error.
-/

namespace TextRules

open Text Utf8

/-! ### Records that are written and read -/

/-- The body of a request for the evaluation of a rule on a text. -/
def evaluationBody (rule subject : String) : Json := .object [("rule", .string rule), ("str", .string subject)]

/-- The verdict on a rule as a request is answered it. -/
def answeredVerdict (rule : String) (verdict : Bool) : Json :=
  .object [("rule", .string rule), ("result", .bool verdict)]

/-- The verdict on a rule as the command prints it. -/
def printedVerdict (rule : String) (verdict : Bool) : Json :=
  .object [("result", .bool verdict), ("rule", .string rule)]

theorem Json.readRecord_json {schema : Schema} (found : Found) (fits : found.Fits schema) :
    readRecord schema (tokens (ofText found.json.chars)) = .ok (found, []) := by
  have read := readRecord_tokens fits []
  rwa [List.append_nil, ← found.spells.tokens_eq] at read

theorem legible_answeredVerdict (rule : String) (verdict : Bool) : (answeredVerdict rule verdict).Legible :=
  .object (by simp [Json.Legible.string, Json.Legible.bool])

theorem legible_printedVerdict (rule : String) (verdict : Bool) : (printedVerdict rule verdict).Legible :=
  .object (by simp [Json.Legible.string, Json.Legible.bool])

/-- A body that was written for a rule and a text is read as asking for their evaluation. -/
theorem Request.evaluation?_written {r : Request} {limit : Nat} {rule subject : String}
    (json : (r.headerValues "content-type").head?.map MediaType.isJson = some true)
    (written : r.body = encode (evaluationBody rule subject).chars)
    (short : r.body.length ≤ min (min limit ((r.announcedLength?).getD limit)) bufferLimit) :
    r.evaluation? limit = some (rule, subject) := by
  let found : Json.Found := [("rule", .text rule), ("str", .text subject)]
  have fits : found.Fits Server.evalSchema := by
    refine ⟨fun m member => ?_, by simp [found], rfl⟩
    rcases List.mem_pair.mp member with rfl | rfl <;> exact ⟨.text, rfl, rfl⟩
  have read : r.readBody limit Server.evalSchema = .ok found := by
    have record : Json.readRecord Server.evalSchema (Json.tokens (decode r.body)) = .ok (found, []) := by
      rw [written, decode_encode]
      exact Json.readRecord_json found fits
    simp only [readBody, json, Option.getD_some, Bool.not_true, if_neg (Nat.not_lt.mpr short), record]
    rfl
  rw [evaluation?, read]
  rfl

/-! ### The slot of a listed rule -/

theorem filter_classify {rules : List String} {rule : String} (once : rules.Nodup) (listed : rule ∈ rules)
    (message : String) : (classify rules message).outcomes.filter (fun o => o.rule = rule) =
      [Outcome.ofRule rule message] := by
  have own : (fun o : Outcome => decide (o.rule = rule)) ∘ (fun r => Outcome.ofRule r message) = (· = rule) := by
    funext r
    rw [Function.comp_apply, Outcome.rule_ofRule]
  rw [classify, List.filter_map, own, List.filter_eq, List.count_eq_one_of_mem once listed]
  rfl

theorem Outcome.ofRule_trim (rule subject : String) : ofRule (trim rule) subject =
    match evaluate rule subject with
    | .ok verdict => .verdict (trim rule) verdict
    | .error e => .failed (trim rule) (e.carrying (trim rule)) := by
  rw [ofRule, evaluate_trim]
  cases evaluate rule subject <;> rfl

/-! ### Agreement -/

/-- What a request for the evaluation of a rule is answered, what the command reports of it, and its slot in a session.
    All of them have the verdict, or all of them the error, in which the session has the trimmed rule for the rule as
    it was passed. -/
inductive Agreement (rule subject : String) : Response → CommandReport → Outcome → Prop
  | verdict {verdict : Bool} {answer : Response} {line : String} (holds : evaluate rule subject = .ok verdict)
    (answered : answer.Tells 200 (answeredVerdict rule verdict))
    (printed : line = (printedVerdict rule verdict).render)
    (read : Json.read? line = some (printedVerdict rule verdict)) :
    Agreement rule subject answer ⟨[line], none⟩ ⟨trim rule, some verdict, none⟩
  | failure {e : RuleError} {answer : Response} {reason : CommandFailure} (fails : evaluate rule subject = .error e)
    (own : e.carrying rule = e) (answered : answer.TellsError 422 "invalid_rule_error" e.message)
    (complained : reason = .rule e) (said : reason.message = e.message) :
    Agreement rule subject answer ⟨[], some reason⟩ ⟨trim rule, none, some (e.carrying (trim rule)).message⟩

theorem Agreement.of_ok {rule subject : String} {answer : Response} {report : CommandReport} {slot : Outcome}
    (h : Agreement rule subject answer report slot) {verdict : Bool} (holds : evaluate rule subject = .ok verdict) :
    answer.Tells 200 (answeredVerdict rule verdict) ∧ slot = ⟨trim rule, some verdict, none⟩ := by
  rcases h with ⟨holds', answered, -, -⟩ | ⟨fails⟩
  · obtain rfl := Except.ok.inj (holds.symm.trans holds')
    exact ⟨answered, rfl⟩
  · cases holds.symm.trans fails

theorem Agreement.of_error {rule subject : String} {answer : Response} {report : CommandReport} {slot : Outcome}
    (h : Agreement rule subject answer report slot) {e : RuleError} (fails : evaluate rule subject = .error e) :
    answer.TellsError 422 "invalid_rule_error" e.message ∧
      slot = ⟨trim rule, none, some (e.carrying (trim rule)).message⟩ := by
  rcases h with ⟨holds⟩ | ⟨fails', -, answered⟩
  · cases holds.symm.trans fails
  · obtain rfl := Except.error.inj (fails.symm.trans fails')
    exact ⟨answered, rfl⟩

theorem agreement_evaluateOnce (s : Server) (rule subject : String) : Agreement rule subject
    (s.evaluateOnce rule subject).answer (.ofEval rule subject) (.ofRule (trim rule) subject) := by
  rw [Server.evaluateOnce, CommandReport.ofEval, Outcome.ofRule_trim]
  cases evaluated : evaluate rule subject with
  | ok verdict =>
    exact .verdict evaluated (Response.tells_json 200 (legible_answeredVerdict rule verdict)) rfl
      (legible_printedVerdict rule verdict).read?_render
  | error e =>
    exact .failure evaluated (carrying_of_evaluate evaluated) (Response.tellsError_json ..) rfl rfl

/-- A request whose body asks to evaluate a rule on a text, the command given both, and the one slot that the rule has
    in a session, or on a connection, on a store seeded with it, agree. -/
theorem front_ends_agree {s : Server} {r : Request} {rule subject : String} {seeds : List String}
    (path : r.path = "/api/eval") (method : r.method = "POST") (within : r.isWithin s.limit = true)
    (asked : r.evaluation? s.limit = some (rule, subject)) (seeded : rule ∈ seeds) (fetches : Nat)
    (earlier : List String) :
    ∃ result slot,
      ((Session.opened (RuleStore.ofSeeds seeds).rules fetches earlier).classify subject).1 = .ok result ∧
      (∀ t : Server, t.store = .ofSeeds seeds → subject.utf8ByteSize ≤ t.limit →
        t.sentTexts [.text subject] = [result.payload]) ∧
      result.outcomes.filter (fun o => o.rule = trim rule) = [slot] ∧
      Agreement rule subject (s.handle r).answer (.ofEval rule subject) slot := by
  have listed : trim rule ∈ (RuleStore.ofSeeds seeds).rules := RuleStore.mem_ofSeeds.mpr (List.mem_map_of_mem seeded)
  refine ⟨classify (RuleStore.ofSeeds seeds).rules subject, .ofRule (trim rule) subject, ?_, ?_, ?_, ?_⟩
  · rw [(Session.on_opened _ fetches earlier).classify_eq]
  · intro t store short
    have received : (Frame.text subject).received t.limit = .text subject := if_pos (decide_eq_true short)
    rw [Server.sentTexts_eq, store, heardTexts_cons (by rw [received]; rfl), received]
    rfl
  · exact filter_classify (RuleStore.ofSeeds_nodup seeds) listed subject
  · rw [Server.handle_eval path method within, Server.handleEval_of_evaluation? asked]
    exact agreement_evaluateOnce s rule subject

/-- A rule with blanks around it and a backslash in it has a verdict, and one without a call has none. The one body is
    an object, the other an array, with escapes in both. -/
theorem front_ends_agree_escaped :
    let s : Server := ⟨.ofSeeds [], .ofToken none, 200, {}, none⟩
    let post := Request.mk "POST" "/api/eval?" [("Content-Type", encode "application/json".toList)]
    let rule := "\u2003count('\\') = 1\t"
    let valid := post (encode (evaluationBody rule "a\\b").chars)
    let invalid := post (encode "[\"\\u00a0sum > 1\", \"\"]".toList)
    let answered := "\x7b\"rule\":\"\u2003count('\\\\') = 1\\t\",\"result\":true\x7d"
    (valid.evaluation? 200 = some (rule, "a\\b") ∧ ∃ result,
      ((Session.opened (RuleStore.ofSeeds ["sum() > 1", rule]).rules 0 ["x"]).classify "a\\b").1 = .ok result ∧
      ⟨"count('\\') = 1", some true, none⟩ ∈ result.outcomes ∧
      (s.handle valid).answer.text? = some answered ∧ Json.read? answered = some (answeredVerdict rule true)) ∧
    invalid.evaluation? 200 = some ("\u00A0sum > 1", "") ∧ ∃ result,
      ((Session.opened (RuleStore.ofSeeds ["\u00A0sum > 1"]).rules 0 []).classify "").1 = .ok result ∧
      ⟨"sum > 1", none, some "invalid function syntax in rule `sum > 1`"⟩ ∈ result.outcomes ∧
      (s.handle invalid).answer.TellsError 422 "invalid_rule_error"
        "invalid function syntax in rule `\u00A0sum > 1`" := by
  intro s post rule valid invalid answered
  have bare : trim rule = "count('\\') = 1" := by decide +kernel
  have bare' : trim "\u00A0sum > 1" = "sum > 1" := by decide +kernel
  have written : (answeredVerdict rule true).render = answered := by decide +kernel
  have asked : valid.evaluation? 200 = some (rule, "a\\b") :=
    Request.evaluation?_written (by decide +kernel) rfl (by decide +kernel)
  have asked' : invalid.evaluation? 200 = some ("\u00A0sum > 1", "") := by decide +kernel
  have value : evaluate rule "a\\b" = .ok true := by decide +kernel
  have error : evaluate "\u00A0sum > 1" "" = .error (.invalidFunctionSyntax "\u00A0sum > 1") := by decide +kernel
  refine ⟨⟨asked, ?_⟩, asked', ?_⟩
  · obtain ⟨result, slot, answer, -, own, agree⟩ :=
      front_ends_agree (s := s) (by decide +kernel) rfl (by decide +kernel) asked
        (List.mem_cons_of_mem "sum() > 1" List.mem_cons_self) 0 ["x"]
    have member : slot ∈ result.outcomes := List.mem_of_mem_filter (own ▸ List.mem_singleton_self slot)
    obtain ⟨tells, rfl⟩ := agree.of_ok value
    exact ⟨result, answer, bare ▸ member, written ▸ tells.text?_eq, written ▸ tells.read⟩
  · obtain ⟨result, slot, answer, -, own, agree⟩ :=
      front_ends_agree (s := s) (by decide +kernel) rfl (by decide +kernel) asked' List.mem_cons_self 0 []
    have member : slot ∈ result.outcomes := List.mem_of_mem_filter (own ▸ List.mem_singleton_self slot)
    obtain ⟨tells, rfl⟩ := agree.of_error error
    have said : ((RuleError.invalidFunctionSyntax "\u00A0sum > 1").carrying (trim "\u00A0sum > 1")).message =
        "invalid function syntax in rule `sum > 1`" := by decide +kernel
    rw [said, bare'] at member
    exact ⟨result, answer, member, tells⟩

end TextRules
