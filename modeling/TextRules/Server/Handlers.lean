import TextRules.Server.Basic

/-!
What the server does for each kind of request, once the request has come through.
-/

namespace TextRules

/-- A line that a request leaves in the log. -/
def LogLine.ofRequest (level : LogLevel) (message : String) : LogLine :=
  ⟨level, Server.routesTarget, message⟩

namespace Server

/-- An answer that changes nothing. -/
def answer (s : Server) (r : Response) : Reply Response := ⟨r, s, []⟩

/-- An error, which changes nothing. -/
def refuse (s : Server) (e : ApiError) : Reply Response := s.answer e.response

/-- The series for a collector, if there is one. -/
def metrics (s : Server) : Reply Response :=
  match s.exposition with
  | none => s.refuse (.notFound "Metrics are disabled")
  | some x =>
    let body := if x.series.isEmpty then .text "" else .exposition x
    s.answer ⟨200, some "text/plain; charset=utf-8", body, none, false⟩

/-- The record that a request's body holds is passed on, or the body is rejected. -/
def withBody (s : Server) (r : Request) (schema : Json.Schema) (next : Json.Found → Reply Response) :
    Reply Response :=
  match r.readBody s.limit schema with
  | .ok found => next found
  | .error rejection => s.refuse (.invalidRequest rejection)

/-- The record in a request for an evaluation. -/
def evalSchema : Json.Schema := [("rule", .text), ("str", .text)]

/-- The record in a request to create or delete a rule. -/
def ruleSchema : Json.Schema := [("ruleName", .text)]

/-- The record in a request to replace a rule. -/
def updateSchema : Json.Schema := [("ruleName", .text), ("updatedRule", .text)]

/-- One rule evaluated on one text. The evaluation is counted, and so is its failure. -/
def evaluateOnce (s : Server) (rule subject : String) : Reply Response :=
  match evaluate rule subject with
  | .ok result =>
    ⟨.json 200 (.object [("rule", .string rule), ("result", .bool result)]),
      { s with telemetry := s.telemetry.evaluated 1 0 },
      [.ofRequest .debug ("Evaluated '" ++ rule ++ "' => " ++ if result then "true" else "false")]⟩
  | .error e => { s with telemetry := s.telemetry.evaluated 1 1 }.refuse (.ofRuleError e)

/-- The rules in order. -/
def listRules (s : Server) : Reply Response :=
  s.answer (.json 200 (.array (s.store.rules.map .string)))

/-- A rule added to the list, and named in the answer as it is listed. -/
def createRule (s : Server) (rule : String) : Reply Response :=
  match s.store.create rule with
  | .error e => s.refuse (.ofStoreError e)
  | .ok store =>
    let rule := Text.trim rule
    ⟨.json 201 (.object [("message", .string "Rule created"), ("rule", .string rule)]),
      { s with store := store }, [.ofRequest .info ("Rule created: " ++ rule)]⟩

/-- A rule replaced by another, which the answer names as it is listed. -/
def updateRule (s : Server) (rule replacement : String) : Reply Response :=
  match s.store.update rule replacement with
  | .error e => s.refuse (.ofStoreError e)
  | .ok store =>
    let updated := Text.trim replacement
    ⟨.json 200 (.object [("message", .string "Rule updated"), ("rule", .string updated)]),
      { s with store := store },
      [.ofRequest .info ("Rule updated: " ++ Text.trim rule ++ " -> " ++ updated)]⟩

/-- A rule removed from the list, and named in the answer as it was listed. -/
def deleteRule (s : Server) (rule : String) : Reply Response :=
  match s.store.delete rule with
  | .error e => s.refuse (.ofStoreError e)
  | .ok (deleted, store) =>
    ⟨.json 200 (.object [("message", .string "Rule deleted"), ("deletedRule", .string deleted)]),
      { s with store := store }, [.ofRequest .info ("Rule deleted: " ++ deleted)]⟩

/-- The text found under a name that the schema requires. -/
def textOf (found : Json.Found) (name : String) : String := (found.text? name).getD ""

/-- A request for an evaluation. -/
def handleEval (s : Server) (r : Request) : Reply Response :=
  s.withBody r evalSchema fun found => s.evaluateOnce (textOf found "rule") (textOf found "str")

/-- A request on the rules, which the gate has let through. -/
def handleRules (s : Server) (r : Request) : Reply Response :=
  if r.method = "POST" then s.withBody r ruleSchema fun found => s.createRule (textOf found "ruleName")
  else if r.method = "PUT" then
    s.withBody r updateSchema fun found => s.updateRule (textOf found "ruleName") (textOf found "updatedRule")
  else if r.method = "DELETE" then
    s.withBody r ruleSchema fun found => s.deleteRule (textOf found "ruleName")
  else s.listRules

/-- Whether the first header of a name holds a word, in any case. -/
def headerHolds (r : Request) (name : String) (test : List Char → Bool) : Bool :=
  match (r.headerValues name).head? with
  | none => false
  | some value =>
    match Utf8.decode? value with
    | some text => test (text.map Char.toLower)
    | none => false

/-- A request for a websocket that does not ask for one properly, or that reached the server by a way on which
    there are none. -/
def handleUpgrade (s : Server) (r : Request) : Reply Response :=
  s.answer <|
    if r.method ≠ "GET" then .plain 405 "Request method must be `GET`"
    else if !headerHolds r "connection" fun text => Occurrences.count "upgrade".toList text > 0 then
      .plain 400 "Connection header did not include 'upgrade'"
    else if !headerHolds r "upgrade" (· = "websocket".toList) then
      .plain 400 "`Upgrade` header did not include 'websocket'"
    else if !headerHolds r "sec-websocket-version" (· = "13".toList) then
      .plain 400 "`Sec-WebSocket-Version` header did not include '13'"
    else if (r.headerValues "sec-websocket-key").isEmpty then
      .plain 400 "`Sec-WebSocket-Key` header missing"
    else .plain 426 "WebSocket request couldn't be upgraded since no upgrade state was present"

end Server
end TextRules
