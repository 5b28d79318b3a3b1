import TextRules.Gate
import TextRules.Http.Message
import TextRules.Log
import TextRules.Session.Basic
import TextRules.Store.Basic

/-!
The server: its rules, the gate before them, and what it counts. Every operation gives an answer, the server
    after it, and the lines it logs. An error has a status, a type and a wording, and is answered as a JSON object
    with the type and the wording in it.
-/

namespace TextRules

/-! ### Errors -/

/-- An error that is answered to a request. -/
inductive ApiError where
  /-- The body could not be read; the wording is left open. -/
  | invalidRequest (rejection : BodyRejection)
  | unauthorized (message : String)
  | notFound (message : String)
  | conflict (message : String)
  | invalidRule (message : String)
  | internal (message : String)

namespace ApiError

/-- The error of a rule that has no verdict or does not compile. -/
def ofRuleError (e : RuleError) : ApiError := invalidRule e.message

/-- The error of a request that the gate does not let through. -/
def ofGateError (e : GateError) : ApiError := unauthorized e.message

/-- The error of an operation that the store refuses. A rule that does not compile is reported in the words of the rule
    error. -/
def ofStoreError (e : StoreError) : ApiError :=
  match e with
  | .ruleExists _ => conflict e.message
  | .ruleNotFound _ => notFound e.message
  | .invalidRule reason => ofRuleError reason
  | .io _ | .parse _ => internal e.message

/-- The JSON document of an error. -/
def document (type message : String) : Json :=
  .object [("error", .object [("message", .string message), ("type", .string type)])]

/-- The answer that reports an error. -/
def response : ApiError → Response
  | invalidRequest rejection => ⟨rejection.status, some "application/json", .invalidRequest, none, false⟩
  | unauthorized message => .json 401 (document "authentication_error" message)
  | notFound message => .json 404 (document "not_found_error" message)
  | conflict message => .json 409 (document "conflict_error" message)
  | invalidRule message => .json 422 (document "invalid_rule_error" message)
  | internal message => .json 500 (document "internal_error" message)

end ApiError

/-! ### Servers -/

/-- A server between two operations. -/
structure Server where
  store : RuleStore
  gate : Gate
  /-- The greatest length of a body or message in bytes. -/
  limit : Nat
  telemetry : Telemetry := {}
  /-- The series for a collector, if there is one. -/
  exposition : Option Exposition := none

/-- The outcome of an operation on a server. -/
structure Reply (α : Type) where
  answer : α
  server : Server
  log : List LogLine := []

namespace Server

/-- The part of the program that answers requests, as it is named in the log. -/
def routesTarget : String := "rulestream_server::routes"

/-- The server after a session became active. -/
def countOpened (s : Server) : Server :=
  { s with
    telemetry := s.telemetry.sessionOpened
    exposition := s.exposition.map Exposition.sessionOpened }

/-- The server after a session could not fetch its rules. -/
def countRejected (s : Server) : Server := { s with telemetry := s.telemetry.sessionRejected }

/-- The server after a session ended. -/
def countClosed (s : Server) : Server := { s with telemetry := s.telemetry.sessionClosed }

/-- The server after a message was classified. -/
def countMessage (s : Server) (c : Classification) : Server :=
  { s with
    telemetry := s.telemetry.messageClassified (UInt64.ofNat c.size) (UInt64.ofNat c.errorCount)
    exposition := s.exposition.map (·.messageClassified c) }

/-- The counters as a JSON document, with the number of listed rules. -/
def statsDocument (s : Server) : Json :=
  let t := s.telemetry
  .object [("sessions_opened", .natural t.sessionsOpened.toNat),
    ("sessions_rejected", .natural t.sessionsRejected.toNat),
    ("sessions_closed", .natural t.sessionsClosed.toNat),
    ("messages_processed", .natural t.messages.toNat),
    ("rule_evaluations", .natural t.evaluations.toNat),
    ("rule_errors", .natural t.ruleErrors.toNat),
    ("active_sessions", .natural t.activeSessions),
    ("rule_error_rate", .number t.errorRate),
    ("rules", .natural s.store.rules.length)]

end Server
end TextRules
