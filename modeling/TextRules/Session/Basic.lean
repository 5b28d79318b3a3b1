import TextRules.Classification
import TextRules.Rule.Value

/-!
Sessions: the classification of one client's messages. A session is connecting, then active, then closed, or
    it is closed without having been active. When it becomes active it takes the rules that are listed at that
    moment, once, and keeps them to its end; later changes of the rules reach later sessions only. In a run over a
    stream of inputs each message is classified, reported to an observer and sent before the next input is read.
    The run ends with a disconnect, with the end of the inputs, or with a payload that is refused; the message of
    that payload has been counted and reported.
-/

namespace TextRules

/-! ### Failures -/

/-- A failure outside the evaluation of a single rule. -/
inductive ServiceError where
  | rule (e : RuleError)
  /-- The active rules could not be fetched. -/
  | ruleSetUnavailable (detail : String)
  /-- The session takes no messages. -/
  | sessionClosed
  /-- A result could not be written or read as JSON. -/
  | serialization (detail : String)
  | internal (detail : String)
  deriving DecidableEq

namespace ServiceError

/-- The wording of a failure. -/
def message : ServiceError → String
  | rule e => "rule error: " ++ e.message
  | ruleSetUnavailable detail => "rule set unavailable: " ++ detail
  | sessionClosed => "session is closed"
  | serialization detail => "serialization error: " ++ detail
  | internal detail => "internal error: " ++ detail

/-- A failure as the reason why rules are unavailable; one that says so already stays as it is. -/
def asUnavailable : ServiceError → ServiceError
  | ruleSetUnavailable detail => ruleSetUnavailable detail
  | e => ruleSetUnavailable e.message

end ServiceError

/-! ### Sessions -/

/-- How far a session has come. -/
inductive SessionState where
  | connecting
  | active
  | closed
  deriving DecidableEq

/-- The name of a state. -/
def SessionState.name : SessionState → String
  | connecting => "Connecting"
  | active => "Active"
  | closed => "Closed"

/-- A source of the active rules: what it answers when asked, and how often it was asked. -/
structure Provider where
  answer : Except ServiceError (List String)
  fetches : Nat

namespace Provider

/-- A source that answers with the given rules and was not asked yet. -/
def ofRules (rules : List String) : Provider := ⟨.ok rules, 0⟩

/-- The source's answer, and the source after it was asked. -/
def fetch (p : Provider) : Except ServiceError (List String) × Provider :=
  (p.answer, { p with fetches := p.fetches + 1 })

end Provider

/-- What is left of a session: how many rules it took, and what it counted. -/
structure SessionSummary where
  rules : Nat
  messages : UInt64
  ruleErrors : UInt64
  deriving DecidableEq

/-- One client's session: its state, the rules it took, and what it counted, in 64 bit words that wrap around. -/
structure Session where
  state : SessionState
  rules : List String
  messages : UInt64
  ruleErrors : UInt64

namespace Session

/-- A session that is connecting. -/
def new : Session := ⟨.connecting, [], 0, 0⟩

/-- What is left of a session that ends now. -/
def summary (s : Session) : SessionSummary := ⟨s.rules.length, s.messages, s.ruleErrors⟩

/-- A session that takes the rules of a source. Only a connecting session asks the source; if that fails, the
    session is closed. -/
def activate (s : Session) (p : Provider) : Except ServiceError Unit × Session × Provider :=
  match s.state with
  | .active => (.ok (), s, p)
  | .closed => (.error .sessionClosed, s, p)
  | .connecting =>
    match p.fetch with
    | (.ok rules, p) => (.ok (), { s with state := .active, rules := rules }, p)
    | (.error e, p) => (.error e.asUnavailable, { s with state := .closed }, p)

/-- A message classified by the rules that the session took, and counted. -/
def record (s : Session) (message : String) : Classification × Session :=
  let result := TextRules.classify s.rules message
  (result, { s with messages := s.messages + 1, ruleErrors := s.ruleErrors + .ofNat result.errorCount })

/-- A message classified, which only an active session does. -/
def classify (s : Session) (message : String) : Except ServiceError Classification × Session :=
  if s.state = .active then
    let (result, s) := s.record message
    (.ok result, s)
  else (.error .sessionClosed, s)

/-- A session that takes no more messages. -/
def close (s : Session) : Session := { s with state := .closed }

/-- A session in words, under a name. -/
def describe (s : Session) (id : String) : String :=
  "ClassificationSession \x7b id: " ++ String.ofList (Json.quoted id.toList) ++ ", state: " ++ s.state.name ++
    ", rules: " ++ toString s.rules.length ++ ", messages_processed: " ++ toString s.messages ++ " \x7d"

end Session

/-! ### Runs -/

/-- What a client's connection delivers. -/
inductive SessionInput where
  | message (text : String)
  | disconnect
  deriving DecidableEq

/-- What a run leaves behind: the session, the payloads sent, and the classifications reported. -/
structure SessionRun where
  session : Session
  sent : List String
  observed : List Classification

namespace Session

/-- The inputs taken one after the other, where the outbound side takes `room` more payloads and refuses the
    next, or takes them all. The loop fails if a message cannot be classified. -/
def drive (s : Session) (room : Option Nat) : List SessionInput → Except ServiceError Unit × SessionRun
  | [] | .disconnect :: _ => (.ok (), ⟨s, [], []⟩)
  | .message text :: inputs =>
    match s.classify text with
    | (.error e, s) => (.error e, ⟨s, [], []⟩)
    | (.ok result, s) =>
      match room with
      | some 0 => (.ok (), ⟨s, [], [result]⟩)
      | room =>
        let (outcome, rest) := s.drive (room.map (· - 1)) inputs
        (outcome, ⟨rest.session, result.payload :: rest.sent, result :: rest.observed⟩)

/-- A run over the inputs, which only an active session makes; the session is closed however the loop ends. -/
def run (s : Session) (room : Option Nat) (inputs : List SessionInput) :
    Except ServiceError SessionSummary × SessionRun :=
  if s.state = .active then
    let (outcome, done) := s.drive room inputs
    let session := done.session.close
    (outcome.map fun () => session.summary, { done with session := session })
  else (.error .sessionClosed, ⟨s, [], []⟩)

end Session
end TextRules
