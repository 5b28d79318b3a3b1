import TextRules.Session.Basic

/-!
Named sessions that share one source of rules. An action on one session touches that session and, when it asks
    for rules, the source; the other sessions stay as they are.
-/

namespace TextRules

/-- Sessions under their names, and the source they take rules from. -/
structure SessionTable where
  provider : Provider
  sessions : List (String × Session)

/-- What can be done with named sessions and their source. -/
inductive SessionAction where
  /-- The source answers with these rules from now on. -/
  | provide (rules : List String)
  /-- The source fails from now on. -/
  | fail (e : ServiceError)
  | fetches
  /-- A connecting session under a name, in place of any earlier one. -/
  | new (id : String)
  /-- A session that is active at once; if that fails, any earlier one stays. -/
  | «open» (id : String)
  | activate (id : String)
  | classify (id message : String)
  | rules (id : String)
  | describe (id : String)
  | close (id : String)
  /-- A run to its end, after which the session is gone. -/
  | run (id : String) (room : Option Nat) (inputs : List SessionInput)

/-- What is answered to an action. -/
inductive SessionAnswer where
  | done
  | failed (e : ServiceError)
  | noSession
  | fetches (n : Nat)
  | classified (c : Classification)
  | rules (rules : List String)
  | text (s : String)
  | ran (final : Except ServiceError SessionSummary) (sent : List String) (observed : List Classification)

namespace SessionAnswer

/-- The answer to an action that only succeeds or fails. -/
def ofResult : Except ServiceError Unit → SessionAnswer
  | .ok () => done
  | .error e => failed e

end SessionAnswer

namespace SessionTable

/-- The session under a name. -/
def find? (t : SessionTable) (id : String) : Option Session := t.sessions.lookup id

/-- The table without the session under a name. -/
def erase (t : SessionTable) (id : String) : SessionTable :=
  { t with sessions := t.sessions.filter fun entry => entry.1 != id }

/-- The table with a session under a name. -/
def put (t : SessionTable) (id : String) (s : Session) : SessionTable :=
  { t with sessions := (id, s) :: (t.erase id).sessions }

/-- An action on the session under a name, if there is one. -/
def withSession (t : SessionTable) (id : String) (f : Session → SessionAnswer × SessionTable) :
    SessionAnswer × SessionTable :=
  match t.find? id with
  | some s => f s
  | none => (.noSession, t)

/-- The answer to an action, and the table after it. -/
def step (t : SessionTable) : SessionAction → SessionAnswer × SessionTable
  | .provide rules => (.done, { t with provider := { t.provider with answer := .ok rules } })
  | .fail e => (.done, { t with provider := { t.provider with answer := .error e } })
  | .fetches => (.fetches t.provider.fetches, t)
  | .new id => (.done, t.put id .new)
  | .open id =>
    match Session.new.activate t.provider with
    | (.ok (), s, p) => (.done, { t with provider := p }.put id s)
    | (.error e, _, p) => (.failed e, { t with provider := p })
  | .activate id => t.withSession id fun s =>
    let (result, s, p) := s.activate t.provider
    (.ofResult result, { t with provider := p }.put id s)
  | .classify id message => t.withSession id fun s =>
    match s.classify message with
    | (.ok c, s) => (.classified c, t.put id s)
    | (.error e, s) => (.failed e, t.put id s)
  | .rules id => t.withSession id fun s => (.rules s.rules, t)
  | .describe id => t.withSession id fun s => (.text (s.describe "ID"), t)
  | .close id => t.withSession id fun s => (.done, t.put id s.close)
  | .run id room inputs => t.withSession id fun s =>
    let (final, done) := s.run room inputs
    (.ran final done.sent done.observed, t.erase id)

end SessionTable
end TextRules
