import TextRules.Config
import TextRules.Server.Sockets
import TextRules.Store.Basic

/-!
The life of a server: it starts from its configuration and its rule file, answers what comes until it is told to
    stop, and logs all of this. A start that fails leaves the lines logged up to there.
-/

namespace TextRules

namespace LogLine

/-- A line of the program as a whole. -/
def ofProgram (level : LogLevel) (message : String) : LogLine := ⟨level, "rulestream", message⟩

/-- A line of the rule store. -/
def ofStore (level : LogLevel) (message : String) : LogLine := ⟨level, "rulestream_server::store", message⟩

end LogLine

/-! ### The rules -/

namespace RuleStore

/-- What there is to say of a rule that is about to be listed. -/
def seedLog (store : RuleStore) (rule : String) : List LogLine :=
  (match compile rule with
    | .ok _ => []
    | .error e => [.ofStore .warn ("Seeded rule '" ++ rule ++ "' is not valid: " ++ e.message)]) ++
  if rule ∈ store.rules then [.ofStore .warn ("Skipping duplicate seeded rule '" ++ rule ++ "'")] else []

/-- What there is to say of rules that are about to be listed one after the other. -/
def seedsLog (store : RuleStore) : List String → List LogLine
  | [] => []
  | seed :: seeds =>
    let rule := Text.trim seed
    store.seedLog rule ++ (store.addNew rule).seedsLog seeds

end RuleStore

/-- The store for a configuration, given what is found under the path of the rule file, and the lines logged. -/
def loadRules (path : Option String) (content : FileContent) : List LogLine × Except StoreError RuleStore :=
  match path with
  | none =>
    ([⟨.info, "rulestream_server::state", "No rule file configured, starting with an empty rule set"⟩], .ok .empty)
  | some path =>
    match RuleFile.load content with
    | .error e => ([], .error e)
    | .ok file =>
      (RuleStore.empty.seedsLog file.rules ++
        [.ofStore .info ("Loaded " ++ toString file.store.rules.length ++ " rules from " ++ path)], .ok file.store)

/-! ### Starting -/

/-- Why a server does not start. -/
inductive StartError where
  /-- The configuration file could not be read, or is not one; the wording is left open. -/
  | config
  | address
  | rules (e : StoreError)
  deriving DecidableEq

/-- The wording of a failure to start; that of a configuration is left open. -/
def StartError.message : StartError → String
  | config => "invalid configuration"
  | address => "invalid socket address syntax"
  | rules e => e.message

/-- How a start went: the lines logged, and the server with its address. -/
structure Start where
  log : List LogLine
  outcome : Except StartError (Server × SocketAddress)

namespace Start

/-- A server that is ready, for a configuration and its store. -/
def server (c : Config) (store : RuleStore) : Server where
  store := store
  gate := .ofToken c.adminToken
  limit := c.maxMessageBytes
  exposition := if c.metricsEnabled then some {} else none

/-- The lines of a server that begins to listen. -/
def readyLog (c : Config) (store : RuleStore) (address : SocketAddress) : List LogLine :=
  (if c.metricsEnabled then [LogLine.ofProgram .info "Metrics exporter initialized"] else []) ++
    [.ofProgram .info ("Serving " ++ toString store.rules.length ++ " rules"),
      ⟨.info, "rulestream_server::app", "RuleStream listening on http://" ++ address.render⟩,
      ⟨.info, "rulestream_server::app", "Classification sessions at ws://" ++ address.render ++ "/ws"⟩]

/-- A start from a configuration, given what is found under the path of its rule file. -/
def ofConfig (c : Config) (rules : FileContent) : Start :=
  let warning :=
    if c.adminToken.isNone then
      [LogLine.ofProgram .warn "No admin token configured, rule administration endpoints are disabled"]
    else []
  match c.address? with
  | none => ⟨warning, .error .address⟩
  | some address =>
    match loadRules c.rulesPath rules with
    | (log, .error e) => ⟨warning ++ log, .error (.rules e)⟩
    | (log, .ok store) => ⟨warning ++ log ++ readyLog c store address, .ok (server c store, address)⟩

/-- What is found under the path of the rule file, if there is one. -/
def rulesContent [Monad m] (find : String → m FileContent) (c : Config) : m FileContent :=
  match c.rulesPath with
  | none => pure .missing
  | some path => find path

/-- A start as the command line asks for it, where `find` finds what is under a path. -/
def run [Monad m] (find : String → m FileContent) (o : ServeOptions) : m Start := do
  let first := LogLine.ofProgram .info "Starting RuleStream"
  match Config.load (← find o.config) o with
  | none => return ⟨[first], .error .config⟩
  | some c =>
    let start := ofConfig c (← rulesContent find c)
    return { start with
      log := [first, .ofProgram .info ("Configuration loaded from " ++ o.config)] ++ start.log }

end Start

/-! ### Serving -/

/-- What comes to a server that listens: a request, or a connection on which texts arrive one after the other. -/
inductive Visit where
  | request (r : Request)
  | conversation (texts : List String)

/-- What a visit gets. -/
inductive VisitAnswer where
  | response (r : Response)
  | replies (answers : List FrameAnswer)

namespace Server

/-- What a visit gets, and the server after it. -/
def visit (s : Server) : Visit → Reply VisitAnswer
  | .request r =>
    let reply := s.handle r
    ⟨.response reply.answer, reply.server, reply.log⟩
  | .conversation texts =>
    let (answers, s) := s.converse (texts.map Frame.text)
    ⟨.replies answers, s, []⟩

/-- What visits get that come one after the other. -/
def visitAll (s : Server) : List Visit → Reply (List VisitAnswer)
  | [] => ⟨[], s, []⟩
  | v :: vs =>
    let reply := s.visit v
    let rest := reply.server.visitAll vs
    ⟨reply.answer :: rest.answer, rest.server, reply.log ++ rest.log⟩

/-- The lines of a server that stops. -/
def stopLog : List LogLine :=
  [.ofProgram .warn "Shutdown signal received, stopping server...", .ofProgram .info "Server shutdown complete"]

end Server

/-- A server's life from its start to its end: the lines logged, the answers given, and why it did not start if it
    did not. -/
structure ServeRun where
  log : List LogLine
  answers : List VisitAnswer
  failure : Option StartError

namespace ServeRun

/-- The life of a server that is visited and then told to stop. -/
def ofVisits (start : Start) (visits : List Visit) : ServeRun :=
  match start.outcome with
  | .error e => ⟨start.log, [], some e⟩
  | .ok (server, _) =>
    let reply := server.visitAll visits
    ⟨start.log ++ reply.log ++ Server.stopLog, reply.answer, none⟩

/-- The exit status of a server. -/
def status (r : ServeRun) : Nat := if r.failure.isNone then 0 else 1

end ServeRun
end TextRules
