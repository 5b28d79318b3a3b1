import TextRules.Server.Handlers

/-!
Which request reaches which handler. Requests pass, from the outside in, the answer to preflight requests, the
    limit on announced lengths, the choice of the route by the exact path, the admin gate on the rules, and
    the choice of the handler by the method. Where a path is known but not the method, the answer, whatever
    it is, names the methods there are. A HEAD request is answered like GET without the body.
-/

namespace TextRules

/-- A path that the server knows. -/
inductive Route where
  | health
  | metrics
  | stats
  | eval
  | rules
  | websocket
  deriving DecidableEq

namespace Route

/-- The route of a path. -/
def ofPath? (path : String) : Option Route :=
  if path = "/health" then some health
  else if path = "/metrics" then some metrics
  else if path = "/api/stats" then some stats
  else if path = "/api/eval" then some eval
  else if path = "/api/rules" then some rules
  else if path = "/ws" then some websocket
  else none

/-- The methods that a route knows. -/
def methods : Route → List String
  | eval => ["POST"]
  | rules => ["GET", "HEAD", "POST", "PUT", "DELETE"]
  | _ => ["GET", "HEAD"]

end Route

namespace Server

/-- The handler of a route for one of its methods, behind the gate. -/
def dispatch (s : Server) (route : Route) (r : Request) : Reply Response :=
  match route with
  | .health => s.answer (.plain 200 "OK")
  | .metrics => s.metrics
  | .stats => s.answer (.json 200 s.statsDocument)
  | .eval => s.handleEval r
  | .rules => s.handleRules r
  | .websocket => s.handleUpgrade r

/-- The answer of a route, or that the method is not one of its methods. -/
def dispatchMethod (s : Server) (route : Route) (r : Request) : Reply Response :=
  if r.method ∈ route.methods then s.dispatch route r else s.answer (.bare 405)

/-- The answer of a route; requests on the rules pass the gate first. -/
def dispatchGated (s : Server) (route : Route) (r : Request) : Reply Response :=
  if route = .rules then
    match s.gate.authorize (r.headerValues "authorization") with
    | .error e =>
      { s.refuse (.ofGateError e) with
        log := [.ofRequest .warn ("Rejected admin request to /rules: " ++ e.message)] }
    | .ok () => s.dispatchMethod route r
  else s.dispatchMethod route r

/-- The answer behind the limit on announced lengths. -/
def dispatchLimited (s : Server) (route : Option Route) (r : Request) : Reply Response :=
  if (r.announcedLength?).any (· > s.limit) then s.answer (.plain 413 "length limit exceeded")
  else
    match route with
    | none => s.answer (.bare 404)
    | some route => s.dispatchGated route r

/-- The answer to a request. -/
def handle (s : Server) (r : Request) : Reply Response :=
  let route := Route.ofPath? r.path
  let reply :=
    if r.method = "OPTIONS" then s.answer { Response.bare 200 with preflight := true }
    else s.dispatchLimited route r
  match route with
  | none => reply
  | some route =>
    if r.method ∉ route.methods then
      { reply with answer := { reply.answer with allow := some (",".intercalate route.methods) } }
    else if r.method = "HEAD" then { reply with answer := reply.answer.withoutBody }
    else reply

end Server
end TextRules
