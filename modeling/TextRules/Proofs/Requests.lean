import TextRules.Proofs.Bodies
import TextRules.Proofs.Store
import TextRules.Server.Router

/-!
What a request may do to a server. A request that comes through with a body that can be read asks for an evaluation or
    for an operation on the rules (`Server.demand?`), and it does to the server what it asks for and nothing else
    (`Server.server_handle`); every other request leaves the server as it is. On the rules only those requests come
    through whose first Authorization value the gate accepts.
-/

namespace TextRules

/-! ### Methods that change the rules -/

/-- A method by which a request asks for a change of the rules. -/
inductive RuleMethod where
  | post
  | put
  | delete

namespace RuleMethod

/-- The methods that change the rules. -/
def all : List RuleMethod := [post, put, delete]

/-- The method as a request names it. -/
def name : RuleMethod → String
  | post => "POST"
  | put => "PUT"
  | delete => "DELETE"

/-- The method of a name. -/
def ofName? (name : String) : Option RuleMethod := all.find? (·.name == name)

/-- The record that the body has to hold. -/
def schema : RuleMethod → Json.Schema
  | post | delete => Server.ruleSchema
  | put => Server.updateSchema

/-- The operation that the texts in the body ask for. -/
def operation? (found : Json.Found) : RuleMethod → Option StoreOperation
  | post => (found.text? "ruleName").map .create
  | put => (found.text? "ruleName").bind fun rule => (found.text? "updatedRule").map (.update rule)
  | delete => (found.text? "ruleName").map .delete

/-- The operation on what the handlers take out of the body. -/
def operation (found : Json.Found) : RuleMethod → StoreOperation
  | post => .create (Server.textOf found "ruleName")
  | put => .update (Server.textOf found "ruleName") (Server.textOf found "updatedRule")
  | delete => .delete (Server.textOf found "ruleName")

theorem ofName?_name (m : RuleMethod) : ofName? m.name = some m := by cases m <;> rfl

theorem name_of_ofName? {name : String} {m : RuleMethod} (h : ofName? name = some m) : name = m.name := by
  have same := List.find?_some h
  exact (beq_iff_eq.mp same).symm

theorem ne_of_ofName? {name : String} (h : ofName? name = none) (m : RuleMethod) : name ≠ m.name := by
  rintro rfl
  rw [ofName?_name] at h
  cases h

theorem allTexts_schema (m : RuleMethod) : Json.AllTexts m.schema := by
  intro member listed
  cases m <;> simp [schema, Server.ruleSchema, Server.updateSchema] at listed <;> grind

theorem operation?_eq (m : RuleMethod) {found : Json.Found}
    (texts : ∀ name, (name, .text) ∈ m.schema → found.text? name = some (Server.textOf found name)) :
    m.operation? found = some (m.operation found) := by
  cases m with
  | post | delete =>
    have rule := texts "ruleName" List.mem_cons_self
    simp only [operation?, operation, rule, Option.map_some]
  | put =>
    have rule := texts "ruleName" List.mem_cons_self
    have replacement := texts "updatedRule" (List.mem_cons_of_mem _ List.mem_cons_self)
    simp only [operation?, operation, rule, replacement, Option.bind_some, Option.map_some]

end RuleMethod

/-! ### What a request asks for -/

namespace Request

/-- Whether the length that the request announces, if it announces one, is within a limit. -/
def isWithin (r : Request) (limit : Nat) : Bool := !(r.announcedLength?).any (· > limit)

theorem isWithin_iff {r : Request} {limit : Nat} :
    r.isWithin limit = true ↔ ¬(r.announcedLength?).any (· > limit) = true := by
  rw [isWithin, Bool.not_eq_true', Bool.not_eq_true]

/-- The operation that the method and the body ask for, if the body can be read. -/
def operation? (r : Request) (limit : Nat) : Option StoreOperation :=
  match RuleMethod.ofName? r.method with
  | none => none
  | some m =>
    match r.readBody limit m.schema with
    | .error _ => none
    | .ok found => m.operation? found

/-- The rule and the text that the body asks to evaluate, if it can be read. -/
def evaluation? (r : Request) (limit : Nat) : Option (String × String) :=
  match r.readBody limit Server.evalSchema with
  | .error _ => none
  | .ok found => (found.text? "rule").bind fun rule => (found.text? "str").map (rule, ·)

end Request

/-- Whether the first Authorization value of a request is one that the gate accepts. -/
def Gate.admits (gate : Gate) (r : Request) : Bool :=
  match (r.headerValues "authorization").head? with
  | none => false
  | some value => (gate.authorize [value]).isOk

/-- What a request asks of a server. -/
inductive Demand where
  | evaluation (rule subject : String)
  | operation (op : StoreOperation)

/-- The path of a route. -/
def Route.path : Route → String
  | health => "/health"
  | metrics => "/metrics"
  | stats => "/api/stats"
  | eval => "/api/eval"
  | rules => "/api/rules"
  | websocket => "/ws"

theorem Route.ofPath?_eq_some_iff {path : String} {route : Route} : ofPath? path = some route ↔ path = route.path := by
  constructor
  · intro h
    unfold ofPath? at h
    split_ifs at h
    all_goals
      cases h
      assumption
  · rintro rfl
    cases route <;> rfl

namespace Server
variable {s s' : Server} {r : Request}

/-- What a request asks for, if it comes through and its body can be read. -/
def demand? (s : Server) (r : Request) : Option Demand :=
  if !r.isWithin s.limit then none
  else if r.path = "/api/eval" ∧ r.method = "POST" then (r.evaluation? s.limit).map fun e => .evaluation e.1 e.2
  else if r.path = "/api/rules" ∧ s.gate.admits r then (r.operation? s.limit).map .operation
  else none

/-- The server once it has done what it was asked for. -/
def fulfilled (s : Server) : Option Demand → Server
  | none => s
  | some (.evaluation rule subject) =>
    { s with telemetry := s.telemetry.evaluated 1 (if (evaluate rule subject).isOk then 0 else 1) }
  | some (.operation op) => { s with store := (s.store.apply op).2 }

/-- An operation on the rules, and its answer. -/
def carryOut (s : Server) : StoreOperation → Reply Response
  | .create rule => s.createRule rule
  | .update rule replacement => s.updateRule rule replacement
  | .delete rule => s.deleteRule rule

/-! ### The gate -/

theorem admits_iff {gate : Gate} : gate.admits r = true ↔ gate.authorize (r.headerValues "authorization") = .ok () := by
  unfold Gate.admits
  cases r.headerValues "authorization" with
  | nil =>
    unfold Gate.authorize
    cases gate.token <;> simp
  | cons value values =>
    have first : gate.authorize (value :: values) = gate.authorize [value] := rfl
    rw [first, List.head?_cons]
    cases h : gate.authorize [value] with
    | ok u => simp [h, Except.isOk, Except.toBool]
    | error e => simp [h, Except.isOk, Except.toBool]

theorem authorize_of_not_admits {gate : Gate} (refused : ¬gate.admits r = true) :
    ∃ e, gate.authorize (r.headerValues "authorization") = .error e := by
  rw [admits_iff] at refused
  cases h : gate.authorize (r.headerValues "authorization") with
  | error e => exact ⟨e, rfl⟩
  | ok u => exact absurd h refused

/-! ### Operations on the rules -/

theorem server_carryOut (s : Server) (op : StoreOperation) :
    (s.carryOut op).server = { s with store := (s.store.apply op).2 } := by
  cases op with
  | create rule =>
    simp only [carryOut, createRule, RuleStore.apply]
    cases s.store.create rule <;> rfl
  | update rule replacement =>
    simp only [carryOut, updateRule, RuleStore.apply]
    cases s.store.update rule replacement <;> rfl
  | delete rule =>
    simp only [carryOut, deleteRule, RuleStore.apply]
    cases s.store.delete rule <;> rfl

theorem handleRules_eq {m : RuleMethod} (method : r.method = m.name) (s : Server) :
    s.handleRules r = s.withBody r m.schema fun found => s.carryOut (m.operation found) := by
  have put_post : "PUT" ≠ "POST" := by decide
  have delete_post : "DELETE" ≠ "POST" := by decide
  have delete_put : "DELETE" ≠ "PUT" := by decide
  cases m with
  | post => exact if_pos method
  | put => exact (if_neg (method ▸ put_post)).trans (if_pos method)
  | delete => exact (if_neg (method ▸ delete_post)).trans ((if_neg (method ▸ delete_put)).trans (if_pos method))

/-- A request by one of the methods is refused if its body cannot be read, and carried out otherwise. -/
theorem handleRules_of_method {m : RuleMethod} (method : r.method = m.name) (s : Server) :
    (∃ rejection, r.readBody s.limit m.schema = .error rejection ∧ r.operation? s.limit = none ∧
      s.handleRules r = s.refuse (.invalidRequest rejection)) ∨
    ∃ op, r.operation? s.limit = some op ∧ s.handleRules r = s.carryOut op := by
  have asked : r.operation? s.limit = match r.readBody s.limit m.schema with
      | .error _ => none
      | .ok found => m.operation? found := by
    rw [Request.operation?, method, RuleMethod.ofName?_name]
  rw [handleRules_eq method, withBody, asked]
  cases read : r.readBody s.limit m.schema with
  | error rejection => exact .inl ⟨rejection, rfl, rfl, rfl⟩
  | ok found =>
    have texts := m.operation?_eq fun name member => text?_of_readBody m.allTexts_schema read member
    exact .inr ⟨m.operation found, texts, rfl⟩

theorem server_handleRules (s : Server) (r : Request) :
    (s.handleRules r).server = s.fulfilled ((r.operation? s.limit).map .operation) := by
  cases method : RuleMethod.ofName? r.method with
  | some m =>
    rcases handleRules_of_method (RuleMethod.name_of_ofName? method) s with ⟨rejection, -, none, h⟩ | ⟨op, asked, h⟩
    · rw [h, none]
      rfl
    · rw [h, asked]
      exact server_carryOut s op
  | none =>
    have other := RuleMethod.ne_of_ofName? method
    have unasked : r.operation? s.limit = none := by rw [Request.operation?, method]
    have listed : s.handleRules r = s.listRules :=
      (if_neg (other .post)).trans ((if_neg (other .put)).trans (if_neg (other .delete)))
    rw [listed, unasked]
    rfl

/-! ### Evaluations -/

theorem server_evaluateOnce (s : Server) (rule subject : String) :
    (s.evaluateOnce rule subject).server = s.fulfilled (some (.evaluation rule subject)) := by
  cases h : evaluate rule subject <;> simp [evaluateOnce, fulfilled, h, refuse, answer, Except.isOk, Except.toBool]

/-- A request for an evaluation is refused if its body cannot be read, and its rule is evaluated otherwise. -/
theorem handleEval_cases (s : Server) (r : Request) :
    (∃ rejection, r.readBody s.limit evalSchema = .error rejection ∧ r.evaluation? s.limit = none ∧
      s.handleEval r = s.refuse (.invalidRequest rejection)) ∨
    ∃ rule subject, r.evaluation? s.limit = some (rule, subject) ∧ s.handleEval r = s.evaluateOnce rule subject := by
  rw [handleEval, withBody, Request.evaluation?]
  cases read : r.readBody s.limit evalSchema with
  | error rejection => exact .inl ⟨rejection, rfl, rfl, rfl⟩
  | ok found =>
    have texts : ∀ name, (name, .text) ∈ evalSchema → found.text? name = some (textOf found name) := fun name =>
      text?_of_readBody (by intro m listed; simp [evalSchema] at listed; grind) read
    have rule := texts "rule" (by simp [evalSchema])
    have subject := texts "str" (by simp [evalSchema])
    exact .inr ⟨textOf found "rule", textOf found "str", by simp only [rule, subject]; rfl, rfl⟩

theorem server_handleEval (s : Server) (r : Request) :
    (s.handleEval r).server = s.fulfilled ((r.evaluation? s.limit).map fun e => .evaluation e.1 e.2) := by
  rcases s.handleEval_cases r with ⟨rejection, -, unasked, h⟩ | ⟨rule, subject, asked, h⟩
  · rw [h, unasked]
    rfl
  · rw [h, asked]
    exact server_evaluateOnce s rule subject

theorem handleEval_of_evaluation? {rule subject : String} (asked : r.evaluation? s.limit = some (rule, subject)) :
    s.handleEval r = s.evaluateOnce rule subject := by
  rcases s.handleEval_cases r with ⟨rejection, -, unasked, -⟩ | ⟨rule', subject', asked', h⟩
  · simp [unasked] at asked
  · rw [asked] at asked'
    cases asked'
    exact h

/-! ### The way through -/

/-- What a request asks for behind the gate, on a route. -/
def demandOn? (s : Server) (route : Route) (r : Request) : Option Demand :=
  match route with
  | .eval => if r.method = "POST" then (r.evaluation? s.limit).map fun e => .evaluation e.1 e.2 else none
  | .rules => (r.operation? s.limit).map .operation
  | .health | .metrics | .stats | .websocket => none

theorem server_dispatchMethod (s : Server) (route : Route) (r : Request) :
    (s.dispatchMethod route r).server = s.fulfilled (s.demandOn? route r) := by
  unfold dispatchMethod
  cases route with
  | health | stats | websocket => split <;> rfl
  | metrics =>
    split
    · simp only [dispatch, metrics]
      split <;> rfl
    · rfl
  | eval =>
    by_cases post : r.method = "POST"
    · rw [if_pos (by simp [Route.methods, post]), demandOn?, if_pos post]
      exact server_handleEval s r
    · rw [if_neg (by simp [Route.methods, post]), demandOn?, if_neg post]
      rfl
  | rules =>
    split
    case isTrue => exact server_handleRules s r
    case isFalse unknown =>
      have unasked : r.operation? s.limit = none := by
        unfold Request.operation?
        cases method : RuleMethod.ofName? r.method with
        | none => rfl
        | some m =>
          rw [RuleMethod.name_of_ofName? method] at unknown
          cases m <;> exact absurd (by decide) unknown
      rw [demandOn?, unasked]
      rfl

theorem server_dispatchGated (s : Server) (route : Route) (r : Request) : (s.dispatchGated route r).server =
    if route = .rules ∧ ¬s.gate.admits r then s else s.fulfilled (s.demandOn? route r) := by
  unfold dispatchGated
  by_cases rules : route = .rules
  · rw [if_pos rules]
    by_cases admitted : s.gate.admits r = true
    · rw [admits_iff.mp admitted, if_neg (fun h => h.2 admitted)]
      exact server_dispatchMethod s route r
    · obtain ⟨e, refused⟩ := authorize_of_not_admits admitted
      rw [refused, if_pos ⟨rules, admitted⟩]
      rfl
  · rw [if_neg rules, if_neg (fun h => rules h.1)]
    exact server_dispatchMethod s route r

theorem demand?_eq_none_of_options (options : r.method = "OPTIONS") (s : Server) : s.demand? r = none := by
  have unasked : r.operation? s.limit = none := by
    rw [Request.operation?, options]
    rfl
  have other : ¬r.method = "POST" := by
    rw [options]
    decide
  simp only [demand?, unasked, other, and_false, if_false, Option.map_none, ite_self]

theorem demand?_of_route {route : Route} (path : Route.ofPath? r.path = some route) (within : r.isWithin s.limit = true) :
    s.demand? r = if route = .rules ∧ ¬s.gate.admits r then none else s.demandOn? route r := by
  simp only [demand?, within, Route.ofPath?_eq_some_iff.mp path]
  cases route with
  | eval => simp [Route.path, demandOn?]
  | rules =>
    by_cases admitted : s.gate.admits r = true <;> simp [Route.path, demandOn?, admitted]
  | _ => simp [Route.path, demandOn?]

theorem demand?_of_no_route (path : Route.ofPath? r.path = none) (s : Server) : s.demand? r = none := by
  have other : ∀ route : Route, r.path ≠ route.path := by
    intro route same
    rw [Route.ofPath?_eq_some_iff.mpr same] at path
    cases path
  have eval : r.path ≠ "/api/eval" := other .eval
  have rules : r.path ≠ "/api/rules" := other .rules
  simp [demand?, eval, rules]

/-- A request does to the server what it asks for, and nothing else. -/
theorem server_handle (s : Server) (r : Request) : (s.handle r).server = s.fulfilled (s.demand? r) := by
  -- What is put around the reply concerns its answer only.
  have inner : (s.handle r).server = (if r.method = "OPTIONS" then s.answer { Response.bare 200 with preflight := true }
      else s.dispatchLimited (Route.ofPath? r.path) r).server := by
    simp only [handle]
    cases Route.ofPath? r.path with
    | none => rfl
    | some route =>
      dsimp only
      split_ifs <;> rfl
  rw [inner]
  by_cases options : r.method = "OPTIONS"
  · rw [if_pos options, demand?_eq_none_of_options options]
    rfl
  · rw [if_neg options]
    unfold dispatchLimited
    by_cases within : r.isWithin s.limit = true
    · rw [if_neg (Request.isWithin_iff.mp within)]
      cases path : Route.ofPath? r.path with
      | none =>
        rw [demand?_of_no_route path]
        rfl
      | some route =>
        rw [demand?_of_route path within]
        refine (server_dispatchGated s route r).trans ?_
        split <;> rfl
    · have long := not_not.mp (Request.isWithin_iff.not.mp within)
      have unasked : s.demand? r = none := by simp only [demand?, within, Bool.not_false, if_true]
      rw [if_pos long, unasked]
      rfl

/-! ### What a request leaves alone -/

/-- What a request may make of a server. -/
inductive Touched (s : Server) : Server → Prop
  | kept : Touched s s
  | evaluated (failures : UInt64) : Touched s { s with telemetry := s.telemetry.evaluated 1 failures }
  | changed (op : StoreOperation) : Touched s { s with store := (s.store.apply op).2 }

theorem Touched.limit_eq (touched : Touched s s') : s'.limit = s.limit := by cases touched <;> rfl

theorem Touched.gate_eq (touched : Touched s s') : s'.gate = s.gate := by cases touched <;> rfl

theorem touched_handle (s : Server) (r : Request) : Touched s (s.handle r).server := by
  rw [server_handle]
  cases s.demand? r with
  | none => exact .kept
  | some demand =>
    cases demand with
    | evaluation rule subject => exact .evaluated _
    | operation op => exact .changed op

/-! ### Answers -/

theorem options_notMem (route : Route) : "OPTIONS" ∉ route.methods := by cases route <;> decide

/-- A request by one of the methods of a route goes on to the gate if it is within the limit. -/
theorem handle_of_known {route : Route} (path : r.path = route.path) (known : r.method ∈ route.methods)
    (head : r.method ≠ "HEAD") (s : Server) : s.handle r =
      if r.isWithin s.limit then s.dispatchGated route r else s.answer (.plain 413 "length limit exceeded") := by
  have options : r.method ≠ "OPTIONS" := fun h => options_notMem route (h ▸ known)
  simp only [handle, Route.ofPath?_eq_some_iff.mpr path, dispatchLimited, known, not_true, if_false, if_neg options,
    if_neg head]
  by_cases within : r.isWithin s.limit = true
  · rw [if_pos within, if_neg (Request.isWithin_iff.mp within)]
  · rw [if_neg within, if_pos (not_not.mp (Request.isWithin_iff.not.mp within))]

theorem handle_eval (path : r.path = "/api/eval") (method : r.method = "POST") (within : r.isWithin s.limit = true) :
    s.handle r = s.handleEval r := by
  have known : r.method ∈ Route.eval.methods := by simp [Route.methods, method]
  have head : r.method ≠ "HEAD" := by simp [method]
  have handled : s.handle r = if r.isWithin s.limit then s.dispatchGated .eval r
      else s.answer (.plain 413 "length limit exceeded") := handle_of_known path known head s
  rw [handled, if_pos within]
  exact if_pos known

/-! ### Answers to requests on the rules -/

/-- The methods of the rules that are answered with what they say. -/
def ruleMethods : List String := ["GET", "POST", "PUT", "DELETE"]

theorem mem_methods_of_mem_ruleMethods {method : String} (h : method ∈ ruleMethods) : method ∈ Route.rules.methods := by
  simp only [ruleMethods, List.mem_cons, List.not_mem_nil, or_false] at h
  rcases h with rfl | rfl | rfl | rfl <;> decide

theorem name_mem_ruleMethods (m : RuleMethod) : m.name ∈ ruleMethods := by cases m <;> decide

theorem handle_rules (path : r.path = "/api/rules") (method : r.method ∈ ruleMethods) (s : Server) : s.handle r =
    if r.isWithin s.limit then s.dispatchGated .rules r else s.answer (.plain 413 "length limit exceeded") := by
  have head : r.method ≠ "HEAD" := by
    intro h
    rw [h] at method
    exact absurd method (by decide)
  exact handle_of_known path (mem_methods_of_mem_ruleMethods method) head s

theorem handle_rules_admitted (path : r.path = "/api/rules") (method : r.method ∈ ruleMethods)
    (within : r.isWithin s.limit = true) (admitted : s.gate.admits r = true) : s.handle r = s.handleRules r := by
  have known := mem_methods_of_mem_ruleMethods method
  rw [handle_rules path method, if_pos within, dispatchGated, if_pos rfl, admits_iff.mp admitted]
  exact if_pos known

/-- What a request on the rules is answered that the gate does not let through depends on the gate and the limit, and
    on nothing else of the server. -/
theorem answer_rules_refused (path : r.path = "/api/rules") (method : r.method ∈ ruleMethods) {e : GateError}
    (refused : s.gate.authorize (r.headerValues "authorization") = .error e) : (s.handle r).answer =
      if r.isWithin s.limit then (ApiError.ofGateError e).response else .plain 413 "length limit exceeded" := by
  rw [handle_rules path method]
  split
  · rw [dispatchGated, if_pos rfl, refused]
    rfl
  · rfl

end Server
end TextRules
