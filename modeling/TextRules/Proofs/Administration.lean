import TextRules.Proofs.Connections
import TextRules.Proofs.Documents
import TextRules.Proofs.Ledger

/-!
The rules over HTTP are the rule store. A request that the gate lets through to the rules is answered with a success
    exactly if its body can be read and the operation that it asks for succeeds on the store, and then both what
    becomes of the list and what the answer says of it are right; otherwise the server stays as it is, and the answer
    says why (`Server.Served`). So the list is at all times what the operations that were answered with a success
    have made of it in order.
-/

namespace TextRules

open Text

/-- A status that stands for success. -/
def isSuccess (status : Nat) : Bool := 200 ≤ status && status < 300

/-- What the answer to an operation that succeeded says, given the lists before and after it. -/
def StoreOperation.Reports (before after : List String) (answer : Response) : StoreOperation → Prop
  | create _ => ∃ named, after.getLast? = some named ∧
      answer.Tells 201 (.object [("message", .string "Rule created"), ("rule", .string named)])
  | update rule _ => ∃ (i : Nat) (named : String), before[i]? = some (trim rule) ∧ after = before.set i named ∧
      answer.Tells 200 (.object [("message", .string "Rule updated"), ("rule", .string named)])
  | delete _ => ∃ named, named ∈ before ∧ named ∉ after ∧
      answer.Tells 200 (.object [("message", .string "Rule deleted"), ("deletedRule", .string named)])

/-- What the answer to an operation that failed says: why, in the words of the store, or in those of the rule error if
    a rule is to blame. -/
inductive StoreError.Explains : StoreError → Response → Prop
  | invalidRule {reason : RuleError} {answer : Response}
    (tells : answer.TellsError 422 "invalid_rule_error" reason.message) : Explains (.invalidRule reason) answer
  | ruleNotFound {rule : String} {answer : Response}
    (tells : answer.TellsError 404 "not_found_error" ("Rule not found: " ++ rule)) : Explains (.ruleNotFound rule) answer
  | ruleExists {rule : String} {answer : Response}
    (tells : answer.TellsError 409 "conflict_error" ("Rule already exists: " ++ rule)) :
    Explains (.ruleExists rule) answer

theorem StoreError.Explains.not_success {e : StoreError} {answer : Response} (explains : e.Explains answer) :
    ¬isSuccess answer.status := by
  cases explains with
  | _ tells =>
    rw [tells.status_eq]
    decide

/-! ### Single operations -/

theorem Request.method_of_operation? {r : Request} {limit : Nat} {op : StoreOperation}
    (asked : r.operation? limit = some op) : ∃ m : RuleMethod, r.method = m.name := by
  unfold operation? at asked
  cases method : RuleMethod.ofName? r.method with
  | none =>
    rw [method] at asked
    cases asked
  | some m => exact ⟨m, RuleMethod.name_of_ofName? method⟩

namespace RuleStore
variable {store : RuleStore}

/-- An operation fails because of a rule that does not compile, one that is not listed or one that is. -/
theorem apply_eq_error {op : StoreOperation} {e : StoreError} (failed : (store.apply op).1 = .error e) :
    (∃ reason, e = .invalidRule reason) ∨ (∃ rule, e = .ruleNotFound rule) ∨ ∃ rule, e = .ruleExists rule := by
  cases op with
  | create rule =>
    simp only [apply, create] at failed
    grind
  | update rule replacement =>
    simp only [apply, update] at failed
    grind
  | delete rule =>
    simp only [apply, delete] at failed
    grind

theorem succeeded_append (store : RuleStore) (ops later : List StoreOperation) :
    store.succeeded (ops ++ later) = store.succeeded ops ++ (store.run ops).succeeded later := by
  induction ops generalizing store with
  | nil => rfl
  | cons op ops ih =>
    simp only [List.cons_append, succeeded, ih]
    split <;> rfl

end RuleStore

namespace Server
variable {s : Server} {r : Request}

/-- An operation that succeeds is answered with what it did. -/
theorem reports_carryOut (once : s.store.rules.Nodup) {op : StoreOperation} (accepted : s.store.Accepts op) :
    op.Reports s.store.rules (s.store.effect op).rules (s.carryOut op).answer ∧
      isSuccess (s.carryOut op).answer.status := by
  cases op with
  | create rule =>
    have created := RuleStore.create_eq_ok.mpr ⟨accepted.1, accepted.2, rfl⟩
    rw [carryOut, createRule, created]
    exact ⟨⟨trim rule, List.getLast?_concat, Response.tells_json 201 (.pair ..)⟩, rfl⟩
  | update rule replacement =>
    have updated := RuleStore.update_eq_ok.mpr ⟨accepted.1, accepted.2.1, accepted.2.2, rfl⟩
    obtain ⟨place, found⟩ := Option.isSome_iff_exists.mp (List.isSome_idxOf?.mpr accepted.2.1)
    rw [carryOut, updateRule, updated]
    exact ⟨⟨place, trim replacement, RuleStore.getElem?_of_idxOf? found, (RuleStore.set_eq_replace found _).symm,
      Response.tells_json 200 (.pair ..)⟩, rfl⟩
  | delete rule =>
    have deleted := RuleStore.delete_eq_ok.mpr ⟨accepted, rfl, rfl⟩
    rw [carryOut, deleteRule, deleted]
    exact ⟨⟨trim rule, accepted, once.not_mem_erase, Response.tells_json 200 (.pair ..)⟩, rfl⟩

theorem answer_carryOut {op : StoreOperation} {e : StoreError} (failed : (s.store.apply op).1 = .error e) :
    (s.carryOut op).answer = (ApiError.ofStoreError e).response := by
  cases op with
  | create rule =>
    cases h : s.store.create rule <;> simp_all [carryOut, createRule, RuleStore.apply, refuse, answer]
  | update rule replacement =>
    cases h : s.store.update rule replacement <;> simp_all [carryOut, updateRule, RuleStore.apply, refuse, answer]
  | delete rule =>
    cases h : s.store.delete rule <;> simp_all [carryOut, deleteRule, RuleStore.apply, refuse, answer]

/-- An operation that fails is answered with the reason. -/
theorem explains_carryOut {op : StoreOperation} {e : StoreError} (failed : (s.store.apply op).1 = .error e) :
    e.Explains (s.carryOut op).answer := by
  rw [answer_carryOut failed]
  rcases RuleStore.apply_eq_error failed with ⟨reason, rfl⟩ | ⟨rule, rfl⟩ | ⟨rule, rfl⟩
  · exact .invalidRule (Response.tellsError_json ..)
  · exact .ruleNotFound (Response.tellsError_json ..)
  · exact .ruleExists (Response.tellsError_json ..)

/-! ### Requests -/

/-- What becomes of a request to change the rules: what the store makes of the operation that it asks for. -/
def Served (s : Server) (r : Request) (reply : Reply Response) : Prop :=
  match r.operation? s.limit with
  | none => ¬isSuccess reply.answer.status ∧ reply.server = s ∧
      ∃ m rejection, RuleMethod.ofName? r.method = some m ∧ r.readBody s.limit m.schema = .error rejection ∧
        reply.answer = ⟨rejection.status, some "application/json", .invalidRequest, none, false⟩
  | some op =>
    match s.store.apply op with
    | (.ok _, store) => isSuccess reply.answer.status ∧ reply.server = { s with store := store } ∧
        op.Reports s.store.rules store.rules reply.answer
    | (.error e, _) => ¬isSuccess reply.answer.status ∧ reply.server = s ∧ e.Explains reply.answer

theorem served_carryOut (once : s.store.rules.Nodup) {op : StoreOperation} (asked : r.operation? s.limit = some op) :
    s.Served r (s.carryOut op) := by
  have server := server_carryOut s op
  simp only [Served, asked]
  rcases s.store.apply_cases op with ⟨removed, accepted, applied⟩ | ⟨e, -, applied⟩
  · obtain ⟨reports, success⟩ := reports_carryOut once accepted
    rw [applied] at server ⊢
    exact ⟨success, server, reports⟩
  · have explains := explains_carryOut (congrArg Prod.fst applied)
    rw [applied] at server ⊢
    exact ⟨explains.not_success, server, explains⟩

theorem served_refuse {m : RuleMethod} (method : r.method = m.name) {rejection : BodyRejection}
    (read : r.readBody s.limit m.schema = .error rejection) (unasked : r.operation? s.limit = none) :
    s.Served r (s.refuse (.invalidRequest rejection)) := by
  have named : RuleMethod.ofName? r.method = some m := method ▸ RuleMethod.ofName?_name m
  unfold Served
  rw [unasked]
  refine ⟨?_, rfl, m, rejection, named, read, rfl⟩
  cases rejection <;> exact Bool.false_ne_true

theorem served_handle {m : RuleMethod} (once : s.store.rules.Nodup) (path : r.path = "/api/rules")
    (method : r.method = m.name) (within : r.isWithin s.limit = true) (admitted : s.gate.admits r = true) :
    s.Served r (s.handle r) := by
  rw [handle_rules_admitted path (method ▸ name_mem_ruleMethods m) within admitted]
  rcases handleRules_of_method method s with ⟨rejection, read, unasked, h⟩ | ⟨op, asked, h⟩
  · exact h ▸ served_refuse method read unasked
  · exact h ▸ served_carryOut once asked

/-- The answer is a success exactly if the body can be read and the operation in it succeeds. -/
theorem Served.success_iff {reply : Reply Response} (served : s.Served r reply) :
    isSuccess reply.answer.status ↔ ∃ op, r.operation? s.limit = some op ∧ (s.store.apply op).1.isOk := by
  unfold Served at served
  cases asked : r.operation? s.limit with
  | none =>
    simp only [asked] at served
    simp [served.1]
  | some op =>
    simp only [asked] at served
    simp only [Option.some.injEq, exists_eq_left']
    rcases applied : s.store.apply op with ⟨removed | e, store⟩
    · rw [applied] at served
      exact iff_of_false served.1 Bool.false_ne_true
    · rw [applied] at served
      exact iff_of_true served.1 rfl

/-- A request that asks for an operation is answered with a success exactly if it comes through and the operation
    succeeds. -/
theorem isSuccess_handle {op : StoreOperation} (once : s.store.rules.Nodup) (path : r.path = "/api/rules")
    (asked : r.operation? s.limit = some op) : isSuccess (s.handle r).answer.status ↔
      r.isWithin s.limit = true ∧ s.gate.admits r = true ∧ (s.store.apply op).1.isOk := by
  obtain ⟨m, method⟩ := Request.method_of_operation? asked
  by_cases within : r.isWithin s.limit = true
  · by_cases admitted : s.gate.admits r = true
    · rw [(served_handle once path method within admitted).success_iff, asked]
      simp [within, admitted]
    · obtain ⟨e, error⟩ := authorize_of_not_admits admitted
      rw [answer_rules_refused path (method ▸ name_mem_ruleMethods m) error, if_pos within]
      exact iff_of_false Bool.false_ne_true fun h => admitted h.2.1
  · rw [handle_rules path (method ▸ name_mem_ruleMethods m), if_neg within]
    exact iff_of_false Bool.false_ne_true fun h => within h.1

end Server

/-! ### Everything that arrives -/

namespace LiveServer
variable {l : LiveServer}

/-- The operation on the rules that an arrival has carried out, as its answer shows. -/
def carriedOut (l : LiveServer) (a : Arrival) : List StoreOperation :=
  match a, (l.arrive a).1 with
  | .event (.request r), .response answer =>
    if r.path = "/api/rules" ∧ isSuccess answer.status then (r.operation? l.server.limit).toList else []
  | .event (.store op), .store outcome => if outcome.isOk then [op] else []
  | _, _ => []

theorem operation?_request (l : LiveServer) (r : Request) : l.operation? (.event (.request r)) =
    if r.isWithin l.server.limit ∧ r.path = "/api/rules" ∧ l.server.gate.admits r then r.operation? l.server.limit
    else none := by
  unfold operation? Server.demand?
  by_cases within : r.isWithin l.server.limit = true
  · by_cases path : r.path = "/api/rules"
    · by_cases admitted : l.server.gate.admits r = true
      · cases asked : r.operation? l.server.limit <;> simp [within, path, admitted, asked]
      · simp [within, path, admitted]
    · by_cases eval : r.path = "/api/eval" ∧ r.method = "POST"
      · cases r.evaluation? l.server.limit <;> simp [within, eval]
      · simp [within, path, eval]
  · simp [within]

theorem carriedOut_eq (once : l.server.store.rules.Nodup) (a : Arrival) :
    l.carriedOut a = ((l.operation? a).filter fun op => (l.server.store.apply op).1.isOk).toList := by
  cases a with
  | event e =>
    cases e with
    | request r =>
      have shown : l.carriedOut (.event (.request r)) =
          if r.path = "/api/rules" ∧ isSuccess (l.server.handle r).answer.status then
            (r.operation? l.server.limit).toList
          else [] := rfl
      rw [shown, operation?_request]
      -- A request that asks for no operation may well be answered with a success, as one for the list is.
      cases asked : r.operation? l.server.limit with
      | none => simp
      | some op =>
        by_cases path : r.path = "/api/rules"
        · simp only [path, Server.isSuccess_handle once path asked]
          grind
        · simp [path]
    | store op =>
      have shown : l.carriedOut (.event (.store op)) =
          if (l.server.store.apply op).1.isOk then [op] else [] := rfl
      rw [shown, operation?, Option.filter_some]
      split <;> rfl
    | connect id | frame id f => rfl
  | lastFrame id f => rfl

/-- An arrival changes the rules by what it has carried out, which succeeds. -/
theorem store_run_carriedOut (once : l.server.store.rules.Nodup) (a : Arrival) :
    (l.arrive a).2.server.store = l.server.store.run (l.carriedOut a) ∧
      l.server.store.succeeded (l.carriedOut a) = l.carriedOut a := by
  rw [store_arrive, carriedOut_eq once]
  cases l.operation? a with
  | none => exact ⟨rfl, rfl⟩
  | some op =>
    rcases l.server.store.apply_cases op with ⟨removed, -, applied⟩ | ⟨e, -, applied⟩ <;>
      simp [Option.filter_some, applied, RuleStore.run, RuleStore.succeeded, Except.isOk, Except.toBool]

theorem store_afterAll (once : l.server.store.rules.Nodup) (as : List Arrival) :
    (l.afterAll as).server.store = l.server.store.run (l.noted carriedOut as) ∧
      l.server.store.succeeded (l.noted carriedOut as) = l.noted carriedOut as := by
  -- Each arrival leaves every rule listed once, without which the next answer could not be read.
  induction as generalizing l with
  | nil => exact ⟨rfl, rfl⟩
  | cons a as ih =>
    obtain ⟨store, succeeds⟩ := store_run_carriedOut once a
    have once' : (l.arrive a).2.server.store.rules.Nodup := store ▸ RuleStore.run_nodup once _
    obtain ⟨rest, succeed⟩ := ih once'
    rw [store] at rest succeed
    rw [afterAll_cons, noted, RuleStore.run_append, RuleStore.succeeded_append, succeeds, succeed]
    exact ⟨rest, rfl⟩

end LiveServer

/-- On every server that can be reached, a request to change the rules that the gate lets through is served as the
    store serves the operation in its body, and is answered with a success exactly if there is one and it succeeds.
    The rules are what the operations that were answered with a success have made of the seeds in order, and each of
    these succeeds in its turn; a request for the list is answered with that list, and changes nothing. -/
theorem rules_administered (seeds : List String) (l : LiveServer) (as : List Arrival)
    (seeded : l.server.store = .ofSeeds seeds) :
    let s := (l.afterAll as).server
    let done := l.noted LiveServer.carriedOut as
    (∀ (m : RuleMethod) (r : Request), r.path = "/api/rules" → r.method = m.name → r.isWithin s.limit = true →
      s.gate.admits r = true → s.Served r (s.handle r) ∧
        (isSuccess (s.handle r).answer.status ↔
          ∃ op, r.operation? s.limit = some op ∧ (s.store.apply op).1.isOk)) ∧
    s.store = (RuleStore.ofSeeds seeds).run done ∧ (RuleStore.ofSeeds seeds).succeeded done = done ∧
    ∀ r : Request, r.path = "/api/rules" → r.method = "GET" → r.isWithin s.limit = true → s.gate.admits r = true →
      ∃ answer, s.handle r = s.answer answer ∧
        answer.Tells 200 (.array (((RuleStore.ofSeeds seeds).run done).rules.map .string)) := by
  intro s done
  have start : l.server.store.rules.Nodup := seeded ▸ RuleStore.ofSeeds_nodup seeds
  obtain ⟨store, succeed⟩ := LiveServer.store_afterAll start as
  rw [seeded] at store succeed
  have once : s.store.rules.Nodup := store ▸ RuleStore.run_nodup (RuleStore.ofSeeds_nodup seeds) _
  refine ⟨fun m r path method within admitted => ?_, store, succeed, fun r path method within admitted => ?_⟩
  · have served := Server.served_handle once path method within admitted
    exact ⟨served, served.success_iff⟩
  · have listed : s.handleRules r = s.listRules := by
      unfold Server.handleRules
      rw [method]
      rfl
    rw [Server.handle_rules_admitted path (by rw [method]; decide) within admitted, listed, Server.listRules, store]
    exact ⟨_, rfl, Response.tells_json 200 (.array (by simp [Json.Legible.string]))⟩

/-- A rule is created, refused as it is listed already, replaced with a body that cannot be read, and replaced, with a
    connection and a removal that does not come by a request in between. -/
theorem rules_administered_replaced :
    let key := ("Authorization", Utf8.encode "Bearer key".toList)
    let json := ("Content-Type", Utf8.encode "application/json".toList)
    let body (text : String) : List UInt8 := Utf8.encode text.toList
    let l : LiveServer := ⟨⟨.ofSeeds ["max() = 'a'", "broken"], .ofToken (some "key"), 100, {}, none⟩, []⟩
    let creation : Request := ⟨"POST", "/api/rules", [key, json], body "\x7b\"ruleName\":\" sum() > 1 \"\x7d"⟩
    let halved : Request := ⟨"PUT", "/api/rules", [key, json], body "\x7b\"ruleName\":\"broken\"\x7d"⟩
    let replacement : Request := ⟨"PUT", "/api/rules", [json, key], body "[\"broken\",\"sum() > 2\"]"⟩
    let listing : Request := ⟨"GET", "/api/rules", [key], []⟩
    let as : List Arrival := [.event (.request creation), .event (.connect "a"), .event (.request creation),
      .event (.request halved), .event (.store (.delete "max() = 'a'"))]
    let s := (l.afterAll as).server
    s.store.rules = ["broken", "sum() > 1"] ∧
      s.store = (RuleStore.ofSeeds ["max() = 'a'", "broken"]).run (l.noted LiveServer.carriedOut as) ∧
      s.Served replacement (s.handle replacement) ∧
      (s.handle replacement).server.store.rules = ["sum() > 2", "sum() > 1"] ∧
      (s.handle replacement).answer.text? = some "\x7b\"message\":\"Rule updated\",\"rule\":\"sum() > 2\"\x7d" ∧
      s.Served creation (s.handle creation) ∧ (s.handle creation).answer.text? = some
        "\x7b\"error\":\x7b\"message\":\"Rule already exists: sum() > 1\",\"type\":\"conflict_error\"\x7d\x7d" ∧
      ∃ answer, s.handle listing = s.answer answer ∧ answer.text? = some "[\"broken\",\"sum() > 1\"]" ∧
        Json.read? "[\"broken\",\"sum() > 1\"]" = some (.array [.string "broken", .string "sum() > 1"]) := by
  intro key json body l creation halved replacement listing as s
  obtain ⟨serves, store, -, lists⟩ := rules_administered ["max() = 'a'", "broken"] l as rfl
  have rules : s.store.rules = ["broken", "sum() > 1"] := by decide +kernel
  refine ⟨rules, store, ?_, by decide +kernel, by decide +kernel, ?_, by decide +kernel, ?_⟩
  · exact (serves .put replacement (by decide +kernel) rfl (by decide +kernel) (by decide +kernel)).1
  · exact (serves .post creation (by decide +kernel) rfl (by decide +kernel) (by decide +kernel)).1
  · obtain ⟨answer, listed, tells⟩ := lists listing (by decide +kernel) rfl (by decide +kernel) (by decide +kernel)
    have text : (Json.array [.string "broken", .string "sum() > 1"]).render = "[\"broken\",\"sum() > 1\"]" := by
      decide +kernel
    rw [← store, rules] at tells
    exact ⟨answer, listed, tells.whole ▸ congrArg some text, text ▸ tells.read⟩

end TextRules
