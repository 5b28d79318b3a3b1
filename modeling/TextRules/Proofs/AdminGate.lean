import TextRules.Proofs.Connections

/-!
The rules change only through the admin gate. A request that the gate does not let through asks for no operation on
    the rules, so a sequence of such requests, with connections in between, leaves the rules as they are. Requests
    on the rules are then refused with answers that say nothing about the rules, and count nowhere.
-/

namespace TextRules

/-- Whether an arrival comes from a client, by a request or on a connection. -/
def Arrival.isFromClient : Arrival → Bool
  | .event (.store _) => false
  | .event (.request _) | .event (.connect _) | .event (.frame ..) | .lastFrame .. => true

/-! ### Gates that let nobody through -/

theorem Gate.not_admits_of_no_token {token : Option String} (none : token = none ∨ token = some "") (r : Request) :
    ¬(Gate.ofToken token).admits r = true := by
  have closed : (Gate.ofToken token).token = .none := by
    rcases none with rfl | rfl <;> rfl
  rw [Server.admits_iff, authorize, closed]
  simp

/-! ### Requests that the gate refuses -/

namespace Server
variable {s s' : Server} {r : Request}

theorem demand?_of_refused (refused : ¬s.gate.admits r = true) :
    s.demand? r = none ∨ ∃ rule subject, s.demand? r = some (.evaluation rule subject) := by
  unfold demand?
  split
  · exact .inl rfl
  · split
    · cases r.evaluation? s.limit with
      | none => exact .inl rfl
      | some e => exact .inr ⟨e.1, e.2, rfl⟩
    · rw [if_neg (fun h => refused h.2)]
      exact .inl rfl

theorem demand?_of_rules_refused (path : r.path = "/api/rules") (refused : ¬s.gate.admits r = true) :
    s.demand? r = none := by
  simp [demand?, path, refused]

/-- A request on the rules that is refused gets an error that is the same on every server with that gate and limit. -/
theorem answer_of_refused (path : r.path = "/api/rules") (method : r.method ∈ ruleMethods)
    (refused : ¬s.gate.admits r = true) (gate : s'.gate = s.gate) (limit : s'.limit = s.limit) :
    ((s.handle r).answer.status = 401 ∨ (s.handle r).answer.status = 413) ∧
      (s'.handle r).answer = (s.handle r).answer := by
  obtain ⟨e, error⟩ := authorize_of_not_admits refused
  have error' : s'.gate.authorize (r.headerValues "authorization") = .error e := gate ▸ error
  rw [answer_rules_refused path method error, answer_rules_refused path method error', limit]
  refine ⟨?_, rfl⟩
  split
  · exact .inl rfl
  · exact .inr rfl

end Server

/-! ### Sequences of refused requests -/

namespace LiveServer
variable {l : LiveServer}

theorem operation?_of_refused {a : Arrival} (client : a.isFromClient = true)
    (refused : ∀ r, a = .event (.request r) → ¬l.server.gate.admits r = true) : l.operation? a = none := by
  cases a with
  | event e =>
    cases e with
    | request r =>
      rw [operation?]
      rcases Server.demand?_of_refused (refused r rfl) with none | ⟨rule, subject, evaluation⟩
      · rw [none]
      · rw [evaluation]
    | store op => cases client
    | connect id | frame id f => rfl
  | lastFrame id f => rfl

theorem store_afterAll_of_refused {as : List Arrival} (clients : ∀ a ∈ as, a.isFromClient = true)
    (refused : ∀ r, .event (.request r) ∈ as → ¬l.server.gate.admits r = true) :
    (l.afterAll as).server.store = l.server.store := by
  induction as generalizing l with
  | nil => rfl
  | cons a as ih =>
    have gate := (configuration_arrive l a).1
    have first : (l.arrive a).2.server.store = l.server.store := by
      have none := operation?_of_refused (clients a List.mem_cons_self)
        fun r same => refused r (same ▸ List.mem_cons_self)
      rw [store_arrive, none]
    have rest := @ih (l.arrive a).2 (fun b member => clients b (List.mem_cons_of_mem a member))
      fun r member => gate ▸ refused r (List.mem_cons_of_mem a member)
    exact rest.trans first

end LiveServer

/-- Unless the gate accepts the first Authorization value of some request, no requests and connections change the
    rules, and with no token configured none ever do. On the way each request on the rules is answered with an
    error, the same one on every server with this gate and limit whatever rules it lists, whatever it counted and
    whichever connections it has. Such a request changes nothing of the server, and neither does any other request
    that is not an evaluation. -/
theorem rules_change_behind_gate (token : Option String) (l : LiveServer) (as : List Arrival)
    (configured : l.server.gate = .ofToken token) (clients : ∀ a ∈ as, a.isFromClient = true)
    (refused : (∀ r, .event (.request r) ∈ as → ¬(Gate.ofToken token).admits r = true) ∨
      token = none ∨ token = some "") :
    (l.afterAll as).server.store = l.server.store ∧
    ∀ earlier r later, as = earlier ++ .event (.request r) :: later →
      let s := (l.afterAll earlier).server
      (r.path = "/api/rules" → r.method ∈ ["GET", "POST", "PUT", "DELETE"] →
        ((s.handle r).answer.status = 401 ∨ (s.handle r).answer.status = 413) ∧
        ∀ m : LiveServer, m.server.gate = l.server.gate → m.server.limit = l.server.limit →
          ((m.afterAll earlier).server.handle r).answer = (s.handle r).answer) ∧
      (r.path = "/api/rules" → (s.handle r).server = s) ∧
      ((∀ rule subject, s.demand? r ≠ some (.evaluation rule subject)) → (s.handle r).server = s) := by
  have outside : ∀ r, .event (.request r) ∈ as → ¬l.server.gate.admits r = true := by
    intro r member
    rw [configured]
    rcases refused with refused | none
    · exact refused r member
    · exact Gate.not_admits_of_no_token none r
  refine ⟨LiveServer.store_afterAll_of_refused clients outside, ?_⟩
  rintro earlier r later rfl s
  obtain ⟨gate, limit⟩ := l.configuration_afterAll earlier
  have shut : ¬s.gate.admits r = true := gate ▸ outside r (List.mem_append_right earlier List.mem_cons_self)
  refine ⟨fun path method => ⟨?_, fun m gates limits => ?_⟩, fun path => ?_, fun other => ?_⟩
  · exact (Server.answer_of_refused path method shut rfl rfl).1
  · obtain ⟨gate', limit'⟩ := m.configuration_afterAll earlier
    exact (Server.answer_of_refused path method shut (gate'.trans (gates.trans gate.symm))
      (limit'.trans (limits.trans limit.symm))).2
  · rw [Server.server_handle, Server.demand?_of_rules_refused path shut]
    rfl
  · rw [Server.server_handle]
    rcases Server.demand?_of_refused shut with none | ⟨rule, subject, evaluation⟩
    · rw [none]
      rfl
    · exact absurd evaluation (other rule subject)

/-- A request with another token and one without any, while a connection is open, on two servers that list different
    rules; and a request that presents the empty token to a server whose token is empty. -/
theorem rules_change_behind_gate_refused :
    let key := Gate.ofToken (some "key")
    let l : LiveServer := ⟨⟨.ofSeeds ["sum() > 1"], key, 100, {}, none⟩, []⟩
    let m : LiveServer := ⟨⟨.ofSeeds ["max() = 'a'", "broken"], key, 100, {}, none⟩, []⟩
    let listing : Request := ⟨"GET", "/api/rules?all", [("Authorization", Utf8.encode "Bearer lock".toList)], []⟩
    let removal : Request := ⟨"DELETE", "/api/rules", [("content-type", Utf8.encode "application/json".toList)],
      Utf8.encode "\x7b\"ruleName\":\"sum() > 1\"\x7d".toList⟩
    let earlier : List Arrival := [.event (.connect "a"), .event (.request listing), .lastFrame "a" (.text "xy")]
    let as := earlier ++ [.event (.request removal)]
    let unlocked : LiveServer := { l with server := { l.server with gate := .ofToken (some "") } }
    let empty : Request := { removal with headers := ("authorization", Utf8.encode "Bearer ".toList) :: removal.headers }
    (∀ a ∈ as, a.isFromClient = true) ∧ (∀ r, .event (.request r) ∈ as → ¬key.admits r = true) ∧
      (l.afterAll as).server.store = l.server.store ∧
      ((m.afterAll earlier).server.handle removal).answer = ((l.afterAll earlier).server.handle removal).answer ∧
      ((l.afterAll earlier).server.handle removal).server = (l.afterAll earlier).server ∧
      (unlocked.afterAll [.event (.request empty)]).server.store = l.server.store := by
  intro key l m listing removal earlier as unlocked empty
  have clients : ∀ a ∈ as, a.isFromClient = true := by decide
  have refused : ∀ r, .event (.request r) ∈ as → ¬key.admits r = true := by
    intro r member
    simp only [as, earlier, List.cons_append, List.nil_append, List.mem_cons, List.not_mem_nil, or_false, reduceCtorEq,
      false_or, Arrival.event.injEq, ServerEvent.request.injEq] at member
    rcases member with rfl | rfl
    · decide +kernel
    · decide +kernel
  have path : removal.path = "/api/rules" := by decide +kernel
  obtain ⟨kept, during⟩ := rules_change_behind_gate (some "key") l as rfl clients (.inl refused)
  obtain ⟨answered, unchanged, -⟩ := during earlier removal [] rfl
  obtain ⟨-, same⟩ := answered path (by decide)
  obtain ⟨shut, -⟩ := rules_change_behind_gate (some "") unlocked [.event (.request empty)] rfl (by decide)
    (.inr (.inr rfl))
  exact ⟨clients, refused, kept, same m rfl rfl, unchanged path, shut⟩

end TextRules
