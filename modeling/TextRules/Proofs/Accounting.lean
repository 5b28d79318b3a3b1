import TextRules.Proofs.Connections
import TextRules.Proofs.Journal

/-!
The accounts of a server. Whatever arrives, by a request or on a connection, the counters and the sessions that are
    active are what the journal of the server says (`LiveServer.books_afterAll`). So the counters of sessions,
    messages, evaluations and errors agree with what the sessions did and what was evaluated by request.
-/

namespace TextRules

/-- The totals of a session, as long as it is active. -/
def Session.running (session : Session) : List SessionSummary :=
  if session.state = .active then [session.summary] else []

theorem Session.running_of_active {session : Session} (active : session.state = .active) :
    session.running = [session.summary] := if_pos active

theorem Session.running_of_not_active {session : Session} (past : session.state ≠ .active) : session.running = [] :=
  if_neg past

namespace Server
open Journal
variable {s : Server} {session : Session} {j : Journal} {others : List SessionSummary}

/-- What is noted where a frame arrives on a connection: a message that is classified, or the end of an active session. -/
def heard (s : Server) (session : Session) (f : Frame) : Journal :=
  if session.state = .active then
    match (f.received s.limit).input? with
    | some (.message text) => [.classified session.rules text]
    | some .disconnect => [.ended session.summary]
    | none => []
  else []

theorem books_endSession (books : Books j (session.running ++ others) s.telemetry) :
    Books (j ++ session.running.map .ended) others (s.endSession session).2.telemetry := by
  rw [endSession_eq]
  by_cases active : session.state = .active
  · rw [Session.running_of_active active] at books ⊢
    rw [if_pos active]
    exact books.post (.ended session.summary others)
  · rw [Session.running_of_not_active active] at books ⊢
    rw [if_neg active, List.map_nil, List.append_nil]
    exact books

theorem books_receive (books : Books j (session.running ++ others) s.telemetry) (f : Frame) :
    Books (j ++ s.heard session f) ((s.receive session f).2.1.running ++ others)
      (s.receive session f).2.2.telemetry := by
  have received := received_receive s session f
  generalize s.receive session f = outcome at received
  cases received with
  | late past =>
    rw [heard, if_neg past, List.append_nil]
    exact books
  | @message active text input =>
    simp only [heard, if_pos active, input]
    rw [Session.running_of_active active] at books
    have posted := books.post (.classified session.rules text session.messages session.ruleErrors others)
    have still : (session.record text).2.state = .active := active
    rw [Session.running_of_active still]
    exact posted
  | disconnect active input =>
    simp only [heard, if_pos active, input]
    rw [Session.running_of_active active] at books
    exact books.post (.ended session.summary others)
  | passed active input goes_on =>
    simp only [heard, if_pos active, input, List.append_nil]
    exact books

theorem running_of_ended {f : Frame} (ended : (s.receive session f).1 = .ended) :
    (s.receive session f).2.1.running = [] := by
  have received := received_receive s session f
  generalize s.receive session f = outcome at received ended
  cases received with
  | late past => exact Session.running_of_not_active past
  | message active input => cases ended
  | disconnect active input => rfl
  | passed active input goes_on => exact absurd ended goes_on

end Server

namespace LiveServer
open Journal
variable {l : LiveServer} {id : String} {j : Journal}

/-- The totals so far of the sessions that are active on a connection. -/
def running (l : LiveServer) : List SessionSummary := l.sockets.flatMap fun entry => entry.2.running

/-- What is noted where the connection under a name, if there is one, ends. -/
def endings (l : LiveServer) (id : String) : Journal :=
  match l.sockets.lookup id with
  | none => []
  | some session => session.running.map .ended

/-- What is noted where something arrives. -/
def entries (l : LiveServer) : Arrival → Journal
  | .event (.request r) =>
    match l.server.demand? r with
    | some (.evaluation rule subject) => [.evaluated rule subject]
    | _ => []
  | .event (.store _) => []
  | .event (.connect id) => l.endings id ++ [.opened]
  | .event (.frame id f) =>
    match l.sockets.lookup id with
    | none => []
    | some session => l.server.heard session f
  | .lastFrame id f =>
    match l.sockets.lookup id with
    | none => []
    | some session => l.server.heard session f ++ (l.server.receive session f).2.1.running.map .ended

/-- No two connections have one name. -/
def Distinct (l : LiveServer) : Prop := (l.sockets.map Prod.fst).Nodup

/-- The totals of the active sessions other than the one under a name. -/
def othersRunning (l : LiveServer) (id : String) : List SessionSummary :=
  (l.others id).flatMap fun entry => entry.2.running

theorem running_perm (distinct : l.Distinct) {session : Session} (here : l.sockets.lookup id = some session) :
    l.running.Perm (session.running ++ l.othersRunning id) :=
  (perm_of_lookup distinct here).flatMap_right _

theorem length_running (l : LiveServer) :
    l.running.length = l.sockets.countP fun entry => entry.2.state = .active := by
  unfold running
  induction l.sockets with
  | nil => rfl
  | cons entry entries ih =>
    rw [List.flatMap_cons, List.length_append, ih, List.countP_cons, Nat.add_comm]
    by_cases active : entry.2.state = .active
    · simp [Session.running_of_active active, active]
    · simp [Session.running_of_not_active active, active]

theorem othersRunning_of_none (gone : l.sockets.lookup id = none) : l.othersRunning id = l.running := by
  rw [othersRunning, others, filter_ne_of_notMem (notMem_of_lookup_eq_none gone), running]

theorem distinct_others (distinct : l.Distinct) (id : String) : ((l.others id).map Prod.fst).Nodup :=
  distinct.sublist (List.filter_sublist.map _)

theorem distinct_arrive (distinct : l.Distinct) (a : Arrival) : (l.arrive a).2.Distinct := by
  have put := fun id (session : Session) => nodup_put distinct id session
  cases a with
  | event e =>
    cases e with
    | request r | store op => exact distinct
    | connect id =>
      rw [arrive, step_connect]
      exact put id _
    | frame id f =>
      rw [arrive]
      cases here : l.sockets.lookup id with
      | none =>
        rw [step_frame_none here]
        exact distinct
      | some session =>
        simp only [step_frame_some here]
        split_ifs
        · exact put id _
        · exact distinct_others distinct id
        · exact put id _
  | lastFrame id f =>
    simp only [arrive]
    split
    · exact distinct
    · exact distinct_others distinct id

theorem books_hungUp (distinct : l.Distinct) (books : Books j l.running l.server.telemetry) (id : String) :
    Books (j ++ l.endings id) (l.othersRunning id) (l.hungUp id).telemetry := by
  unfold endings hungUp
  cases here : l.sockets.lookup id with
  | none =>
    rw [List.append_nil, othersRunning_of_none here]
    exact books
  | some session => exact Server.books_endSession (books.perm (running_perm distinct here))

/-- The books stay right whatever arrives. -/
theorem books_arrive (distinct : l.Distinct) (books : Books j l.running l.server.telemetry) (a : Arrival) :
    Books (j ++ l.entries a) (l.arrive a).2.running (l.arrive a).2.server.telemetry := by
  cases a with
  | event e =>
    cases e with
    | request r =>
      have handled : (l.arrive (.event (.request r))).2.server = (l.server.handle r).server := rfl
      have sockets : (l.arrive (.event (.request r))).2.running = l.running := rfl
      rw [handled, sockets, Server.server_handle, entries]
      cases l.server.demand? r with
      | none =>
        rw [List.append_nil]
        exact books
      | some demand =>
        cases demand with
        | evaluation rule subject => exact books.post (.evaluated rule subject l.running)
        | operation op =>
          rw [List.append_nil]
          exact books
    | store op =>
      rw [entries, List.append_nil]
      exact books
    | connect id =>
      rw [arrive, step_connect, entries, ← List.append_assoc]
      exact (books_hungUp distinct books id).post (.opened l.server.store.rules.length (l.othersRunning id))
    | frame id f =>
      rw [arrive, entries]
      cases here : l.sockets.lookup id with
      | none =>
        rw [step_frame_none here, List.append_nil]
        exact books
      | some session =>
        have after := Server.books_receive (books.perm (running_perm distinct here)) f
        have ended : (l.server.receive session f).1 = .ended → (l.server.receive session f).2.1.running = [] :=
          Server.running_of_ended
        simp only [step_frame_some here]
        split_ifs with silent past
        -- Nobody waits for an answer, so the connection stays even if its session has ended.
        · exact after
        · rw [ended past, List.nil_append] at after
          exact after
        · exact after
  | lastFrame id f =>
    simp only [arrive, entries]
    cases here : l.sockets.lookup id with
    | none =>
      rw [List.append_nil]
      exact books
    | some session =>
      have after := Server.books_receive (books.perm (running_perm distinct here)) f
      rw [← List.append_assoc]
      exact Server.books_endSession after

theorem books_afterAll (distinct : l.Distinct) (books : Books j l.running l.server.telemetry) (as : List Arrival) :
    Books (j ++ l.noted entries as) (l.afterAll as).running (l.afterAll as).server.telemetry := by
  induction as generalizing l j with
  | nil =>
    rw [noted, List.append_nil]
    exact books
  | cons a as ih =>
    rw [afterAll_cons, noted, ← List.append_assoc]
    exact ih (distinct_arrive distinct a) (books_arrive distinct books a)

end LiveServer

theorem toNat_of_eq_ofNat {n : UInt64} {k : Nat} (same : n = .ofNat k) (small : k < 2 ^ 64) : n.toNat = k := by
  rw [same]
  exact UInt64.toNat_ofNat_of_lt' small

/-- On a server that has counted nothing yet, whatever arrives: the sessions that became active are those that ended and
    those that are still active, and none was rejected; the messages are those that the sessions classified; the
    evaluations are one for each rule of the session of each of these messages and one for each request whose body
    could be read, and the errors are those of the results and of the requests. Once no session is active any more, all
    this is what the totals of the sessions say. -/
theorem telemetry_accounts (l : LiveServer) (as : List Arrival) (fresh : l.server.telemetry = {})
    (alone : l.sockets = []) :
    let journal : Journal := l.noted LiveServer.entries as
    let m := l.afterAll as
    let t := m.server.telemetry
    let requests := journal.requests.length
    journal.openings < 2 ^ 64 → journal.messages.length < 2 ^ 64 → journal.evaluations + requests < 2 ^ 64 →
    t.sessionsClosed ≤ t.sessionsOpened ∧ t.sessionsRejected = 0 ∧
    t.sessionsOpened.toNat = journal.openings ∧ t.sessionsClosed.toNat = journal.totals.length ∧
    t.activeSessions = journal.openings - journal.totals.length ∧
    t.activeSessions = m.sockets.countP (fun entry => entry.2.state = .active) ∧
    t.messages.toNat = journal.messages.length ∧
    t.evaluations.toNat = (journal.messages.map fun x => x.1.length).sum + requests ∧
    t.ruleErrors.toNat = (journal.messages.map fun x => (classify x.1 x.2).errorCount).sum +
      journal.requests.countP (fun x => !(evaluate x.1 x.2).isOk) ∧
    t.ruleErrors ≤ t.evaluations ∧
    ((∀ entry ∈ m.sockets, entry.2.state ≠ .active) →
      t.messages.toNat = (journal.totals.map (·.messages.toNat)).sum ∧
      t.evaluations.toNat = (journal.totals.map fun x => x.rules * x.messages.toNat).sum + requests ∧
      t.ruleErrors.toNat = (journal.totals.map (·.ruleErrors.toNat)).sum +
        journal.requests.countP fun x => !(evaluate x.1 x.2).isOk) := by
  intro journal m t requests few_sessions few_messages few_evaluations
  have start : Journal.Books [] l.running l.server.telemetry := by
    rw [fresh, LiveServer.running, alone]
    exact ⟨Journal.counted_nil, Journal.balanced_nil⟩
  have distinct : l.Distinct := by
    rw [LiveServer.Distinct, alone]
    exact List.nodup_nil
  obtain ⟨counted, balanced⟩ : Journal.Books journal m.running t := LiveServer.books_afterAll distinct start as
  -- The sums that are not bounded by themselves are at most those that are.
  have sessions : journal.openings = journal.totals.length + m.running.length :=
    balanced.sessions.trans List.length_append
  have failures : journal.failures + journal.failedRequests ≤ journal.evaluations + requests :=
    Nat.add_le_add journal.failures_le List.countP_le_length
  have opened : t.sessionsOpened.toNat = journal.openings := toNat_of_eq_ofNat counted.opened few_sessions
  have closed : t.sessionsClosed.toNat = journal.totals.length := toNat_of_eq_ofNat counted.closed (by omega)
  have messages : t.messages.toNat = journal.messages.length := toNat_of_eq_ofNat counted.messages few_messages
  have evaluations : t.evaluations.toNat = journal.evaluations + requests :=
    toNat_of_eq_ofNat counted.evaluations few_evaluations
  have ruleErrors : t.ruleErrors.toNat = journal.failures + journal.failedRequests :=
    toNat_of_eq_ofNat counted.ruleErrors (by omega)
  have active : t.activeSessions = m.running.length := by
    rw [Telemetry.activeSessions, opened, closed]
    omega
  refine ⟨?_, counted.rejected, opened, closed, by omega, active.trans m.length_running, messages, evaluations, ruleErrors,
    ?_, fun past => ?_⟩
  · rw [UInt64.le_iff_toNat_le]
    omega
  · rw [UInt64.le_iff_toNat_le]
    omega
  · have none : m.running = [] := List.flatMap_eq_nil_iff.mpr fun entry member =>
      Session.running_of_not_active (past entry member)
    rw [none] at balanced
    obtain ⟨-, messages', evaluations', failures'⟩ := balanced
    rw [List.append_nil] at messages' evaluations' failures'
    refine ⟨messages.trans (messages'.eq few_messages), ?_, ?_⟩
    · rw [evaluations, evaluations'.eq (by omega)]
    · rw [ruleErrors, failures'.eq (by omega)]
      rfl

/-- Three connections, of which one breaks at an answer, the rules being changed before the last one; and two requests
    for evaluations, of which one fails. -/
theorem telemetry_accounts_ended :
    let json := ("content-type", Utf8.encode "application/json".toList)
    let evaluation (body : String) : Arrival :=
      .event (.request ⟨"POST", "/api/eval", [json], Utf8.encode body.toList⟩)
    let l : LiveServer := ⟨⟨.ofSeeds ["sum() > 1", "broken"], .ofToken none, 100, {}, none⟩, []⟩
    let as : List Arrival := [.event (.connect "a"), .event (.connect "b"), .event (.frame "a" (.text "x")),
      evaluation "[\"max() = 'a'\",\"aa\"]", .event (.store (.delete "broken")), .event (.connect "c"),
      .event (.frame "c" (.binary [122])), .lastFrame "b" (.text "y"),
      evaluation "\x7b\"rule\":\"broken\",\"str\":\"\"\x7d", .event (.frame "a" .close), .event (.frame "c" .failure)]
    let journal : Journal := l.noted LiveServer.entries as
    let t := (l.afterAll as).server.telemetry
    (journal.totals = [⟨2, 1, 1⟩, ⟨2, 1, 1⟩, ⟨1, 1, 0⟩] ∧ journal.openings = 3 ∧ journal.requests.length = 2) ∧
      journal.openings < 2 ^ 64 ∧ journal.messages.length < 2 ^ 64 ∧
      journal.evaluations + journal.requests.length < 2 ^ 64 ∧
      t.activeSessions = 0 ∧ t.messages.toNat = 3 ∧ t.evaluations.toNat = 5 + 2 ∧ t.ruleErrors.toNat = 2 + 1 := by
  intro json evaluation l as journal t
  obtain ⟨totals, openings, messages, evaluations, requests, failed⟩ :
      journal.totals = [⟨2, 1, 1⟩, ⟨2, 1, 1⟩, ⟨1, 1, 0⟩] ∧ journal.openings = 3 ∧ journal.messages.length = 3 ∧
        journal.evaluations = 5 ∧ journal.requests.length = 2 ∧
        (journal.requests.countP fun x => !(evaluate x.1 x.2).isOk) = 1 := by decide +kernel
  have few_sessions : journal.openings < 2 ^ 64 := by omega
  have few_messages : journal.messages.length < 2 ^ 64 := by omega
  have few_evaluations : journal.evaluations + journal.requests.length < 2 ^ 64 := by omega
  obtain ⟨-, -, -, -, active, -, -, -, -, -, ended⟩ :=
    telemetry_accounts l as rfl rfl few_sessions few_messages few_evaluations
  obtain ⟨counted, evaluated, ruleErrors⟩ := ended (by decide +kernel)
  rw [openings, totals] at active
  rw [totals] at counted
  rw [totals, requests] at evaluated
  rw [totals, failed] at ruleErrors
  exact ⟨⟨totals, openings, requests⟩, few_sessions, few_messages, few_evaluations, active, counted, evaluated,
    ruleErrors⟩

end TextRules
