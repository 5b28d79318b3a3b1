import TextRules.Proofs.History
import TextRules.Proofs.Requests
import TextRules.Server.Sockets

/-!
What a connection does to its server. A frame for an active session is classified and counted, ends the session, or
    passes it by, and a frame for a session that has ended does nothing (`Received`). None of this concerns the
    rules, the gate or the limit, so over all that arrives these change by operations on the rules alone.
-/

namespace TextRules

namespace Server
variable {s s' s'' : Server} {session : Session}

/-- Two servers that differ in nothing but what they have counted. -/
structure Alike (s s' : Server) : Prop where
  store : s'.store = s.store
  gate : s'.gate = s.gate
  limit : s'.limit = s.limit

theorem Alike.refl (s : Server) : Alike s s := ⟨rfl, rfl, rfl⟩

theorem Alike.trans (first : Alike s s') (second : Alike s' s'') : Alike s s'' where
  store := second.store.trans first.store
  gate := second.gate.trans first.gate
  limit := second.limit.trans first.limit

theorem alike_countClosed (s : Server) : Alike s s.countClosed := ⟨rfl, rfl, rfl⟩

theorem alike_countMessage (s : Server) (c : Classification) : Alike s (s.countMessage c) := ⟨rfl, rfl, rfl⟩

/-! ### Frames -/

theorem endSession_eq (s : Server) (session : Session) : s.endSession session =
    if session.state = .active then (session.close, s.countClosed) else (session, s) := rfl

theorem alike_endSession (s : Server) (session : Session) : Alike s (s.endSession session).2 := by
  rw [endSession_eq]
  split
  · exact alike_countClosed s
  · exact .refl s

theorem receive_late (past : session.state ≠ .active) (f : Frame) : s.receive session f = (.ended, session, s) := by
  simp only [receive, endSession_eq, Session.classify_not_active past, if_neg past]
  cases (f.received s.limit).input? with
  | none => rfl
  | some meant => cases meant <;> rfl

/-- What a frame may bring about: the answer, the session and the server after it. -/
inductive Received (s : Server) (session : Session) (f : Frame) : FrameAnswer × Session × Server → Prop
  | late (past : session.state ≠ .active) : Received s session f (.ended, session, s)
  | message (active : session.state = .active) {text : String}
    (input : (f.received s.limit).input? = some (.message text)) :
    Received s session f (.payload (classify session.rules text).payload, (session.record text).2,
      s.countMessage (classify session.rules text))
  | disconnect (active : session.state = .active) (input : (f.received s.limit).input? = some .disconnect) :
    Received s session f (.ended, session.close, s.countClosed)
  | passed (active : session.state = .active) (input : (f.received s.limit).input? = none) {answer : FrameAnswer}
    (goes_on : answer ≠ .ended) : Received s session f (answer, session, s)

theorem received_receive (s : Server) (session : Session) (f : Frame) : Received s session f (s.receive session f) := by
  by_cases active : session.state = .active
  · simp only [receive]
    cases input : (f.received s.limit).input? with
    | none =>
      simp only [if_pos active]
      split
      · exact .passed active input (by simp)
      · exact .passed active input (by simp)
    | some meant =>
      cases meant with
      | message text =>
        simp only [Session.classify, if_pos active]
        exact .message active input
      | disconnect =>
        simp only [endSession_eq, if_pos active]
        exact .disconnect active input
  · rw [receive_late active]
    exact .late active

theorem alike_receive (s : Server) (session : Session) (f : Frame) : Alike s (s.receive session f).2.2 := by
  have received := received_receive s session f
  generalize s.receive session f = outcome at received
  cases received with
  | late past => exact .refl s
  | message active input => exact alike_countMessage s _
  | disconnect active input => exact alike_countClosed s
  | passed active input goes_on => exact .refl s

theorem alike_receiveLast (s : Server) (session : Session) (f : Frame) : Alike s (s.receiveLast session f).2 :=
  (alike_receive s session f).trans (alike_endSession _ _)

end Server

/-! ### Arrivals -/

namespace LiveServer
variable {l : LiveServer} {id : String}

/-- The server once the connection under a name, if there is one, has ended. -/
def hungUp (l : LiveServer) (id : String) : Server :=
  match l.sockets.lookup id with
  | none => l.server
  | some session => (l.server.endSession session).2

theorem alike_hungUp (l : LiveServer) (id : String) : l.server.Alike (l.hungUp id) := by
  unfold hungUp
  split
  · exact .refl l.server
  · exact Server.alike_endSession l.server _

theorem step_connect (l : LiveServer) (id : String) : l.step (.connect id) =
    (.connected, ⟨(l.hungUp id).countOpened, (id, ⟨.active, l.server.store.rules, 0, 0⟩) :: l.others id⟩) := by
  have rules : (l.hungUp id).store.rules = l.server.store.rules := by rw [(l.alike_hungUp id).store]
  have opened : l.step (.connect id) =
      (.connected, ⟨(l.hungUp id).countOpened, (id, ⟨.active, (l.hungUp id).store.rules, 0, 0⟩) :: l.others id⟩) := by
    unfold hungUp
    simp only [step]
    cases l.sockets.lookup id <;> rfl
  rw [opened, rules]

theorem step_frame_none (gone : l.sockets.lookup id = none) (f : Frame) : l.step (.frame id f) = (.noSocket, l) := by
  simp only [step, gone]

theorem step_frame_some {session : Session} (here : l.sockets.lookup id = some session) (f : Frame) :
    l.step (.frame id f) =
      let (answer, session, server) := l.server.receive session f
      if !f.awaitsAnswer then (.frame .nothing, ⟨server, (id, session) :: l.others id⟩)
      else if answer = .ended then (.frame .ended, ⟨server, l.others id⟩)
      else (.frame answer, ⟨server, (id, session) :: l.others id⟩) := by
  simp only [step, here]

theorem server_step_frame {session : Session} (here : l.sockets.lookup id = some session) (f : Frame) :
    (l.step (.frame id f)).2.server = (l.server.receive session f).2.2 := by
  simp only [step_frame_some here]
  split_ifs <;> rfl

theorem alike_step_frame (l : LiveServer) (id : String) (f : Frame) :
    l.server.Alike (l.step (.frame id f)).2.server := by
  cases here : l.sockets.lookup id with
  | none =>
    rw [step_frame_none here]
    exact .refl l.server
  | some session =>
    rw [server_step_frame here]
    exact Server.alike_receive l.server session f

theorem alike_lastFrame (l : LiveServer) (id : String) (f : Frame) :
    l.server.Alike (l.arrive (.lastFrame id f)).2.server := by
  simp only [arrive]
  split
  · exact .refl l.server
  · exact Server.alike_receiveLast l.server _ f

/-- The operation on the rules that an arrival asks for, if it asks for one. -/
def operation? (l : LiveServer) : Arrival → Option StoreOperation
  | .event (.request r) =>
    match l.server.demand? r with
    | some (.operation op) => some op
    | _ => none
  | .event (.store op) => some op
  | .event (.connect _) | .event (.frame ..) | .lastFrame .. => none

/-- The rules change by the operation that an arrival asks for, and in no other way. -/
theorem store_arrive (l : LiveServer) (a : Arrival) : (l.arrive a).2.server.store =
    match l.operation? a with
    | none => l.server.store
    | some op => (l.server.store.apply op).2 := by
  cases a with
  | event e =>
    cases e with
    | request r =>
      have handled : (l.arrive (.event (.request r))).2.server = (l.server.handle r).server := rfl
      rw [handled, Server.server_handle, operation?]
      cases l.server.demand? r with
      | none => rfl
      | some demand => cases demand <;> rfl
    | store op => rfl
    | connect id =>
      rw [arrive, step_connect]
      exact (l.alike_hungUp id).store
    | frame id f => exact (l.alike_step_frame id f).store
  | lastFrame id f => exact (l.alike_lastFrame id f).store

theorem configuration_arrive (l : LiveServer) (a : Arrival) :
    (l.arrive a).2.server.gate = l.server.gate ∧ (l.arrive a).2.server.limit = l.server.limit := by
  cases a with
  | event e =>
    cases e with
    | request r =>
      have touched := Server.touched_handle l.server r
      exact ⟨touched.gate_eq, touched.limit_eq⟩
    | store op => exact ⟨rfl, rfl⟩
    | connect id =>
      rw [arrive, step_connect]
      exact ⟨(l.alike_hungUp id).gate, (l.alike_hungUp id).limit⟩
    | frame id f => exact ⟨(l.alike_step_frame id f).gate, (l.alike_step_frame id f).limit⟩
  | lastFrame id f => exact ⟨(l.alike_lastFrame id f).gate, (l.alike_lastFrame id f).limit⟩

/-! ### Everything that arrives -/

/-- The server after everything that has arrived. -/
def afterAll (l : LiveServer) (as : List Arrival) : LiveServer := as.foldl (fun l a => (l.arrive a).2) l

/-- What is noted of each arrival, given the server that it comes to. -/
def noted {α : Type} (note : LiveServer → Arrival → List α) : LiveServer → List Arrival → List α
  | _, [] => []
  | l, a :: as => note l a ++ noted note (l.arrive a).2 as

theorem afterAll_cons (l : LiveServer) (a : Arrival) (as : List Arrival) :
    l.afterAll (a :: as) = (l.arrive a).2.afterAll as := rfl

theorem configuration_afterAll (l : LiveServer) (as : List Arrival) :
    (l.afterAll as).server.gate = l.server.gate ∧ (l.afterAll as).server.limit = l.server.limit := by
  induction as generalizing l with
  | nil => exact ⟨rfl, rfl⟩
  | cons a as ih =>
    obtain ⟨gate, limit⟩ := configuration_arrive l a
    obtain ⟨gate', limit'⟩ := ih (l.arrive a).2
    exact ⟨gate'.trans gate, limit'.trans limit⟩

end LiveServer
end TextRules
