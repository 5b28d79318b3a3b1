import TextRules.Proofs.Connections

/-!
Sessions do not disturb each other. From its beginning to its end a session shows what it would show alone, with a
    source that always gives the one answer that it was given when it became active. On a server the same holds of a
    connection: what it is answered depends on the rules that were listed when it was opened, and on nothing that is
    done to the rules, to the server or to other connections later.
-/

namespace TextRules

/-! ### Sessions of a table -/

namespace SessionTable
variable {t : SessionTable} {id : String}

/-- The history of a session from the action that brings it about; if that fails, there is no session. -/
def life (id : String) (t : SessionTable) (start : SessionAction) (as : List SessionAction) :
    List (SessionAnswer × Option Session) :=
  match t.step start with
  | (.done, next) => (.done, next.find? id) :: (component id).history next as
  | (answer, _) => [(answer, none)]

/-- The answer that the session which an action brings about is given when it asks the source, if it does. -/
def givenFrom? (id : String) (t : SessionTable) (start : SessionAction) (as : List SessionAction) : Option Fetched :=
  match start with
  | .open _ => some t.provider.answer
  | _ => (t.step start).2.given? id as

theorem life_alone {start : SessionAction} (begins : start = .new id ∨ start = .open id) (as : List SessionAction)
    {fixed : Provider} (given : ∀ answer, t.givenFrom? id start as = some answer → fixed.answer = answer) :
    t.life id start as = life id ⟨fixed, []⟩ start ((component id).own (t.step start).2 as) := by
  rcases begins with rfl | rfl
  · have agree : Agree id as (t.put id .new) (put ⟨fixed, []⟩ id .new) :=
      ⟨by simp, fun _ _ _ answer got => given answer got⟩
    have rest := history_alone agree
    simp only [life, step, find?_put, if_true]
    rw [← rest]
  · have fetched : fixed.answer = t.provider.answer := given _ rfl
    cases gives : t.provider.answer with
    | ok rules =>
      have opened := step_open_ok gives id
      have opened' := step_open_ok (t := ⟨fixed, []⟩) (fetched.trans gives) id
      -- This session has asked already, so the sources may differ from here on.
      have agree : Agree id as (t.step (.open id)).2 (step ⟨fixed, []⟩ (.open id)).2 := by
        rw [opened, opened']
        refine ⟨by simp, fun s here connecting => ?_⟩
        obtain rfl : ⟨.active, rules, 0, 0⟩ = s := by simpa using here
        cases connecting
      have rest := history_alone agree
      simp only [opened, opened'] at rest
      simp only [life, opened, opened', find?_put, if_true]
      rw [← rest]
    | error e => simp only [life, step_open_error gives, step_open_error (t := ⟨fixed, []⟩) (fetched.trans gives)]

/-- Once a session has asked its source, or will never do so, only the actions on it matter. -/
theorem history_settled {u : SessionTable} {s : Session} (here : t.find? id = some s) (there : u.find? id = some s)
    (settled : s.state ≠ .connecting) (as : List SessionAction) :
    (component id).history t as = (component id).history u ((component id).own t as) := by
  refine history_alone ⟨here.trans there.symm, fun s' here' connecting => ?_⟩
  obtain rfl := Option.some.inj (here.symm.trans here')
  exact absurd connecting settled

end SessionTable

/-! ### Connections of a server -/

namespace Server
variable {s s' : Server}

/-- What a frame is answered, and what becomes of its session, depends on nothing of the server but the limit. -/
theorem receive_congr (same : s.limit = s'.limit) (session : Session) (f : Frame) :
    (s.receive session f).1 = (s'.receive session f).1 ∧ (s.receive session f).2.1 = (s'.receive session f).2.1 := by
  simp only [receive, same]
  cases (f.received s'.limit).input? with
  | none =>
    by_cases active : session.state = .active
    · simp only [if_pos active]
      split <;> exact ⟨rfl, rfl⟩
    · simp only [if_neg active, and_self]
  | some input =>
    cases input with
    | message text =>
      dsimp only
      split <;> exact ⟨rfl, rfl⟩
    | disconnect =>
      simp only [endSession_eq]
      split <;> exact ⟨trivial, rfl⟩

end Server

namespace LiveServer
variable {l m : LiveServer} {id : String}

/-- The connection under a name, as a component of the server. -/
def component (id : String) : Component LiveServer ServerEvent ServerAnswer Session where
  step := step
  view l := l.sockets.lookup id
  isOn
    | .frame name _ => name = id
    | _ => false
  replaces _
    | .connect name => name = id
    | _ => false

/-- Two servers have the same connection under a name, and the same limit. -/
def Agree (id : String) (l m : LiveServer) : Prop :=
  l.sockets.lookup id = m.sockets.lookup id ∧ l.server.limit = m.server.limit

theorem step_other {e : ServerEvent} (elsewhere : (component id).isOn e = false)
    (kept : (component id).replaces l e = false) :
    (l.step e).2.sockets.lookup id = l.sockets.lookup id ∧ (l.step e).2.server.limit = l.server.limit := by
  cases e with
  | request r => exact ⟨rfl, (Server.touched_handle l.server r).limit_eq⟩
  | store op => exact ⟨rfl, rfl⟩
  | connect name =>
    have ne : id ≠ name := by
      rintro rfl
      simp [component] at kept
    rw [step_connect]
    exact ⟨(lookup_put l.sockets id name _).trans (if_neg ne), (l.alike_hungUp name).limit⟩
  | frame name f =>
    have ne : id ≠ name := by
      rintro rfl
      simp [component] at elsewhere
    cases here : l.sockets.lookup name with
    | none =>
      rw [step_frame_none here]
      exact ⟨rfl, rfl⟩
    | some session =>
      have limit := (Server.alike_receive l.server session f).limit
      have put := fun s => (lookup_put l.sockets id name s).trans (if_neg ne)
      have erased := (lookup_filter_ne l.sockets id name).trans (if_neg ne)
      simp only [step_frame_some here]
      split_ifs
      · exact ⟨put _, limit⟩
      · exact ⟨erased, limit⟩
      · exact ⟨put _, limit⟩

theorem Agree.self {e : ServerEvent} (agree : Agree id l m) (on : (component id).isOn e = true) :
    (l.step e).1 = (m.step e).1 ∧ Agree id (l.step e).2 (m.step e).2 := by
  obtain ⟨same, limit⟩ := agree
  cases e with
  | request r | store op | connect name => cases on
  | frame name f =>
    obtain rfl : name = id := of_decide_eq_true on
    cases here : l.sockets.lookup name with
    | none =>
      rw [step_frame_none here, step_frame_none (same ▸ here)]
      exact ⟨rfl, same, limit⟩
    | some session =>
      obtain ⟨answer, after⟩ := Server.receive_congr limit session f
      have limits : (l.server.receive session f).2.2.limit = (m.server.receive session f).2.2.limit := by
        rw [(Server.alike_receive ..).limit, (Server.alike_receive ..).limit, limit]
      have put := fun (l : LiveServer) s => (lookup_put l.sockets name name s).trans (if_pos rfl)
      have erased := fun (l : LiveServer) => (lookup_filter_ne l.sockets name name).trans (if_pos rfl)
      simp only [step_frame_some here, step_frame_some (same ▸ here), answer, after]
      split_ifs
      · exact ⟨rfl, (put l _).trans (put m _).symm, limits⟩
      · exact ⟨rfl, (erased l).trans (erased m).symm, limits⟩
      · exact ⟨rfl, (put l _).trans (put m _).symm, limits⟩

theorem Agree.other {e : ServerEvent} (agree : Agree id l m) (elsewhere : (component id).isOn e = false)
    (kept : (component id).replaces l e = false) : Agree id (l.step e).2 m := by
  obtain ⟨view, limit⟩ := step_other elsewhere kept
  exact ⟨view.trans agree.1, limit.trans agree.2⟩

theorem history_alone (agree : Agree id l m) (events : List ServerEvent) :
    (component id).history l events = (component id).history m ((component id).own l events) :=
  (component id).history_eq (R := fun _ => Agree id) Agree.other
    (fun agree on => ⟨(agree.self on).1, (agree.self on).2.1, (agree.self on).2⟩) agree

/-- The history of a connection from its opening. -/
def life (id : String) (l : LiveServer) (events : List ServerEvent) : List (ServerAnswer × Option Session) :=
  let (answer, next) := l.step (.connect id)
  (answer, next.sockets.lookup id) :: (component id).history next events

theorem life_alone (rules : l.server.store.rules = m.server.store.rules) (limit : l.server.limit = m.server.limit)
    (events : List ServerEvent) :
    l.life id events = m.life id ((component id).own (l.step (.connect id)).2 events) := by
  have agree : Agree id (l.step (.connect id)).2 (m.step (.connect id)).2 := by
    rw [step_connect, step_connect, rules]
    exact ⟨by simp, (l.alike_hungUp id).limit.trans (limit.trans (m.alike_hungUp id).limit.symm)⟩
  have rest := history_alone agree events
  have view := agree.1
  have answer : (l.step (.connect id)).1 = (m.step (.connect id)).1 := by rw [step_connect, step_connect]
  simp only [life, answer, view, ← rest]

end LiveServer

/-! ### Isolation -/

/-- A session shows what it would show alone with a source that always gives the one answer that it was given, and once
    that is given, nothing but the actions on it matters; what is done to other sessions and to the source leaves it as
    it is. A connection shows what it would show alone on a server that lists what was listed when it was opened, and
    no request, no operation on the store and no other connection changes it. -/
theorem sessions_isolated (id : String) :
    (∀ (t : SessionTable) (start : SessionAction) (as : List SessionAction) (fixed : Provider),
      (start = .new id ∨ start = .open id) →
      (∀ answer, t.givenFrom? id start as = some answer → fixed.answer = answer) →
      t.life id start as =
        SessionTable.life id ⟨fixed, []⟩ start ((SessionTable.component id).own (t.step start).2 as)) ∧
    (∀ (t u : SessionTable) (s : Session) (as : List SessionAction),
      t.find? id = some s → u.find? id = some s → s.state ≠ .connecting →
      (SessionTable.component id).history t as =
        (SessionTable.component id).history u ((SessionTable.component id).own t as)) ∧
    (∀ (t : SessionTable) (a : SessionAction), a.isOn id = false → t.replaces id a = false →
      (t.step a).2.find? id = t.find? id) ∧
    (∀ (l m : LiveServer) (events : List ServerEvent),
      l.server.store.rules = m.server.store.rules → l.server.limit = m.server.limit →
      l.life id events = m.life id ((LiveServer.component id).own (l.step (.connect id)).2 events)) ∧
    ∀ (l : LiveServer) (e : ServerEvent),
      (LiveServer.component id).isOn e = false → (LiveServer.component id).replaces l e = false →
      (l.step e).2.sockets.lookup id = l.sockets.lookup id :=
  ⟨fun _ _ as _ begins given => SessionTable.life_alone begins as given,
    fun _ _ _ as here there settled => SessionTable.history_settled here there settled as,
    fun _ _ elsewhere kept => SessionTable.find?_step_other elsewhere kept,
    fun _ _ events rules limit => LiveServer.life_alone rules limit events,
    fun _ _ elsewhere kept => (LiveServer.step_other elsewhere kept).1⟩

/-- The rules change between the beginning of a session and its activation, fail later, and are changed by operations on
    the store while connections are open. -/
theorem sessions_isolated_interleaved :
    let t : SessionTable := ⟨.ofRules ["sum() > 1"], []⟩
    let as : List SessionAction := [.open "b", .provide ["sum() > 2"], .activate "a", .fail .sessionClosed,
      .classify "b" "x", .classify "a" "xyz", .close "b", .describe "a"]
    let own : List SessionAction := [.activate "a", .classify "a" "xyz", .describe "a"]
    let served : Session := ⟨.active, ["sum() > 2"], 0, 0⟩
    let l : LiveServer := ⟨⟨.ofSeeds ["sum() > 1"], .ofToken none, 100, {}, none⟩, []⟩
    let m : LiveServer := ⟨⟨.ofSeeds ["sum() > 1"], .ofToken (some "key"), 100, {}, none⟩, [("b", served)]⟩
    t.life "a" (.new "a") as = SessionTable.life "a" ⟨⟨.ok ["sum() > 2"], 7⟩, []⟩ (.new "a") own ∧
    (SessionTable.component "a").history ⟨t.provider, [("a", served)]⟩ [.fail .sessionClosed, .close "b", .close "a"] =
      (SessionTable.component "a").history ⟨t.provider, [("b", .new), ("a", served)]⟩ [.close "a"] ∧
    (SessionTable.step ⟨t.provider, [("a", served)]⟩ (.open "b")).2.find? "a" = some served ∧
    l.life "a" [.store (.delete "sum() > 1"), .connect "b", .frame "b" (.text "x"), .frame "a" (.text "xy"),
      .frame "a" .close] = m.life "a" [.frame "a" (.text "xy"), .frame "a" .close] ∧
    (m.step (.store (.create "sum() > 3"))).2.sockets.lookup "b" = some served := by
  intro t as own served l m
  obtain ⟨alone, settled, kept, connected, untouched⟩ := sessions_isolated "a"
  obtain ⟨-, -, -, -, untouched'⟩ := sessions_isolated "b"
  have given : t.givenFrom? "a" (.new "a") as = some (.ok ["sum() > 2"]) := by rfl
  refine ⟨?_, ?_, ?_, ?_, ?_⟩
  · refine alone t _ as ⟨.ok ["sum() > 2"], 7⟩ (.inl rfl) fun answer got => ?_
    exact Option.some.inj (given.symm.trans got)
  · exact settled _ _ served _ rfl rfl (by decide)
  · exact kept _ _ rfl rfl
  · exact connected l m _ rfl rfl
  · exact untouched' m _ rfl rfl

end TextRules
