import TextRules.Proofs.Decoding
import TextRules.Proofs.Isolation
import TextRules.Server.Sockets

/-!
What a connection sends back. Of the frames that are received, those that carry a text before the first one that ends
    the connection are heard (`heardTexts`). Each of them is answered with what the rules that were listed when the
    connection was opened say of it, in order, and nothing else is answered with a text (`converse_eq`). Since the
    server at the end depends on what was heard alone, pings and pongs, the way in which the connection ends and
    whatever follows its end make no difference to what the server has counted. Nor does it make a difference whether
    a text comes as such or in a binary frame that holds it.
-/

namespace TextRules

/-! ### Frames -/

namespace Frame

/-- The text that a data frame carries; the bytes of a binary frame are decoded with losses. -/
def text? : Frame → Option String
  | text s => some s
  | binary bytes => some (String.ofList (Utf8.decodeLossy bytes))
  | ping _ | pong _ | close | failure => none

/-- Whether a frame is a ping or a pong. -/
def isControl : Frame → Bool
  | ping _ | pong _ => true
  | text _ | binary _ | close | failure => false

/-- Whether nothing that follows the frame is received any more. -/
def isEnd : Frame → Bool
  | close | failure => true
  | text _ | binary _ | ping _ | pong _ => false

/-- What a frame is answered on a connection that was opened on the rules. -/
def answer (rules : List String) : Frame → FrameAnswer
  | text s => .payload (classify rules s).payload
  | binary bytes => .payload (classify rules (String.ofList (Utf8.decodeLossy bytes))).payload
  | ping bytes => .pong bytes
  | pong _ => .nothing
  | close | failure => .ended

end Frame

/-- The text that is sent back, if one is. -/
def FrameAnswer.text? : FrameAnswer → Option String
  | payload s => some s
  | pong _ | nothing | ended => none

/-- The frames that are received before the first that ends the connection. -/
def heardFrames (limit : Nat) (frames : List Frame) : List Frame :=
  (frames.map (Frame.received limit)).takeWhile fun f => !f.isEnd

/-- The texts of the data frames that are received before the first frame that ends the connection. -/
def heardTexts (limit : Nat) (frames : List Frame) : List String := (heardFrames limit frames).filterMap Frame.text?

section Heard
variable {limit : Nat} {f : Frame}

theorem heardFrames_cons_of_end (h : (f.received limit).isEnd = true) (frames : List Frame) :
    heardFrames limit (f :: frames) = [] := by
  simp [heardFrames, h]

theorem heardFrames_cons (h : (f.received limit).isEnd = false) (frames : List Frame) :
    heardFrames limit (f :: frames) = f.received limit :: heardFrames limit frames := by
  simp [heardFrames, h]

theorem heardTexts_cons_of_end (h : (f.received limit).isEnd = true) (frames : List Frame) :
    heardTexts limit (f :: frames) = [] := by
  rw [heardTexts, heardFrames_cons_of_end h, List.filterMap_nil]

theorem heardTexts_cons (h : (f.received limit).isEnd = false) (frames : List Frame) :
    heardTexts limit (f :: frames) = (f.received limit).text?.toList ++ heardTexts limit frames := by
  rw [heardTexts, heardFrames_cons h, List.filterMap_cons]
  cases (f.received limit).text? <;> rfl

/-- What follows the end of a connection is not heard. -/
theorem heardFrames_append_end (h : (f.received limit).isEnd = true) (before after : List Frame) :
    heardFrames limit (before ++ f :: after) = heardFrames limit before := by
  induction before with
  | nil => exact heardFrames_cons_of_end h after
  | cons g before ih =>
    cases ends : (g.received limit).isEnd with
    | true => rw [List.cons_append, heardFrames_cons_of_end ends, heardFrames_cons_of_end ends]
    | false => rw [List.cons_append, heardFrames_cons ends, heardFrames_cons ends, ih]

theorem Frame.text?_of_control {f : Frame} (h : f.isControl = true) : f.isEnd = false ∧ f.text? = none := by
  cases f <;> simp_all [isControl, isEnd, text?]

theorem Frame.answer_eq_ended_iff (f : Frame) (rules : List String) : f.answer rules = .ended ↔ f.isEnd = true := by
  cases f <;> simp [answer, isEnd]

/-- The text of a frame is answered with what the rules say of it, and nothing else is answered with a text. -/
theorem Frame.text?_answer (f : Frame) (rules : List String) :
    (f.answer rules).text? = f.text?.map fun text => (classify rules text).payload := by
  cases f <;> rfl

/-- Pings and pongs make no difference to what is heard. -/
theorem heardTexts_eq (limit : Nat) (frames : List Frame) : heardTexts limit frames =
    (((frames.map (Frame.received limit)).filter fun f => !f.isControl).takeWhile fun f => !f.isEnd).filterMap
      Frame.text? := by
  unfold heardTexts heardFrames
  induction frames.map (Frame.received limit) with
  | nil => rfl
  | cons f frames ih =>
    by_cases control : f.isControl = true
    · obtain ⟨ends, silent⟩ := Frame.text?_of_control control
      simp [control, ends, silent, ih]
    · by_cases ends : f.isEnd = true
      · simp [control, ends]
      · simp [control, ends, List.filterMap_cons, ih]

end Heard

namespace Server
variable {s : Server} {session : Session} {f : Frame}

/-- The server after it has counted what rules say of some texts. -/
def countMessages (s : Server) (rules texts : List String) : Server :=
  texts.foldl (fun s text => s.countMessage (classify rules text)) s

theorem countMessages_append (s : Server) (rules texts texts' : List String) :
    s.countMessages rules (texts ++ texts') = (s.countMessages rules texts).countMessages rules texts' :=
  List.foldl_append

theorem alike_countMessages (s : Server) (rules texts : List String) : s.Alike (s.countMessages rules texts) := by
  induction texts generalizing s with
  | nil => exact .refl s
  | cons text texts ih => exact (alike_countMessage s _).trans (ih _)

/-! ### One frame -/

theorem receive_end (active : session.state = .active) (ends : (f.received s.limit).isEnd = true) :
    s.receive session f = (.ended, session.close, s.countClosed) := by
  have input : (f.received s.limit).input? = some .disconnect := by
    cases received : f.received s.limit <;> simp_all [Frame.isEnd, Frame.input?]
  simp only [receive, input, endSession_eq, if_pos active]

/-- A frame that is heard leaves its session active, with the rules that it took, and its text is counted. -/
theorem receive_heard (active : session.state = .active) (goes_on : (f.received s.limit).isEnd = false) :
    ∃ session' : Session, session'.state = .active ∧ session'.rules = session.rules ∧
      s.receive session f = ((f.received s.limit).answer session.rules, session',
        s.countMessages session.rules (f.received s.limit).text?.toList) := by
  have classified := fun text => Session.classify_active active text
  cases received : f.received s.limit with
  | text text =>
    refine ⟨(session.record text).2, active, rfl, ?_⟩
    simp only [receive, received, Frame.input?, classified]
    rfl
  | binary bytes =>
    refine ⟨(session.record (String.ofList (Utf8.decodeLossy bytes))).2, active, rfl, ?_⟩
    simp only [receive, received, Frame.input?, classified]
    rfl
  | ping bytes | pong bytes =>
    refine ⟨session, active, rfl, ?_⟩
    simp only [receive, received, Frame.input?, if_pos active]
    rfl
  | close | failure => simp [received, Frame.isEnd] at goes_on

/-- A session that has ended sends no text back; an active one sends back what is said of the text it receives. -/
theorem text?_receive (s : Server) (session : Session) (f : Frame) : (s.receive session f).1.text? =
    if session.state = .active then (f.received s.limit).text?.map fun text => (classify session.rules text).payload
    else none := by
  split_ifs with active
  · cases ends : (f.received s.limit).isEnd with
    | true =>
      rw [receive_end active ends, ← (f.received s.limit).text?_answer, (Frame.answer_eq_ended_iff ..).mpr ends]
    | false =>
      obtain ⟨session', -, -, h⟩ := receive_heard active ends
      rw [h, Frame.text?_answer]
  · rw [receive_late active]
    rfl

/-! ### Whole connections -/

theorem receiveAll_of_ended {answer : FrameAnswer × Session × Server} (h : s.receive session f = answer)
    (ended : answer.1 = .ended) (frames : List Frame) :
    s.receiveAll session (f :: frames) = ([.ended], answer.2.2) := by
  obtain ⟨_, session', s'⟩ := answer
  cases ended
  rw [receiveAll, h]

theorem receiveAll_of_answered {answer : FrameAnswer} {session' : Session} {s' : Server}
    (h : s.receive session f = (answer, session', s')) (goes_on : answer ≠ .ended) (frames : List Frame) :
    s.receiveAll session (f :: frames) =
      (answer :: (s'.receiveAll session' frames).1, (s'.receiveAll session' frames).2) := by
  rw [receiveAll, h]
  cases answer <;> first | rfl | exact absurd rfl goes_on

/-- An active session answers the frames that are heard, one for one, and counts the texts among them. -/
theorem receiveAll_eq (active : session.state = .active) (frames : List Frame) : s.receiveAll session frames =
    ((heardFrames s.limit frames).map (Frame.answer session.rules) ++
        (if (frames.map (Frame.received s.limit)).any Frame.isEnd then [.ended] else []),
      (s.countMessages session.rules (heardTexts s.limit frames)).countClosed) := by
  -- Each text leaves another session and another server, with the same rules and the same limit.
  induction frames generalizing s session with
  | nil =>
    rw [receiveAll, endSession_eq, if_pos active]
    rfl
  | cons f frames ih =>
    cases ends : (f.received s.limit).isEnd with
    | true =>
      rw [receiveAll_of_ended (receive_end active ends) rfl, heardFrames_cons_of_end ends, heardTexts_cons_of_end ends]
      simp [ends, countMessages]
    | false =>
      obtain ⟨session', active', rules, h⟩ := receive_heard active ends
      have goes_on : (f.received s.limit).answer session.rules ≠ .ended := by
        simp [Frame.answer_eq_ended_iff, ends]
      rw [receiveAll_of_answered h goes_on, ih active', rules, (alike_countMessages ..).limit, heardFrames_cons ends,
        heardTexts_cons ends, countMessages_append]
      simp [ends]

theorem converse_eq (s : Server) (frames : List Frame) : s.converse frames =
    ((heardFrames s.limit frames).map (Frame.answer s.store.rules) ++
        (if (frames.map (Frame.received s.limit)).any Frame.isEnd then [.ended] else []),
      (s.countOpened.countMessages s.store.rules (heardTexts s.limit frames)).countClosed) := by
  have opened : s.converse frames = s.countOpened.receiveAll ⟨.active, s.store.rules, 0, 0⟩ frames := rfl
  rw [opened, receiveAll_eq rfl]
  rfl

/-- The texts that are sent back on a connection. -/
def sentTexts (s : Server) (frames : List Frame) : List String := (s.converse frames).1.filterMap FrameAnswer.text?

theorem sentTexts_eq (s : Server) (frames : List Frame) :
    s.sentTexts frames = (heardTexts s.limit frames).map fun text => (classify s.store.rules text).payload := by
  have ended : (if (frames.map (Frame.received s.limit)).any Frame.isEnd then [FrameAnswer.ended] else []).filterMap
      FrameAnswer.text? = [] := by
    split <;> rfl
  rw [sentTexts, converse_eq, List.filterMap_append, ended, List.append_nil, List.filterMap_map, heardTexts,
    List.map_filterMap]
  exact List.filterMap_congr fun f _ => f.text?_answer s.store.rules

end Server

/-! ### Connections among others -/

/-- The text that is sent back on a connection, if one is. -/
def ServerAnswer.text? : ServerAnswer → Option String
  | frame a => a.text?
  | response _ | store _ | connected | noSocket => none

namespace LiveServer
variable {l : LiveServer} {id : String} {session : Session} {f : Frame}

/-- The frames that arrive on a connection until another one takes its name. -/
def framesOn (id : String) : List ServerEvent → List Frame
  | [] => []
  | .request _ :: events | .store _ :: events => framesOn id events
  | .connect name :: events => if name = id then [] else framesOn id events
  | .frame name f :: events => if name = id then f :: framesOn id events else framesOn id events

/-- The texts that are sent back on a connection from its opening. -/
def textsOn (l : LiveServer) (id : String) (events : List ServerEvent) : List String :=
  (l.life id events).filterMap fun shown => shown.1.text?

/-- There is no active session under the name. -/
def Past (l : LiveServer) (id : String) : Prop := ∀ session ∈ l.sockets.lookup id, session.state ≠ .active

/-- A frame is answered with the text that its session answers, and leaves that session or none. -/
theorem step_frame_shown (here : l.sockets.lookup id = some session) (f : Frame) :
    (l.step (.frame id f)).1.text? = (l.server.receive session f).1.text? ∧
      ((l.step (.frame id f)).2.sockets.lookup id = some (l.server.receive session f).2.1 ∨
        (l.server.receive session f).1 = .ended ∧ (l.step (.frame id f)).2.sockets.lookup id = none) := by
  -- The answers that are not waited for are those to pongs, and none of them is a text.
  have silent : f.awaitsAnswer = false → (l.server.receive session f).1.text? = none := by
    intro unawaited
    have shown : (f.received l.server.limit).text? = none := by
      cases f <;> simp_all [Frame.awaitsAnswer, Frame.received]
      split <;> rfl
    rw [Server.text?_receive, shown]
    split <;> rfl
  have put := fun s => (lookup_put l.sockets id id s).trans (if_pos rfl)
  have erased := (lookup_filter_ne l.sockets id id).trans (if_pos rfl)
  simp only [step_frame_some here]
  split_ifs with waits ends
  · exact ⟨(silent (by simpa using waits)).symm, Or.inl (put _)⟩
  · exact ⟨by rw [ends]; rfl, Or.inr ⟨ends, erased⟩⟩
  · exact ⟨rfl, Or.inl (put _)⟩

theorem history_on (l : LiveServer) (id : String) (f : Frame) (events : List ServerEvent) :
    (component id).history l (.frame id f :: events) =
      ((l.step (.frame id f)).1, (l.step (.frame id f)).2.sockets.lookup id) ::
        (component id).history (l.step (.frame id f)).2 events := by
  simp [Component.history, component]

theorem history_replaced (l : LiveServer) (id : String) (events : List ServerEvent) :
    (component id).history l (.connect id :: events) = [] := by
  simp [Component.history, component]

theorem history_other {e : ServerEvent} (elsewhere : (component id).isOn e = false)
    (kept : (component id).replaces l e = false) (events : List ServerEvent) :
    (component id).history l (e :: events) = (component id).history (l.step e).2 events := by
  simp only [Component.history, elsewhere, kept]
  rfl

/-- What happens to a connection: a frame arrives on it, another connection takes its name, or nothing. -/
theorem event_cases (id : String) (e : ServerEvent) : (∃ f, e = .frame id f) ∨ e = .connect id ∨
    ((∀ l, (component id).isOn e = false ∧ (component id).replaces l e = false) ∧
      ∀ events, framesOn id (e :: events) = framesOn id events) := by
  cases e with
  | request r => simp [component, framesOn]
  | store op => simp [component, framesOn]
  | connect name => by_cases h : name = id <;> simp [component, framesOn, h]
  | frame name f => by_cases h : name = id <;> simp [component, framesOn, h]

/-- Nothing is sent back once a session has ended. -/
theorem history_past (past : l.Past id) (events : List ServerEvent) :
    ((component id).history l events).filterMap (fun shown => shown.1.text?) = [] := by
  induction events generalizing l with
  | nil => rfl
  | cons e events ih =>
    rcases event_cases id e with ⟨f, rfl⟩ | rfl | ⟨other, -⟩
    · rw [history_on, List.filterMap_cons]
      cases here : l.sockets.lookup id with
      | none =>
        rw [step_frame_none here]
        exact ih past
      | some session =>
        have inactive := past session here
        obtain ⟨shown, left⟩ := step_frame_shown here f
        rw [Server.receive_late inactive] at shown left
        rw [shown]
        refine ih fun session' here' => ?_
        rcases left with left | ⟨-, left⟩
        · obtain rfl : session = session' := by simpa [left] using here'
          exact inactive
        · simp [left] at here'
    · rw [history_replaced]
      rfl
    · obtain ⟨elsewhere, kept⟩ := other l
      rw [history_other elsewhere kept]
      refine ih ?_
      rwa [Past, (step_other elsewhere kept).1]

/-- An active session answers the texts that are heard on its connection, whatever else happens. -/
theorem history_active (here : l.sockets.lookup id = some session) (active : session.state = .active)
    (events : List ServerEvent) : ((component id).history l events).filterMap (fun shown => shown.1.text?) =
      (heardTexts l.server.limit (framesOn id events)).map fun text => (classify session.rules text).payload := by
  induction events generalizing l session with
  | nil => rfl
  | cons e events ih =>
    rcases event_cases id e with ⟨f, rfl⟩ | rfl | ⟨other, skipped⟩
    · obtain ⟨shown, left⟩ := step_frame_shown here f
      have limit := (l.alike_step_frame id f).limit
      rw [history_on, List.filterMap_cons, shown, framesOn, if_pos rfl]
      cases ends : (f.received l.server.limit).isEnd with
      | true =>
        rw [Server.receive_end active ends] at left ⊢
        rw [heardTexts_cons_of_end ends]
        refine history_past (fun session' here' => ?_) events
        rcases left with left | ⟨-, left⟩
        · obtain rfl : session.close = session' := by simpa [left] using here'
          simp [Session.close]
        · simp [left] at here'
      | false =>
        obtain ⟨session', active', rules, h⟩ := Server.receive_heard active ends
        rw [h] at left ⊢
        have rest := ih (left.resolve_right (by simp [Frame.answer_eq_ended_iff, ends])) active'
        rw [rest, limit, rules, heardTexts_cons ends, Frame.text?_answer]
        cases (f.received l.server.limit).text? <;> rfl
    · rw [history_replaced]
      simp [framesOn, heardTexts, heardFrames]
    · obtain ⟨elsewhere, kept⟩ := other l
      obtain ⟨view, limit⟩ := step_other elsewhere kept
      rw [history_other elsewhere kept, ih (view.trans here) active, limit, skipped]

theorem textsOn_eq (l : LiveServer) (id : String) (events : List ServerEvent) : l.textsOn id events =
    (heardTexts l.server.limit (framesOn id events)).map fun text => (classify l.server.store.rules text).payload := by
  have here : (l.step (.connect id)).2.sockets.lookup id = some ⟨.active, l.server.store.rules, 0, 0⟩ := by
    simp [step_connect]
  have limit : (l.step (.connect id)).2.server.limit = l.server.limit := by
    rw [step_connect]
    exact (l.alike_hungUp id).limit
  have rest := history_active here rfl events
  rw [limit] at rest
  rw [← rest, textsOn, life, step_connect]
  rfl

end LiveServer

/-! ### What is sent back -/

/-- On a connection, the texts of the data frames that are received before the first frame that ends it are answered
    with what is said of them by the rules that were listed at its opening, one for one and in order, and nothing else
    is answered with a text. Pings and pongs, the way in which it ends and what follows its end make no difference to
    this, nor to the server at the end and what it has counted. The answers are the same among other connections and
    while the rules change. -/
theorem frames_answered (s : Server) :
    (∀ frames, s.sentTexts frames =
      (heardTexts s.limit frames).map fun text => (classify s.store.rules text).payload) ∧
    (∀ frames frames' : List Frame,
      (frames.map (Frame.received s.limit)).filter (fun f => !f.isControl) =
        (frames'.map (Frame.received s.limit)).filter (fun f => !f.isControl) →
      s.sentTexts frames = s.sentTexts frames' ∧ (s.converse frames).2 = (s.converse frames').2) ∧
    (∀ (before : List Frame) (f : Frame) (after : List Frame), (f.received s.limit).isEnd = true →
      s.sentTexts (before ++ f :: after) = s.sentTexts before ∧
        (s.converse (before ++ f :: after)).2 = (s.converse before).2) ∧
    ∀ (l : LiveServer) (id : String) (events : List ServerEvent), l.server.store.rules = s.store.rules →
      l.server.limit = s.limit → l.textsOn id events = s.sentTexts (LiveServer.framesOn id events) := by
  refine ⟨s.sentTexts_eq, ?_, ?_, ?_⟩
  · intro frames frames' same
    have texts : heardTexts s.limit frames = heardTexts s.limit frames' := by rw [heardTexts_eq, heardTexts_eq, same]
    rw [Server.sentTexts_eq, Server.sentTexts_eq, Server.converse_eq, Server.converse_eq, texts]
    exact ⟨rfl, rfl⟩
  · intro before f after ends
    have texts : heardTexts s.limit (before ++ f :: after) = heardTexts s.limit before := by
      rw [heardTexts, heardFrames_append_end ends, heardTexts]
    rw [Server.sentTexts_eq, Server.sentTexts_eq, Server.converse_eq, Server.converse_eq, texts]
    exact ⟨rfl, rfl⟩
  · intro l id events rules limit
    rw [LiveServer.textsOn_eq, Server.sentTexts_eq, rules, limit]

/-- A text and bytes that are not well-formed are answered, with pings and a pong among them, until a frame comes that
    is too long; then nothing is. Without the pings and what follows, and with a close frame instead of the failure,
    it is the same, and so it is while the rule is deleted and another connection is open. -/
theorem frames_answered_interleaved :
    let s : Server := ⟨.ofSeeds ["count('b') > 0"], .ofToken none, 6, {}, none⟩
    let l : LiveServer := ⟨s, [("b", .new)]⟩
    let frames : List Frame := [.ping [1], .text "ab", .pong [], .binary [0x61, 0xff], .ping []]
    s.sentTexts (frames ++ .text "abcdefg" :: [.text "ab"]) =
      ["[\x7b\"rule\":\"count('b') > 0\",\"result\":true\x7d]",
        "[\x7b\"rule\":\"count('b') > 0\",\"result\":false\x7d]"] ∧
    s.sentTexts frames = s.sentTexts [.text "ab", .binary [0x61, 0xff]] ∧
    (s.converse (frames ++ .text "abcdefg" :: [.text "ab"])).2 = (s.converse frames).2 ∧
    (s.converse (frames ++ .close :: [.ping []])).2 = (s.converse frames).2 ∧
    l.textsOn "a" [.frame "a" (.text "ab"), .store (.delete "count('b') > 0"), .frame "b" (.text "x"),
      .frame "a" (.binary [0x61, 0xff]), .connect "b", .frame "a" .close] =
        s.sentTexts [.text "ab", .binary [0x61, 0xff], .close] := by
  intro s l frames
  obtain ⟨answered, controls, ends, live⟩ := frames_answered s
  refine ⟨?_, ?_, ?_, ?_, ?_⟩
  · rw [answered]
    decide +kernel
  · exact (controls frames [.text "ab", .binary [0x61, 0xff]] rfl).1
  · exact (ends frames (.text "abcdefg") [.text "ab"] rfl).2
  · exact (ends frames .close [.ping []] rfl).2
  · exact live l "a" _ rfl rfl

/-! ### Binary frames -/

namespace Frame

theorem input?_binary (bytes : List UInt8) :
    (binary bytes).input? = some (.message (String.ofList (Utf8.decodeLossy bytes))) := rfl

theorem input?_encode (t : String) : (binary (Utf8.encode t.toList)).input? = (text t).input? := by
  rw [input?_binary, Utf8.decodeLossy_encode, String.ofList_toList]
  rfl

theorem fits_encode (limit : Nat) (t : String) : (binary (Utf8.encode t.toList)).fits limit = (text t).fits limit :=
  congrArg (fun length => decide (length ≤ limit)) (Utf8.length_encode t)

theorem received_encode (limit : Nat) (t : String) :
    ((binary (Utf8.encode t.toList)).received limit).input? = ((text t).received limit).input? := by
  simp only [received, fits_encode]
  split
  · exact input?_encode t
  · rfl

theorem input?_between (p s : String) (bytes : List UInt8) :
    (binary (Utf8.encode p.toList ++ bytes ++ Utf8.encode s.toList)).input? =
      some (.message (p ++ String.ofList (Utf8.decodeLossy bytes) ++ s)) := by
  rw [input?_binary, Utf8.decodeLossy_between, String.ofList_append, String.ofList_append, String.ofList_toList,
    String.ofList_toList]

end Frame

/-- A binary frame that holds a text in UTF-8 means the same to a session as the text frame, received under any limit or
    none. Any bytes fall into characters and ill-formed pieces that are as long as they can be; they mean the message in
    which each such piece is a mark, and between two texts in UTF-8 they mean that message between these texts. -/
theorem binary_frames_agree :
    (∀ t : String, (Frame.binary (Utf8.encode t.toList)).input? = (Frame.text t).input?) ∧
    (∀ (limit : Nat) (t : String), ((Frame.binary (Utf8.encode t.toList)).received limit).input? =
      ((Frame.text t).received limit).input?) ∧
    ∀ bytes : List UInt8, ∃ symbols message, Utf8.Segmented bytes symbols ∧
      message = String.ofList (symbols.map (·.getD '\uFFFD')) ∧
      (Frame.binary bytes).input? = some (.message message) ∧
      ∀ p s : String, (Frame.binary (Utf8.encode p.toList ++ bytes ++ Utf8.encode s.toList)).input? =
        some (.message (p ++ message ++ s)) := by
  refine ⟨Frame.input?_encode, Frame.received_encode, fun bytes => ?_⟩
  exact ⟨Utf8.decode bytes, _, Utf8.segmented_iff.mpr rfl, rfl, Frame.input?_binary bytes,
    fun p s => Frame.input?_between p s bytes⟩

/-- An overlong form, a surrogate, a number that is too large and a character that is cut off, with text around them. -/
example :
    let bytes : List UInt8 := [0xC0, 0xAF, 0x61, 0xED, 0xA0, 0x80, 0xF4, 0x90, 0xE2, 0x82]
    Utf8.decodeLossy (Utf8.encode ['é'] ++ bytes ++ Utf8.encode ['€']) =
      'é' :: (Utf8.decodeLossy bytes ++ ['€']) ∧ (Utf8.decode bytes).count none = 8 := by
  decide +kernel

end TextRules
