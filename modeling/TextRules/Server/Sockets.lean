import TextRules.Server.Router
import TextRules.Session.Table

/-!
Websockets: each connection is a session. Its data frames are messages, binary ones read as UTF-8 with a mark for
    each ill-formed piece; pings and pongs pass it by; a close frame, a failure to receive and the end of the
    stream all end it. A frame longer than the limit is a failure to receive, and so is a ping or a pong that is
    longer than such frames may be.
-/

namespace TextRules

/-- What arrives on a websocket. -/
inductive Frame where
  | text (s : String)
  | binary (bytes : List UInt8)
  | ping (bytes : List UInt8)
  | pong (bytes : List UInt8)
  | close
  | failure

namespace Frame

/-- The length of what a frame carries, in bytes. -/
def length : Frame → Nat
  | text s => s.utf8ByteSize
  | binary bytes | ping bytes | pong bytes => bytes.length
  | close | failure => 0

/-- The greatest length of a ping or a pong in bytes. -/
def controlLimit : Nat := 125

/-- Whether a frame is no longer than it may be under a limit. -/
def fits (limit : Nat) : Frame → Bool
  | f@(.ping _) | f@(.pong _) => f.length ≤ min limit controlLimit
  | f => f.length ≤ limit

/-- A frame as it is received under a limit. -/
def received (limit : Nat) (f : Frame) : Frame := if f.fits limit then f else failure

/-- Whether whoever sends a frame waits for what comes back. -/
def awaitsAnswer : Frame → Bool
  | pong _ => false
  | _ => true

/-- What a frame means to a session; pings and pongs mean nothing. -/
def input? : Frame → Option SessionInput
  | text s => some (.message s)
  | binary bytes => some (.message (String.ofList (Utf8.decodeLossy bytes)))
  | ping _ | pong _ => none
  | close | failure => some .disconnect

end Frame

/-- What is sent back on a frame. -/
inductive FrameAnswer where
  | payload (s : String)
  | pong (bytes : List UInt8)
  | nothing
  | ended
  deriving DecidableEq

namespace Server

/-- A session on the rules as they are listed now; one that cannot fetch them is turned away. -/
def openSession (s : Server) : Session × Server :=
  match Session.new.activate (Provider.ofRules s.store.rules) with
  | (.ok (), session, _) => (session, s.countOpened)
  | (.error _, session, _) => (session, s.countRejected)

/-- The end of a session, which is counted if the session was active. -/
def endSession (s : Server) (session : Session) : Session × Server :=
  if session.state = .active then (session.close, s.countClosed) else (session, s)

/-- A frame that arrives for a session: the answer, the session and the server after it. A session that has ended
    answers nothing more. -/
def receive (s : Server) (session : Session) (frame : Frame) : FrameAnswer × Session × Server :=
  let frame := frame.received s.limit
  match frame.input? with
  | some (.message text) =>
    match session.classify text with
    | (.ok c, session) => (.payload c.payload, session, s.countMessage c)
    | (.error _, session) => (.ended, session, s)
  | some .disconnect =>
    let (session, s) := s.endSession session
    (.ended, session, s)
  | none =>
    if session.state = .active then
      match frame with
      | .ping bytes => (.pong bytes, session, s)
      | _ => (.nothing, session, s)
    else (.ended, session, s)

/-- A frame from a client that takes nothing back any more. What is sent on the frame is refused, and that ends the
    session if the frame itself did not. -/
def receiveLast (s : Server) (session : Session) (frame : Frame) : Session × Server :=
  let (_, session, s) := s.receive session frame
  s.endSession session

/-- The frames that arrive for a session one after the other, up to the one that ends it or to the end of the
    stream: the answers, and the server at the end. -/
def receiveAll (s : Server) (session : Session) : List Frame → List FrameAnswer × Server
  | [] => ([], (s.endSession session).2)
  | frame :: frames =>
    match s.receive session frame with
    | (.ended, _, s) => ([.ended], s)
    | (answer, session, s) =>
      let (answers, s) := s.receiveAll session frames
      (answer :: answers, s)

/-- A whole connection on which the given frames arrive. -/
def converse (s : Server) (frames : List Frame) : List FrameAnswer × Server :=
  let (session, s) := s.openSession
  s.receiveAll session frames

end Server

/-! ### Several connections at once -/

/-- A server with its connections, each under a name. -/
structure LiveServer where
  server : Server
  sockets : List (String × Session) := []

/-- What happens at a server. -/
inductive ServerEvent where
  | request (r : Request)
  /-- An operation on the store that does not come by a request. -/
  | store (op : StoreOperation)
  | connect (id : String)
  | frame (id : String) (f : Frame)

/-- What is answered to an event. -/
inductive ServerAnswer where
  | response (r : Response)
  | store (outcome : Except StoreError (Option String))
  | connected
  | frame (a : FrameAnswer)
  | noSocket

namespace LiveServer

/-- The connections other than the one under a name. -/
def others (l : LiveServer) (id : String) : List (String × Session) := l.sockets.filter fun entry => entry.1 != id

/-- The answer to an event, and the server after it. That a connection has ended shows only to those who wait for
    an answer on it. -/
def step (l : LiveServer) : ServerEvent → ServerAnswer × LiveServer
  | .request r =>
    let reply := l.server.handle r
    (.response reply.answer, { l with server := reply.server })
  | .store op =>
    let (outcome, store) := l.server.store.apply op
    (.store outcome, { l with server := { l.server with store := store } })
  | .connect id =>
    let server := ((l.sockets.lookup id).map fun session => (l.server.endSession session).2).getD l.server
    let (session, server) := server.openSession
    (.connected, ⟨server, (id, session) :: l.others id⟩)
  | .frame id f =>
    match l.sockets.lookup id with
    | none => (.noSocket, l)
    | some session =>
      let (answer, session, server) := l.server.receive session f
      if !f.awaitsAnswer then (.frame .nothing, ⟨server, (id, session) :: l.others id⟩)
      else if answer = .ended then (.frame .ended, ⟨server, l.others id⟩)
      else (.frame answer, ⟨server, (id, session) :: l.others id⟩)

end LiveServer

/-! ### Connections that break -/

/-- What comes to a server whose clients may be gone. -/
inductive Arrival where
  | event (e : ServerEvent)
  /-- A frame, behind which the connection breaks before anything can be sent back. -/
  | lastFrame (id : String) (f : Frame)

namespace LiveServer

/-- The answer to what comes, and the server after it. -/
def arrive (l : LiveServer) : Arrival → ServerAnswer × LiveServer
  | .event e => l.step e
  | .lastFrame id f =>
    match l.sockets.lookup id with
    | none => (.noSocket, l)
    | some session => (.frame .ended, ⟨(l.server.receiveLast session f).2, l.others id⟩)

end LiveServer
end TextRules
