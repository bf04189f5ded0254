import QuicSessions.LiveStream
import QuicSessions.Table
import QuicSessions.Time

/-!
# Sessions

A session owns one transport, the table of its live streams and the flags that say how far the
connection has got. It never calls an application: what there is to tell is appended to `posted`,
and what concerns the owner of the session is appended to `signals`.
-/

set_option autoImplicit false

namespace QuicSessions

/-- The stages of a session, in the order in which they are passed. -/
inductive SessionState where
  | created
  | initialized
  | handshakeInProgress
  | active
  /-- The peer said goodbye; no new streams are opened from here. -/
  | draining
  | closed
  deriving DecidableEq, Inhabited

namespace SessionState

/-- The place of a stage in the order. -/
def rank : SessionState → Nat
  | created => 0
  | initialized => 1
  | handshakeInProgress => 2
  | active => 3
  | draining => 4
  | closed => 5

/-- The name of a stage. -/
def name : SessionState → String
  | created => "Created"
  | initialized => "Initialized"
  | handshakeInProgress => "HandshakeInProgress"
  | active => "Active"
  | draining => "Draining"
  | closed => "Closed"

/-- The stage after the handshake is over. -/
def afterHandshake : SessionState → SessionState
  | initialized => active
  | handshakeInProgress => active
  | state => state

/-- Whether a connection is in use at this stage. -/
def live : SessionState → Bool
  | handshakeInProgress => true
  | active => true
  | draining => true
  | _ => false

end SessionState

/-- Why a stream is not created. -/
inductive Refusal where
  | notConnected
  | notEncrypted
  | goaway
  | limitReached
  | foreignId
  deriving DecidableEq

/-- A refusal in words. -/
def Refusal.message : Refusal → String
  | notConnected => "connection is not connected"
  | notEncrypted => "encryption not established"
  | goaway => "goaway received"
  | limitReached => "stream limit reached"
  | foreignId => "stream id outside the peer's namespace"

/-- What a session tells its owner. -/
inductive Signal where
  | connected
  | closed (reason : CloseReason) (duringHandshake : Bool)
  deriving DecidableEq

/-- A mistake in the use of a session. The operation that makes it has no effect. -/
inductive Fault where
  | startedTwice (id : SessionId)
  | usedBeforeStart (id : SessionId)
  | clientUnidirectional (id : SessionId)
  /-- A deadline lies beyond what the clock can hold. -/
  | clockOverflow
  deriving DecidableEq

/-- A mistake in words. -/
def Fault.message : Fault → String
  | startedTwice id => id.display ++ " initialized twice"
  | usedBeforeStart id => id.display ++ " used before initialize()"
  | clientUnidirectional id =>
    id.display ++ ": client sessions must not create outgoing unidirectional streams"
  | clockOverflow => "overflow when adding duration to instant"

/-- How a session is to behave. -/
structure SessionOptions where
  respectGoaway : Bool
  /-- How many bytes may wait on one stream. -/
  buffer : Nat
  keepAlive : Option Duration
  /-- On a client, how long the handshake may take. -/
  handshakeTimeout : Option Duration
  deriving DecidableEq

namespace SessionOptions

def standard : SessionOptions := ⟨false, 1048576, none, none⟩

instance : Inhabited SessionOptions := ⟨standard⟩

end SessionOptions

/-- A session on a transport. -/
structure Session (τ : Type) where
  id : SessionId
  connection : ConnectionHandle
  transport : τ
  side : Side
  state : SessionState
  encrypted : Bool
  goawayReceived : Bool
  respectGoaway : Bool
  streams : Table StreamId LiveStream
  /-- Streams of the peer that no session visitor has heard of. -/
  unannounced : List StreamId
  /-- How many streams were opened from here. -/
  opened : PerDir Nat
  /-- The last attempt to open a stream found no credit. -/
  blocked : PerDir Bool
  visitor : Option SessionVisitor
  options : SessionOptions
  handshakeDeadline : Option Instant
  lastKeepAlive : Instant
  signals : List Signal
  posted : List Notice

namespace Session

variable {τ : Type} [Transport τ]

/-- A new session on a transport. -/
def new (id : SessionId) (connection : ConnectionHandle) (t : τ) (options : SessionOptions)
    (now : Instant) : Session τ where
  id := id
  connection := connection
  transport := t
  side := Transport.side t
  state := .created
  encrypted := false
  goawayReceived := false
  respectGoaway := options.respectGoaway
  streams := .empty
  unannounced := []
  opened := ⟨0, 0⟩
  blocked := ⟨false, false⟩
  visitor := none
  options := options
  handshakeDeadline := none
  lastKeepAlive := now
  signals := []
  posted := []

/-! ## What can be asked of a session -/

def connected (s : Session τ) : Bool := s.state.live && !Transport.isClosed s.transport

/-- Connected, and the handshake is over. -/
def ready (s : Session τ) : Bool := s.connected && s.encrypted

omit [Transport τ] in
/-- Whether some stream is open or still draining. -/
def inUse (s : Session τ) : Bool := !s.streams.isEmpty

def stats (s : Session τ) : ConnectionStats :=
  .ofCounters (Transport.counters s.transport) (Transport.remote s.transport) s.streams.size

omit [Transport τ] in
def sessionHandle (s : Session τ) : SessionHandle := ⟨s.id, s.connection, s.side⟩

omit [Transport τ] in
def streamHandle (s : Session τ) (id : StreamId) : StreamHandle :=
  ⟨s.id, id, .of id s.side⟩

omit [Transport τ] in
/-- The identifier that the next stream opened from here gets. -/
def nextId (s : Session τ) (dir : Dir) : StreamId := .of s.side dir (s.opened.get dir)

/-! ## Posting notices -/

variable (a : Audience)

omit [Transport τ] in
def post (s : Session τ) (notices : List Notice) : Session τ :=
  { s with posted := s.posted ++ a.heard notices }

omit [Transport τ] in
/-- The notice that tells the session visitor, if there is one. -/
def visitorNotice (s : Session τ) (news : SessionNews) : List Notice :=
  match s.visitor with
  | some v => [.session v s.sessionHandle news]
  | none => []

omit [Transport τ] in
def tellVisitor (s : Session τ) (news : SessionNews) : Session τ :=
  s.post a (s.visitorNotice news)

omit [Transport τ] in
def tellListener (s : Session τ) (news : ListenerNews) : Session τ :=
  s.post a (a.tellListener news)

omit [Transport τ] in
/-- Tells the visitor which streams may be opened: a server's session has both directions. -/
def tellCanCreate (s : Session τ) : Session τ :=
  let s := s.tellVisitor a (.canCreate .bi)
  if s.side.isServer then s.tellVisitor a (.canCreate .uni) else s

omit [Transport τ] in
/-- The notices about a stream that left the table: its own visitor first, then the session's, then
the listener. -/
def streamClosedNotices (s : Session τ) (stream : LiveStream) : List Notice :=
  (match stream.visitor with
    | some v => [.stream v (s.streamHandle stream.id) .closed]
    | none => []) ++
  s.visitorNotice (.streamClosed stream.id.handle) ++
  a.tellListener (.streamClosed s.id stream.id.handle)

omit [Transport τ] in
def tellStreamClosed (s : Session τ) (stream : LiveStream) : Session τ :=
  s.post a (s.streamClosedNotices a stream)

/-! ## Starting -/

/-- Must come exactly once, before any stream is used. -/
def start (s : Session τ) : Except Fault (Session τ) :=
  if s.state = .created then .ok { s with state := .initialized }
  else .error (.startedTwice s.id)

/-- The handshake is under way. On a client it has to be over in time. -/
def beginHandshake (now : Instant) (s : Session τ) : Except Fault (Session τ) :=
  if s.state = .created then .error (.usedBeforeStart s.id)
  else if s.state = .initialized then
    let deadline :=
      if s.side.isClient then s.options.handshakeTimeout.map fun d => now + d.toNanos else none
    if deadline.all fun t => decide (Instant.Representable t) then
      .ok { s with state := .handshakeInProgress, handshakeDeadline := deadline }
    else .error .clockOverflow
  else .ok s

end Session

end QuicSessions
