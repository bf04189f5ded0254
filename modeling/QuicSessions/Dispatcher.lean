import QuicSessions.Endpoint
import QuicSessions.Session.Events
import QuicSessions.Session.Timers

/-!
# Dispatchers

A dispatcher owns an endpoint and the sessions on it. It routes what arrives to the session of its
connection, opens and accepts connections, and after every operation drives the session: it takes
the reports of the transport, sends what there is to send, drops spent streams, and passes on what
the session signals. Sessions and connections are registered in two tables, each the inverse of the other.
-/

set_option autoImplicit false

namespace QuicSessions

structure Dispatcher (ε τ π : Type) where
  role : Side
  endpoint : ε
  localAddress : SocketAddress
  sessions : Table SessionId (Session τ)
  connections : Table ConnectionHandle SessionId
  nextSession : SessionId
  /-- The settings for connections begun here. -/
  connecting : Option Settings
  options : SessionOptions
  audience : Audience
  serverVisitor : Option ServerVisitor
  clientVisitor : Option ClientVisitor
  openOnConnect : Bool
  maxSessions : Nat
  maxReads : Nat
  shutDown : Bool
  /-- Packets are lost instead of being sent. -/
  writerBroken : Bool
  /-- Packets handed to the socket. -/
  sent : List (Outgoing π)
  posted : List Notice

namespace Dispatcher

variable {ε τ π : Type} [Transport τ] [Endpoint ε τ π]

/-- A dispatcher without sessions. -/
def new (role : Side) (endpoint : ε) (localAddress : SocketAddress) (options : SessionOptions) :
    Dispatcher ε τ π where
  role := role
  endpoint := endpoint
  localAddress := localAddress
  sessions := .empty
  connections := .empty
  nextSession := ⟨1⟩
  connecting := none
  options := options
  audience := .silent
  serverVisitor := none
  clientVisitor := none
  openOnConnect := false
  maxSessions := UInt64.size - 1
  maxReads := 32
  shutDown := false
  writerBroken := false
  sent := []
  posted := []

section
omit [Transport τ] [Endpoint ε τ π]

def sessionCount (d : Dispatcher ε τ π) : Nat := d.sessions.size

def registeredConnections (d : Dispatcher ε τ π) : Nat := d.connections.size

/-- The live sessions, lowest number first. -/
def sessionIds (d : Dispatcher ε τ π) : List SessionId := d.sessions.keys.mergeSort SessionId.le

def sessionHandle (id : SessionId) (d : Dispatcher ε τ π) : Option SessionHandle :=
  (d.sessions.get? id).map Session.sessionHandle

/-- At least one datagram is read at a time. -/
def setMaxReads (n : Nat) (d : Dispatcher ε τ π) : Dispatcher ε τ π := { d with maxReads := max n 1 }

def setListener (l : Option Listener) (d : Dispatcher ε τ π) : Dispatcher ε τ π :=
  { d with audience := { d.audience with listener := l } }

def post (notices : List Notice) (d : Dispatcher ε τ π) : Dispatcher ε τ π :=
  { d with posted := d.posted ++ d.audience.heard notices }

def tellServer (news : ServerNews) (d : Dispatcher ε τ π) : Dispatcher ε τ π :=
  match d.serverVisitor with
  | some v => d.post [.server v news]
  | none => d

def tellClient (news : ClientNews) (d : Dispatcher ε τ π) : Dispatcher ε τ π :=
  match d.clientVisitor with
  | some v => d.post [.client v news]
  | none => d

/-- Hands packets to the socket. -/
def send (packets : List (Outgoing π)) (d : Dispatcher ε τ π) : Dispatcher ε τ π :=
  if d.writerBroken then d else { d with sent := d.sent ++ packets }

/-- Puts a session back into the table and takes over what it posted. -/
def putSession (s : Session τ) (d : Dispatcher ε τ π) : Dispatcher ε τ π :=
  { d with
    sessions := d.sessions.update s.id fun _ => { s with posted := [] }
    posted := d.posted ++ s.posted }

/-- Removes a connection whose closing is over, with its session. A connection that is not
registered is left alone. -/
def connectionClosed (handle : ConnectionHandle) (d : Dispatcher ε τ π) : Dispatcher ε τ π :=
  match d.connections.get? handle with
  | none => d
  | some id =>
    let d := { d with
      connections := d.connections.erase handle
      sessions := d.sessions.erase id }
    let d := d.tellServer (.sessionClosed id handle)
    d.post (d.audience.tellListener (.sessionClosed id))

end

section
omit [Endpoint ε τ π]

/-- An operation on one session, without driving it. -/
def onSession {α : Type} (id : SessionId) (op : Audience → Session τ → Except Fault (α × Session τ))
    (d : Dispatcher ε τ π) : Except Fault (Option α × Dispatcher ε τ π) :=
  match d.sessions.get? id with
  | none => .ok (none, d)
  | some s => do
    let (r, s) ← op d.audience s
    return (some r, d.putSession s)

/-- What the dispatcher does about a signal. A client tells its visitor, and opens the first stream
if it is to. -/
def react (id : SessionId) (d : Dispatcher ε τ π) : Signal → Except Fault (Dispatcher ε τ π)
  | .connected =>
    if d.role.isClient then
      let d :=
        match d.sessionHandle id with
        | some h => d.tellClient (.connected h)
        | none => d
      if d.openOnConnect then do
        let (_, d) ← d.onSession id fun a s => s.openBidirectional a
        return d
      else .ok d
    else .ok d
  | .closed reason duringHandshake =>
    .ok (if d.role.isClient && duringHandshake then d.tellClient (.connectionFailed reason) else d)

end

/-! ## Driving -/

/-- Runs everything that a session has pending: reports, packets, spent streams and signals. A
session whose closing is over is removed. -/
def drive (now : Instant) (id : SessionId) (d : Dispatcher ε τ π) :
    Except Fault (Dispatcher ε τ π) :=
  match d.sessions.get? id with
  | none => .ok d
  | some s => do
    let s ← s.process d.audience now
    let (t, endpoint) := Endpoint.settle s.connection s.transport d.endpoint
    let s ← { s with transport := t }.process d.audience now
    let (packets, t) := Endpoint.transmit (ε := ε) now s.transport
    let s := { s with transport := t }.reclaim d.audience
    let d := { d with endpoint := endpoint }.send packets
    let d := d.putSession { s with signals := [] }
    let d ← s.signals.foldlM (react id) d
    return if Transport.isDrained s.transport then d.connectionClosed s.connection else d

/-- An operation of the application on a live session, which is then driven. -/
def sessionOp {α : Type} (now : Instant) (id : SessionId)
    (op : Audience → Session τ → Except Fault (α × Session τ)) (d : Dispatcher ε τ π) :
    Except Fault (Option α × Dispatcher ε τ π) := do
  match ← d.onSession id op with
  | (none, d) => return (none, d)
  | (some r, d) => return (some r, ← d.drive now id)

/-! ## Connections -/

/-- Makes a session for a new connection, registers it and tells the server visitor. -/
def createSession (now : Instant) (handle : ConnectionHandle) (t : τ) (d : Dispatcher ε τ π) :
    Except Fault (SessionId × Dispatcher ε τ π) := do
  let id := d.nextSession
  let s ← (Session.new id handle t d.options now).start
  let s ← s.beginHandshake now
  let d := { d with
    nextSession := id.next
    connections := d.connections.insert handle id
    sessions := d.sessions.insert id s }
  return (id, d.tellServer (.session s.sessionHandle))

/-- Begins a connection. -/
def connect (now : Instant) (remote : SocketAddress) (serverName : String)
    (d : Dispatcher ε τ π) : Except Fault (Except QuicError SessionId × Dispatcher ε τ π) :=
  match d.connecting with
  | none => .ok (.error (.config "client configuration missing"), d)
  | some settings =>
    match Endpoint.connect now settings remote serverName d.endpoint with
    | .error e => .ok (.error (.connect e), d)
    | .ok (handle, t, endpoint) => do
      let (id, d) ← { d with endpoint := endpoint }.createSession now handle t
      return (.ok id, ← d.drive now id)

/-- Grants a request for a connection, unless the dispatcher is shut down or full. -/
def accept (now : Instant) (source : SocketAddress) (packet : π) (d : Dispatcher ε τ π) :
    Except Fault (Dispatcher ε τ π) :=
  if d.shutDown || decide (d.maxSessions ≤ d.sessionCount) then
    let (answer, endpoint) := Endpoint.refuse source packet d.endpoint
    .ok ({ d with endpoint := endpoint }.send answer)
  else
    match Endpoint.accept now source packet d.endpoint with
    | (.error answer, endpoint) => .ok ({ d with endpoint := endpoint }.send answer)
    | (.ok (handle, t), endpoint) => do
      let (id, d) ← { d with endpoint := endpoint }.createSession now handle t
      d.drive now id

/-- Routes a packet that arrived. -/
def receive (now : Instant) (source : SocketAddress) (packet : π) (d : Dispatcher ε τ π) :
    Except Fault (Dispatcher ε τ π) :=
  match Endpoint.arrival now source packet d.endpoint with
  | (.connection handle, endpoint) =>
    let d := { d with endpoint := endpoint }
    match d.connections.get? handle with
    | none => .ok d
    | some id =>
      let d := { d with sessions := d.sessions.update id fun s =>
        { s with transport := Endpoint.deliver (ε := ε) now packet s.transport } }
      d.drive now id
  | (.request, endpoint) => accept now source packet { d with endpoint := endpoint }
  | (.answer packets, endpoint) => .ok ({ d with endpoint := endpoint }.send packets)
  | (.ignored, endpoint) => .ok { d with endpoint := endpoint }

/-! ## Time -/

section
omit [Endpoint ε τ π]

/-- When the first session wants to be told the time. -/
def deadline (d : Dispatcher ε τ π) : Option Instant :=
  (d.sessions.values.filterMap Session.deadline).min?

/-- Asks every session when it wants to be told the time. -/
def pollTimeout (d : Dispatcher ε τ π) : Except Fault (Option Instant) :=
  if d.sessions.values.any Session.overflows then .error .clockOverflow else .ok d.deadline

/-- The sessions whose deadline has come. -/
def due (now : Instant) (d : Dispatcher ε τ π) : List SessionId :=
  (d.sessions.entries.filter fun e => Session.reached e.2.deadline now).map Prod.fst

end

/-- Tells one session the time and drives it. -/
def sessionTimeout (now : Instant) (d : Dispatcher ε τ π) (id : SessionId) :
    Except Fault (Dispatcher ε τ π) := do
  let (_, d) ← d.onSession id fun a s => return ((), ← s.handleTimeout a now)
  d.drive now id

/-- The time is `now`. All sessions are asked for their deadlines before the first is told. -/
def timeout (now : Instant) (d : Dispatcher ε τ π) : Except Fault (Dispatcher ε τ π) := do
  let _ ← d.pollTimeout
  (d.due now).foldlM (sessionTimeout now) d

/-- Drives every session. -/
def driveAll (now : Instant) (d : Dispatcher ε τ π) : Except Fault (Dispatcher ε τ π) :=
  d.sessionIds.foldlM (fun d id => d.drive now id) d

/-! ## Operations by number, and the end -/

/-- Writes to a stream by its integer. A stream that is the next to be opened is opened for it. Says
whether everything was accepted. -/
def sendTo (now : Instant) (id : SessionId) (stream : UInt32) (data : Bytes)
    (d : Dispatcher ε τ π) : Except Fault (Bool × Dispatcher ε τ π) := do
  let (r, d) ← d.sessionOp now id fun a s => do
    match ← s.getOrOpen a (.ofHandle stream) with
    | (none, s) => return (false, s)
    | (some id, s) =>
      let (n, s) := s.streamWrite id data false
      return (n == data.length, s)
  return (r.getD false, d)

/-- What sessions are closed with when the dispatcher shuts down. -/
def farewell : Side → UInt32 × String
  | .server => (AppCode.serverShutdown.value, "server shutting down")
  | .client => (AppCode.noError.value, "client stopped")

/-- Closes one session for good. -/
def shutSession (now : Instant) (d : Dispatcher ε τ π) (id : SessionId) :
    Except Fault (Dispatcher ε τ π) := do
  let (code, reason) := farewell d.role
  let (_, d) ← d.onSession id fun a s => .ok ((), s.closeConnection a now code reason)
  d.drive now id

/-- Closes every session and forgets them. Only the first time counts. -/
def shutdown (now : Instant) (d : Dispatcher ε τ π) : Except Fault (Dispatcher ε τ π) :=
  if d.shutDown then .ok d
  else do
    let d ← d.sessionIds.foldlM (shutSession now) { d with shutDown := true }
    let d := d.connections.keys.foldl (fun d handle => d.connectionClosed handle) d
    return d.tellServer .ended

end Dispatcher

end QuicSessions
