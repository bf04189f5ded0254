import QuicSessions.Session.Closing

/-!
# The streams of a session

Which streams may be created, how they are created from here and on the peer's behalf, how what
arrives on them is handed out, and how spent streams leave the table. What arrives on a stream goes
to its visitor, or else to the listener; with neither it stays in the transport until it is read.
-/

set_option autoImplicit false

namespace QuicSessions.Session

variable {τ : Type} [Transport τ] (a : Audience)

/-! ## Gates -/

/-- Why no stream can be opened from here now: the connection first, then its encryption, then the
peer's wishes, then credit. -/
def refusal? (dir : Dir) (s : Session τ) : Option Refusal :=
  if !s.connected then some .notConnected
  else if !s.encrypted then some .notEncrypted
  else if s.state ≠ .active then some .goaway
  else if s.blocked.get dir || (s.nextId dir).handle?.isNone then some .limitReached
  else none

/-- The gate before a stream is opened from here. -/
def gate (dir : Dir) (s : Session τ) : Except Fault (Option Refusal) :=
  if s.state = .created then .error (.usedBeforeStart s.id) else .ok (s.refusal? dir)

/-- Whether a bidirectional stream would be opened. -/
def shouldOpen (s : Session τ) : Except Fault Bool := return (← s.gate .bi).isNone

/-- What is said to a peer that used an identifier of the other side. -/
def foreignIdReason : Side → String
  | .server => "client created a server-initiated stream id"
  | .client => "server created a client-initiated stream id"

/-- The gate before a stream of the peer is taken in. An identifier of this side is a violation of
the protocol and closes the connection; a stream after a goodbye is only refused. -/
def screen (now : Instant) (id : StreamId) (s : Session τ) :
    Except Fault (Option Refusal × Session τ) :=
  if s.state = .created then .error (.usedBeforeStart s.id)
  else if !s.connected then .ok (some .notConnected, s)
  else if id.initiator = s.side then
    .ok (some .foreignId,
      s.closeConnection a now AppCode.invalidStreamId.value (foreignIdReason s.side))
  else if s.goawayReceived && s.respectGoaway then .ok (some .goaway, s)
  else if id.handle?.isNone then .ok (some .limitReached, s)
  else .ok (none, s)

/-! ## Delivery -/

omit [Transport τ] in
/-- The notices about what a pass over a stream brought: one for each region, then its end. -/
def passNotices (s : Session τ) (stream : LiveStream) (pass : ReadPass) (fin : Bool) :
    List Notice :=
  match stream.visitor with
  | some v =>
    let h := s.streamHandle stream.id
    pass.regions.map (fun bytes => .stream v h (.data bytes)) ++
      if fin then [.stream v h .fin] else []
  | none =>
    let h := stream.id.handle
    pass.regions.flatMap (fun bytes => a.tellListener (.data s.id h bytes)) ++
      if fin then a.tellListener (.fin s.id h) else []

/-- Hands out everything that can be read, if there is somebody to take it. -/
def deliver (id : StreamId) (s : Session τ) : Session τ :=
  match s.streams.get? id with
  | none => s
  | some stream =>
    if stream.visitor.isNone && a.listener.isNone then s
    else
      let (pass, stream, t) := stream.drain s.transport
      let (fin, stream) := stream.takeFin
      let s := { s with transport := t, streams := s.streams.update id fun _ => stream }
      s.post a (s.passNotices a stream pass fin)

/-! ## Creation -/

omit [Transport τ] in
def insertStream (id : StreamId) (s : Session τ) : Session τ :=
  { s with streams := s.streams.insert id (.new id (.of id s.side) s.options.buffer) }

omit [Transport τ] in
/-- Tells the visitor of a new stream of the peer, or keeps it to be told later. -/
def announce (id : StreamId) (s : Session τ) : Session τ :=
  if s.visitor.isSome then s.tellVisitor a (.incomingStream (s.streamHandle id))
  else { s with unannounced := s.unannounced.filter (· ≠ id) ++ [id] }

/-- Opens a stream from here, if the gate and the peer's credit allow it. -/
def openStream (dir : Dir) (s : Session τ) : Except Fault (Option StreamHandle × Session τ) := do
  match ← s.gate dir with
  | some _ => return (none, s)
  | none =>
    match Transport.openStream dir s.transport with
    | none => return (none, { s with blocked := s.blocked.set dir true })
    | some (id, t) =>
      let s := { s with transport := t, opened := s.opened.update dir (· + 1) }
      let s := s.insertStream id
      return (some (s.streamHandle id), s.tellListener a (.ready s.id id.handle))

/-- Opens a bidirectional stream. -/
def openBidirectional (s : Session τ) : Except Fault (Option StreamHandle × Session τ) :=
  s.openStream a .bi

/-- Opens a stream that only this side writes. Clients never do. -/
def openUnidirectional (s : Session τ) : Except Fault (Option StreamHandle × Session τ) :=
  if s.side.isServer then s.openStream a .uni else .error (.clientUnidirectional s.id)

/-- Takes in a stream of the peer, or refuses it. -/
def createIncoming (now : Instant) (id : StreamId) (s : Session τ) :
    Except Fault (Option StreamHandle × Session τ) := do
  if s.streams.contains id then return (none, s)
  match ← s.screen a now id with
  | (some .foreignId, s) => return (none, s)
  | (some .notConnected, s) => return (none, s)
  | (some _, s) =>
    return (none, { s with
      transport := LiveStream.reject id s.side AppCode.streamRefused.value.toNat s.transport })
  | (none, s) =>
    let s := (s.insertStream id).announce a id
    let s := s.tellListener a (.ready s.id id.handle)
    return (some (s.streamHandle id), s.deliver a id)

/-- Takes in the streams that the peer opened, until the session closes over one of them. -/
def acceptPending (now : Instant) (dir : Dir) (s : Session τ) : Except Fault (Session τ) :=
  match Transport.acceptStream dir s.transport with
  | none => .ok s
  | some (id, t) =>
    match createIncoming a now id { s with transport := t } with
    | .error fault => .error fault
    | .ok (_, s') =>
      if s'.state = .closed then .ok s'
      else if Transport.backlog s'.transport < Transport.backlog s.transport then
        acceptPending now dir s'
      else .ok s'
termination_by Transport.backlog s.transport

/-- The stream of an identifier: one that is live, or a new one if the identifier is the next that
this side would give out. -/
def getOrOpen (id : StreamId) (s : Session τ) : Except Fault (Option StreamId × Session τ) :=
  if s.streams.contains id then .ok (some id, s)
  else if id.initiator ≠ s.side then .ok (none, s)
  else if id.dir = .uni ∧ s.side = .client then .ok (none, s)
  else if id ≠ s.nextId id.dir then .ok (none, s)
  else do
    let (stream, s) ← s.openStream a id.dir
    return (stream.map StreamHandle.stream, s)

/-! ## Operations on one stream -/

/-- Writes to a stream; an unknown one takes nothing. -/
def streamWrite (id : StreamId) (data : Bytes) (fin : Bool) (s : Session τ) : Nat × Session τ :=
  match s.streams.get? id with
  | none => (0, s)
  | some stream =>
    let (n, stream, t) := stream.write data fin s.transport
    (n, { s with transport := t, streams := s.streams.update id fun _ => stream })

/-- Reads at most `limit` bytes of a stream. The end of the stream is reported once, to its visitor
or else to the listener. -/
def streamRead (id : StreamId) (limit : Nat) (s : Session τ) : Bytes × Session τ :=
  match s.streams.get? id with
  | none => ([], s)
  | some stream =>
    let (pass, stream, t) := stream.readUpTo limit s.transport
    let (fin, stream) := stream.takeFin
    let s := { s with transport := t, streams := s.streams.update id fun _ => stream }
    (pass.bytes, s.post a (s.passNotices a stream .nothing fin))

def streamClose (id : StreamId) (s : Session τ) : Session τ :=
  match s.streams.get? id with
  | none => s
  | some stream =>
    let (stream, t) := stream.close s.transport
    { s with transport := t, streams := s.streams.update id fun _ => stream }

omit [Transport τ] in
def streamCanWrite (id : StreamId) (s : Session τ) : Bool :=
  (s.streams.get? id).any LiveStream.canWrite

omit [Transport τ] in
def streamBuffered (id : StreamId) (s : Session τ) : Nat :=
  ((s.streams.get? id).map LiveStream.buffered).getD 0

/-- Gives a stream a visitor, which gets what can already be read. -/
def setStreamVisitor (id : StreamId) (v : StreamVisitor) (s : Session τ) : Session τ :=
  if s.streams.contains id then
    { s with streams := s.streams.update id fun x => { x with visitor := some v } }.deliver a id
  else s

/-- The transport has room for the stream again. Its visitor is told if nothing waits any more. -/
def streamWritable (id : StreamId) (s : Session τ) : Session τ :=
  match s.streams.get? id with
  | none => s
  | some stream =>
    let (drained, stream, t) := stream.flush s.transport
    let s := { s with transport := t, streams := s.streams.update id fun _ => stream }
    match stream.visitor with
    | some v =>
      if drained && stream.canWrite then s.post a [.stream v (s.streamHandle id) .canWrite] else s
    | none => s

omit [Transport τ] in
/-- Drops the streams that are spent and says so once. -/
def reclaim (s : Session τ) : Session τ :=
  (s.streams.values.filter LiveStream.spent).foldl (fun s stream =>
    { s with
      streams := s.streams.erase stream.id
      unannounced := s.unannounced.filter (· ≠ stream.id) }.tellStreamClosed a stream) s

omit [Transport τ] in
/-- Installs the session visitor and tells it what it missed: which streams may be opened, and the
peer's streams that nobody heard of, lowest identifier first. -/
def setVisitor (v : SessionVisitor) (s : Session τ) : Session τ :=
  let s := { s with visitor := some v }
  let s := if s.state = .active then s.tellCanCreate a else s
  let missed := s.unannounced.mergeSort fun x y => decide (x.raw ≤ y.raw)
  let s := { s with unannounced := [] }
  missed.foldl (fun s id => if s.streams.contains id then s.announce a id else s) s

end QuicSessions.Session
