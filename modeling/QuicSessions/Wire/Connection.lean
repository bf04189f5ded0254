import QuicSessions.Wire.Streams

/-!
# Connections

A connection sends what its session and its streams have queued, takes in the packets of its peer,
and keeps three deadlines: the end of the longest silence, the time to send again what was not
acknowledged, and the end of closing. Reports reach the session in the order: what happened to the
connection, what happened to streams, and last that the connection is lost.
-/

set_option autoImplicit false

namespace QuicSessions.Wire

inductive Phase where
  | handshake
  | established
  /-- Closed from here. -/
  | closing
  /-- Closed by the peer. -/
  | draining
  | drained
  deriving DecidableEq

structure Connection where
  side : Side
  link : Nat
  remote : SocketAddress
  settings : Settings
  phase : Phase
  streams : Streams
  /-- What happened to the connection. -/
  reports : List Event
  /-- Why the connection is lost, until the session is told. -/
  cause : Option ConnectionError
  /-- The longest silence that both ends accept. -/
  idle : Nat
  /-- Frames of the handshake to be sent. -/
  flight : List Frame
  /-- Frames to be sent again. -/
  again : List Frame
  datagramsOut : List Bytes
  datagramsIn : List Bytes
  pingDue : Bool
  /-- Packets to be acknowledged. -/
  toAck : List Nat
  nextNumber : Nat
  /-- Packets that were sent and not acknowledged. -/
  inFlight : List (Nat × List Frame)
  /-- How often in a row nothing was acknowledged. -/
  probes : Nat
  lastSent : Instant
  bytesSent : Nat
  bytesReceived : Nat
  packetsReceived : Nat
  idleAt : Option Instant
  closeAt : Option Instant
  /-- Nothing that asks for an answer was sent since the last packet arrived. -/
  quiet : Bool
  /-- What closing tells the peer. -/
  farewell : List Frame
  farewellDue : Bool
  /-- The endpoint has not been told that closing is over. -/
  slotDue : Bool

namespace Connection

/-- A new connection. -/
def new (side : Side) (link : Nat) (remote : SocketAddress) (settings : Settings) : Connection where
  side := side
  link := link
  remote := remote
  settings := settings
  phase := .handshake
  streams := .new side settings.streams
  reports := []
  cause := none
  idle := settings.idle
  flight := if side = .client then [.hello settings.streams settings.idle] else []
  again := []
  datagramsOut := []
  datagramsIn := []
  pingDue := false
  toAck := []
  nextNumber := 0
  inFlight := []
  probes := 0
  lastSent := 0
  bytesSent := 0
  bytesReceived := 0
  packetsReceived := 0
  idleAt := none
  closeAt := none
  quiet := true
  farewell := []
  farewellDue := false
  slotDue := false

/-- Closing has begun. -/
def isClosed (c : Connection) : Bool :=
  match c.phase with
  | .handshake => false
  | .established => false
  | _ => true

def isDrained (c : Connection) : Bool := c.phase = .drained

/-! ## Deadlines -/

/-- How long an answer may take: a second until the first one came, then little more than the peer
may hold an acknowledgement back. -/
def patience (c : Connection) : Nat := if c.phase = .handshake then millis 999 else millis 26

/-- How long closing takes. -/
def closingTime (c : Connection) : Nat :=
  3 * (if c.streams.peerKnown then millis 26 else millis 999)

/-- When to send again what was not acknowledged; each failure doubles the wait. -/
def probeAt (c : Connection) : Option Instant :=
  if c.isClosed || c.inFlight.isEmpty then none
  else some (c.lastSent + c.patience <<< min c.probes 16)

/-- Silence begins anew; zero stands for no limit. -/
def restartIdle (now : Instant) (c : Connection) : Connection :=
  if c.isClosed || c.idle = 0 then { c with idleAt := none }
  else { c with idleAt := some (now + max c.idle (3 * c.patience)) }

def deadlines (c : Connection) : List Instant :=
  [c.probeAt, c.idleAt, c.closeAt].filterMap id

def deadline (c : Connection) : Option Instant := c.deadlines.min?

/-- Closing begins. -/
def beginClosing (now : Instant) (phase : Phase) (c : Connection) : Connection :=
  { c with phase := phase, idleAt := none, closeAt := some (now + c.closingTime) }

/-- Closing is over. -/
def endClosing (c : Connection) : Connection :=
  { c with phase := .drained, idleAt := none, closeAt := none, slotDue := true }

/-- The connection is gone without a farewell. -/
def drop (cause : ConnectionError) (c : Connection) : Connection :=
  { c.endClosing with cause := some cause }

/-- What was not acknowledged is sent again. -/
def probe (c : Connection) : Connection :=
  { c with
    again := c.again ++ c.inFlight.flatMap fun p => p.2.filter Frame.eliciting
    inFlight := []
    probes := c.probes + 1 }

def due (deadline : Option Instant) (now : Instant) : Bool := deadline.any fun t => t ≤ now

/-- The time is `now`. -/
def timeout (now : Instant) (c : Connection) : Connection :=
  let c := if due c.probeAt now then c.probe else c
  let c := if due c.idleAt now then c.drop .timedOut else c
  if due c.closeAt now then c.endClosing else c

/-! ## What the session asks -/

/-- What closing with an application code tells the peer. Before the handshake is over the peer is
told no more than that an application closed. -/
def farewellFrames (code : Nat) (reason : Bytes) (c : Connection) : List Frame :=
  if c.phase = .handshake then [.transportClose .applicationError []]
  else [.applicationClose code reason]

def close (now : Instant) (code : Nat) (reason : Bytes) (c : Connection) : Connection :=
  if c.isClosed then c
  else
    let farewell := c.farewellFrames code reason
    { c.beginClosing now .closing with farewell := farewell, farewellDue := true }

/-- The peer broke a rule: the session is told, and so is the peer. -/
def abort (now : Instant) (v : Violation) (c : Connection) : Connection :=
  { c.beginClosing now .closing with
    cause := some (.transport v.1 v.2)
    farewell := [.transportClose v.1 (Utf8.encode v.2)]
    farewellDue := true }

/-- The largest datagram that fits a packet. -/
def maxDatagram : Nat := 1162

/-- Queues a datagram; says whether it could be. -/
def sendDatagram (data : Bytes) (c : Connection) : Bool × Connection :=
  if c.streams.peerKnown && decide (data.length ≤ maxDatagram) then
    (true, { c with datagramsOut := c.datagramsOut ++ [data] })
  else (false, c)

def receiveDatagram (c : Connection) : Option (Bytes × Connection) :=
  match c.datagramsIn with
  | [] => none
  | d :: rest => some (d, { c with datagramsIn := rest })

/-- The next report for the session. -/
def poll (c : Connection) : Option (Event × Connection) :=
  match c.reports with
  | e :: rest => some (e, { c with reports := rest })
  | [] =>
    match c.streams.poll with
    | some (e, streams) => some (e, { c with streams := streams })
    | none => c.cause.map fun cause => (.lost cause, { c with cause := none })

def backlog (c : Connection) : Nat :=
  c.reports.length + c.streams.backlog + c.datagramsIn.length + c.cause.isSome.toNat

def write (id : StreamId) (data : Bytes) (c : Connection) : WriteAnswer data.length × Connection :=
  if c.isClosed then (.blocked, c)
  else
    let r := c.streams.write id data
    (r.1, { c with streams := r.2 })

def openStream (dir : Dir) (c : Connection) : Option (StreamId × Connection) :=
  if c.isClosed then none
  else (c.streams.openStream dir).map fun r => (r.1, { c with streams := r.2 })

/-- What was sent and received; the engine measures neither the path nor its losses. -/
def counters (c : Connection) : PathCounters where
  rtt := .zero
  congestionWindow := 0
  lostPackets := 0
  bytesSent := c.bytesSent
  bytesReceived := c.bytesReceived
  datagramsSent := c.nextNumber
  datagramsReceived := c.packetsReceived

instance : Transport Connection where
  side c := c.side
  remote c := c.remote
  counters := counters
  isClosed := isClosed
  isDrained := isDrained
  openStream := openStream
  acceptStream dir c :=
    (c.streams.acceptStream dir).map fun r => (r.1, { c with streams := r.2 })
  write := write
  finish id c :=
    let r := c.streams.finish id
    (r.1, { c with streams := r.2 })
  reset id code c := { c with streams := (c.streams.reset id code).2 }
  stop id code c := { c with streams := (c.streams.stop id code).2 }
  beginRead id c := (c.streams.beginRead id).map fun streams => { c with streams := streams }
  nextRegion id limit c :=
    let r := c.streams.nextRegion id limit
    (r.1, { c with streams := r.2 })
  endRead id c := { c with streams := c.streams.endRead id }
  poll := poll
  receiveDatagram := receiveDatagram
  sendDatagram := sendDatagram
  ping c := { c with pingDue := true }
  close := close
  deadline := deadline
  timeout := timeout
  backlog := backlog

/-! ## What is sent -/

/-- What streams and datagrams have to send once the handshake is over. -/
def emitPayload (c : Connection) : List Frame × Connection :=
  let control := c.streams.control
  let (credit, streams) := { c.streams with control := [] }.emitCredit
  let (counts, streams) := streams.emitStreams
  let (data, streams) := streams.emitData
  (control ++ credit ++ counts ++ c.datagramsOut.map .datagram ++ data,
    { c with streams := streams, datagramsOut := [] })

/-- What there is to send, apart from a farewell. -/
def emit (c : Connection) : List Frame × Connection :=
  let frames :=
    (if c.toAck.isEmpty then [] else [.ack c.toAck]) ++ c.again ++ c.flight ++
      if c.pingDue then [.ping] else []
  let c := { c with toAck := [], again := [], flight := [], pingDue := false }
  if c.phase = .established then
    let (payload, c) := c.emitPayload
    (frames ++ payload, c)
  else (frames, c)

/-- The packet with the next number. -/
def pack (frames : List Frame) (c : Connection) : Packet := ⟨c.link, c.nextNumber, frames⟩

/-- Notes that a packet was sent. -/
def track (now : Instant) (frames : List Frame) (c : Connection) : Connection :=
  let c := { c with
    bytesSent := c.bytesSent + (c.pack frames).size
    nextNumber := c.nextNumber + 1 }
  if frames.any Frame.eliciting then
    let c := { c with inFlight := c.inFlight ++ [(c.nextNumber - 1, frames)], lastSent := now }
    if c.quiet then { c.restartIdle now with quiet := false } else c
  else c

/-- The packet to be sent now, if there is something to send. -/
def transmit (now : Instant) (c : Connection) : Option Packet × Connection :=
  match c.phase with
  | .drained => (none, c)
  | .draining => (none, c)
  | .closing =>
    if c.farewellDue then
      (some (c.pack c.farewell), { c.track now c.farewell with farewellDue := false })
    else (none, c)
  | _ =>
    let (frames, c) := c.emit
    if frames.isEmpty then (none, c) else (some (c.pack frames), c.track now frames)

/-! ## What arrives -/

/-- The longest silence that both ends accept; zero stands for no limit. -/
def agreeIdle (mine theirs : Nat) : Nat :=
  if mine = 0 then theirs else if theirs = 0 then mine else min mine theirs

def learnPeer (streams : PerDir Nat) (idle : Nat) (c : Connection) : Connection :=
  { c with streams := c.streams.learnPeer streams, idle := agreeIdle c.settings.idle idle }

/-- The handshake is over. -/
def establish (c : Connection) : Connection :=
  { c with phase := .established, reports := c.reports ++ [.connected] }

/-- The alert for a certificate that is not trusted. -/
def untrusted : Violation := (.crypto 48, "invalid peer certificate: UnknownIssuer")

def receiveAck (numbers : List Nat) (c : Connection) : Connection :=
  let (acked, left) := c.inFlight.partition fun p => numbers.contains p.1
  { c with
    inFlight := left
    probes := 0
    streams := acked.foldl (fun s p => p.2.foldl (fun s f => s.acknowledged f) s) c.streams }

def withStreams (r : Except Violation Streams) (c : Connection) : Except Violation Connection :=
  r.map fun streams => { c with streams := streams }

/-- One frame of the peer. -/
def receiveFrame (f : Frame) (c : Connection) : Except Violation Connection :=
  match f with
  | .hello streams idle =>
    if c.side = .server ∧ !c.streams.peerKnown then
      .ok { c.learnPeer streams idle with
        reports := c.reports ++ [Event.handshakeData]
        flight := c.flight ++ [.welcome c.settings.streams c.settings.idle] }
    else .ok c
  | .welcome streams idle =>
    if c.side = .client ∧ c.phase = .handshake then
      if c.settings.verify then .error untrusted
      else
        let c := { c with reports := c.reports ++ [Event.handshakeData] }
        .ok { (c.learnPeer streams idle).establish with flight := c.flight ++ [Frame.complete] }
    else .ok c
  | .complete =>
    if c.side = .server ∧ c.phase = .handshake then .ok c.establish else .ok c
  | .ping => .ok c
  | .ack numbers => .ok (c.receiveAck numbers)
  | .stream id offset data fin => c.withStreams (c.streams.receiveStream id offset data fin)
  | .reset id code => c.withStreams (c.streams.receiveReset id code)
  | .stop id code => c.withStreams (c.streams.receiveStop id code)
  | .maxStreamData id limit => c.withStreams (c.streams.receiveMaxStreamData id limit)
  | .maxStreams dir count => .ok { c with streams := c.streams.receiveMaxStreams dir count }
  | .datagram data =>
    .ok { c with
      datagramsIn := c.datagramsIn ++ [data]
      reports := if c.datagramsIn.isEmpty then c.reports ++ [.datagram] else c.reports }
  | .applicationClose _ _ => .ok c
  | .transportClose _ _ => .ok c
  | .unknownConnection => .ok c

/-- Whether the packet can be understood at this stage: before the handshake is over only its own
frames and a farewell can. -/
def understands (p : Packet) (c : Connection) : Bool :=
  c.phase ≠ .handshake ||
    p.frames.any fun f => f.ofHandshake || f.closeCause?.isSome

/-- Takes in a packet on a connection that is in use. -/
def receiveLive (now : Instant) (p : Packet) (c : Connection) : Connection :=
  let c := { c.restartIdle now with quiet := true }
  match p.frames.findSome? Frame.closeCause? with
  | some .reset => c.drop .reset
  | some cause => { c.beginClosing now .draining with cause := some cause }
  | none =>
    match p.frames.foldlM (fun c f => receiveFrame f c) c with
    | .error v => c.abort now v
    | .ok c =>
      { c with
        toAck := if p.frames.any Frame.eliciting then c.toAck ++ [p.number] else c.toAck
        streams := c.streams.noteStreams }

/-- Takes in a packet. Once this side has closed, any packet is answered with the farewell. -/
def receive (now : Instant) (p : Packet) (c : Connection) : Connection :=
  let c := { c with
    bytesReceived := c.bytesReceived + p.size
    packetsReceived := c.packetsReceived + 1 }
  match c.phase with
  | .drained => c
  | .draining => c
  | .closing =>
    if (p.frames.findSome? Frame.closeCause?).isSome then { c with phase := .draining }
    else { c with farewellDue := true }
  | _ => if c.understands p then c.receiveLive now p else c

end Connection

end QuicSessions.Wire
