import QuicSessions.Session.Streams

/-!
# What a transport reports to its session

`process` takes every report that waits, in order, and lets the session react. Reports for streams
that are no longer in the table have no effect.
-/

set_option autoImplicit false

namespace QuicSessions.Session

variable {τ : Type} [Transport τ] (a : Audience)

/-- The datagram that asks the peer to open no more streams. -/
def goawayDatagram : Bytes := [0x07]

omit [Transport τ] in
/-- The handshake is over. -/
def handshakeComplete (s : Session τ) : Session τ :=
  let s := { s with
    encrypted := true
    handshakeDeadline := none
    state := s.state.afterHandshake }
  let s := s.tellCanCreate a
  { s with signals := s.signals ++ [.connected] }

omit [Transport τ] in
/-- The peer said goodbye. Only the first time counts. -/
def receiveGoaway (s : Session τ) : Session τ :=
  if s.goawayReceived then s
  else
    { s with
      goawayReceived := true
      state := if s.state = .active then .draining else s.state : Session τ }.tellVisitor a .goaway

/-- Takes the datagrams that arrived. All but the goodbye are ignored. -/
def drainDatagrams (s : Session τ) : Session τ :=
  match Transport.receiveDatagram s.transport with
  | none => s
  | some (data, t) =>
    let s' := { s with transport := t }
    let s' := if data = goawayDatagram then s'.receiveGoaway a else s'
    if Transport.backlog s'.transport < Transport.backlog s.transport then drainDatagrams s' else s'
termination_by Transport.backlog s.transport

/-- Asks the peer to open no more streams; says whether it could be asked. -/
def sendGoaway (s : Session τ) : Bool × Session τ :=
  let (sent, t) := Transport.sendDatagram goawayDatagram s.transport
  (sent, { s with transport := t })

/-- The reaction to one report. -/
def react (now : Instant) (e : Event) (s : Session τ) : Except Fault (Session τ) :=
  match e with
  | .handshakeData => .ok s
  | .connected => .ok (s.handshakeComplete a)
  | .lost cause => .ok (s.conclude a (.ofConnectionError cause))
  | .opened dir => s.acceptPending a now dir
  | .readable id => .ok (s.deliver a id)
  | .writable id => .ok (s.streamWritable a id)
  | .finished id => .ok { s with streams := s.streams.update id LiveStream.acknowledged }
  | .stopped id _ => .ok { s with streams := s.streams.update id LiveStream.abandonWrites }
  | .available dir =>
    let s := { s with blocked := s.blocked.set dir false }
    .ok (if s.state = .active then s.tellVisitor a (.canCreate dir) else s)
  | .datagram => .ok (s.drainDatagrams a)
  | .datagramsUnblocked => .ok s

/-- Takes every report that waits. -/
def process (now : Instant) (s : Session τ) : Except Fault (Session τ) :=
  match Transport.poll s.transport with
  | none => .ok s
  | some (e, t) =>
    match react a now e { s with transport := t } with
    | .error fault => .error fault
    | .ok s' =>
      if Transport.backlog s'.transport < Transport.backlog s.transport then process now s'
      else .ok s'
termination_by Transport.backlog s.transport

end QuicSessions.Session
