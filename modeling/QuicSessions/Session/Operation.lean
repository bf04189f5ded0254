import QuicSessions.Session.Events
import QuicSessions.Session.Timers

/-!
# The operations of a session

Everything that can be asked of a session, as data, with the answers. `Operation.run` carries one
out; a run of a session is a list of operations.
-/

set_option autoImplicit false

namespace QuicSessions

namespace Session

/-- What can be asked of a session. -/
inductive Operation where
  | start
  | beginHandshake
  | standing
  | gate (dir : Dir)
  | shouldOpen
  | nextId (dir : Dir)
  | openStream (dir : Dir)
  | screen (id : StreamId)
  | createIncoming (id : StreamId)
  | getOrOpen (id : StreamId)
  | acceptPending (dir : Dir)
  | hasStream (id : StreamId)
  | write (id : StreamId) (data : Bytes) (fin : Bool)
  | read (id : StreamId) (limit : Nat)
  | closeStream (id : StreamId)
  | canWrite (id : StreamId)
  | buffered (id : StreamId)
  | setVisitor (v : SessionVisitor)
  | setStreamVisitor (id : StreamId) (v : StreamVisitor)
  | setRespectGoaway (respect : Bool)
  | sendGoaway
  | receiveGoaway
  | close (code : UInt32) (reason : String)
  | inUse
  | reclaim
  | process
  | takeSignals
  | timeout (after : Nat)
  | hasTimer
  | stats
  | names

/-- How a session stands. -/
structure Standing where
  state : SessionState
  connected : Bool
  encrypted : Bool
  ready : Bool
  goaway : Bool
  streams : Nat
  inUse : Bool

/-- What an operation answers. -/
inductive Answer where
  | done
  | flag (value : Bool)
  | count (n : Nat)
  | text (value : String)
  | bytes (value : Bytes)
  | stream (id : Option StreamId)
  | refusal (r : Option Refusal)
  | standing (s : Standing)
  | signals (signals : List Signal)
  | stats (s : ConnectionStats)
  | names (names : List String)

variable {τ : Type} [Transport τ]

def standing (s : Session τ) : Standing where
  state := s.state
  connected := s.connected
  encrypted := s.encrypted
  ready := s.ready
  goaway := s.goawayReceived
  streams := s.streams.size
  inUse := s.inUse

/-- Carries out an operation at the time `now`. -/
def Operation.run (a : Audience) (now : Instant) (op : Operation) (s : Session τ) :
    Except Fault (Answer × Session τ) :=
  match op with
  | .start => return (.done, ← s.start)
  | .beginHandshake => return (.done, ← s.beginHandshake now)
  | .standing => .ok (.standing s.standing, s)
  | .gate dir => return (.refusal (← s.gate dir), s)
  | .shouldOpen => return (.flag (← s.shouldOpen), s)
  | .nextId dir => .ok (.stream (some (s.nextId dir)), s)
  | .openStream dir => do
    let (h, s) ← match dir with
      | .bi => s.openBidirectional a
      | .uni => s.openUnidirectional a
    return (.stream (h.map StreamHandle.stream), s)
  | .screen id => do
    let (r, s) ← s.screen a now id
    return (.refusal r, s)
  | .createIncoming id => do
    let (h, s) ← s.createIncoming a now id
    return (.stream (h.map StreamHandle.stream), s)
  | .getOrOpen id => do
    let (id, s) ← s.getOrOpen a id
    return (.stream id, s)
  | .acceptPending dir => return (.done, ← s.acceptPending a now dir)
  | .hasStream id => .ok (.flag (s.streams.contains id), s)
  | .write id data fin =>
    let (n, s) := s.streamWrite id data fin
    .ok (.count n, s)
  | .read id limit =>
    let (bytes, s) := s.streamRead a id limit
    .ok (.bytes bytes, s)
  | .closeStream id => .ok (.done, s.streamClose id)
  | .canWrite id => .ok (.flag (s.streamCanWrite id), s)
  | .buffered id => .ok (.count (s.streamBuffered id), s)
  | .setVisitor v => .ok (.done, s.setVisitor a v)
  | .setStreamVisitor id v => .ok (.done, s.setStreamVisitor a id v)
  | .setRespectGoaway respect => .ok (.done, { s with respectGoaway := respect })
  | .sendGoaway =>
    let (sent, s) := s.sendGoaway
    .ok (.flag sent, s)
  | .receiveGoaway => .ok (.done, s.receiveGoaway a)
  | .close code reason => .ok (.done, s.closeConnection a now code reason)
  | .inUse => .ok (.flag s.inUse, s)
  | .reclaim => .ok (.done, s.reclaim a)
  | .process => return (.done, ← s.process a now)
  | .takeSignals => .ok (.signals s.signals, { s with signals := [] })
  | .timeout after => return (.done, ← s.handleTimeout a (now + after))
  | .hasTimer => return (.flag (← s.pollTimeout).isSome, s)
  | .stats => .ok (.stats s.stats, s)
  | .names =>
    .ok (.names [s.id.display, s.connection.display, s.sessionHandle.debug], s)

end Session

end QuicSessions
