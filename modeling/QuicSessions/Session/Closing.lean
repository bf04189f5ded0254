import QuicSessions.Session.Basic

/-!
# Closing a session

A session closes once, for the first cause that it meets. Every stream still in the table is then
notified as closed, lowest identifier first, and after them the session visitor.
-/

set_option autoImplicit false

namespace QuicSessions.Session

variable {τ : Type} [Transport τ] (a : Audience)

omit [Transport τ] in
/-- The live streams, lowest identifier first. -/
def streamsAscending (s : Session τ) : List LiveStream :=
  s.streams.values.mergeSort fun x y => decide (x.id.raw ≤ y.id.raw)

omit [Transport τ] in
/-- The connection is over for `reason`. -/
def conclude (reason : CloseReason) (s : Session τ) : Session τ :=
  if s.state = .closed then s
  else
    let live := s.streamsAscending
    let duringHandshake := !s.encrypted
    let s := { s with
      state := .closed
      handshakeDeadline := none
      streams := .empty
      unannounced := [] }
    let s := live.foldl (fun s stream => s.tellStreamClosed a stream) s
    let s := s.tellVisitor a (.connectionClosed reason)
    { s with signals := s.signals ++ [.closed reason duringHandshake] }

/-- Closes the connection from here. Code zero is the normal close, whatever the reason says. -/
def closeConnection (now : Instant) (code : UInt32) (reason : String) (s : Session τ) : Session τ :=
  if s.state = .closed then s
  else
    let s := { s with
      transport := Transport.close now code.toNat (Utf8.encode reason) s.transport }
    s.conclude a (.ofLocalClose code reason)

end QuicSessions.Session
