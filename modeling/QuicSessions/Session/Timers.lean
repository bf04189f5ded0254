import QuicSessions.Session.Closing

/-!
# The deadlines of a session

Besides what its transport wants, a session has two deadlines: the end of the time that a client's
handshake may take, and the next keep-alive of an active session that is in use. To look at the second
when the clock cannot hold it is a mistake.
-/

set_option autoImplicit false

namespace QuicSessions.Session

variable {τ : Type} [Transport τ] (a : Audience)

omit [Transport τ] in
/-- When the peer is to be reminded that the connection is in use. -/
def keepAliveDeadline (s : Session τ) : Option Instant :=
  if s.state = .active ∧ s.inUse then s.options.keepAlive.map fun d => s.lastKeepAlive + d.toNanos
  else none

omit [Transport τ] in
/-- The next keep-alive lies beyond what the clock can hold. -/
def overflows (s : Session τ) : Bool := s.keepAliveDeadline.any fun t => !decide t.Representable

/-- The earlier of two deadlines. -/
def earlier : Option Instant → Option Instant → Option Instant
  | some x, some y => some (min x y)
  | some x, none => some x
  | none, y => y

/-- When the session next wants to be told the time. -/
def deadline (s : Session τ) : Option Instant :=
  earlier (Transport.deadline s.transport) (earlier s.keepAliveDeadline s.handshakeDeadline)

/-- Asks when the session next wants to be told the time. -/
def pollTimeout (s : Session τ) : Except Fault (Option Instant) :=
  if s.overflows then .error .clockOverflow else .ok s.deadline

/-- Whether a deadline has come. -/
def reached (deadline : Option Instant) (now : Instant) : Bool := deadline.any (decide <| · ≤ now)

omit [Transport τ] in
/-- The handshake is still under way, and its time is up. -/
def late (now : Instant) (s : Session τ) : Bool := reached s.handshakeDeadline now && !s.encrypted

/-- The time is `now`. A handshake that is late closes the session; a keep-alive that is due goes
out, and the next one counts from now. -/
def timeout (now : Instant) (s : Session τ) : Session τ :=
  let s := { s with transport := Transport.timeout now s.transport }
  if s.late now then
    { s with
      transport := Transport.close now AppCode.handshakeTimeout.value.toNat
        (Utf8.encode "handshake timeout") s.transport }.conclude a .timeout
  else
    match s.keepAliveDeadline with
    | some t =>
      if t ≤ now then { s with transport := Transport.ping s.transport, lastKeepAlive := now }
      else s
    | none => { s with lastKeepAlive := now }

/-- Tells the session the time. Unless that closes it, it looks at its next keep-alive. -/
def handleTimeout (now : Instant) (s : Session τ) : Except Fault (Session τ) :=
  if !s.late now && s.overflows then .error .clockOverflow else .ok (s.timeout a now)

end QuicSessions.Session
