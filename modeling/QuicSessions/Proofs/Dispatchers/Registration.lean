import QuicSessions.Dispatcher
import QuicSessions.Proofs.Sessions.Effects

/-!
# Registration

What a dispatcher does when it makes a session for a new connection: the session gets the next
number, begins its handshake and is registered under its number and its connection.
-/

set_option autoImplicit false

namespace QuicSessions

variable {ε τ π : Type} [Transport τ]

/-- The session that is registered for a new connection. -/
def Session.begun (id : SessionId) (handle : ConnectionHandle) (t : τ) (options : SessionOptions)
    (now : Instant) : Session τ :=
  { Session.new id handle t options now with
    state := .handshakeInProgress
    handshakeDeadline :=
      if (Transport.side t).isClient then options.handshakeTimeout.map fun d => now + d.toNanos
      else none }

theorem Session.start_beginHandshake {id : SessionId} {handle : ConnectionHandle} {t : τ}
    {options : SessionOptions} {now : Instant} {s s' : Session τ}
    (started : (Session.new id handle t options now).start = .ok s)
    (begun : s.beginHandshake now = .ok s') : s' = .begun id handle t options now := by
  obtain ⟨-, rfl⟩ := Session.start_cases started
  obtain ⟨-, rfl⟩ | ⟨-, other, -⟩ := Session.beginHandshake_cases begun
  · rfl
  · exact absurd rfl other

namespace Dispatcher

/-- A session that can be made is registered under the next number, at the beginning of its
handshake. -/
theorem createSession_cases {now : Instant} {handle : ConnectionHandle} {t : τ}
    {d d' : Dispatcher ε τ π} {id : SessionId} (h : d.createSession now handle t = .ok (id, d')) :
    id = d.nextSession ∧ d' = { d with
      nextSession := id.next
      connections := d.connections.insert handle id
      sessions := d.sessions.insert id (.begun id handle t d.options now) }.tellServer
        (.session (Session.begun id handle t d.options now).sessionHandle) := by
  obtain ⟨s, started, h⟩ := ok_of_bind h
  obtain ⟨s', begun, h⟩ := ok_of_bind h
  obtain rfl := Session.start_beginHandshake started begun
  cases h
  exact ⟨rfl, rfl⟩

omit [Transport τ] in
theorem tellServer_eq (news : ServerNews) (d : Dispatcher ε τ π) :
    d.tellServer news = { d with posted := (d.tellServer news).posted } := by
  unfold tellServer
  split <;> rfl

/-- The session that a new connection got is in the table. -/
theorem get?_createSession {now : Instant} {handle : ConnectionHandle} {t : τ}
    {d d' : Dispatcher ε τ π} {id : SessionId} (h : d.createSession now handle t = .ok (id, d')) :
    d'.sessions.get? id = some (.begun id handle t d.options now) := by
  obtain ⟨-, rfl⟩ := createSession_cases h
  rw [tellServer_eq]
  exact (Table.get?_insert ..).trans (if_pos rfl)

end Dispatcher

end QuicSessions
