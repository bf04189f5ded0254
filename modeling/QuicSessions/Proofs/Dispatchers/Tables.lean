import QuicSessions.Proofs.Dispatchers.Runs
import QuicSessions.Scenario.Bare
import QuicSessions.Wire.Station

/-!
# The two tables of a dispatcher

Sessions are registered twice, under their numbers and by way of their connections. The tables are
written apart, but they never drift: at every point of a run each is the inverse of the other.
-/

set_option autoImplicit false

namespace QuicSessions

namespace Dispatcher

variable {ε τ π : Type} [Transport τ] [Endpoint ε τ π]

section
omit [Transport τ] [Endpoint ε τ π]

variable (role : Side) (endpoint : ε) (address : SocketAddress) (options : SessionOptions)

/-- A dispatcher on an endpoint that made no connection yet. -/
def unused : Dispatcher (Tally (Roster ε)) τ π := .new role ⟨⟨endpoint, [], []⟩, 0⟩ address options

theorem filed_unused : Filed (unused role endpoint address options (τ := τ) (π := π)) :=
  fun _ _ found => (by cases found)

theorem numbered_unused : Numbered (unused role endpoint address options (τ := τ) (π := π)) :=
  ⟨rfl, fun _ mem => (by cases mem)⟩

theorem guarded_unused : Guarded (unused role endpoint address options (τ := τ) (π := π)) :=
  fun _ mem => (by cases mem)

theorem inverse_unused : Inverse (unused role endpoint address options (τ := τ) (π := π)) :=
  fun _ _ => ⟨fun found => (by cases found), fun ⟨_, found, _⟩ => (by cases found)⟩

end

/-- In a run that makes fewer connections than there are numbers and gives out no handle while it is
in use, the tables are each the inverse of the other at every point. Only a registration adds to them,
and only the removal of a connection takes from them; of one that is not registered it does nothing. -/
theorem tables_stay_inverse (final : Endpoint.OverForGood ε (τ := τ) (π := π)) (role : Side)
    (endpoint : ε) (address : SocketAddress) (options : SessionOptions) (before after : List (Move π)) :
    let d : Dispatcher (Tally (Roster ε)) τ π := (unused role endpoint address options).run before
    Fresh (d.run after) →
      (∀ handle id, d.connections.get? handle = some id ↔
        ∃ s, d.sessions.get? id = some s ∧ s.connection = handle) ∧
      d.registeredConnections = d.sessionCount ∧
      Changes d (d.run after) ∧
      ∀ handle, d.connections.get? handle = none → d.connectionClosed handle = d := by
  intro d fresh
  have numbered := numbered_unused role endpoint address options (τ := τ) (π := π)
  have guarded := guarded_unused role endpoint address options (τ := τ) (π := π)
  obtain ⟨filed, first⟩ : Filed d ∧ Advances _ d :=
    advances_run final (filed_unused role endpoint address options) before
  obtain ⟨-, second⟩ := advances_run final filed after
  obtain ⟨earlier, guarded⟩ := first.changes (second.fresh fresh) numbered guarded
  have later := (second.changes fresh (numbered.grows first.grows) guarded).1
  have inverse : Inverse d := earlier.inverse (inverse_unused role endpoint address options)
  exact ⟨inverse, inverse.size_eq, later, fun handle => connectionClosed_of_unregistered⟩

end Dispatcher

/-! ## The in-memory engine -/

namespace Wire

namespace Connection

theorem drained_iff {c : Connection} : Transport.isDrained c = true ↔ c.phase = .drained :=
  decide_eq_true_iff

theorem isClosed_of_drained {c : Connection} (ended : c.phase = .drained) : c.isClosed = true := by
  unfold isClosed
  rw [ended]

theorem phase_poll {c c' : Connection} {e : Event} (h : c.poll = some (e, c')) : c'.phase = c.phase := by
  unfold poll at h
  split at h
  · cases h
    rfl
  · split at h
    · cases h
      rfl
    · obtain ⟨cause, -, h⟩ := Option.map_eq_some_iff.1 h
      cases h
      rfl

theorem phase_receiveDatagram {c c' : Connection} {data : Bytes}
    (h : c.receiveDatagram = some (data, c')) : c'.phase = c.phase := by
  unfold receiveDatagram at h
  split at h
  · cases h
  · cases h
    rfl

theorem drained_timeout {now : Instant} {c : Connection} (ended : c.phase = .drained) :
    (c.timeout now).phase = .drained := by
  have probed : (if due c.probeAt now then c.probe else c).phase = .drained := by
    split <;> exact ended
  unfold timeout
  dsimp only
  generalize (if due c.probeAt now then c.probe else c) = c' at probed
  have dropped : (if due c'.idleAt now then c'.drop .timedOut else c').phase = .drained := by
    split
    · rfl
    · exact probed
  generalize (if due c'.idleAt now then c'.drop .timedOut else c') = c'' at dropped
  split
  · rfl
  · exact dropped

end Connection

open Connection

/-- A connection of the in-memory engine whose closing is over stays so. -/
theorem Station.overForGood : Endpoint.OverForGood Station (τ := Connection) (π := Payload) where
  asked := {
    write := by
      intro id data c c' answer h ended
      have closed := isClosed_of_drained (drained_iff.1 ended)
      change Connection.write id data c = _ at h
      unfold Connection.write at h
      rw [if_pos closed] at h
      cases h
      exact ended
    finish := by
      intro id c c' answer h ended
      cases h
      exact ended
    beginRead := by
      intro id c c' h ended
      obtain ⟨streams, -, rfl⟩ := Option.map_eq_some_iff.1 h
      exact ended
    nextRegion := by
      intro id limit c c' answer h ended
      cases h
      exact ended
    endRead := fun ended => ended
    openStream := by
      intro dir id c c' h ended
      have closed := isClosed_of_drained (drained_iff.1 ended)
      change Connection.openStream dir c = _ at h
      unfold Connection.openStream at h
      rw [if_pos closed] at h
      cases h
    acceptStream := by
      intro dir id c c' h ended
      obtain ⟨r, -, e⟩ := Option.map_eq_some_iff.1 h
      cases e
      exact ended
    reset := fun ended => ended
    stop := fun ended => ended
    poll := fun h ended => drained_iff.2 ((phase_poll h).trans (drained_iff.1 ended))
    receiveDatagram := fun h ended =>
      drained_iff.2 ((phase_receiveDatagram h).trans (drained_iff.1 ended))
    sendDatagram := by
      intro data c ended
      show Transport.isDrained (Connection.sendDatagram data c).2 = true
      unfold Connection.sendDatagram
      split <;> exact ended
    ping := fun ended => ended
    close := by
      intro now code reason c ended
      show Transport.isDrained (Connection.close now code reason c) = true
      unfold Connection.close
      rw [if_pos (isClosed_of_drained (drained_iff.1 ended))]
      exact ended
    timeout := fun ended => drained_iff.2 (drained_timeout (drained_iff.1 ended)) }
  sending := by
    intro now c ended
    show Transport.isDrained (Connection.transmit now c).2 = true
    unfold Connection.transmit
    rw [drained_iff.1 ended]
    exact ended

end Wire

namespace Dispatcher

/-- A client that connects, closes, and connects again once closing is over. -/
def reconnection : List (Move Wire.Payload) :=
  [.adjust ⟨some Scenario.commonSettings, .silent, none, none, false, 1, 32, false⟩,
    .connect 0 Scenario.serverAddress "localhost", .operate 0 ⟨1⟩ [.close 0 ""],
    .timeout (millis 3000), .connect (millis 3000) Scenario.serverAddress "localhost"]

def reconnected : Dispatcher (Tally (Roster Wire.Station)) Wire.Connection Wire.Payload :=
  (unused .client .client Scenario.clientAddress .standard).run reconnection

/-- The second connection has the handle of the first one and a number of its own. -/
theorem tables_stay_inverse_reconnection :
    Fresh reconnected ∧ reconnected.registeredConnections = reconnected.sessionCount ∧
      reconnected.connections.get? ⟨0⟩ = some ⟨2⟩ ∧
      ∃ s, reconnected.sessions.get? ⟨2⟩ = some s ∧ s.connection = ⟨0⟩ := by
  have fresh : Fresh reconnected := ⟨by decide +kernel, by decide +kernel⟩
  have registered : reconnected.connections.get? ⟨0⟩ = some ⟨2⟩ := by decide +kernel
  obtain ⟨inverse, same, -, -⟩ := tables_stay_inverse Wire.Station.overForGood .client
    Wire.Station.client Scenario.clientAddress .standard reconnection [] fresh
  exact ⟨fresh, same, registered, (inverse ⟨0⟩ ⟨2⟩).1 registered⟩

end Dispatcher

end QuicSessions
