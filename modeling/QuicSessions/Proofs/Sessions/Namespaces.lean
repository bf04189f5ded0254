import QuicSessions.Proofs.Sessions.Stages

/-!
# Identifiers of this side

A peer that gives a stream an identifier of this side breaks the protocol, and the connection is
closed over it. The session looks first whether it has a stream of that identifier, though, and if
it has, nothing happens.
-/

set_option autoImplicit false

namespace QuicSessions.Session

variable {τ : Type} [Transport τ] (a : Audience) (now : Instant)

theorem ne_created_of_connected {s : Session τ} (h : s.connected = true) : s.state ≠ .created := by
  intro created
  unfold connected at h
  rw [created] at h
  cases h

/-- The gate closes the connection over an identifier of this side, whatever else there is to say. -/
theorem screen_of_own {id : StreamId} {s : Session τ} (connected : s.connected = true)
    (own : id.initiator = s.side) :
    s.screen a now id = .ok (some .foreignId,
      s.closeConnection a now AppCode.invalidStreamId.value (foreignIdReason s.side)) := by
  unfold screen
  rw [if_neg (ne_created_of_connected connected), connected, if_neg (by decide), if_pos own]

theorem createIncoming_of_known {id : StreamId} {s : Session τ} (known : s.streams.contains id = true) :
    s.createIncoming a now id = .ok (none, s) := by
  unfold createIncoming
  rw [if_pos known]
  rfl

theorem createIncoming_of_own {id : StreamId} {s : Session τ} (connected : s.connected = true)
    (own : id.initiator = s.side) (unknown : s.streams.contains id = false) :
    s.createIncoming a now id = .ok (none,
      s.closeConnection a now AppCode.invalidStreamId.value (foreignIdReason s.side)) := by
  unfold createIncoming
  rw [if_neg (by rw [unknown]; exact Bool.false_ne_true), screen_of_own a now connected own]
  rfl

/-- Closing from here, of a session that is not closed yet. -/
theorem closeConnection_eq {s : Session τ} (open_ : s.state ≠ .closed) (code : UInt32)
    (reason : String) :
    s.closeConnection a now code reason = { s with
      state := .closed
      transport := Transport.close now code.toNat (Utf8.encode reason) s.transport
      handshakeDeadline := none
      streams := .empty
      unannounced := []
      signals := s.signals ++ [.closed (.ofLocalClose code reason) (!s.encrypted)]
      posted := (s.closeConnection a now code reason).posted } := by
  unfold closeConnection
  rw [if_neg open_]
  dsimp only
  rw [conclude_eq a (by exact open_)]

/-- No identifier of this side makes a stream. It closes a connected session, with the code for it,
exactly if the session has no stream of that identifier; otherwise it changes nothing. -/
theorem own_id_closes_iff_unknown {id : StreamId} {s : Session τ} (connected : s.connected = true)
    (own : id.initiator = s.side) :
    ∃ s', s.createIncoming a now id = .ok (none, s') ∧
      (s'.state = .closed ↔ s.streams.contains id = false) ∧
      (s.streams.contains id = true → s' = s) ∧
      (s.streams.contains id = false →
        s'.streams.keys = [] ∧ s'.opened = s.opened ∧
        s'.transport = Transport.close now AppCode.invalidStreamId.value.toNat
          (Utf8.encode (foreignIdReason s.side)) s.transport ∧
        s'.signals = s.signals ++ [.closed (.application AppCode.invalidStreamId.value.toNat
          (foreignIdReason s.side)) (!s.encrypted)]) := by
  have open_ : s.state ≠ .closed := ne_closed_of_connected connected
  cases known : s.streams.contains id with
  | true =>
    refine ⟨s, createIncoming_of_known a now known, ?_, fun _ => rfl, fun h => by cases h⟩
    exact ⟨fun closed => absurd closed open_, fun h => by cases h⟩
  | false =>
    refine ⟨_, createIncoming_of_own a now connected own known, ?_, (fun h => by cases h),
      fun _ => ?_⟩
    · rw [closeConnection_eq a now open_]
      exact ⟨fun _ => rfl, fun _ => rfl⟩
    · rw [closeConnection_eq a now open_]
      exact ⟨rfl, rfl, rfl, rfl⟩

/-! ## A session with a stream of its own -/

/-- The client end of a connection whose server has answered. -/
def answeredConnection : Wire.Connection :=
  Scenario.unmadeConnection.receive 0
    ⟨0, 0, [.welcome Scenario.commonSettings.streams Scenario.commonSettings.idle]⟩

/-- A client's session whose handshake is over. -/
def answeredSession : Session Wire.Connection :=
  (begun ⟨1⟩ ⟨0⟩ answeredConnection .standard 0).run [.operate .silent 0 .process]

/-- The same session with its first stream. -/
def usedSession : Session Wire.Connection :=
  answeredSession.run [.operate .silent 0 (.openStream .bi)]

/-- The identifier of the second stream, which was not opened yet, closes the session. -/
theorem own_id_closes_iff_unknown_second :
    usedSession.connected = true ∧ (StreamId.of .client .bi 1).initiator = usedSession.side ∧
      ∃ s', usedSession.createIncoming .silent 0 (.of .client .bi 1) = .ok (none, s') ∧
        s'.state = .closed ∧ s'.streams.keys = [] := by
  have connected : usedSession.connected = true := by decide +kernel
  have own : (StreamId.of .client .bi 1).initiator = usedSession.side := by decide +kernel
  have unknown : usedSession.streams.contains (.of .client .bi 1) = false := by decide +kernel
  obtain ⟨s', created, closes, -, closed⟩ := own_id_closes_iff_unknown .silent 0 connected own
  exact ⟨connected, own, s', created, closes.2 unknown, (closed unknown).1⟩

/-- The identifier of the first stream, which is open, does nothing. -/
theorem own_open_id_ignored :
    usedSession.connected = true ∧ (StreamId.of .client .bi 0).initiator = usedSession.side ∧
      (usedSession.createIncoming .silent 0 (.of .client .bi 0)).toOption.map
          (fun x => (x.1, x.2.state, x.2.streams.keys)) =
        some (none, .active, [.of .client .bi 0]) := by
  decide +kernel

end QuicSessions.Session
