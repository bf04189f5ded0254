import QuicSessions.Proofs.Dispatchers.Runs
import QuicSessions.Proofs.Sessions.Namespaces

/-!
# Goodbyes

A peer that says goodbye wants no more streams. What keeps a session from opening any is its stage
alone: a goodbye moves an active session on to draining, and a stage is never left backwards. A
goodbye that comes before the handshake is over finds no stage to move on from; the session notes it
and becomes active all the same.
-/

set_option autoImplicit false

namespace QuicSessions

namespace Session

variable {τ : Type} [Transport τ]

/-! ## Only an active session opens streams -/

theorem active_of_gate {s : Session τ} {dir : Dir} (h : s.refusal? dir = none) : s.state = .active := by
  unfold refusal? at h
  split at h
  · cases h
  split at h
  · cases h
  split at h
  · cases h
  · rename_i active
    exact Decidable.not_not.1 active

theorem opened_act {a : Audience} {s s' : Session τ} (h : Act a s s') :
    s'.opened = s.opened ∨ s.state = .active := by
  cases h with
  | takeIn h => exact .inl (by rw [afterTakeIn_eq])
  | deed h =>
    obtain traffic | steady | ⟨dir, id, t, gate, -, rfl⟩ | ⟨x, -, -, rfl⟩ | ⟨reason, open_, rfl⟩ :=
      deed_cases a h
    · exact .inl (by rw [traffic.quiet.eq])
    · exact .inl steady.opened
    · exact .inr (active_of_gate gate)
    · exact .inl rfl
    · exact .inl (by rw [conclude_eq a open_])

/-- From draining on the number of opened streams stands. -/
theorem kept_opened (n : PerDir Nat) : Kept fun s : Session τ =>
    SessionState.draining.rank ≤ s.state.rank ∧ s.opened = n where
  act act h := by
    refine ⟨Nat.le_trans h.1 (rank_le_act act), ?_⟩
    obtain same | active := opened_act act
    · exact same.trans h.2
    · rw [active] at h
      exact absurd h.1 (by decide)
  transport _ _ h := h
  collect _ h := h

/-- Before the session is active it stands, too. -/
theorem kept_unopened (n : PerDir Nat) : Kept fun s : Session τ =>
    s.opened = n ∨ SessionState.active.rank ≤ s.state.rank where
  act act h := by
    obtain same | active := opened_act act
    · obtain h | h := h
      · exact .inl (same.trans h)
      · exact .inr (Nat.le_trans h (rank_le_act act))
    · exact .inr (active ▸ rank_le_act act)
  transport _ _ h := h
  collect _ h := h

/-! ## A session that opens nothing -/

theorem refused_of_draining {s : Session τ} (draining : SessionState.draining.rank ≤ s.state.rank)
    (a : Audience) (dir : Dir) : s.openStream a dir = .ok (none, s) := by
  have started : s.state ≠ .created := by
    intro e
    rw [e] at draining
    exact absurd draining (by decide)
  have gate : s.gate dir = .ok (s.refusal? dir) := if_neg started
  cases refusal : s.refusal? dir with
  | none =>
    rw [active_of_gate refusal] at draining
    exact absurd draining (by decide)
  | some refusal' =>
    unfold openStream
    rw [gate, refusal]
    rfl

/-- Whoever asks, no stream is opened: not by a call, not by writing to the next identifier, and not by
a dispatcher that opens a stream as soon as its session is connected. -/
structure OpensNothing (s : Session τ) : Prop where
  bidirectional : ∀ a : Audience, s.openBidirectional a = .ok (none, s)
  unidirectional : ∀ a : Audience, s.side = .server → s.openUnidirectional a = .ok (none, s)
  byIdentifier : ∀ (a : Audience) (id : StreamId),
    s.getOrOpen a id = .ok (if s.streams.contains id then some id else none, s)
  onConnect : ∀ {ε π : Type} {d d' : Dispatcher ε τ π} {id : SessionId} {s' : Session τ},
    d.sessions.get? id = some s → d.react id .connected = .ok d' →
      d'.sessions.get? id = some s' → s'.opened = s.opened ∧ s'.streams = s.streams

theorem getOrOpen_of_draining {s : Session τ} (draining : SessionState.draining.rank ≤ s.state.rank)
    (a : Audience) (id : StreamId) :
    s.getOrOpen a id = .ok (if s.streams.contains id then some id else none, s) := by
  unfold getOrOpen
  split
  · rfl
  split
  · rfl
  split
  · rfl
  split
  · rfl
  · rw [refused_of_draining draining]
    rfl

/-- A dispatcher that is to open a stream on connecting asks the session in vain. -/
theorem react_of_draining {ε π : Type} {d d' : Dispatcher ε τ π} {id : SessionId} {s s' : Session τ}
    (draining : SessionState.draining.rank ≤ s.state.rank) (found : d.sessions.get? id = some s)
    (reacted : d.react id .connected = .ok d') (found' : d'.sessions.get? id = some s') :
    s'.opened = s.opened ∧ s'.streams = s.streams := by
  have opens {told : Dispatcher ε τ π} (same : told.sessions = d.sessions)
      (h : (if told.openOnConnect then do
          let (_, d) ← told.onSession id fun a s => s.openBidirectional a
          return d
        else .ok told) = .ok d') : s'.opened = s.opened ∧ s'.streams = s.streams := by
    rw [← same] at found
    split at h
    · have refused : told.onSession id (fun a s => s.openBidirectional a) =
          .ok (some none, told.putSession s) := by
        unfold Dispatcher.onSession
        rw [found]
        dsimp only
        rw [show s.openBidirectional _ = _ from refused_of_draining draining _ .bi]
        rfl
      rw [refused] at h
      obtain rfl : told.putSession s = d' := Except.ok.inj h
      have found' := (Table.get?_update ..).symm.trans found'
      rw [found] at found'
      split at found'
      · rw [← Option.some.inj found']
        exact ⟨rfl, rfl⟩
      · rw [← Option.some.inj found']
        exact ⟨rfl, rfl⟩
    · obtain rfl : told = d' := Except.ok.inj h
      rw [found] at found'
      rw [← Option.some.inj found']
      exact ⟨rfl, rfl⟩
  unfold Dispatcher.react at reacted
  by_cases client : d.role.isClient = true
  · rw [if_pos client] at reacted
    cases handle : d.sessionHandle id with
    | none =>
      rw [handle] at reacted
      exact opens rfl reacted
    | some handle' =>
      rw [handle] at reacted
      have same : (d.tellClient (.connected handle')).sessions = d.sessions := by
        rw [Dispatcher.tellClient_eq]
      exact opens same reacted
  · rw [if_neg client] at reacted
    obtain rfl : d = d' := Except.ok.inj reacted
    rw [found] at found'
    rw [← Option.some.inj found']
    exact ⟨rfl, rfl⟩

theorem opensNothing_of_draining {s : Session τ}
    (draining : SessionState.draining.rank ≤ s.state.rank) : OpensNothing s where
  bidirectional a := refused_of_draining draining a .bi
  unidirectional a server := by
    unfold openUnidirectional
    rw [server]
    exact refused_of_draining draining a .uni
  byIdentifier := getOrOpen_of_draining draining
  onConnect := react_of_draining draining

/-! ## The first goodbye -/

theorem rank_draining_of_active {state : SessionState} (active : SessionState.active.rank ≤ state.rank) :
    SessionState.draining.rank ≤ (if state = .active then SessionState.draining else state).rank := by
  cases state <;> first | exact absurd active (by decide) | decide

omit [Transport τ] in
theorem draining_of_goodbye {a : Audience} {s : Session τ} (first : s.goawayReceived = false)
    (active : SessionState.active.rank ≤ s.state.rank) :
    SessionState.draining.rank ≤ (s.receiveGoaway a).state.rank := by
  rw [receiveGoaway_eq a first]
  exact rank_draining_of_active active

/-- Streams are opened after a goodbye only if it came before the session was active, and then only once
it is. After a goodbye to a session that was active, nothing opens a stream. -/
theorem opens_after_goodbye_only_if_early (id : SessionId) (handle : ConnectionHandle) (t : τ)
    (options : SessionOptions) (now : Instant) (a : Audience) (before after : List (Step τ)) :
    let s := (Session.new id handle t options now).run before
    let s' := (s.receiveGoaway a).run after
    s.goawayReceived = false →
      (s'.opened ≠ s.opened → s.state.rank < SessionState.active.rank ∧
        SessionState.active.rank ≤ s'.state.rank) ∧
      (SessionState.active.rank ≤ s.state.rank → s'.opened = s.opened ∧ OpensNothing s') := by
  intro s s' first
  have named : Named s := named_run (named_empty rfl) before
  have heard : Act a s (s.receiveGoaway a) := .deed .receiveGoaway
  have named' : Named (s.receiveGoaway a) := named_act _ heard named
  have same : (s.receiveGoaway a).opened = s.opened := by rw [receiveGoaway_eq a first]
  have late (active : SessionState.active.rank ≤ s.state.rank) :
      SessionState.draining.rank ≤ s'.state.rank ∧ s'.opened = s.opened :=
    (kept_opened s.opened).run named' ⟨draining_of_goodbye first active, same⟩ after
  refine ⟨fun other => ⟨?_, ?_⟩, fun active => ⟨(late active).2, opensNothing_of_draining (late active).1⟩⟩
  · exact Nat.lt_of_not_le fun active => other (late active).2
  · exact ((kept_unopened s.opened).run named' (.inl same) after).resolve_left other

/-- The answer of the server reaches a session; the handshake is over with it. -/
def serverAnswer : List (Step Wire.Connection) :=
  [.transport answeredConnection, .operate .silent 0 .process]

/-- A client that is active when its peer says goodbye, and asks for a stream. -/
theorem opens_after_goodbye_only_if_early_late :
    let s := (Session.new ⟨1⟩ ⟨0⟩ Scenario.unmadeConnection .standard 0).run
      ([.operate .silent 0 .start, .operate .silent 0 .beginHandshake] ++ serverAnswer)
    s.goawayReceived = false ∧ SessionState.active.rank ≤ s.state.rank ∧
      OpensNothing ((s.receiveGoaway .silent).run [.operate .silent 0 (.openStream .bi)]) := by
  intro s
  have first : s.goawayReceived = false := by decide +kernel
  have active : SessionState.active.rank ≤ s.state.rank := by decide +kernel
  exact ⟨first, active, ((opens_after_goodbye_only_if_early _ _ _ _ _ .silent _ _ first).2 active).2⟩

/-- A client whose peer says goodbye during the handshake opens a stream after it. -/
theorem early_goodbye_forgotten :
    let s := (begun ⟨1⟩ ⟨0⟩ Scenario.unmadeConnection .standard 0).receiveGoaway .silent
    let s' := s.run (serverAnswer ++ [.operate .silent 0 (.openStream .bi)])
    s.goawayReceived = true ∧ s'.goawayReceived = true ∧ s'.state = .active ∧
      s'.opened.get .bi = 1 ∧ s'.streams.keys = [.of .client .bi 0] := by
  decide +kernel

end Session

/-! ## Sessions of a dispatcher -/

/-- As long as a session is registered with a dispatcher, no stream is opened on it once it is draining,
whatever the dispatcher does. -/
theorem Dispatcher.opened_of_draining {ε τ π : Type} [Transport τ] [Endpoint ε τ π]
    (final : Endpoint.OverForGood ε (τ := τ) (π := π)) {d : Dispatcher (Tally (Roster ε)) τ π}
    (filed : Filed d) (numbered : Numbered d) (moves : List (Move π)) (fresh : Fresh (d.run moves))
    {id : SessionId} {s s' : Session τ} (found : d.sessions.get? id = some s)
    (draining : SessionState.draining.rank ≤ s.state.rank)
    (found' : (d.run moves).sessions.get? id = some s') : s'.opened = s.opened := by
  have becomes : Session.Becomes s s' :=
    (advances_run final filed moves).2.becomes fresh numbered found found'
  exact ((Session.kept_opened s.opened).becomes becomes ⟨draining, rfl⟩).2

end QuicSessions
