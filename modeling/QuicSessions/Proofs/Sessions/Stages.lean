import QuicSessions.Proofs.Dispatchers.Registration
import QuicSessions.Proofs.Sessions.Runs
import QuicSessions.Scenario.Bare

/-!
# Stages

From its registration on a session only advances: its stage never moves back, and a session that is
closed stays closed. What its flags, its table, the streams that nobody heard of and its deadline
have to do with its stage is one invariant, which every act keeps.
-/

set_option autoImplicit false

namespace QuicSessions.Session

variable {τ : Type}

/-! ## The order of the stages -/

theorem rank_afterHandshake (state : SessionState) : state.rank ≤ state.afterHandshake.rank := by
  cases state <;> decide

theorem rank_afterGoaway (state : SessionState) :
    state.rank ≤ (if state = .active then SessionState.draining else state).rank := by
  cases state <;> decide

theorem rank_le_closed (state : SessionState) : state.rank ≤ SessionState.closed.rank := by
  cases state <;> decide

theorem eq_closed_of_rank {state : SessionState} (h : SessionState.closed.rank ≤ state.rank) :
    state = .closed := by
  cases state <;> first | rfl | exact absurd h (by decide)

theorem eq_closed_of_afterHandshake {state : SessionState} (h : state.afterHandshake = .closed) :
    state = .closed := by
  cases state <;> first | rfl | cases h

/-! ## The invariant -/

/-- What holds of a session from its registration on. -/
structure Sound (s : Session τ) : Prop where
  /-- The handshake has begun. -/
  begun : SessionState.handshakeInProgress.rank ≤ s.state.rank
  /-- The stages after the handshake are encrypted. -/
  secured : s.state = .active ∨ s.state = .draining → s.encrypted = true
  /-- A closed session has no streams and waits for nothing. -/
  emptied : s.state = .closed → s.streams.keys = [] ∧ s.unannounced = [] ∧ s.handshakeDeadline = none
  /-- Only a client waits for the end of a handshake, and only while it is under way. -/
  awaited : s.handshakeDeadline.isSome = true →
    s.side = .client ∧ s.state = .handshakeInProgress ∧ s.encrypted = false
  /-- What is to be announced is live. -/
  heldBack : ∀ id ∈ s.unannounced, id ∈ s.streams.keys
  /-- A visitor has heard of everything. -/
  announced : s.visitor.isSome = true → s.unannounced = []

namespace Sound

variable {s s' : Session τ}

theorem begun_ne_created (sound : Sound s) : s.state ≠ .created := by
  intro e
  exact absurd (e ▸ sound.begun) (by decide)

theorem begun_ne_initialized (sound : Sound s) : s.state ≠ .initialized := by
  intro e
  exact absurd (e ▸ sound.begun) (by decide)

theorem of_quiet (quiet : Quiet s s') (sound : Sound s) : Sound s' := by
  rw [quiet.eq]
  exact ⟨sound.begun, sound.secured, fun closed => quiet.keys.symm ▸ sound.emptied closed,
    sound.awaited, fun id h => quiet.keys.symm ▸ sound.heldBack id h, sound.announced⟩

theorem drop {a : Audience} {stream : LiveStream} (sound : Sound s) :
    Sound (s.dropStream a stream) := by
  refine ⟨sound.begun, sound.secured, fun closed => ?_, sound.awaited, fun j waits => ?_,
    fun visited => ?_⟩
  · obtain ⟨keys, unannounced, deadline⟩ := sound.emptied closed
    refine ⟨?_, ?_, deadline⟩
    · show (s.streams.erase stream.id).keys = []
      rw [Table.keys_erase, keys]
      rfl
    · show s.unannounced.filter _ = []
      rw [unannounced]
      rfl
  · obtain ⟨held, other⟩ := List.mem_filter.1 waits
    exact Table.mem_keys_erase_iff.2 ⟨by simpa using other, sound.heldBack j held⟩
  · show s.unannounced.filter _ = []
    rw [sound.announced visited]
    rfl

theorem conclude {a : Audience} (reason : CloseReason) (sound : Sound s) :
    Sound (s.conclude a reason) := by
  by_cases closed : s.state = .closed
  · rw [conclude_of_closed a closed]
    exact sound
  · rw [conclude_eq a closed]
    refine ⟨rank_le_closed .handshakeInProgress, fun stage => ?_, fun _ => ⟨rfl, rfl, rfl⟩,
      fun waits => ?_, fun j waits => ?_, fun _ => rfl⟩
    · obtain stage | stage := stage <;> cases stage
    · cases waits
    · cases waits

theorem handshakeComplete {a : Audience} (sound : Sound s) : Sound (s.handshakeComplete a) := by
  rw [handshakeComplete_eq]
  refine ⟨Nat.le_trans sound.begun (rank_afterHandshake s.state), fun _ => rfl, fun closed => ?_,
    fun waits => ?_, sound.heldBack, sound.announced⟩
  · obtain ⟨keys, unannounced, -⟩ := sound.emptied (eq_closed_of_afterHandshake closed)
    exact ⟨keys, unannounced, rfl⟩
  · cases waits

theorem receiveGoaway {a : Audience} (sound : Sound s) : Sound (s.receiveGoaway a) := by
  cases received : s.goawayReceived with
  | true =>
    rw [receiveGoaway_of_received a received]
    exact sound
  | false =>
    rw [receiveGoaway_eq a received]
    by_cases active : s.state = .active
    · rw [if_pos active]
      refine ⟨by show 2 ≤ 4; decide, fun _ => sound.secured (.inl active), fun closed => ?_,
        fun waits => ?_, sound.heldBack, sound.announced⟩
      · cases closed
      · have stage := (sound.awaited waits).2.1
        rw [active] at stage
        cases stage
    · rw [if_neg active]
      exact ⟨sound.begun, sound.secured, sound.emptied, sound.awaited, sound.heldBack,
        sound.announced⟩

theorem setVisitor {a : Audience} (v : SessionVisitor) (sound : Sound s) :
    Sound (s.setVisitor a v) := by
  rw [setVisitor_eq]
  refine ⟨sound.begun, sound.secured, fun closed => ?_, sound.awaited, fun j waits => ?_,
    fun _ => rfl⟩
  · obtain ⟨keys, -, deadline⟩ := sound.emptied closed
    exact ⟨keys, rfl, deadline⟩
  · cases waits

end Sound

theorem rank_le_of_eq {s s' s'' : Session τ} (h : s'' = s') (stays : s'.state = s.state) :
    s.state.rank ≤ s''.state.rank := by
  subst h
  exact Nat.le_of_eq (congrArg SessionState.rank stays.symm)

/-! ## Acts -/

variable [Transport τ]

theorem ne_closed_of_connected {s : Session τ} (h : s.connected = true) : s.state ≠ .closed := by
  intro closed
  unfold connected at h
  rw [closed] at h
  cases h

/-- A closed session opens nothing. -/
theorem ne_closed_of_gate {s : Session τ} {dir : Dir} (h : s.refusal? dir = none) :
    s.state ≠ .closed := by
  refine ne_closed_of_connected ?_
  cases on : s.connected with
  | true => rfl
  | false =>
    unfold refusal? at h
    rw [on] at h
    cases h

/-- No act moves a session back to an earlier stage. -/
theorem rank_le_act {a : Audience} {s s' : Session τ} (h : Act a s s') :
    s.state.rank ≤ s'.state.rank := by
  cases h with
  | takeIn h => exact rank_le_of_eq (afterTakeIn_eq ..) rfl
  | deed h =>
    cases h with
    | traffic h => exact Nat.le_of_eq (congrArg SessionState.rank h.quiet.state.symm)
    | start h =>
      obtain ⟨created, rfl⟩ := start_cases h
      rw [created]
      show SessionState.created.rank ≤ SessionState.initialized.rank
      decide
    | beginHandshake now h =>
      obtain ⟨initialized, rfl⟩ | ⟨-, -, rfl⟩ := beginHandshake_cases h
      · rw [initialized]
        show SessionState.initialized.rank ≤ SessionState.handshakeInProgress.rank
        decide
      · exact Nat.le_refl _
    | openStream gate h => exact Nat.le_refl _
    | noCredit gate h => exact Nat.le_refl _
    | credit dir => exact rank_le_of_eq (afterCredit_eq ..) rfl
    | drop h spent => exact Nat.le_refl _
    | conclude reason =>
      by_cases closed : s.state = .closed
      · exact rank_le_of_eq (conclude_of_closed a closed reason) rfl
      · rw [conclude_eq a closed]
        exact rank_le_closed s.state
    | handshakeComplete =>
      rw [handshakeComplete_eq]
      exact rank_afterHandshake s.state
    | receiveGoaway =>
      cases received : s.goawayReceived with
      | true => exact rank_le_of_eq (receiveGoaway_of_received a received) rfl
      | false =>
        rw [receiveGoaway_eq a received]
        exact rank_afterGoaway s.state
    | setVisitor v => exact rank_le_of_eq (setVisitor_eq ..) rfl
    | setRespectGoaway respect => exact Nat.le_refl _
    | takeSignals => exact Nat.le_refl _
    | rebase now => exact Nat.le_refl _

theorem kept_rank (n : Nat) : Kept fun s : Session τ => n ≤ s.state.rank :=
  ⟨fun act le => Nat.le_trans le (rank_le_act act), fun _ _ le => le, fun _ le => le⟩

theorem one_le_rank_iff {state : SessionState} : 1 ≤ state.rank ↔ state ≠ .created := by
  cases state <;> decide

/-- A session that is begun stays so. -/
theorem kept_begun : Kept fun s : Session τ => s.state ≠ .created := by
  have kept := kept_rank (τ := τ) 1
  simp only [one_le_rank_iff] at kept
  exact kept

namespace Sound

variable {s s' : Session τ}

theorem openStream {a : Audience} {dir : Dir} {id : StreamId} {t : τ}
    (gate : s.refusal? dir = none) (sound : Sound s) : Sound (s.afterOpen a dir id t) := by
  have open_ : s.state ≠ .closed := ne_closed_of_gate gate
  refine ⟨sound.begun, sound.secured, fun closed => absurd closed open_,
    sound.awaited, fun j waits => ?_, sound.announced⟩
  exact Table.mem_keys_insert_iff.2 (.inr (sound.heldBack j waits))

theorem takeIn {a : Audience} {id : StreamId} (welcome : s.Welcome id) (sound : Sound s) :
    Sound (s.afterTakeIn a id) := by
  rw [afterTakeIn_eq]
  refine ⟨sound.begun, sound.secured, fun closed => absurd closed (ne_closed_of_connected
    welcome.connected), sound.awaited, fun j waits => ?_, fun visited => ?_⟩
  · refine Table.mem_keys_insert_iff.2 ?_
    dsimp only at waits
    split at waits
    · exact .inr (sound.heldBack j waits)
    · rw [List.mem_append, List.mem_singleton] at waits
      obtain waits | rfl := waits
      · exact .inr (sound.heldBack j (List.mem_filter.1 waits).1)
      · exact .inl rfl
  · exact (if_pos visited).trans (sound.announced visited)

/-- Every act keeps the invariant. -/
theorem act {a : Audience} (h : Act a s s') (sound : Sound s) : Sound s' := by
  cases h with
  | takeIn h => exact sound.takeIn h
  | deed h =>
    cases h with
    | traffic h => exact sound.of_quiet h.quiet
    | start h => exact absurd (start_cases h).1 sound.begun_ne_created
    | beginHandshake now h =>
      obtain ⟨initialized, -⟩ | ⟨-, -, rfl⟩ := beginHandshake_cases h
      · exact absurd initialized sound.begun_ne_initialized
      · exact sound
    | openStream gate h => exact sound.openStream gate
    | drop h spent => exact sound.drop
    | conclude reason => exact sound.conclude reason
    | handshakeComplete => exact sound.handshakeComplete
    | receiveGoaway => exact sound.receiveGoaway
    | setVisitor v => exact sound.setVisitor v
    | credit dir =>
      rw [afterCredit_eq]
      exact ⟨sound.begun, sound.secured, sound.emptied, sound.awaited, sound.heldBack, sound.announced⟩
    | noCredit gate h =>
      exact ⟨sound.begun, sound.secured, sound.emptied, sound.awaited, sound.heldBack, sound.announced⟩
    | setRespectGoaway respect =>
      exact ⟨sound.begun, sound.secured, sound.emptied, sound.awaited, sound.heldBack, sound.announced⟩
    | takeSignals =>
      exact ⟨sound.begun, sound.secured, sound.emptied, sound.awaited, sound.heldBack, sound.announced⟩
    | rebase now =>
      exact ⟨sound.begun, sound.secured, sound.emptied, sound.awaited, sound.heldBack, sound.announced⟩

end Sound

theorem kept_sound : Kept (Sound (τ := τ)) where
  act h sound := sound.act h
  transport _ _ sound :=
    ⟨sound.begun, sound.secured, sound.emptied, sound.awaited, sound.heldBack, sound.announced⟩
  collect _ sound :=
    ⟨sound.begun, sound.secured, sound.emptied, sound.awaited, sound.heldBack, sound.announced⟩

/-! ## Registered sessions -/

theorem named_begun (id : SessionId) (handle : ConnectionHandle) (t : τ) (options : SessionOptions)
    (now : Instant) : Named (begun id handle t options now) := named_empty rfl

theorem sound_begun (id : SessionId) (handle : ConnectionHandle) (t : τ) (options : SessionOptions)
    (now : Instant) : Sound (begun id handle t options now) := by
  refine ⟨Nat.le_refl _, fun stage => ?_, fun closed => ?_, fun waits => ⟨?_, rfl, rfl⟩,
    fun j waits => ?_, fun _ => rfl⟩
  · obtain stage | stage := stage <;> cases stage
  · cases closed
  · cases side : Transport.side t with
    | client => exact side
    | server =>
      unfold begun at waits
      rw [side] at waits
      cases waits
  · cases waits

/-- A registered session only advances, whatever happens to it, and keeps the invariant. -/
theorem registered_session_advances {ε π : Type} {d d' : Dispatcher ε τ π} {now : Instant}
    {handle : ConnectionHandle} {t : τ} {id : SessionId} {s : Session τ}
    (made : d.createSession now handle t = .ok (id, d')) (found : d'.sessions.get? id = some s)
    (before after : List (Step τ)) :
    (s.run before).state.rank ≤ (s.run (before ++ after)).state.rank ∧
      ((s.run before).state = .closed → (s.run (before ++ after)).state = .closed) ∧
      Sound (s.run before) := by
  obtain rfl : begun id handle t d.options now = s :=
    Option.some.inj ((Dispatcher.get?_createSession made).symm.trans found)
  have named := named_begun id handle t d.options now
  have later : ∀ n, n ≤ ((begun id handle t d.options now).run before).state.rank →
      n ≤ ((begun id handle t d.options now).run (before ++ after)).state.rank := by
    intro n le
    rw [run_append]
    exact (kept_rank n).run (named_run named before) le after
  refine ⟨later _ (Nat.le_refl _), fun closed => ?_, kept_sound.run named (sound_begun ..) before⟩
  exact eq_closed_of_rank (later _ (Nat.le_of_eq (congrArg SessionState.rank closed.symm)))

/-- A client whose handshake ends, whose peer says goodbye, and which is then closed. -/
theorem registered_session_advances_client :
    let d : Dispatcher Unit Wire.Connection Unit := .new .client () Scenario.clientAddress
      { SessionOptions.standard with handshakeTimeout := some (.ofSeconds 10) }
    ∃ d' id s, d.createSession 0 ⟨0⟩ Scenario.unmadeConnection = .ok (id, d') ∧
      d'.sessions.get? id = some s ∧
      let goodbye := s.run [.report .silent 0 .connected, .operate .silent 0 .receiveGoaway]
      s.handshakeDeadline.isSome = true ∧ goodbye.state = .draining ∧ Sound goodbye ∧
        goodbye.state.rank ≤ (goodbye.step (.operate .silent 0 (.close 0 ""))).state.rank := by
  intro d
  have made : d.createSession 0 ⟨0⟩ Scenario.unmadeConnection = .ok (⟨1⟩, _) := rfl
  have found := Dispatcher.get?_createSession made
  have advances := registered_session_advances made found
    [.report .silent 0 .connected, .operate .silent 0 .receiveGoaway]
    [.operate .silent 0 (.close 0 "")]
  exact ⟨_, _, _, made, found, rfl, rfl, advances.2.2, advances.1⟩

end QuicSessions.Session
