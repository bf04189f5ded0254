import QuicSessions.Proofs.Instances.Launches
import QuicSessions.Proofs.Sessions.Pings

/-!
# Deadlines beyond the clock

The clock counts seconds up to 2^63, and a configuration may ask for durations of up to 2^64 seconds. The end
of a handshake is compared with what the clock can hold before it is waited for, and a mistake otherwise. The
check of a configuration asks of the durations only that the time for the handshake is not zero, so for any
time at which a handshake may begin there is a configuration that passes and makes that mistake.
-/

set_option autoImplicit false

namespace QuicSessions

variable {τ : Type}

/-- The longest of all durations. -/
def Duration.longest : Duration := ⟨18446744073709551615, 999999999, by decide⟩

theorem not_representable_longest (now : Instant) :
    ¬ Instant.Representable (now + Duration.longest.toNanos) := by
  have limit : Instant.limit ≤ Duration.longest.toNanos := by decide +kernel
  exact Nat.not_lt.2 (Nat.le_trans limit (Nat.le_add_left _ _))

/-- No check bounds the time for the handshake. -/
theorem SessionOptions.Checked.withHandshakeTimeout {options : SessionOptions} (checked : options.Checked)
    (limited : options.handshakeTimeout.isSome = true) {d : Duration} (positive : d ≠ .zero) :
    Checked { options with handshakeTimeout := some d } := by
  cases checked with
  | server => cases limited
  | @client c valid =>
    refine .client (c := { c with connectTimeout := d }) ?_
    have positive : ¬ d.isZero = true := mt (Duration.isZero_iff d).1 positive
    unfold ClientConfig.validate at valid ⊢
    dsimp only at valid ⊢
    rw [if_neg positive]
    split at valid
    · cases valid
    · rename_i named
      rw [if_neg named]
      split at valid
      · cases valid
      · exact valid

namespace Session

variable [Transport τ]

/-- A deadline of the handshake that stands can be held by the clock. -/
theorem kept_representable : Kept fun s : Session τ =>
    ∀ due, s.handshakeDeadline = some due → due.Representable := by
  refine .of_advance fun _ advance fits => ?_
  cases advance with
  | stays _ _ deadline => exact deadline ▸ fits
  | starts _ _ _ deadline => exact deadline ▸ fits
  | begins _ _ _ _ _ fits => exact fits
  | completes _ _ deadline => simp [deadline]
  | drains _ _ _ deadline => exact deadline ▸ fits
  | closes _ _ deadline => simp [deadline]

omit [Transport τ] in
theorem overflows_iff {s : Session τ} :
    s.overflows = true ↔ ∃ due, s.keepAliveDeadline = some due ∧ ¬ due.Representable := by
  unfold overflows
  cases s.keepAliveDeadline <;> simp

/-- A session that waits for what the clock cannot hold fails when it is asked for its deadline, and when it
is told a time that does not close it. -/
theorem clockOverflow_of_overflows {s : Session τ} (overflows : s.overflows = true) :
    s.pollTimeout = .error .clockOverflow ∧
      ∀ a now, s.late now = false → s.handleTimeout a now = .error .clockOverflow := by
  refine ⟨if_pos overflows, fun a now inTime => if_pos ?_⟩
  rw [inTime, overflows]
  rfl

/-- What the keep-alives of a session are counted from: the instant it was made, or one that it was told. -/
theorem base_step (s : Session τ) (x : Step τ) :
    (s.step x).lastKeepAlive = s.lastKeepAlive ∨ x.instant? = some (s.step x).lastKeepAlive := by
  cases x with
  | transport t => exact .inl rfl
  | collect => exact .inl rfl
  | report a now e =>
    refine .inl ?_
    unfold step
    dsimp only
    split
    · rename_i reacted
      exact base_react reacted
    · rfl
  | operate a now op =>
    unfold step
    dsimp only
    split
    · rename_i answer s' done
      have operated := operated_of_run a now done
      obtain same | ⟨after, rfl⟩ := base_operated operated
      · exact .inl same
      · rw [eq_of_timeout_run a done]
        exact (base_timeout a (now + after) s).imp_right fun told => congrArg some told.symm
    · exact .inl rfl

theorem base_run (s : Session τ) (steps : List (Step τ)) :
    (s.run steps).lastKeepAlive = s.lastKeepAlive ∨
      (s.run steps).lastKeepAlive ∈ steps.filterMap Step.instant? := by
  induction steps generalizing s with
  | nil => exact .inl rfl
  | cons x steps ih =>
    obtain same | told := ih (s.step x)
    · obtain before | now := base_step s x
      · exact .inl (same.trans before)
      · refine .inr (List.mem_filterMap.2 ⟨x, .head _, ?_⟩)
        rw [now]
        exact congrArg some same.symm
    · obtain ⟨y, mem, told⟩ := List.mem_filterMap.1 told
      exact .inr (List.mem_filterMap.2 ⟨y, .tail _ mem, told⟩)

/-- What a session of a configuration that passes its check waits for can be held by the clock, except for
what the durations themselves make too late. A handshake begins unless its end lies beyond the clock, and
that is the only mistake; a keep-alive is due an interval after the session was made or after a time that it
was told, and one that is due beyond the clock fails whatever looks at it. The check excludes neither: at any
instant there is a time for the handshake, and an interval, that passes and reaches beyond the clock. -/
theorem deadlines_representable_unless_too_long (id : SessionId) (handle : ConnectionHandle) (t : τ)
    {options : SessionOptions} (checked : options.Checked) (made : Instant) (steps : List (Step τ)) :
    let s := (Session.new id handle t options made).run steps
    let told := steps.filterMap Step.instant?
    (∀ now, s.state = .initialized →
      (options.Overflows t now → s.beginHandshake now = .error .clockOverflow) ∧
      (¬ options.Overflows t now → ∃ s', s.beginHandshake now = .ok s')) ∧
    (∀ due, s.handshakeDeadline = some due → due.Representable) ∧
    (∀ due, s.keepAliveDeadline = some due → ∃ d base, options.keepAlive = some d ∧
      (base = made ∨ base ∈ told) ∧ due = base + d.toNanos) ∧
    (∀ latest, made ≤ latest → (∀ now ∈ told, now ≤ latest) →
      (∀ d, options.keepAlive = some d → Instant.Representable (latest + d.toNanos)) →
      ∀ due, s.keepAliveDeadline = some due → due.Representable) ∧
    ((∃ due, s.keepAliveDeadline = some due ∧ ¬ due.Representable) →
      s.pollTimeout = .error .clockOverflow ∧
      ∀ a now, s.late now = false → s.handleTimeout a now = .error .clockOverflow) ∧
    ((∀ due, s.keepAliveDeadline = some due → due.Representable) →
      s.pollTimeout = .ok s.deadline ∧ ∀ a now, s.handleTimeout a now = .ok (s.timeout a now)) ∧
    (Transport.side t = .client → options.handshakeTimeout.isSome = true → ∀ now, ∃ d,
      let longer := { options with handshakeTimeout := some d }
      longer.Checked ∧ longer.Overflows t now) ∧
    ∃ d, SessionOptions.Checked { options with keepAlive := some d } ∧
      ∀ base, ¬ Instant.Representable (base + d.toNanos) := by
  intro s told
  have named : Named (Session.new id handle t options made) := named_empty rfl
  have same : SameSession _ s := sameSession_run named steps
  have pinged (due : Instant) (waits : s.keepAliveDeadline = some due) : ∃ d base,
      options.keepAlive = some d ∧ (base = made ∨ base ∈ told) ∧ due = base + d.toNanos := by
    obtain ⟨-, -, d, every, rfl⟩ := keepAliveDeadline_eq_some_iff.1 waits
    exact ⟨d, s.lastKeepAlive, by rw [← every, same.options]; rfl, base_run _ steps, rfl⟩
  refine ⟨fun now initialized => ?_, kept_representable.run named nofun steps, pinged,
    fun latest after within reaches due waits => ?_,
    fun beyond => clockOverflow_of_overflows (overflows_iff.2 beyond), fun fits => ?_,
    fun client limited now => ?_, .longest, checked.withKeepAlive _, not_representable_longest⟩
  · have begins := beginHandshake_of_initialized initialized now
    rw [same.side, same.options] at begins
    obtain ⟨overflows, failed⟩ | ⟨fits, begun⟩ := begins
    · exact ⟨fun _ => failed, fun fits => absurd overflows fits⟩
    · exact ⟨fun ⟨client, d, within, late⟩ => absurd (fits client d within) late, fun _ => begun⟩
  · obtain ⟨d, base, every, counted, rfl⟩ := pinged due waits
    have le : base ≤ latest := counted.elim (fun e => e ▸ after) (within base)
    exact Nat.lt_of_le_of_lt (Nat.add_le_add_right le _) (reaches d every)
  · have fits : s.overflows = false :=
      Bool.eq_false_iff.2 fun beyond => (overflows_iff.1 beyond).elim fun due late => late.2 (fits due late.1)
    exact ⟨if_neg (Bool.eq_false_iff.1 fits), fun a now => handleTimeout_of_fits a fits⟩
  · exact ⟨.longest, checked.withHandshakeTimeout limited (by decide), client, .longest, rfl,
      not_representable_longest now⟩

end Session

/-- A client with the standard configuration begins its handshake, told the time a nanosecond before. -/
theorem Session.deadlines_representable_unless_too_long_standard :
    let options := Client.options .default
    let s := (Session.new ⟨1⟩ ⟨0⟩ Scenario.unmadeConnection options 0).run [.operate .silent 4 .start]
    options.Checked ∧ (∃ s', s.beginHandshake 5 = .ok s') ∧ ∃ d,
      ({ options with handshakeTimeout := some d } : SessionOptions).Overflows Scenario.unmadeConnection 5 := by
  intro options s
  have checked : options.Checked := .client (c := .default) (by decide)
  obtain ⟨begins, -, -, -, -, -, overflows, -⟩ := deadlines_representable_unless_too_long ⟨1⟩ ⟨0⟩
    Scenario.unmadeConnection checked 0 [.operate .silent 4 .start]
  obtain ⟨d, -, late⟩ := overflows rfl rfl 5
  refine ⟨checked, (begins 5 rfl).2 fun ⟨_, d, within, late⟩ => late ?_, d, late⟩
  cases within
  decide +kernel

/-- A configuration passes its check and loses the worker of the client when it starts; another one passes and
makes a session wait for a keep-alive that the clock cannot hold, so that it fails when it is asked for its
deadline. -/
theorem accepted_durations_overflow :
    let c := ClientConfig.default.withConnectTimeout .longest
    let s : Client Wire.Station Wire.Connection Wire.Payload := ⟨c, .everyone, .new "client"⟩
    let c' := ClientConfig.default.withKeepAliveInterval (some .longest)
    (c.validate = .ok () ∧ (s.start 0 [] "127.0.0.1" 4433).1 = .error .runnerStopped ∧
      (s.start 0 [] "127.0.0.1" 4433).2.running.io.stage = .gone) ∧
    c'.validate = .ok () ∧
      (∃ due, (Session.pinging .longest).keepAliveDeadline = some due ∧ ¬ due.Representable) ∧
      (Session.pinging .longest).pollTimeout = .error .clockOverflow := by
  intro c s c'
  have started : (s.start 0 [] "127.0.0.1" 4433).1 = .error .runnerStopped ∧
      (s.start 0 [] "127.0.0.1" 4433).2.running.io.stage = .gone := by decide +kernel
  have waits : (Session.pinging .longest).keepAliveDeadline = some (0 + Duration.longest.toNanos) := by
    decide +kernel
  have beyond : ∃ due, (Session.pinging .longest).keepAliveDeadline = some due ∧ ¬ due.Representable :=
    ⟨_, waits, not_representable_longest 0⟩
  exact ⟨⟨by decide +kernel, started⟩, by decide +kernel, beyond,
    (Session.clockOverflow_of_overflows (Session.overflows_iff.2 beyond)).1⟩

end QuicSessions
