import QuicSessions.Proofs.Sessions.Deadlines
import QuicSessions.Proofs.Sessions.Departures

/-!
# From where a keep-alive is counted

The time to the next keep-alive is counted from when the session was made, or from a time that it was told.
Nothing but a timeout moves that instant.
-/

set_option autoImplicit false

namespace QuicSessions.Session

variable {τ : Type} [Transport τ] {a : Audience} {now : Instant} {s s' : Session τ}

omit [Transport τ] in
theorem base_of_quiet (quiet : Quiet s s') : s'.lastKeepAlive = s.lastKeepAlive := by rw [quiet.eq]

omit [Transport τ] in
theorem base_receiveGoaway (s : Session τ) : (s.receiveGoaway a).lastKeepAlive = s.lastKeepAlive := by
  unfold receiveGoaway
  split <;> rfl

omit [Transport τ] in
theorem base_conclude (reason : CloseReason) (s : Session τ) :
    (s.conclude a reason).lastKeepAlive = s.lastKeepAlive := by
  by_cases closed : s.state = .closed
  · rw [conclude_of_closed a closed]
  · rw [conclude_eq a closed]

theorem base_closeConnection (code : UInt32) (reason : String) (s : Session τ) :
    (s.closeConnection a now code reason).lastKeepAlive = s.lastKeepAlive := by
  unfold closeConnection
  split
  · rfl
  · exact base_conclude _ _

theorem base_openStream {dir : Dir} {r : Option StreamHandle} (h : s.openStream a dir = .ok (r, s')) :
    s'.lastKeepAlive = s.lastKeepAlive := by
  obtain ⟨-, rfl⟩ | ⟨-, -, -, rfl⟩ | ⟨id, t, -, -, -, rfl⟩ := openStream_forms a h <;> rfl

theorem base_screen {id : StreamId} {r : Option Refusal} (h : s.screen a now id = .ok (r, s')) :
    s'.lastKeepAlive = s.lastKeepAlive := by
  obtain ⟨-, rfl⟩ | ⟨-, -, -, rfl⟩ | ⟨-, -, -, rfl⟩ | ⟨-, -, rfl⟩ := screen_cases a now h
  · rfl
  · exact base_closeConnection _ _ s
  · rfl
  · rfl

theorem base_createIncoming {id : StreamId} {r : Option StreamHandle}
    (h : s.createIncoming a now id = .ok (r, s')) : s'.lastKeepAlive = s.lastKeepAlive := by
  obtain ⟨-, rfl | ⟨code, rfl⟩⟩ | ⟨-, -, -, -, rfl⟩ | ⟨-, -, rfl⟩ := createIncoming_forms a now h
  · rfl
  · rfl
  · exact base_closeConnection _ _ s
  · rw [base_of_quiet (quiet_deliver a id (s.afterTakeIn a id)), afterTakeIn_eq]

theorem base_acceptPending {dir : Dir} (h : s.acceptPending a now dir = .ok s') :
    s'.lastKeepAlive = s.lastKeepAlive := by
  fun_induction acceptPending a now dir s with
  | case1 s none_waits => exact Except.ok.inj h ▸ rfl
  | case2 s id t waits fault failed => cases h
  | case3 s id t waits r s₁ received closed =>
    exact Except.ok.inj h ▸ base_createIncoming (s := { s with transport := t }) received
  | case4 s id t waits r s₁ received opened less ih =>
    exact (ih h).trans (base_createIncoming (s := { s with transport := t }) received)
  | case5 s id t waits r s₁ received opened full =>
    exact Except.ok.inj h ▸ base_createIncoming (s := { s with transport := t }) received

theorem base_drainDatagrams (s : Session τ) : (s.drainDatagrams a).lastKeepAlive = s.lastKeepAlive := by
  obtain ⟨t, e | e⟩ := drainDatagrams_cases a s
  · rw [e]
  · rw [e, base_receiveGoaway]

theorem base_react {e : Event} (h : s.react a now e = .ok s') : s'.lastKeepAlive = s.lastKeepAlive := by
  cases e with
  | opened dir => exact base_acceptPending h
  | connected => rw [← Except.ok.inj h, handshakeComplete_eq]
  | available dir =>
    have credited : s.afterCredit a dir = s' := Except.ok.inj h
    rw [← credited, afterCredit_eq]
  | readable id => exact Except.ok.inj h ▸ base_of_quiet (quiet_deliver a id s)
  | writable id => exact Except.ok.inj h ▸ base_of_quiet (quiet_streamWritable a id s)
  | datagram => exact Except.ok.inj h ▸ base_drainDatagrams s
  | lost cause => exact Except.ok.inj h ▸ base_conclude _ s
  | finished id | stopped id code | handshakeData | datagramsUnblocked => exact Except.ok.inj h ▸ rfl

theorem base_process (h : s.process a now = .ok s') : s'.lastKeepAlive = s.lastKeepAlive := by
  fun_induction process a now s with
  | case1 s none_waits => exact Except.ok.inj h ▸ rfl
  | case2 s e t waits fault failed => cases h
  | case3 s e t waits s₁ reacted less ih =>
    exact (ih h).trans (base_react (s := { s with transport := t }) reacted)
  | case4 s e t waits s₁ reacted full =>
    exact Except.ok.inj h ▸ base_react (s := { s with transport := t }) reacted

theorem base_operated {op : Operation} (h : Operated a now s op s') :
    s'.lastKeepAlive = s.lastKeepAlive ∨ ∃ after, op = .timeout after := by
  cases h with
  | timeout after => exact .inr ⟨after, rfl⟩
  | asks => exact .inl rfl
  | opens opened => exact .inl (base_openStream opened)
  | start started => exact .inl (by rw [(start_cases started).2])
  | beginHandshake begun =>
    obtain ⟨-, rfl⟩ | ⟨-, -, rfl⟩ := beginHandshake_cases begun <;> exact .inl rfl
  | screen screened => exact .inl (base_screen screened)
  | createIncoming created => exact .inl (base_createIncoming created)
  | acceptPending accepted => exact .inl (base_acceptPending accepted)
  | process processed => exact .inl (base_process processed)
  | write id data fin => exact .inl (base_of_quiet (quiet_streamWrite id data fin s))
  | read id limit => exact .inl (base_of_quiet (quiet_streamRead a id limit s))
  | closeStream id => exact .inl (base_of_quiet (quiet_streamClose id s))
  | setStreamVisitor id v => exact .inl (base_of_quiet (quiet_setStreamVisitor a id v s))
  | setVisitor v => exact .inl (by rw [setVisitor_eq])
  | reclaim =>
    obtain ⟨streams, unannounced, posted, e⟩ := reclaim_eq a s
    exact .inl (by rw [e])
  | receiveGoaway => exact .inl (base_receiveGoaway s)
  | close code reason => exact .inl (base_closeConnection code reason s)
  | setRespectGoaway respect => exact .inl rfl
  | sendGoaway => exact .inl rfl
  | takeSignals => exact .inl rfl

/-- A timeout counts from where it was counted, or from the time that it tells. -/
theorem base_timeout (a : Audience) (now : Instant) (s : Session τ) :
    (s.timeout a now).lastKeepAlive = s.lastKeepAlive ∨ (s.timeout a now).lastKeepAlive = now := by
  cases inTime : s.late now with
  | true =>
    rw [timeout_of_late a inTime]
    exact .inl (base_conclude _ _)
  | false =>
    cases k : s.keepAliveDeadline with
    | none =>
      rw [timeout_of_idle a inTime k]
      exact .inr rfl
    | some t =>
      by_cases due : t ≤ now
      · rw [timeout_of_due a inTime k due]
        exact .inr rfl
      · rw [timeout_of_early a inTime k (Nat.not_le.1 due)]
        exact .inl rfl

end QuicSessions.Session
