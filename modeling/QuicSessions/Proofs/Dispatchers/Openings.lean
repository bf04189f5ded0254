import QuicSessions.Proofs.Dispatchers.Shutdowns

/-!
# Beginning a connection

A dispatcher makes one mistake when it begins a connection or takes one in: on a client, the end of the time
that the handshake may take lies beyond what the clock can hold. Otherwise the session is made, and driving it
goes on without mistakes.
-/

set_option autoImplicit false

namespace QuicSessions

variable {ε τ π : Type} [Transport τ]

/-- The handshake of a connection that is begun at `now` may take longer than the clock can count. -/
def SessionOptions.Overflows (options : SessionOptions) (t : τ) (now : Instant) : Prop :=
  Transport.side t = .client ∧
    ∃ d, options.handshakeTimeout = some d ∧ ¬ Instant.Representable (now + d.toNanos)

namespace Session

theorem start_new (id : SessionId) (handle : ConnectionHandle) (t : τ) (options : SessionOptions)
    (made : Instant) : (Session.new id handle t options made).start =
      .ok { Session.new id handle t options made with state := .initialized } := if_pos rfl

omit [Transport τ] in
/-- A handshake begins unless the clock cannot hold its end. -/
theorem beginHandshake_of_initialized {s : Session τ} (initialized : s.state = .initialized) (now : Instant) :
    ((s.side = .client ∧ ∃ d, s.options.handshakeTimeout = some d ∧
        ¬ Instant.Representable (now + d.toNanos)) ∧ s.beginHandshake now = .error .clockOverflow) ∨
    ((s.side = .client → ∀ d, s.options.handshakeTimeout = some d →
        Instant.Representable (now + d.toNanos)) ∧ ∃ s', s.beginHandshake now = .ok s') := by
  have created : ¬ s.state = .created := by rw [initialized]; exact nofun
  unfold beginHandshake
  rw [if_neg created, if_pos initialized]
  dsimp only
  cases side : s.side with
  | server => exact .inr ⟨nofun, _, rfl⟩
  | client =>
    cases within : s.options.handshakeTimeout with
    | none => exact .inr ⟨nofun, _, rfl⟩
    | some d =>
      have client : Side.client.isClient = true := rfl
      rw [if_pos client, Option.map_some, Option.all_some]
      by_cases fits : Instant.Representable (now + d.toNanos)
      · rw [if_pos (decide_eq_true fits)]
        exact .inr ⟨fun _ d' e => Option.some.inj e ▸ fits, _, rfl⟩
      · rw [if_neg (mt of_decide_eq_true fits)]
        exact .inl ⟨⟨rfl, d, rfl, fits⟩, rfl⟩

end Session

namespace Dispatcher

variable {d d' : Dispatcher ε τ π} {now : Instant} {handle : ConnectionHandle} {t : τ}

/-- A session is made unless the clock cannot hold the end of its handshake. -/
theorem createSession_made_or_late (d : Dispatcher ε τ π) (now : Instant) (handle : ConnectionHandle) (t : τ) :
    (d.options.Overflows t now ∧ d.createSession now handle t = .error .clockOverflow) ∨
      (¬ d.options.Overflows t now ∧ ∃ id d', d.createSession now handle t = .ok (id, d')) := by
  have started := Session.start_new d.nextSession handle t d.options now
  unfold createSession
  dsimp only
  rw [started]
  obtain ⟨overflows, failed⟩ | ⟨fits, s, begun⟩ := Session.beginHandshake_of_initialized
    (s := { Session.new d.nextSession handle t d.options now with state := .initialized }) rfl now
  · refine .inl ⟨overflows, ?_⟩
    show (Session.beginHandshake now _ >>= _) = _
    rw [failed]
    rfl
  · refine .inr ⟨fun ⟨client, timeout, within, overflows⟩ => overflows (fits client timeout within), ?_⟩
    show ∃ id d', (Session.beginHandshake now _ >>= _) = _
    rw [begun]
    exact ⟨_, _, rfl⟩

variable [Endpoint ε τ π]

/-- Driving makes no sessions. -/
theorem exists_of_drive (housed : Housed d) {id n : SessionId} (driven : d.drive now id = .ok d')
    {s' : Session τ} (found : d'.sessions.get? n = some s') : ∃ s, d.sessions.get? n = some s := by
  let x : Stroke ε τ π := .drive now id
  obtain ⟨_, _, d₁, parts, -⟩ := parts_apply (x := x) rfl housed.residents driven
  rw [parts.result] at found
  have before : d₁.sessions.get? n = some s' := by
    unfold without at found
    split at found
    · exact get?_connectionClosed found
    · exact found
  obtain ⟨s, there, -⟩ := parts.lived.origin before
  exact ⟨s, there⟩

/-- What becomes of a wish to begin a connection on a dispatcher `d`. -/
inductive Begins (now : Instant) (remote : SocketAddress) (name : String) (d : Dispatcher ε τ π) :
    Except Fault (Except QuicError SessionId × Dispatcher ε τ π) → Prop where
  /-- There are no settings for connections, or the endpoint begins none. -/
  | refused (e : QuicError) : Begins now remote name d (.ok (.error e, d))
  /-- The clock cannot hold the end of the handshake. -/
  | overflow {settings : Settings} {handle : ConnectionHandle} {t : τ} {endpoint : ε}
      (begun : Endpoint.connect now settings remote name d.endpoint = .ok (handle, t, endpoint))
      (overflows : d.options.Overflows t now) : Begins now remote name d (.error .clockOverflow)
  | begun {settings : Settings} {handle : ConnectionHandle} {t : τ} {endpoint : ε}
      {d' : Dispatcher ε τ π}
      (begun : Endpoint.connect now settings remote name d.endpoint = .ok (handle, t, endpoint))
      (fits : ¬ d.options.Overflows t now) (address : d'.localAddress = d.localAddress)
      (settled : d'.connecting = d.connecting) (housed : Housed d')
      (fresh : ∀ n ∈ d'.sessions.keys, n = d.nextSession ∨ n ∈ d.sessions.keys) :
      Begins now remote name d (.ok (.ok d.nextSession, d'))

theorem begins_connect (housed : Housed d) (now : Instant) (remote : SocketAddress) (name : String) :
    Begins now remote name d (d.connect now remote name) := by
  unfold connect
  cases settled : d.connecting with
  | none => exact .refused _
  | some settings =>
    dsimp only
    cases connected : Endpoint.connect now settings remote name d.endpoint with
    | error e => exact .refused _
    | ok made =>
      obtain ⟨handle, t, endpoint⟩ := made
      dsimp only
      rw [← settled]
      obtain ⟨overflows, failed⟩ | ⟨fits, id, d₁, registered⟩ :=
        createSession_made_or_late { d with endpoint := endpoint } now handle t
      · rw [failed]
        exact .overflow connected overflows
      · have housed₁ : Housed d₁ := Housed.registered (d := { d with endpoint := endpoint })
          (housed.of_same rfl) registered
        obtain ⟨number, made⟩ := createSession_eq registered
        obtain ⟨d', driven⟩ := drive_of_housed housed₁ now id
        rw [registered]
        dsimp only [bind, Except.bind]
        rw [driven]
        have number : id = d.nextSession := number
        subst number
        have housed' : Housed d' := housed₁.apply (x := .drive now d.nextSession) driven
        refine .begun connected fits ?_ ?_ housed' fun n mem => ?_
        · have kept := congrArg localAddress (works_drive driven)
          rw [show d'.localAddress = d₁.localAddress from kept, made]
        · have kept := congrArg Dispatcher.connecting (works_drive driven)
          rw [show d'.connecting = d₁.connecting from kept, made]
        · obtain ⟨s', found⟩ := Table.mem_keys_iff.1 mem
          obtain ⟨s, there⟩ := exists_of_drive housed₁ driven found
          rw [made] at there
          have there := Table.mem_keys_iff.2 ⟨s, there⟩
          exact Table.mem_keys_insert_iff.1 there

end Dispatcher

end QuicSessions
