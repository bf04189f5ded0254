import QuicSessions.Proofs.Dispatchers.Registration

/-!
# Relations across the work of a dispatcher

A dispatcher works on the sessions that it has by operations on one of them, by driving one of them and
by removing connections. What arrives may besides move its endpoint, and sessions are added for new
connections. A relation between a dispatcher before and after that holds across each of these holds
across whatever is made up of them.
-/

set_option autoImplicit false

namespace QuicSessions.Dispatcher

open Session (Deeds)

variable {ε τ π : Type}

/-! ## What leaves the tables alone -/

/-- The tables, the numbers and the endpoint are the same, and the same audience listens. -/
structure Same (d d' : Dispatcher ε τ π) : Prop where
  endpoint : d'.endpoint = d.endpoint
  sessions : d'.sessions = d.sessions
  connections : d'.connections = d.connections
  nextSession : d'.nextSession = d.nextSession
  audience : d'.audience = d.audience

theorem same_tellServer (news : ServerNews) (d : Dispatcher ε τ π) : Same d (d.tellServer news) := by
  unfold tellServer
  split <;> exact ⟨rfl, rfl, rfl, rfl, rfl⟩

theorem same_tellClient (news : ClientNews) (d : Dispatcher ε τ π) : Same d (d.tellClient news) := by
  unfold tellClient
  split <;> exact ⟨rfl, rfl, rfl, rfl, rfl⟩

theorem same_send (packets : List (Outgoing π)) (d : Dispatcher ε τ π) : Same d (d.send packets) := by
  unfold send
  split <;> exact ⟨rfl, rfl, rfl, rfl, rfl⟩

variable [Transport τ] {R : Dispatcher ε τ π → Dispatcher ε τ π → Prop}

/-- An operation that does nothing but deeds. -/
def Doing {α : Type} (op : Audience → Session τ → Except Fault (α × Session τ)) : Prop :=
  ∀ {a : Audience} {s s' : Session τ} {r : α}, op a s = .ok (r, s') → Deeds a s s'

/-! ## Signals -/

/-- The relation holds across whatever a dispatcher does about a signal. -/
structure Reactive (R : Dispatcher ε τ π → Dispatcher ε τ π → Prop) : Prop where
  same : ∀ {d d' : Dispatcher ε τ π}, Same d d' → R d d'
  trans : ∀ {d d' d'' : Dispatcher ε τ π}, R d d' → R d' d'' → R d d''
  onSession : ∀ {α : Type} {id : SessionId}
    {op : Audience → Session τ → Except Fault (α × Session τ)} {d d' : Dispatcher ε τ π}
    {r : Option α}, Doing op → d.onSession id op = .ok (r, d') → R d d'

namespace Reactive

variable {d d' : Dispatcher ε τ π}

theorem refl (h : Reactive R) (d : Dispatcher ε τ π) : R d d := h.same ⟨rfl, rfl, rfl, rfl, rfl⟩

theorem react (h : Reactive R) {id : SessionId} {signal : Signal} (reacted : d.react id signal = .ok d') :
    R d d' := by
  cases signal with
  | connected =>
    -- a client opens its first stream after its visitor was told
    have opens {told : Dispatcher ε τ π} (first : R d told)
        (rest : (if told.openOnConnect then
            (told.onSession id fun a s => s.openBidirectional a) >>= fun opened => .ok opened.2
          else .ok told) = .ok d') : R d d' := by
      split at rest
      · obtain ⟨⟨r, d''⟩, opened, rest⟩ := ok_of_bind rest
        cases rest
        exact h.trans first (h.onSession (fun done => Session.deeds_openStream _ done) opened)
      · exact Except.ok.inj rest ▸ first
    unfold Dispatcher.react at reacted
    by_cases client : d.role.isClient = true
    · rw [if_pos client] at reacted
      cases handle : d.sessionHandle id with
      | none =>
        rw [handle] at reacted
        exact opens (h.refl d) reacted
      | some handle' =>
        rw [handle] at reacted
        exact opens (h.same (same_tellClient _ d)) reacted
    · rw [if_neg client] at reacted
      exact Except.ok.inj reacted ▸ h.refl d
  | closed reason duringHandshake =>
    unfold Dispatcher.react at reacted
    rw [← Except.ok.inj reacted]
    split
    · exact h.same (same_tellClient _ d)
    · exact h.refl d

theorem loop (h : Reactive R) {α : Type}
    {f : Dispatcher ε τ π → α → Except Fault (Dispatcher ε τ π)} {xs : List α}
    (round : ∀ {d d' : Dispatcher ε τ π} {x : α}, f d x = .ok d' → R d d')
    (done : xs.foldlM f d = .ok d') : R d d' := foldlM_ok h.refl h.trans round done

theorem signals (h : Reactive R) {id : SessionId} {signals : List Signal}
    (told : signals.foldlM (Dispatcher.react id) d = .ok d') : R d d' := h.loop h.react told

end Reactive

/-! ## Work on the sessions that are there -/

variable [Endpoint ε τ π]

/-- The relation holds across whatever a dispatcher does with the sessions that it has. -/
structure Spanning (R : Dispatcher ε τ π → Dispatcher ε τ π → Prop) : Prop extends Reactive R where
  drive : ∀ {now : Instant} {id : SessionId} {d d' : Dispatcher ε τ π}, d.drive now id = .ok d' → R d d'
  removed : ∀ (d : Dispatcher ε τ π) (handle : ConnectionHandle), R d (d.connectionClosed handle)

namespace Spanning

variable {now : Instant} {d d' : Dispatcher ε τ π}

theorem forget (h : Spanning R) (handles : List ConnectionHandle) (d : Dispatcher ε τ π) :
    R d (handles.foldl (fun d handle => d.connectionClosed handle) d) := by
  induction handles generalizing d with
  | nil => exact h.refl d
  | cons handle handles ih => exact h.trans (h.removed d handle) (ih _)

/-- An operation on one session, which is then driven. -/
theorem sessionOp (h : Spanning R) {α : Type} {id : SessionId}
    {op : Audience → Session τ → Except Fault (α × Session τ)} {r : Option α}
    (operation : ∀ {d d' : Dispatcher ε τ π} {r : Option α}, d.onSession id op = .ok (r, d') → R d d')
    (done : d.sessionOp now id op = .ok (r, d')) : R d d' := by
  obtain ⟨⟨r', d₁⟩, first, done⟩ := ok_of_bind done
  cases r' with
  | none =>
    cases done
    exact operation first
  | some r' =>
    obtain ⟨d₂, driven, done⟩ := ok_of_bind done
    cases done
    exact h.trans (operation first) (h.drive driven)

theorem sendTo (h : Spanning R) {id : SessionId} {stream : UInt32} {data : Bytes} {sent : Bool}
    (done : d.sendTo now id stream data = .ok (sent, d')) : R d d' := by
  obtain ⟨⟨r, d₁⟩, done, e⟩ := ok_of_bind done
  cases e
  refine h.sessionOp (h.onSession fun {a s s' r} wrote => ?_) done
  obtain ⟨⟨found, s₁⟩, opened, wrote⟩ := ok_of_bind wrote
  have first : Deeds a s s₁ := Session.deeds_getOrOpen a opened
  cases found with
  | none =>
    cases wrote
    exact first
  | some id =>
    cases wrote
    exact first.then_deed (.traffic (.write id data false))

/-- An operation on one session, and then the session is driven. -/
theorem handled (h : Spanning R) {id : SessionId} {α : Type}
    {op : Audience → Session τ → Except Fault (α × Session τ)} (doing : Doing op)
    (done : (do
      let (_, d) ← d.onSession id op
      d.drive now id) = .ok d') : R d d' := by
  obtain ⟨⟨_, d₁⟩, first, driven⟩ := ok_of_bind done
  exact h.trans (h.onSession doing first) (h.drive driven)

theorem timeout (h : Spanning R) (told : d.timeout now = .ok d') : R d d' := by
  obtain ⟨deadline, -, told⟩ := ok_of_bind told
  refine h.loop (fun round => h.handled (fun {a s s' r} done => ?_) round) told
  obtain ⟨s₁, handled, e⟩ := ok_of_bind done
  cases e
  rw [Session.eq_of_handleTimeout a handled]
  exact Session.deeds_timeout a now s

theorem driveAll (h : Spanning R) (driven : d.driveAll now = .ok d') : R d d' := h.loop h.drive driven

theorem shutdown (h : Spanning R) (shut : d.shutdown now = .ok d') : R d d' := by
  unfold Dispatcher.shutdown at shut
  split at shut
  · cases shut
    exact h.refl d
  · obtain ⟨d₁, closed, shut⟩ := ok_of_bind shut
    have marked : R d { d with shutDown := true } := h.same ⟨rfl, rfl, rfl, rfl, rfl⟩
    have ended : R { d with shutDown := true } d₁ :=
      h.loop (fun round => h.handled (fun {a s s' r} done => by
        cases done
        exact Session.deeds_closeConnection a now _ _ s) round) closed
    have forgotten := h.forget d₁.connections.keys d₁
    cases shut
    exact h.trans (h.trans marked ended) (h.trans forgotten (h.same (same_tellServer .ended _)))

end Spanning

/-! ## Arrivals and new sessions -/

/-- The relation holds as well across whatever arrives, and where a session is added and driven. -/
structure Covering (R : Dispatcher ε τ π → Dispatcher ε τ π → Prop) : Prop extends Spanning R where
  arrived : ∀ {now : Instant} {source : SocketAddress} {packet : π} {d : Dispatcher ε τ π}
    {arrival : Arrival π} {endpoint : ε},
    Endpoint.arrival now source packet d.endpoint = (arrival, endpoint) →
      R d { d with endpoint := endpoint }
  refused : ∀ (source : SocketAddress) (packet : π) (d : Dispatcher ε τ π),
    R d { d with endpoint := (Endpoint.refuse source packet d.endpoint).2 }
  declined : ∀ {now : Instant} {source : SocketAddress} {packet : π} {d : Dispatcher ε τ π}
    {answer : List (Outgoing π)} {endpoint : ε},
    Endpoint.accept now source packet d.endpoint = (.error answer, endpoint) →
      R d { d with endpoint := endpoint }
  /-- A packet is handed to a session, which is then driven. -/
  delivered : ∀ {now : Instant} {packet : π} {id : SessionId} {d d' : Dispatcher ε τ π},
    { d with sessions := d.sessions.update id fun s =>
      { s with transport := Endpoint.deliver (ε := ε) now packet s.transport } }.drive now id = .ok d' →
      R d d'
  begun : ∀ {now : Instant} {settings : Settings} {remote : SocketAddress} {name : String}
    {handle : ConnectionHandle} {t : τ} {endpoint : ε} {id : SessionId} {d d₁ d' : Dispatcher ε τ π},
    Endpoint.connect now settings remote name d.endpoint = .ok (handle, t, endpoint) →
      { d with endpoint := endpoint }.createSession now handle t = .ok (id, d₁) →
      d₁.drive now id = .ok d' → R d d'
  accepted : ∀ {now : Instant} {source : SocketAddress} {packet : π} {handle : ConnectionHandle} {t : τ}
    {endpoint : ε} {id : SessionId} {d d₁ d' : Dispatcher ε τ π},
    Endpoint.accept now source packet d.endpoint = (.ok (handle, t), endpoint) →
      { d with endpoint := endpoint }.createSession now handle t = .ok (id, d₁) →
      d₁.drive now id = .ok d' → R d d'

namespace Covering

variable {now : Instant} {d d' : Dispatcher ε τ π}

theorem connect (h : Covering R) {remote : SocketAddress} {name : String} {r : Except QuicError SessionId}
    (connected : d.connect now remote name = .ok (r, d')) : R d d' := by
  unfold Dispatcher.connect at connected
  split at connected
  · cases connected
    exact h.refl d
  · split at connected
    · cases connected
      exact h.refl d
    · rename_i handle t endpoint made
      obtain ⟨⟨id, d₁⟩, registered, connected⟩ := ok_of_bind connected
      obtain ⟨d₂, driven, connected⟩ := ok_of_bind connected
      cases connected
      exact h.begun made registered driven

theorem accept (h : Covering R) {source : SocketAddress} {packet : π}
    (granted : d.accept now source packet = .ok d') : R d d' := by
  unfold Dispatcher.accept at granted
  split at granted
  · rw [← Except.ok.inj granted]
    exact h.trans (h.refused source packet d) (h.same (same_send _ _))
  · split at granted
    · rw [← Except.ok.inj granted]
      exact h.trans (h.declined ‹_›) (h.same (same_send _ _))
    · rename_i handle t endpoint made
      obtain ⟨⟨id, d₁⟩, registered, driven⟩ := ok_of_bind granted
      exact h.accepted made registered driven

theorem receive (h : Covering R) {source : SocketAddress} {packet : π}
    (received : d.receive now source packet = .ok d') : R d d' := by
  unfold Dispatcher.receive at received
  split at received
  · rename_i handle endpoint arrived
    dsimp only at received
    split at received
    · rw [← Except.ok.inj received]
      exact h.arrived arrived
    · exact h.trans (h.arrived arrived) (h.delivered (d := { d with endpoint := endpoint }) received)
  · exact h.trans (h.arrived ‹_›) (h.accept received)
  · rw [← Except.ok.inj received]
    exact h.trans (h.arrived ‹_›) (h.same (same_send _ _))
  · rw [← Except.ok.inj received]
    exact h.arrived ‹_›

end Covering

end QuicSessions.Dispatcher
