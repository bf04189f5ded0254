import QuicSessions.Proofs.Dispatchers.Spans

/-!
# How a dispatcher numbers its sessions

A tally is an endpoint that counts the connections it makes. A dispatcher on a tally gives its
sessions the numbers that follow one, one for each connection, and removes some of them; so a number
comes back only after all others were given out.
-/

set_option autoImplicit false

namespace QuicSessions

/-- The session number of the connection before which `made` others were made. -/
def SessionId.nth (made : Nat) : SessionId := ⟨UInt32.ofNat (made + 1)⟩

theorem SessionId.next_nth (made : Nat) : (nth made).next = nth (made + 1) := by
  unfold nth next
  rw [UInt32.ofNat_add (made + 1) 1]
  rfl

/-- Numbers come back after a full round. -/
theorem SessionId.round_of_nth_eq {m n : Nat} (lt : m < n) (same : nth m = nth n) :
    m + UInt32.size ≤ n := by
  have raw : (UInt32.ofNat (m + 1)).toNat = (UInt32.ofNat (n + 1)).toNat :=
    congrArg (fun id => id.raw.toNat) same
  rw [UInt32.toNat_ofNat', UInt32.toNat_ofNat'] at raw
  unfold UInt32.size
  omega

/-- An endpoint with the number of connections it made. -/
structure Tally (ε : Type) where
  inner : ε
  made : Nat

namespace Tally

variable {ε τ π : Type}

/-- The tally after its endpoint moved without making a connection. -/
def moved (e : Tally ε) (inner : ε) : Tally ε := { e with inner := inner }

/-- The tally after its endpoint made a connection. -/
def counted (e : Tally ε) (inner : ε) : Tally ε := ⟨inner, e.made + 1⟩

instance [Endpoint ε τ π] : Endpoint (Tally ε) τ π where
  serving settings := ⟨Endpoint.serving settings, 0⟩
  calling := ⟨Endpoint.calling, 0⟩
  connect now settings remote name e :=
    (Endpoint.connect now settings remote name e.inner).map fun x => (x.1, x.2.1, e.counted x.2.2)
  arrival now source packet e :=
    let x := Endpoint.arrival now source packet e.inner
    (x.1, e.moved x.2)
  accept now source packet e :=
    match Endpoint.accept now source packet e.inner with
    | (.error answer, inner) => (.error answer, e.moved inner)
    | (.ok connection, inner) => (.ok connection, e.counted inner)
  refuse source packet e :=
    let x := Endpoint.refuse source packet e.inner
    (x.1, e.moved x.2)
  deliver now packet t := Endpoint.deliver (ε := ε) now packet t
  settle handle t e :=
    let x := Endpoint.settle handle t e.inner
    (x.1, e.moved x.2)
  transmit now t := Endpoint.transmit (ε := ε) now t

variable [Endpoint ε τ π]

theorem made_connect {now : Instant} {settings : Settings} {remote : SocketAddress} {name : String}
    {e e' : Tally ε} {handle : ConnectionHandle} {t : τ}
    (h : Endpoint.connect now settings remote name e = .ok (handle, t, e')) :
    e'.made = e.made + 1 := by
  change (Endpoint.connect now settings remote name e.inner).map _ = .ok (handle, t, e') at h
  cases inner : Endpoint.connect now settings remote name e.inner with
  | error reason =>
    rw [inner] at h
    cases h
  | ok connection =>
    rw [inner] at h
    cases h
    rfl

theorem accept_eq (now : Instant) (source : SocketAddress) (packet : π) (e : Tally ε) :
    Endpoint.accept now source packet e =
      ((Endpoint.accept now source packet e.inner).1,
        if (Endpoint.accept now source packet e.inner).1.isOk then
          e.counted (Endpoint.accept now source packet e.inner).2
        else e.moved (Endpoint.accept now source packet e.inner).2) := by
  show (match Endpoint.accept now source packet e.inner with
    | (.error answer, inner) => (Except.error answer, e.moved inner)
    | (.ok connection, inner) => (Except.ok connection, e.counted inner)) = _
  split <;> rename_i h <;> rw [h] <;> rfl

theorem made_accept {now : Instant} {source : SocketAddress} {packet : π} {e e' : Tally ε}
    {connection : ConnectionHandle × τ}
    (h : Endpoint.accept now source packet e = (.ok connection, e')) : e'.made = e.made + 1 := by
  rw [accept_eq, Prod.mk.injEq] at h
  obtain ⟨connected, rfl⟩ := h
  rw [connected]
  rfl

theorem made_declined {now : Instant} {source : SocketAddress} {packet : π} {e e' : Tally ε}
    {answer : List (Outgoing π)} (h : Endpoint.accept now source packet e = (.error answer, e')) :
    e'.made = e.made := by
  rw [accept_eq, Prod.mk.injEq] at h
  obtain ⟨declined, rfl⟩ := h
  rw [declined]
  rfl

theorem made_arrival {now : Instant} {source : SocketAddress} {packet : π} {e e' : Tally ε}
    {arrival : Arrival π} (h : Endpoint.arrival now source packet e = (arrival, e')) :
    e'.made = e.made := by
  cases h
  rfl

end Tally

namespace Dispatcher

variable {ε τ π : Type}

/-! ## Steps that make no session -/

/-- No connection was made, and no session is registered that was not. -/
structure Keeps (d d' : Dispatcher (Tally ε) τ π) : Prop where
  made : d'.endpoint.made = d.endpoint.made
  next : d'.nextSession = d.nextSession
  keys : ∀ id ∈ d'.sessions.keys, id ∈ d.sessions.keys

namespace Keeps

variable {d d' d'' : Dispatcher (Tally ε) τ π}

theorem refl (d : Dispatcher (Tally ε) τ π) : Keeps d d := ⟨rfl, rfl, fun _ mem => mem⟩

theorem trans (h : Keeps d d') (h' : Keeps d' d'') : Keeps d d'' :=
  ⟨h'.made.trans h.made, h'.next.trans h.next, fun id mem => h.keys id (h'.keys id mem)⟩

/-- The tables and the numbers are the same. -/
theorem of_eq (made : d'.endpoint.made = d.endpoint.made) (next : d'.nextSession = d.nextSession)
    (keys : d'.sessions.keys = d.sessions.keys) : Keeps d d' :=
  ⟨made, next, fun _ mem => keys ▸ mem⟩

theorem of_same (h : Same d d') : Keeps d d' :=
  of_eq (congrArg Tally.made h.endpoint) h.nextSession (congrArg Table.keys h.sessions)

end Keeps

/-! ## Steps that may make sessions -/

/-- The next session gets the number of the next connection. -/
def Counts (d : Dispatcher (Tally ε) τ π) : Prop := d.nextSession = .nth d.endpoint.made

/-- A session was made for each connection that was made, and the sessions were numbered in order. -/
structure Grows (d d' : Dispatcher (Tally ε) τ π) : Prop where
  made : d.endpoint.made ≤ d'.endpoint.made
  counts : Counts d → Counts d'
  keys : Counts d → ∀ id ∈ d'.sessions.keys, id ∈ d.sessions.keys ∨
    ∃ m, d.endpoint.made ≤ m ∧ m < d'.endpoint.made ∧ id = .nth m

theorem Keeps.grows {d d' : Dispatcher (Tally ε) τ π} (h : Keeps d d') : Grows d d' where
  made := Nat.le_of_eq h.made.symm
  counts counts := by
    unfold Counts
    rw [h.next, h.made]
    exact counts
  keys _ id mem := .inl (h.keys id mem)

namespace Grows

variable {d d' d'' : Dispatcher (Tally ε) τ π}

theorem refl (d : Dispatcher (Tally ε) τ π) : Grows d d := (Keeps.refl d).grows

/-- The endpoint moves without making a connection. -/
theorem moved {e : Tally ε} (made : e.made = d.endpoint.made) : Grows d { d with endpoint := e } := by
  have keeps : Keeps d { d with endpoint := e } := .of_eq made rfl rfl
  exact keeps.grows

theorem trans (h : Grows d d') (h' : Grows d' d'') : Grows d d'' where
  made := Nat.le_trans h.made h'.made
  counts counts := h'.counts (h.counts counts)
  keys counts id mem := by
    have le := h.made
    have le' := h'.made
    obtain mem | ⟨m, low, high, rfl⟩ := h'.keys (h.counts counts) id mem
    · obtain mem | ⟨m, low, high, rfl⟩ := h.keys counts id mem
      · exact .inl mem
      · exact .inr ⟨m, low, by omega, rfl⟩
    · exact .inr ⟨m, by omega, high, rfl⟩

end Grows

/-- The number of each registered session is the one of some connection. -/
structure Numbered (d : Dispatcher (Tally ε) τ π) : Prop where
  counts : Counts d
  keys : ∀ id ∈ d.sessions.keys, ∃ m, m < d.endpoint.made ∧ id = .nth m

theorem Numbered.grows {d d' : Dispatcher (Tally ε) τ π} (h : Numbered d) (grows : Grows d d') :
    Numbered d' := by
  have le := grows.made
  refine ⟨grows.counts h.counts, fun id mem => ?_⟩
  obtain mem | ⟨m, -, high, rfl⟩ := grows.keys h.counts id mem
  · obtain ⟨m, high, rfl⟩ := h.keys id mem
    exact ⟨m, by omega, rfl⟩
  · exact ⟨m, high, rfl⟩

/-- A number that was given up comes back only after a full round. -/
theorem Numbered.round {d d' d'' : Dispatcher (Tally ε) τ π} {id : SessionId} (h : Numbered d)
    (grows : Grows d d') (grows' : Grows d' d'') (there : id ∈ d.sessions.keys)
    (gone : id ∉ d'.sessions.keys) (back : id ∈ d''.sessions.keys) : UInt32.size < d''.endpoint.made := by
  obtain ⟨m, low, rfl⟩ := h.keys id there
  obtain mem | ⟨n, low', high', same⟩ := grows'.keys (grows.counts h.counts) _ back
  · exact absurd mem gone
  · have le := grows.made
    have round := SessionId.round_of_nth_eq (by omega) same
    omega

/-! ## What the steps of a dispatcher are -/

theorem keeps_putSession (s : Session τ) (d : Dispatcher (Tally ε) τ π) :
    Keeps d (d.putSession s) := .of_eq rfl rfl (Table.keys_update ..)

theorem keeps_connectionClosed (handle : ConnectionHandle) (d : Dispatcher (Tally ε) τ π) :
    Keeps d (d.connectionClosed handle) := by
  unfold connectionClosed
  split
  · exact .refl d
  · rename_i id found
    have removed : Keeps d { d with
        connections := d.connections.erase handle
        sessions := d.sessions.erase id } :=
      ⟨rfl, rfl, fun n mem => (Table.mem_keys_erase_iff.1 mem).2⟩
    exact (removed.trans (.of_same (same_tellServer _ _))).trans (.of_eq rfl rfl rfl)

theorem keeps_onSession {α : Type} {id : SessionId}
    {op : Audience → Session τ → Except Fault (α × Session τ)} {d d' : Dispatcher (Tally ε) τ π}
    {r : Option α} (h : d.onSession id op = .ok (r, d')) : Keeps d d' := by
  unfold onSession at h
  split at h
  · cases h
    exact .refl d
  · obtain ⟨_, -, h⟩ := ok_of_bind h
    cases h
    exact keeps_putSession _ d

variable [Transport τ]

theorem reactive_keeps : Reactive (Keeps (ε := ε) (τ := τ) (π := π)) where
  same := .of_same
  trans := .trans
  onSession _ := keeps_onSession

/-- A session is made for a connection that was just made. -/
theorem grows_createSession {now : Instant} {handle : ConnectionHandle} {t : τ} {id : SessionId}
    {d d' : Dispatcher (Tally ε) τ π} {endpoint : Tally ε}
    (made : endpoint.made = d.endpoint.made + 1)
    (h : { d with endpoint := endpoint }.createSession now handle t = .ok (id, d')) :
    Grows d d' := by
  obtain ⟨rfl, rfl⟩ := createSession_cases h
  rw [tellServer_eq]
  refine ⟨?_, fun counts => ?_, fun counts n mem => ?_⟩
  · show d.endpoint.made ≤ endpoint.made
    omega
  · show d.nextSession.next = .nth endpoint.made
    rw [show d.nextSession = _ from counts, SessionId.next_nth, made]
  · obtain rfl | mem := Table.mem_keys_insert_iff.1 mem
    · refine .inr ⟨d.endpoint.made, Nat.le_refl _, ?_, counts⟩
      show d.endpoint.made < endpoint.made
      omega
    · exact .inl mem

variable [Endpoint ε τ π]

theorem keeps_drive {now : Instant} {id : SessionId} {d d' : Dispatcher (Tally ε) τ π}
    (h : d.drive now id = .ok d') : Keeps d d' := by
  unfold drive at h
  split at h
  · cases h
    exact .refl d
  · rename_i s found
    obtain ⟨s₁, -, h⟩ := ok_of_bind h
    obtain ⟨s₂, -, h⟩ := ok_of_bind h
    obtain ⟨d₁, told, h⟩ := ok_of_bind h
    have settled : Keeps d { d with endpoint := (Endpoint.settle s₁.connection s₁.transport d.endpoint).2 } :=
      .of_eq rfl rfl rfl
    have signalled := reactive_keeps.signals told
    have driven := ((settled.trans (.of_same (same_send _ _))).trans (keeps_putSession _ _)).trans signalled
    rw [← Except.ok.inj h]
    split
    · exact driven.trans (keeps_connectionClosed _ _)
    · exact driven

theorem spanning_keeps : Spanning (Keeps (ε := ε) (τ := τ) (π := π)) :=
  { reactive_keeps with
    drive := keeps_drive
    removed := fun d handle => keeps_connectionClosed handle d }

theorem covering_grows : Covering (Grows (ε := ε) (τ := τ) (π := π)) where
  same same := (Keeps.of_same same).grows
  trans := .trans
  onSession _ done := (keeps_onSession done).grows
  drive driven := (keeps_drive driven).grows
  removed d handle := (keeps_connectionClosed handle d).grows
  arrived arrived := .moved (Tally.made_arrival arrived)
  refused source packet d := .moved rfl
  declined declined := .moved (Tally.made_declined declined)
  delivered driven := by
    refine (Keeps.trans ?_ (keeps_drive driven)).grows
    exact .of_eq rfl rfl (Table.keys_update ..)
  begun connected registered driven :=
    (grows_createSession (Tally.made_connect connected) registered).trans (keeps_drive driven).grows
  accepted granted registered driven :=
    (grows_createSession (Tally.made_accept granted) registered).trans (keeps_drive driven).grows

end Dispatcher

end QuicSessions
