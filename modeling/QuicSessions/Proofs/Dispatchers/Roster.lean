import QuicSessions.Proofs.Dispatchers.Numbering
import QuicSessions.Proofs.Dispatchers.Tending
import QuicSessions.Proofs.Sessions.Retention

/-!
# Handles in use

A roster is an endpoint that remembers which handles it gave out. A handle is in use from then on
until its connection settles with the endpoint with its closing over. A handle that is given out
while it is in use is a clash. A dispatcher on a roster never has a connection registered whose handle
is not in use, since it removes a connection in the same step in which the endpoint lets go of it.
-/

set_option autoImplicit false

namespace QuicSessions

/-- An endpoint with the handles in use, and those that were given out while they were. -/
structure Roster (ε : Type) where
  inner : ε
  inUse : List ConnectionHandle
  clashes : List ConnectionHandle

namespace Roster

variable {ε τ π : Type}

/-- The roster after its endpoint moved without giving out a handle. -/
def moved (e : Roster ε) (inner : ε) : Roster ε := { e with inner := inner }

/-- The roster after its endpoint gave out a handle. -/
def gave (e : Roster ε) (handle : ConnectionHandle) (inner : ε) : Roster ε where
  inner := inner
  inUse := handle :: e.inUse
  clashes := if handle ∈ e.inUse then e.clashes ++ [handle] else e.clashes

/-- The roster after a connection settled with its endpoint; `ended` says that its closing is over. -/
def settled (e : Roster ε) (handle : ConnectionHandle) (ended : Bool) (inner : ε) : Roster ε :=
  { e with inner := inner, inUse := if ended then e.inUse.filter (· ≠ handle) else e.inUse }

instance [Transport τ] [Endpoint ε τ π] : Endpoint (Roster ε) τ π where
  serving settings := ⟨Endpoint.serving settings, [], []⟩
  calling := ⟨Endpoint.calling, [], []⟩
  connect now settings remote name e :=
    (Endpoint.connect now settings remote name e.inner).map fun x => (x.1, x.2.1, e.gave x.1 x.2.2)
  arrival now source packet e :=
    let x := Endpoint.arrival now source packet e.inner
    (x.1, e.moved x.2)
  accept now source packet e :=
    match Endpoint.accept now source packet e.inner with
    | (.error answer, inner) => (.error answer, e.moved inner)
    | (.ok (handle, t), inner) => (.ok (handle, t), e.gave handle inner)
  refuse source packet e :=
    let x := Endpoint.refuse source packet e.inner
    (x.1, e.moved x.2)
  deliver now packet t := Endpoint.deliver (ε := ε) now packet t
  settle handle t e :=
    let x := Endpoint.settle handle t e.inner
    (x.1, e.settled handle (Transport.isDrained x.1) x.2)
  transmit now t := Endpoint.transmit (ε := ε) now t

theorem clashes_gave {e : Roster ε} {handle : ConnectionHandle} {inner : ε}
    (none_ : (e.gave handle inner).clashes = []) : e.clashes = [] ∧ handle ∉ e.inUse := by
  unfold gave at none_
  dsimp only at none_
  split at none_
  · exact absurd none_ (List.append_ne_nil_of_right_ne_nil _ (List.cons_ne_nil _ _))
  · exact ⟨none_, ‹_›⟩

/-- Whoever settles, the other handles stay in use. -/
theorem mem_inUse_settled {e : Roster ε} {handle other : ConnectionHandle} {ended : Bool} {inner : ε}
    (mem : other ∈ e.inUse) (stays : ended = true → other ≠ handle) :
    other ∈ (e.settled handle ended inner).inUse := by
  unfold settled
  dsimp only
  split
  · exact List.mem_filter.2 ⟨mem, decide_eq_true (stays ‹_›)⟩
  · exact mem

variable [Transport τ] [Endpoint ε τ π]

theorem gave_connect {now : Instant} {settings : Settings} {remote : SocketAddress} {name : String}
    {e e' : Tally (Roster ε)} {handle : ConnectionHandle} {t : τ}
    (h : Endpoint.connect now settings remote name e = .ok (handle, t, e')) :
    ∃ inner, e'.inner = e.inner.gave handle inner := by
  change ((Endpoint.connect now settings remote name e.inner.inner).map _).map _ =
    .ok (handle, t, e') at h
  cases made : Endpoint.connect now settings remote name e.inner.inner with
  | error reason =>
    rw [made] at h
    cases h
  | ok connection =>
    rw [made] at h
    cases h
    exact ⟨_, rfl⟩

theorem moved_arrival {now : Instant} {source : SocketAddress} {packet : π} {e e' : Tally (Roster ε)}
    {arrival : Arrival π} (h : Endpoint.arrival now source packet e = (arrival, e')) :
    ∃ inner, e'.inner = e.inner.moved inner := by
  cases h
  exact ⟨_, rfl⟩

theorem accept_cases {now : Instant} {source : SocketAddress} {packet : π}
    {e e' : Tally (Roster ε)} {granted : Except (List (Outgoing π)) (ConnectionHandle × τ)}
    (h : Endpoint.accept now source packet e = (granted, e')) :
    ∃ inner, e'.inner = match granted with
      | .error _ => e.inner.moved inner
      | .ok (handle, _) => e.inner.gave handle inner := by
  rcases accepted : Endpoint.accept now source packet e.inner.inner with ⟨granted', inner⟩
  have accept : Endpoint.accept now source packet e.inner =
      match (granted', inner) with
      | (.error answer, inner) => (.error answer, e.inner.moved inner)
      | (.ok (handle, t), inner) => (.ok (handle, t), e.inner.gave handle inner) := by
    rw [← accepted]
    rfl
  rw [Tally.accept_eq, accept] at h
  cases granted' with
  | error answer =>
    cases h
    exact ⟨inner, rfl⟩
  | ok connection =>
    cases h
    exact ⟨inner, rfl⟩

end Roster

/-- A connection whose closing is over stays so, whatever its session asks of it and however it sends. -/
structure Endpoint.OverForGood (ε : Type) {τ π : Type} [Transport τ] [Endpoint ε τ π] : Prop where
  asked : Transport.Retains fun t : τ => Transport.isDrained t = true
  sending : ∀ (now : Instant) (t : τ), Transport.isDrained t = true →
    Transport.isDrained (Endpoint.transmit (ε := ε) now t).2 = true

namespace Dispatcher

variable {ε τ π : Type}

/-! ## Registered connections are in use -/

/-- The handle of each registered connection is in use. -/
def Guarded (d : Dispatcher (Tally (Roster ε)) τ π) : Prop :=
  ∀ handle ∈ d.connections.keys, handle ∈ d.endpoint.inner.inUse

variable [Transport τ]

/-- The tables were tended, no handle was given out, and no registered connection lost its handle. -/
structure Minds (d d' : Dispatcher (Tally (Roster ε)) τ π) : Prop where
  tends : Tends d d'
  clashes : d'.endpoint.inner.clashes = d.endpoint.inner.clashes
  guarded : Guarded d → Guarded d'

namespace Minds

variable {d d' d'' : Dispatcher (Tally (Roster ε)) τ π}

theorem refl (d : Dispatcher (Tally (Roster ε)) τ π) : Minds d d := ⟨.refl d, rfl, fun h => h⟩

theorem trans (h : Minds d d') (h' : Minds d' d'') : Minds d d'' :=
  ⟨h.tends.trans h'.tends, h'.clashes.trans h.clashes, fun guarded => h'.guarded (h.guarded guarded)⟩

theorem upkeep (h : Upkeep d d') (inUse : d'.endpoint.inner.inUse = d.endpoint.inner.inUse)
    (clashes : d'.endpoint.inner.clashes = d.endpoint.inner.clashes) : Minds d d' := by
  refine ⟨.upkeep h, clashes, fun guarded handle mem => ?_⟩
  rw [inUse]
  exact guarded handle (h.connections ▸ mem)

/-- The endpoint is as it was. -/
theorem of_upkeep (h : Upkeep d d') (same : d'.endpoint = d.endpoint) : Minds d d' :=
  upkeep h (by rw [same]) (by rw [same])

theorem removed (d : Dispatcher (Tally (Roster ε)) τ π) (handle : ConnectionHandle) :
    Minds d (d.connectionClosed handle) := by
  refine ⟨.removed d handle, by rw [endpoint_connectionClosed], fun guarded other mem => ?_⟩
  rw [endpoint_connectionClosed]
  exact guarded other (mem_connectionClosed_iff.1 mem).2

theorem filed (h : Minds d d') (filed : Filed d) : Filed d' := h.tends.filed filed

end Minds

theorem minds_onSession {α : Type} {id : SessionId}
    {op : Audience → Session τ → Except Fault (α × Session τ)}
    {d d' : Dispatcher (Tally (Roster ε)) τ π} {r : Option α} (lawful : Lawful op) (filed : Filed d)
    (h : d.onSession id op = .ok (r, d')) : Minds d d' :=
  have done := upkeep_onSession lawful filed h
  .of_upkeep done.1 done.2

variable [Endpoint ε τ π]

/-- Driving removes a connection whose handle it gives up. -/
theorem minds_drive (final : Endpoint.OverForGood ε (τ := τ) (π := π)) {now : Instant} {id : SessionId}
    {d d' : Dispatcher (Tally (Roster ε)) τ π} (filed : Filed d) (h : d.drive now id = .ok d') :
    Minds d d' := by
  obtain rfl | ⟨s, s₁, s₂, s₃, -, driven⟩ := drive_cases filed h
  · exact .refl d'
  obtain ⟨d₁, upkeep, endpoint, rfl⟩ := driven.result
  have settled : d₁.endpoint.inner = d.endpoint.inner.settled s₁.connection
      (Transport.isDrained (Endpoint.settle s₁.connection s₁.transport d.endpoint).1) _ :=
    congrArg Tally.inner endpoint
  have ended : Transport.isDrained (Endpoint.settle s₁.connection s₁.transport d.endpoint).1 = true →
      Transport.isDrained s₃.transport = true := by
    intro ended
    have acted := Session.retains_acts final.asked driven.settled ended
    exact Session.retains_acts final.asked driven.sent (final.sending now _ acted)
  have clashes : d₁.endpoint.inner.clashes = d.endpoint.inner.clashes := by
    rw [settled]
    rfl
  split
  · refine ⟨(Tends.upkeep upkeep).trans (.removed ..), ?_, fun guarded handle mem => ?_⟩
    · rw [endpoint_connectionClosed, clashes]
    · obtain ⟨other, mem⟩ := mem_connectionClosed_iff.1 mem
      rw [upkeep.connections] at mem
      rw [endpoint_connectionClosed, settled]
      exact Roster.mem_inUse_settled (guarded handle mem) fun _ => other
  · rename_i waits
    refine ⟨.upkeep upkeep, clashes, fun guarded handle mem => ?_⟩
    rw [upkeep.connections] at mem
    rw [settled]
    exact Roster.mem_inUse_settled (guarded handle mem) fun gone => absurd (ended gone) waits

end Dispatcher

end QuicSessions
