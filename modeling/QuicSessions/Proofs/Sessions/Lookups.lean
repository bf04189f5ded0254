import QuicSessions.Proofs.Dispatchers.Registration
import QuicSessions.Proofs.Sessions.Credit
import QuicSessions.Proofs.Sessions.Numbers
import QuicSessions.Wire.Station

/-!
# Looking a stream up

An application names a stream by an integer. A session looks it up among its live streams, and if it is the
next that this side would give out, it opens it. Nothing else is ever opened by its integer: not a stream of
the peer, not one that has left the table, and none beyond the next.
-/

set_option autoImplicit false

namespace QuicSessions

namespace Session

variable {τ : Type} [Transport τ] {a : Audience} {id : StreamId} {s : Session τ}

/-- A lookup of `id` would open it: it is the next identifier of this side in a direction that this side
opens, and the gate and the peer's credit allow it. -/
structure Opens (id : StreamId) (s : Session τ) : Prop where
  own : id.initiator = s.side
  allowed : ¬(id.dir = .uni ∧ s.side = .client)
  next : id = s.nextId id.dir
  gate : s.refusal? id.dir = none
  credit : (Transport.openStream id.dir s.transport).isSome = true

/-! ## The three kinds of lookups -/

theorem getOrOpen_of_live (live : id ∈ s.streams.keys) : s.getOrOpen a id = .ok (some id, s) :=
  if_pos (Table.contains_eq_true_iff.2 live)

/-- What is not live is opened at most if it is the next of this side. -/
theorem getOrOpen_of_unlikely (absent : id ∉ s.streams.keys)
    (unlikely : id.initiator ≠ s.side ∨ (id.dir = .uni ∧ s.side = .client) ∨ id ≠ s.nextId id.dir) :
    s.getOrOpen a id = .ok (none, s) := by
  unfold getOrOpen
  rw [if_neg fun live => absent (Table.contains_eq_true_iff.1 live)]
  split
  · rfl
  split
  · rfl
  split
  · rfl
  · rename_i own allowed next
    obtain foreign | barred | other := unlikely
    · exact absurd foreign own
    · exact absurd barred allowed
    · exact absurd other next

theorem getOrOpen_of_next (absent : id ∉ s.streams.keys) (own : id.initiator = s.side)
    (allowed : ¬(id.dir = .uni ∧ s.side = .client)) (next : id = s.nextId id.dir) :
    s.getOrOpen a id = (s.openStream a id.dir).map fun r => (r.1.map StreamHandle.stream, r.2) := by
  unfold getOrOpen
  rw [if_neg fun live => absent (Table.contains_eq_true_iff.1 live), if_neg (not_not_intro own),
    if_neg allowed, if_neg (not_not_intro next)]
  cases s.openStream a id.dir <;> rfl

/-- A lookup that neither finds a stream nor may open it changes at most whether credit was missed. -/
theorem getOrOpen_of_closed (begun : s.state ≠ .created) (absent : id ∉ s.streams.keys)
    (closed : ¬s.Opens id) :
    ∃ blocked, s.getOrOpen a id = .ok (none, { s with blocked := blocked }) := by
  by_cases own : id.initiator = s.side
  · by_cases barred : id.dir = .uni ∧ s.side = .client
    · exact ⟨s.blocked, getOrOpen_of_unlikely absent (.inr (.inl barred))⟩
    by_cases next : id = s.nextId id.dir
    · rw [getOrOpen_of_next absent own barred next]
      by_cases gate : s.refusal? id.dir = none
      · cases credit : Transport.openStream id.dir s.transport with
        | none =>
          rw [openStream_of_exhausted begun gate credit]
          exact ⟨_, rfl⟩
        | some opened => exact absurd ⟨own, barred, next, gate, by rw [credit]; rfl⟩ closed
      · rw [openStream_of_refused begun gate]
        exact ⟨s.blocked, rfl⟩
    · exact ⟨s.blocked, getOrOpen_of_unlikely absent (.inr (.inr next))⟩
  · exact ⟨s.blocked, getOrOpen_of_unlikely absent (.inl own)⟩

/-- A lookup that opens a stream adds it and counts it, whatever identifier the transport gives it. -/
theorem getOrOpen_of_opens (begun : s.state ≠ .created) (absent : id ∉ s.streams.keys) (opens : s.Opens id) :
    ∃ made t, Transport.openStream id.dir s.transport = some (made, t) ∧
      s.getOrOpen a id = .ok (some made, s.afterOpen a id.dir made t) := by
  obtain ⟨⟨made, t⟩, opened⟩ := Option.isSome_iff_exists.1 opens.credit
  refine ⟨made, t, opened, ?_⟩
  rw [getOrOpen_of_next absent opens.own opens.allowed opens.next, openStream_of_credit begun opens.gate opened]
  rfl

/-! ## Streams that have had their turn, or have not -/

section Turns

variable {s : Session (Register τ)}

omit [Transport τ] in
/-- A stream that was opened from here has its place among those counted. -/
theorem index_lt_of_opened (reckoned : s.Reckoned) (inTurn : s.OpensInTurn)
    (opened : id ∈ s.transport.opened id.dir) : id.index < s.opened.get id.dir := by
  obtain ⟨n, all⟩ := inTurn id.dir
  have count := reckoned.counted id.dir
  rw [all, List.length_map, List.length_range] at count
  rw [all] at opened
  obtain ⟨i, below, given⟩ := List.mem_map.1 opened
  rw [← given, StreamId.index_of, given, ← count]
  exact List.mem_range.1 below

omit [Transport τ] in
theorem ne_nextId_of_index (beyond : id.index ≠ s.opened.get id.dir) : id ≠ s.nextId id.dir := by
  intro next
  refine beyond ?_
  have index := congrArg StreamId.index next
  rwa [nextId, StreamId.index_of] at index

end Turns

end Session

/-! ## Writing by integer -/

namespace Dispatcher

variable {ε τ π : Type} [Transport τ] [Endpoint ε τ π]

/-- A write to a stream that the lookup does not find is a request for nothing: the session is driven, and
the write is not accepted. -/
theorem sendTo_of_unfound {d : Dispatcher ε τ π} {now : Instant} {id : SessionId} {stream : UInt32}
    {s : Session τ} (data : Bytes) (found : d.sessions.get? id = some s)
    (unfound : s.getOrOpen d.audience (.ofHandle stream) = .ok (none, s)) :
    d.sendTo now id stream data =
      (d.sessionOp now id fun _ s => .ok ((), s)).map fun r => (false, r.2) := by
  unfold sendTo sessionOp onSession
  rw [found]
  dsimp only
  rw [unfound]
  show ((d.putSession s).drive now id >>= _) >>= _ = ((d.putSession s).drive now id >>= _).map _
  cases (d.putSession s).drive now id <;> rfl

end Dispatcher

/-! ## Whole runs -/

namespace Chronicle

open Session

variable {τ : Type}

/-- The session without what was noted of its streams. -/
def bare (c : Chronicle τ) : Session τ := { c.session with transport := c.session.transport.inner }

variable [Transport τ]

/-- A session that is registered for a new connection. -/
def registered (a : Audience) (id : SessionId) (connection : ConnectionHandle) (t : τ)
    (options : SessionOptions) (now : Instant) : Chronicle τ where
  audience := a
  past := ⟨[], []⟩
  session := .begun id connection ⟨t, []⟩ options now

variable {c : Chronicle τ}

theorem kept_run {P : Session (Register τ) → Prop} (kept : Kept P) (named : c.session.Named)
    (hc : P c.session) (happened : List (Happening τ)) : P (c.run happened).session := by
  induction happened generalizing c with
  | nil => exact hc
  | cons x happened ih =>
    refine ih (named_step named x) ?_
    obtain acts | ⟨t, moved⟩ | collected := step_cases named x
    · exact kept.acts acts hc
    · exact moved ▸ kept.transport c.session _ hc
    · exact collected ▸ kept.collect c.session hc

section Registered

variable {a : Audience} {id : SessionId} {connection : ConnectionHandle} {t : τ} {options : SessionOptions}
  {now : Instant}

theorem named_registered : (registered a id connection t options now).session.Named := named_empty rfl

theorem reckoned_registered : (registered a id connection t options now).session.Reckoned := by
  refine ⟨fun dir => ?_, fun j live => ?_, fun j live => ?_⟩
  · cases dir <;> rfl
  · cases live
  · cases live

theorem begun_registered (happened : List (Happening τ)) :
    ((registered a id connection t options now).run happened).session.state ≠ .created :=
  kept_run kept_begun named_registered nofun happened

end Registered

theorem step_getOrOpen {now : Instant} {id : StreamId} {r : Option StreamId} {s' : Session (Register τ)}
    (done : c.session.getOrOpen c.audience id = .ok (r, s')) :
    (c.step (.operate now (.getOrOpen id))).session = s' := by
  have ran : (Operation.getOrOpen id).run c.audience now c.session = .ok (.stream r, s') := by
    show c.session.getOrOpen c.audience id >>= _ = _
    rw [done]
    rfl
  rw [step_operate ran]

/-- A stream of this side that was live at some point of a run was opened from here. -/
theorem opened_of_live {start : Chronicle τ} (named : start.session.Named) (reckoned : start.session.Reckoned)
    {sofar later : List (Happening τ)} (inTurn : (start.run (sofar ++ later)).session.OpensInTurn)
    {id : StreamId} (own : id.initiator = (start.run (sofar ++ later)).session.side)
    (live : id ∈ (start.run sofar).session.streams.keys) :
    id ∈ (start.run (sofar ++ later)).session.transport.opened id.dir := by
  have further : Later (start.run sofar) (start.run (sofar ++ later)) := by
    rw [run_append]
    exact later_run (named_run named sofar) later
  have before : (start.run sofar).session.Reckoned :=
    lasting_run lasting_reckoned named reckoned sofar (inTurn.of_prefix further.entries further.side)
  have grown : (start.run sofar).session.transport.opened id.dir <+:
      (start.run (sofar ++ later)).session.transport.opened id.dir := further.entries.filterMap _
  exact grown.subset (before.own id live (own.trans further.side))

section Looking

variable {a : Audience} {id : SessionId} {connection : ConnectionHandle} {t : τ} {options : SessionOptions}
  {now : Instant} {own : StreamId}

/-- What a lookup opens is the stream that was looked up. -/
theorem getOrOpen_of_turn (reckoned : c.session.Reckoned) (begun : c.session.state ≠ .created)
    (absent : own ∉ c.session.streams.keys) (opens : c.session.Opens own)
    (inTurn : (c.step (.operate now (.getOrOpen own))).session.OpensInTurn) :
    ∃ t, c.session.getOrOpen c.audience own =
      .ok (some own, c.session.afterOpen c.audience own.dir own t) := by
  obtain ⟨made, r, opened, done⟩ := getOrOpen_of_opens (a := c.audience) begun absent opens
  rw [step_getOrOpen done] at inTurn
  have grown : (c.session.afterOpen c.audience own.dir made r).transport.opened own.dir =
      c.session.transport.opened own.dir ++ [made] := by
    show r.opened own.dir = _
    rw [Register.opened_of_opened (Register.entries_openStream opened), if_pos rfl]
  obtain rfl : made = own := (reckoned.next inTurn rfl grown).trans opens.next.symm
  exact ⟨r, done⟩

/-- A stream that has had its turn, or has not had it yet, is neither live nor the next of this side. -/
theorem getOrOpen_of_past {happened : List (Happening τ)}
    (inTurn : ((registered a id connection t options now).run happened).session.OpensInTurn) :
    let start := registered a id connection t options now
    let s := (start.run happened).session
    (own.initiator ≠ s.side ∧ own ∉ s.streams.keys) ∨
        (own.initiator = s.side ∧ s.opened.get own.dir < own.index) ∨
        (own ∉ s.streams.keys ∧
          ∃ sofar later, happened = sofar ++ later ∧ own ∈ (start.run sofar).session.streams.keys) →
      own ∉ s.streams.keys ∧
        (own.initiator ≠ s.side ∨ (own.dir = .uni ∧ s.side = .client) ∨ own ≠ s.nextId own.dir) := by
  intro start s past
  have reckoned : s.Reckoned :=
    lasting_run lasting_reckoned named_registered reckoned_registered happened inTurn
  obtain ⟨foreign, absent⟩ | ⟨mine, beyond⟩ | ⟨absent, sofar, later, rfl, there⟩ := past
  · exact ⟨absent, .inl foreign⟩
  · refine ⟨fun live => ?_, .inr (.inr (ne_nextId_of_index (Nat.ne_of_gt beyond)))⟩
    have counted := index_lt_of_opened reckoned inTurn (reckoned.own own live mine)
    omega
  · refine ⟨absent, ?_⟩
    by_cases mine : own.initiator = s.side
    · have opened := opened_of_live named_registered reckoned_registered inTurn mine there
      have counted := index_lt_of_opened reckoned inTurn opened
      exact .inr (.inr (ne_nextId_of_index (Nat.ne_of_lt counted)))
    · exact .inl mine

end Looking

/-- Take any run of a registered session, and look a stream up by its integer. If the transport opens streams
in turn, the lookup answers with that very stream exactly if it is live, or is the next one of this side and
may be opened. In the second case it is added, and counted; in any other nothing changes, except that credit
may be found missing. So a write by integer to a stream that the peer did not open, that is beyond the next of
this side, or that has left the table, is no more than a request for nothing, on any dispatcher that has the
session. -/
theorem lookup_opens_only_next (a : Audience) (id : SessionId) (connection : ConnectionHandle) (t : τ)
    (options : SessionOptions) (now : Instant) (happened : List (Happening τ)) (h : UInt32) (now' : Instant) :
    let start := registered a id connection t options now
    let c := start.run happened
    let s := c.session
    let own := StreamId.ofHandle h
    (c.step (.operate now' (.getOrOpen own))).session.OpensInTurn →
      (∃ r s', s.getOrOpen c.audience own = .ok (r, s') ∧ (r = none ∨ r = some own) ∧
        (r = some own ↔ own ∈ s.streams.keys ∨ s.Opens own) ∧
        (own ∈ s.streams.keys → s' = s) ∧
        (own ∉ s.streams.keys → s.Opens own →
          s'.streams = s.streams.insert own (.new own (.of own s.side) s.options.buffer) ∧
          s'.streams.keys = s.streams.keys ++ [own] ∧ s'.opened = s.opened.update own.dir (· + 1)) ∧
        (own ∉ s.streams.keys → ¬s.Opens own → ∃ blocked, s' = { s with blocked := blocked })) ∧
      ((own.initiator ≠ s.side ∧ own ∉ s.streams.keys) ∨
          (own.initiator = s.side ∧ s.opened.get own.dir < own.index) ∨
          (own ∉ s.streams.keys ∧
            ∃ sofar later, happened = sofar ++ later ∧ own ∈ (start.run sofar).session.streams.keys) →
        ∀ (ε π : Type) [Endpoint ε τ π] (d : Dispatcher ε τ π) (n : SessionId) (at_ : Instant) (data : Bytes),
          d.sessions.get? n = some c.bare →
            d.sendTo at_ n h data =
              (d.sessionOp at_ n fun _ s => .ok ((), s)).map fun r => (false, r.2)) := by
  intro start c s own inTurn
  have named : c.session.Named := named_run named_registered happened
  have begun : s.state ≠ .created := begun_registered happened
  have looked : Later c (c.step (.operate now' (.getOrOpen own))) := later_step named _
  have inTurn₀ : s.OpensInTurn := inTurn.of_prefix looked.entries looked.side
  have reckoned : s.Reckoned :=
    lasting_run lasting_reckoned named_registered reckoned_registered happened inTurn₀
  refine ⟨?_, fun past ε π _ d n at_ data found => ?_⟩
  · by_cases live : own ∈ s.streams.keys
    · refine ⟨some own, s, getOrOpen_of_live live, .inr rfl, ?_, fun _ => rfl, ?_, ?_⟩
      · exact ⟨fun _ => .inl live, fun _ => rfl⟩
      · exact fun absent => absurd live absent
      · exact fun absent => absurd live absent
    by_cases opens : s.Opens own
    · obtain ⟨r, done⟩ := getOrOpen_of_turn reckoned begun live opens inTurn
      refine ⟨some own, _, done, .inr rfl, ⟨fun _ => .inr opens, fun _ => rfl⟩, ?_, fun _ _ => ?_, ?_⟩
      · exact fun found => absurd found live
      · refine ⟨rfl, ?_, rfl⟩
        show (s.streams.insert own _).keys = _
        rw [Table.keys_insert, List.filter_eq_self.2 fun j mem => ?_]
        exact decide_eq_true fun same => live (same ▸ mem)
      · exact fun _ closed => absurd opens closed
    · obtain ⟨blocked, done⟩ := getOrOpen_of_closed (a := c.audience) begun live opens
      refine ⟨none, _, done, .inl rfl, ⟨nofun, fun found => ?_⟩, ?_, ?_, fun _ _ => ⟨blocked, rfl⟩⟩
      · exact absurd found (not_or.2 ⟨live, opens⟩)
      · exact fun found => absurd found live
      · exact fun _ found => absurd found opens
  · obtain ⟨absent, unlikely⟩ := getOrOpen_of_past inTurn₀ past
    exact Dispatcher.sendTo_of_unfound data found (getOrOpen_of_unlikely (s := c.bare) absent unlikely)

/-- After the first stream left the table, the integer of the second opens it, and that of the first finds
nothing. -/
theorem lookup_opens_only_next_second :
    let start := registered ⟨some default, true⟩ ⟨1⟩ ⟨0⟩ Scenario.unmadeConnection .standard 0
    let happened := opening ++ emptying (start.run opening).session.transport.inner
    let c := start.run happened
    (∀ h, (h = 0 ∨ h = 4) → (c.step (.operate 0 (.getOrOpen (.ofHandle h)))).session.OpensInTurn) ∧
      (∃ s', c.session.getOrOpen c.audience (.ofHandle 4) = .ok (some ⟨4⟩, s') ∧
        s'.streams.keys = [⟨3⟩, ⟨4⟩]) ∧
      (∃ s', c.session.getOrOpen c.audience (.ofHandle 0) = .ok (none, s')) ∧
      ∀ d : Dispatcher Wire.Station Wire.Connection Wire.Payload, d.sessions.get? ⟨1⟩ = some c.bare →
        d.sendTo 0 ⟨1⟩ 0 [104] = (d.sessionOp 0 ⟨1⟩ fun _ s => .ok ((), s)).map fun r => (false, r.2) := by
  intro start happened c
  have inTurn : ∀ h, (h = 0 ∨ h = 4) →
      (c.step (.operate 0 (.getOrOpen (.ofHandle h)))).session.OpensInTurn := by
    rintro h (rfl | rfl) dir
    · cases dir with
      | bi => exact ⟨1, by decide +kernel⟩
      | uni => exact ⟨0, by decide +kernel⟩
    · cases dir with
      | bi => exact ⟨2, by decide +kernel⟩
      | uni => exact ⟨0, by decide +kernel⟩
  have keys : c.session.streams.keys = [⟨3⟩] := by decide +kernel
  have absent (h : UInt32) (other : h ≠ 3) : StreamId.ofHandle h ∉ c.session.streams.keys := by
    rw [keys, List.mem_singleton]
    intro same
    exact other (UInt32.toNat_inj.1 (congrArg StreamId.raw same))
  have looked := lookup_opens_only_next ⟨some default, true⟩ ⟨1⟩ ⟨0⟩ Scenario.unmadeConnection .standard 0
    happened
  refine ⟨inTurn, ?_, ?_, fun d found => ?_⟩
  · obtain ⟨⟨r, s', done, -, answer, -, added, -⟩, -⟩ := looked 4 0 (inTurn 4 (.inr rfl))
    have opens : c.session.Opens (.ofHandle 4) := by
      refine ⟨?_, ?_, ?_, ?_, ?_⟩ <;> decide +kernel
    obtain ⟨-, grown, -⟩ := added (absent 4 (by decide)) opens
    rw [answer.2 (.inr opens)] at done
    exact ⟨s', done, by rw [grown, keys]; rfl⟩
  · obtain ⟨⟨r, s', done, among, answer, -⟩, -⟩ := looked 0 0 (inTurn 0 (.inl rfl))
    obtain rfl | rfl := among
    · exact ⟨s', done⟩
    · obtain live | opens := answer.1 rfl
      · exact absurd live (absent 0 (by decide))
      · exact absurd opens.next (by decide +kernel)
  · refine (looked 0 0 (inTurn 0 (.inl rfl))).2 (.inr (.inr ⟨absent 0 (by decide), opening, _, rfl, ?_⟩))
      Wire.Station Wire.Payload d ⟨1⟩ 0 [104] found
    decide +kernel

end Chronicle

end QuicSessions
