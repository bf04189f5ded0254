import Mathlib.Data.List.Nodup
import QuicSessions.Proofs.Dispatchers.Spans
import QuicSessions.Proofs.Sessions.Histories

/-!
# How a dispatcher tends its tables

Whatever a dispatcher does with the sessions that it has comes down to two things. Upkeep lets
sessions go on living and leaves both tables their keys; a removal takes a connection out of one and
its session out of the other. Only the registration of a session adds to them.
-/

set_option autoImplicit false

namespace QuicSessions.Dispatcher

open Session (Named Becomes Acts)

variable {ε τ π : Type} [Transport τ]

/-! ## Upkeep, removal, registration -/

/-- Each session is registered under its own number and has its streams under their own names. -/
def Filed (d : Dispatcher ε τ π) : Prop :=
  ∀ id s, d.sessions.get? id = some s → s.id = id ∧ Named s

/-- Nothing is added or removed, and sessions live on. -/
structure Upkeep (d d' : Dispatcher ε τ π) : Prop where
  connections : d'.connections = d.connections
  keys : d'.sessions.keys = d.sessions.keys
  becomes : ∀ id s', d'.sessions.get? id = some s' → ∃ s, d.sessions.get? id = some s ∧ Becomes s s'

namespace Upkeep

variable {d d' d'' : Dispatcher ε τ π}

theorem of_eq (connections : d'.connections = d.connections) (sessions : d'.sessions = d.sessions) :
    Upkeep d d' :=
  ⟨connections, congrArg Table.keys sessions, fun _ s' found => ⟨s', sessions ▸ found, .refl s'⟩⟩

theorem refl (d : Dispatcher ε τ π) : Upkeep d d := of_eq rfl rfl

theorem trans (h : Upkeep d d') (h' : Upkeep d' d'') : Upkeep d d'' := by
  refine ⟨h'.connections.trans h.connections, h'.keys.trans h.keys, fun id s'' found => ?_⟩
  obtain ⟨s', found, later⟩ := h'.becomes id s'' found
  obtain ⟨s, found, earlier⟩ := h.becomes id s' found
  exact ⟨s, found, earlier.trans later⟩

theorem filed (h : Upkeep d d') (filed : Filed d) : Filed d' := by
  intro id s' found
  obtain ⟨s, found, becomes⟩ := h.becomes id s' found
  obtain ⟨same, named⟩ := filed id s found
  exact ⟨becomes.sameSession.id.trans same, becomes.named named⟩

/-- A session that is registered stays so, on the same connection. -/
theorem lives (h : Upkeep d d') {id : SessionId} {s : Session τ}
    (found : d.sessions.get? id = some s) :
    ∃ s', d'.sessions.get? id = some s' ∧ Becomes s s' := by
  have mem : id ∈ d'.sessions.keys := h.keys ▸ Table.mem_keys_iff.2 ⟨s, found⟩
  obtain ⟨s', found'⟩ := Table.mem_keys_iff.1 mem
  obtain ⟨s₀, found₀, becomes⟩ := h.becomes id s' found'
  obtain rfl : s₀ = s := Option.some.inj (found₀.symm.trans found)
  exact ⟨s', found', becomes⟩

end Upkeep

/-- A change that adds nothing to the tables. -/
inductive Tending (d : Dispatcher ε τ π) : Dispatcher ε τ π → Prop where
  | upkeep {d' : Dispatcher ε τ π} (h : Upkeep d d') : Tending d d'
  | removed (handle : ConnectionHandle) : Tending d (d.connectionClosed handle)

/-- Any number of such changes. -/
def Tends : Dispatcher ε τ π → Dispatcher ε τ π → Prop := Relation.ReflTransGen Tending

/-- One change of the tables. A registration has a connection and a number that are not in use. -/
inductive Change (d : Dispatcher ε τ π) : Dispatcher ε τ π → Prop where
  | tending {d' : Dispatcher ε τ π} (h : Tending d d') : Change d d'
  | added {now : Instant} {handle : ConnectionHandle} {t : τ} {id : SessionId}
      {d' : Dispatcher ε τ π} (unused : handle ∉ d.connections.keys) (new : id ∉ d.sessions.keys)
      (h : d.createSession now handle t = .ok (id, d')) : Change d d'

/-- Any number of changes of the tables. -/
def Changes : Dispatcher ε τ π → Dispatcher ε τ π → Prop := Relation.ReflTransGen Change

namespace Tends

variable {d d' d'' : Dispatcher ε τ π}

theorem refl (d : Dispatcher ε τ π) : Tends d d := Relation.ReflTransGen.refl

theorem trans (h : Tends d d') (h' : Tends d' d'') : Tends d d'' := Relation.ReflTransGen.trans h h'

theorem upkeep (h : Upkeep d d') : Tends d d' := Relation.ReflTransGen.single (.upkeep h)

theorem removed (d : Dispatcher ε τ π) (handle : ConnectionHandle) :
    Tends d (d.connectionClosed handle) := Relation.ReflTransGen.single (.removed handle)

theorem changes (h : Tends d d') : Changes d d' :=
  Relation.ReflTransGen.mono (fun _ _ tending => .tending tending) _ _ h

end Tends

namespace Changes

variable {d d' d'' : Dispatcher ε τ π}

theorem refl (d : Dispatcher ε τ π) : Changes d d := Relation.ReflTransGen.refl

theorem trans (h : Changes d d') (h' : Changes d' d'') : Changes d d'' :=
  Relation.ReflTransGen.trans h h'

end Changes

/-! ## Removal -/

section
omit [Transport τ]

theorem connectionClosed_of_unregistered {d : Dispatcher ε τ π} {handle : ConnectionHandle}
    (unregistered : d.connections.get? handle = none) : d.connectionClosed handle = d := by
  unfold connectionClosed
  rw [unregistered]

theorem connectionClosed_eq {d : Dispatcher ε τ π} {handle : ConnectionHandle} {id : SessionId}
    (registered : d.connections.get? handle = some id) :
    d.connectionClosed handle = { d with
      connections := d.connections.erase handle
      sessions := d.sessions.erase id
      posted := (d.connectionClosed handle).posted } := by
  unfold connectionClosed
  rw [registered]
  dsimp only
  rw [tellServer_eq]
  rfl

/-- A removal takes away the connection it is for, and no other. -/
theorem mem_connectionClosed_iff {d : Dispatcher ε τ π} {handle other : ConnectionHandle} :
    other ∈ (d.connectionClosed handle).connections.keys ↔
      other ≠ handle ∧ other ∈ d.connections.keys := by
  cases registered : d.connections.get? handle with
  | none =>
    rw [connectionClosed_of_unregistered registered]
    have absent : handle ∉ d.connections.keys := Table.get?_eq_none_iff.1 registered
    exact ⟨fun mem => ⟨fun same => absent (same ▸ mem), mem⟩, fun mem => mem.2⟩
  | some id =>
    rw [connectionClosed_eq registered]
    exact Table.mem_keys_erase_iff

theorem get?_connectionClosed {d : Dispatcher ε τ π} {handle : ConnectionHandle} {id : SessionId}
    {s : Session τ} (found : (d.connectionClosed handle).sessions.get? id = some s) :
    d.sessions.get? id = some s := by
  cases registered : d.connections.get? handle with
  | none =>
    rw [connectionClosed_of_unregistered registered] at found
    exact found
  | some id' =>
    rw [connectionClosed_eq registered] at found
    dsimp only at found
    rw [Table.get?_erase] at found
    split at found
    · cases found
    · exact found

theorem endpoint_connectionClosed (d : Dispatcher ε τ π) (handle : ConnectionHandle) :
    (d.connectionClosed handle).endpoint = d.endpoint := by
  cases registered : d.connections.get? handle with
  | none => rw [connectionClosed_of_unregistered registered]
  | some id => rw [connectionClosed_eq registered]

end

omit [Transport τ] in
theorem Filed.removed {d : Dispatcher ε τ π} (filed : Filed d) (handle : ConnectionHandle) :
    Filed (d.connectionClosed handle) :=
  fun id s found => filed id s (get?_connectionClosed found)

theorem Tends.filed {d d' : Dispatcher ε τ π} (h : Tends d d') (filed : Filed d) : Filed d' := by
  induction h with
  | refl => exact filed
  | tail _ last ih =>
    cases last with
    | upkeep h => exact h.filed ih
    | removed handle => exact ih.removed handle

/-- Where nothing is added, a session that is there was there before. -/
theorem Tends.becomes {d d' : Dispatcher ε τ π} (h : Tends d d') {id : SessionId} {s' : Session τ}
    (found : d'.sessions.get? id = some s') :
    ∃ s, d.sessions.get? id = some s ∧ Becomes s s' := by
  induction h generalizing s' with
  | refl => exact ⟨s', found, .refl s'⟩
  | tail _ last ih =>
    cases last with
    | upkeep h =>
      obtain ⟨s₁, found, later⟩ := h.becomes id s' found
      obtain ⟨s, found, earlier⟩ := ih found
      exact ⟨s, found, earlier.trans later⟩
    | removed handle => exact ih (get?_connectionClosed found)

/-! ## Registration -/

theorem createSession_eq {now : Instant} {handle : ConnectionHandle} {t : τ} {id : SessionId}
    {d d' : Dispatcher ε τ π} (h : d.createSession now handle t = .ok (id, d')) :
    id = d.nextSession ∧ d' = { d with
      nextSession := id.next
      connections := d.connections.insert handle id
      sessions := d.sessions.insert id (.begun id handle t d.options now)
      posted := d'.posted } := by
  obtain ⟨number, e⟩ := createSession_cases h
  refine ⟨number, ?_⟩
  rw [e, tellServer_eq]

theorem Filed.added {d d' : Dispatcher ε τ π} (filed : Filed d) {now : Instant}
    {handle : ConnectionHandle} {t : τ} {id : SessionId}
    (h : d.createSession now handle t = .ok (id, d')) : Filed d' := by
  obtain ⟨-, e⟩ := createSession_eq h
  intro n s found
  rw [e] at found
  have found := (Table.get?_insert ..).symm.trans found
  split at found
  · rename_i same
    rw [← Option.some.inj found]
    exact ⟨same.symm, Session.named_empty rfl⟩
  · exact filed n s found

/-! ## The two tables -/

/-- Connections lead to the sessions that are on them, and to no others. -/
def Inverse (d : Dispatcher ε τ π) : Prop :=
  ∀ handle id, d.connections.get? handle = some id ↔
    ∃ s, d.sessions.get? id = some s ∧ s.connection = handle

theorem Upkeep.inverse {d d' : Dispatcher ε τ π} (h : Upkeep d d') (inverse : Inverse d) :
    Inverse d' := by
  intro handle id
  rw [h.connections, inverse handle id]
  constructor
  · rintro ⟨s, found, on⟩
    obtain ⟨s', found', becomes⟩ := h.lives found
    exact ⟨s', found', becomes.sameSession.connection.trans on⟩
  · rintro ⟨s', found', on⟩
    obtain ⟨s, found, becomes⟩ := h.becomes id s' found'
    exact ⟨s, found, becomes.sameSession.connection.symm.trans on⟩

omit [Transport τ] in
theorem Inverse.removed {d : Dispatcher ε τ π} (inverse : Inverse d) (closed : ConnectionHandle) :
    Inverse (d.connectionClosed closed) := by
  cases registered : d.connections.get? closed with
  | none =>
    rw [connectionClosed_of_unregistered registered]
    exact inverse
  | some gone =>
    obtain ⟨s, found, on⟩ := (inverse closed gone).1 registered
    rw [connectionClosed_eq registered]
    intro handle id
    show (d.connections.erase closed).get? handle = some id ↔
      ∃ s, (d.sessions.erase gone).get? id = some s ∧ s.connection = handle
    rw [Table.get?_erase, Table.get?_erase]
    -- of two pairs in the tables, the handles are the same exactly if the numbers are
    by_cases same : handle = closed
    · rw [if_pos same]
      refine ⟨fun h => (by cases h), ?_⟩
      rintro ⟨s', found', on'⟩
      split at found'
      · cases found'
      · rename_i other
        have registered' := (inverse handle id).2 ⟨s', found', on'⟩
        rw [same, registered] at registered'
        exact absurd (Option.some.inj registered').symm other
    · rw [if_neg same, inverse handle id]
      by_cases sameId : id = gone
      · rw [if_pos sameId]
        constructor
        · rintro ⟨s', found', on'⟩
          rw [sameId, found] at found'
          rw [← Option.some.inj found', on] at on'
          exact absurd on'.symm same
        · rintro ⟨s', h, -⟩
          cases h
      · rw [if_neg sameId]

theorem Inverse.added {d d' : Dispatcher ε τ π} (inverse : Inverse d) {now : Instant}
    {handle : ConnectionHandle} {t : τ} {id : SessionId} (unused : handle ∉ d.connections.keys)
    (new : id ∉ d.sessions.keys) (h : d.createSession now handle t = .ok (id, d')) :
    Inverse d' := by
  obtain ⟨-, e⟩ := createSession_eq h
  rw [e]
  intro other n
  show (d.connections.insert handle id).get? other = some n ↔
    ∃ s, (d.sessions.insert id _).get? n = some s ∧ s.connection = other
  rw [Table.get?_insert, Table.get?_insert]
  by_cases same : other = handle
  · rw [if_pos same]
    constructor
    · intro found
      rw [if_pos (Option.some.inj found).symm]
      exact ⟨_, rfl, same.symm⟩
    · rintro ⟨s, found, on⟩
      split at found
      · rename_i sameId
        rw [sameId]
      · have registered := (inverse other n).2 ⟨s, found, on⟩
        exact absurd (same ▸ Table.mem_keys_iff.2 ⟨n, registered⟩) unused
  · rw [if_neg same, inverse other n]
    by_cases sameId : n = id
    · rw [if_pos sameId]
      constructor
      · rintro ⟨s, found, on⟩
        exact absurd (sameId ▸ Table.mem_keys_iff.2 ⟨s, found⟩) new
      · rintro ⟨s, found, on⟩
        rw [← Option.some.inj found] at on
        exact absurd on.symm same
    · rw [if_neg sameId]

theorem Changes.inverse {d d' : Dispatcher ε τ π} (h : Changes d d') (inverse : Inverse d) :
    Inverse d' := by
  induction h with
  | refl => exact inverse
  | tail _ last ih =>
    cases last with
    | tending h =>
      cases h with
      | upkeep h => exact h.inverse ih
      | removed handle => exact ih.removed handle
    | added unused new h => exact ih.added unused new h

omit [Transport τ] in
/-- Tables that are each the inverse of the other have the same size. -/
theorem Inverse.size_eq {d : Dispatcher ε τ π} (inverse : Inverse d) :
    d.registeredConnections = d.sessionCount := by
  have distinct : d.connections.values.Nodup := by
    refine List.Nodup.map_on ?_ (List.Nodup.of_map _ d.connections.nodup)
    intro x hx y hy same
    obtain ⟨s, found, on⟩ := (inverse x.1 x.2).1 (Table.get?_eq_some_of_mem hx)
    obtain ⟨s', found', on'⟩ := (inverse y.1 y.2).1 (Table.get?_eq_some_of_mem hy)
    rw [same, found'] at found
    rw [Option.some.inj found] at on'
    exact Prod.ext (on.symm.trans on') same
  have same : ∀ id, id ∈ d.connections.values ↔ id ∈ d.sessions.keys := by
    intro id
    rw [Table.mem_keys_iff]
    constructor
    · intro mem
      obtain ⟨x, hx, rfl⟩ := List.mem_map.1 mem
      obtain ⟨s, found, -⟩ := (inverse x.1 x.2).1 (Table.get?_eq_some_of_mem hx)
      exact ⟨s, found⟩
    · rintro ⟨s, found⟩
      have registered := (inverse s.connection id).2 ⟨s, found, rfl⟩
      exact List.mem_map.2 ⟨_, Table.mem_of_get?_eq_some registered, rfl⟩
  have perm := (List.perm_ext_iff_of_nodup distinct d.sessions.keys_nodup).2 same
  have length := perm.length_eq
  rw [Table.keys_length] at length
  rw [registeredConnections, sessionCount, ← length]
  unfold Table.values Table.size
  rw [List.length_map]

/-! ## What the steps of a dispatcher are -/

omit [Transport τ] in
theorem tellClient_eq (news : ClientNews) (d : Dispatcher ε τ π) :
    d.tellClient news = { d with posted := (d.tellClient news).posted } := by
  unfold tellClient
  split <;> rfl

omit [Transport τ] in
theorem send_eq (packets : List (Outgoing π)) (d : Dispatcher ε τ π) :
    d.send packets = { d with sent := (d.send packets).sent } := by
  unfold send
  split <;> rfl

/-- A session that lived on is put back. -/
theorem upkeep_putSession {d : Dispatcher ε τ π} (filed : Filed d) {id : SessionId}
    {s s' : Session τ} (found : d.sessions.get? id = some s) (becomes : Becomes s s') :
    Upkeep d (d.putSession s') := by
  have key : s'.id = id := becomes.sameSession.id.trans (filed id s found).1
  refine ⟨rfl, Table.keys_update .., fun n x h => ?_⟩
  have h := (Table.get?_update ..).symm.trans h
  by_cases same : n = s'.id
  · rw [if_pos same, same.trans key, found] at h
    exact ⟨s, (same.trans key) ▸ found, Option.some.inj h ▸ becomes.trans (.collect s')⟩
  · rw [if_neg same] at h
    exact ⟨x, h, .refl x⟩

/-- An operation that makes of a session only what becomes of it. -/
def Lawful {α : Type} (op : Audience → Session τ → Except Fault (α × Session τ)) : Prop :=
  ∀ {a : Audience} {s s' : Session τ} {r : α}, Named s → op a s = .ok (r, s') → Becomes s s'

theorem upkeep_onSession {α : Type} {id : SessionId}
    {op : Audience → Session τ → Except Fault (α × Session τ)} {d d' : Dispatcher ε τ π}
    {r : Option α} (lawful : Lawful op) (filed : Filed d) (h : d.onSession id op = .ok (r, d')) :
    Upkeep d d' ∧ d'.endpoint = d.endpoint := by
  unfold onSession at h
  split at h
  · cases h
    exact ⟨.refl d, rfl⟩
  · rename_i s found
    obtain ⟨⟨x, s'⟩, done, h⟩ := ok_of_bind h
    cases h
    exact ⟨upkeep_putSession filed found (lawful (filed id s found).2 done), rfl⟩

theorem Doing.lawful {α : Type} {op : Audience → Session τ → Except Fault (α × Session τ)}
    (doing : Doing op) : Lawful op := fun _ done => .acts (doing done).acts

theorem reactive_upkeep : Reactive fun d d' : Dispatcher ε τ π =>
    Filed d → Upkeep d d' ∧ d'.endpoint = d.endpoint where
  same same _ := ⟨.of_eq same.connections same.sessions, same.endpoint⟩
  trans first second filed := by
    have first := first filed
    have second := second (first.1.filed filed)
    exact ⟨first.1.trans second.1, second.2.trans first.2⟩
  onSession doing done filed := upkeep_onSession doing.lawful filed done

variable [Endpoint ε τ π]

/-- A session that is driven: it acts, settles with the endpoint, acts, sends, and drops what is
spent. It is removed if its closing is over in the end. -/
structure Driven (now : Instant) (d : Dispatcher ε τ π) (s s₁ s₂ s₃ : Session τ)
    (d' : Dispatcher ε τ π) : Prop where
  before : Acts d.audience s s₁
  settled : Acts d.audience
    { s₁ with transport := (Endpoint.settle s₁.connection s₁.transport d.endpoint).1 } s₂
  sent : Acts d.audience
    { s₂ with transport := (Endpoint.transmit (ε := ε) now s₂.transport).2 } s₃
  result : ∃ d₁ : Dispatcher ε τ π, Upkeep d d₁ ∧
    d₁.endpoint = (Endpoint.settle s₁.connection s₁.transport d.endpoint).2 ∧
    d' = if Transport.isDrained s₃.transport then d₁.connectionClosed s₁.connection else d₁

theorem drive_cases {now : Instant} {id : SessionId} {d d' : Dispatcher ε τ π} (filed : Filed d)
    (h : d.drive now id = .ok d') :
    d' = d ∨ ∃ s s₁ s₂ s₃, d.sessions.get? id = some s ∧ Driven now d s s₁ s₂ s₃ d' := by
  unfold drive at h
  split at h
  · exact .inl (Except.ok.inj h).symm
  rename_i s found
  obtain ⟨s₁, first, h⟩ := ok_of_bind h
  have before : Acts d.audience s s₁ := Session.acts_process _ now first
  rcases settling : Endpoint.settle s₁.connection s₁.transport d.endpoint with ⟨t, endpoint⟩
  rw [settling] at h
  obtain ⟨s₂, second, h⟩ := ok_of_bind h
  have settled := Session.acts_process _ now second
  have becomes₂ : Becomes s s₂ := ((Becomes.acts before).trans (.transport s₁ t)).trans (.acts settled)
  rcases sending : Endpoint.transmit (ε := ε) now s₂.transport with ⟨packets, t'⟩
  rw [sending] at h
  dsimp only at h
  have sent := (Session.deeds_reclaim d.audience (s := { s₂ with transport := t' })
    (becomes₂.named (filed id s found).2)).acts
  generalize Session.reclaim d.audience { s₂ with transport := t' } = s₃ at h sent
  have later : Becomes s₁ s₃ :=
    ((Becomes.transport s₁ t).trans (.acts settled)).trans ((Becomes.transport s₂ t').trans (.acts sent))
  obtain ⟨d₁, told, h⟩ := ok_of_bind h
  have flushed : Upkeep d ({ d with endpoint := endpoint }.send packets) := by
    rw [send_eq]
    exact .of_eq rfl rfl
  have quiet : Becomes s { s₃ with signals := [] } :=
    ((Becomes.acts before).trans later).trans (.acts (.one (.deed (.takeSignals (a := d.audience)))))
  have put : Upkeep d (({ d with endpoint := endpoint }.send packets).putSession
      { s₃ with signals := [] }) := by
    have found' : ({ d with endpoint := endpoint }.send packets).sessions.get? id = some s := by
      rw [send_eq]
      exact found
    exact flushed.trans (upkeep_putSession (flushed.filed filed) found' quiet)
  have signalled := reactive_upkeep.signals told (put.filed filed)
  refine .inr ⟨s, s₁, s₂, s₃, found, before, by rw [settling]; exact settled,
    by rw [sending]; exact sent, d₁, put.trans signalled.1, ?_, ?_⟩
  · rw [signalled.2, settling]
    show ({ d with endpoint := endpoint }.send packets).endpoint = endpoint
    rw [send_eq]
  · rw [← Except.ok.inj h, later.sameSession.connection]

end QuicSessions.Dispatcher
