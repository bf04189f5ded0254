import QuicSessions.Proofs.Dispatchers.Runs
import QuicSessions.Proofs.Sessions.Draining

/-!
# Sessions at rest

Between the moves of a dispatcher its sessions are at rest: what arrived was reported, and what can be
read of their streams is read, as far as there is somebody to take it. Every move keeps them so, but for
one that changes the listener: nothing is read because a listener came.
-/

set_option autoImplicit false

namespace QuicSessions

/-- An endpoint whose connections are monitored. -/
structure Watched (ε : Type) where
  inner : ε

namespace Watched

variable {ε τ π : Type} [Transport τ] [Endpoint ε τ π]

instance : Endpoint (Watched ε) (Monitor τ) π where
  serving settings := ⟨Endpoint.serving settings⟩
  calling := ⟨Endpoint.calling⟩
  connect now settings remote name e :=
    (Endpoint.connect now settings remote name e.inner).map fun x => (x.1, .fresh x.2.1, ⟨x.2.2⟩)
  arrival now source packet e :=
    let x := Endpoint.arrival now source packet e.inner
    (x.1, ⟨x.2⟩)
  accept now source packet e :=
    let x := Endpoint.accept now source packet e.inner
    (x.1.map fun connection => (connection.1, .fresh connection.2), ⟨x.2⟩)
  refuse source packet e :=
    let x := Endpoint.refuse source packet e.inner
    (x.1, ⟨x.2⟩)
  deliver now packet m := m.arrived (Endpoint.deliver (ε := ε) now packet m.inner)
  settle handle m e :=
    let x := Endpoint.settle handle m.inner e.inner
    (m.moved x.1 [] m.due true, ⟨x.2⟩)
  transmit now m :=
    let x := Endpoint.transmit (ε := ε) now m.inner
    (x.1, m.moved x.2 [] m.due true)

theorem later_settle {handle : ConnectionHandle} {m : Monitor τ} {e : Watched ε}
    (honest : (Endpoint.settle handle m e).1.honest = true) :
    Monitor.Later m (Endpoint.settle handle m e).1 :=
  Monitor.later_moved (fun _ mem => mem) honest

theorem later_transmit {now : Instant} {m : Monitor τ}
    (honest : (Endpoint.transmit (ε := Watched ε) now m).2.honest = true) :
    Monitor.Later m (Endpoint.transmit (ε := Watched ε) now m).2 :=
  Monitor.later_moved (fun _ mem => mem) honest

theorem fresh_connect {now : Instant} {settings : Settings} {remote : SocketAddress} {name : String}
    {e e' : Watched ε} {handle : ConnectionHandle} {m : Monitor τ}
    (h : Endpoint.connect now settings remote name e = .ok (handle, m, e')) : m.due = [] := by
  change (Endpoint.connect now settings remote name e.inner).map _ = _ at h
  cases made : Endpoint.connect now settings remote name e.inner with
  | error reason =>
    rw [made] at h
    cases h
  | ok connection =>
    rw [made] at h
    cases h
    rfl

theorem fresh_accept {now : Instant} {source : SocketAddress} {packet : π} {e e' : Watched ε}
    {handle : ConnectionHandle} {m : Monitor τ}
    (h : Endpoint.accept now source packet e = (.ok (handle, m), e')) : m.due = [] := by
  have given : (Endpoint.accept now source packet e.inner).1.map _ = .ok (handle, m) := congrArg Prod.fst h
  cases granted : (Endpoint.accept now source packet e.inner).1 with
  | error answer =>
    rw [granted] at given
    cases given
  | ok connection =>
    rw [granted] at given
    cases given
    rfl

end Watched

namespace Dispatcher

open Session (Rested Roused Tidy Acts)

variable {ε τ π : Type} [Transport τ] {listens : Bool} {aside left : SessionId → StreamId → Prop}

/-! ## Sessions at rest -/

/-- Every session is registered under its own number and at rest. -/
structure Rests (listens : Bool) (aside left : SessionId → StreamId → Prop)
    (d : Dispatcher (Watched ε) (Monitor τ) π) : Prop where
  hears : listens = true → d.audience.listener.isSome = true
  number : ∀ id s, d.sessions.get? id = some s → s.id = id
  rested : ∀ id s, d.sessions.get? id = some s → Rested listens (aside id) (left id) s

/-- Sessions at rest stay so, and the audience is the same. -/
def Restful (listens : Bool) (aside left : SessionId → StreamId → Prop)
    (d d' : Dispatcher (Watched ε) (Monitor τ) π) : Prop :=
  Rests listens aside left d → d'.audience = d.audience ∧ Rests listens aside left d'

namespace Restful

variable {d d' d'' : Dispatcher (Watched ε) (Monitor τ) π}

theorem of_sessions (audience : d'.audience = d.audience)
    (sessions : ∀ id s, d'.sessions.get? id = some s → d.sessions.get? id = some s) :
    Restful listens aside left d d' := by
  intro rests
  refine ⟨audience, audience ▸ rests.hears, fun id s found => ?_, fun id s found => ?_⟩
  · exact rests.number id s (sessions id s found)
  · exact rests.rested id s (sessions id s found)

theorem of_eq (audience : d'.audience = d.audience) (sessions : d'.sessions = d.sessions) :
    Restful listens aside left d d' := of_sessions audience fun _ _ found => sessions ▸ found

theorem refl (d : Dispatcher (Watched ε) (Monitor τ) π) : Restful listens aside left d d :=
  of_eq rfl rfl

theorem trans (h : Restful listens aside left d d') (h' : Restful listens aside left d' d'') :
    Restful listens aside left d d'' := by
  intro rests
  obtain ⟨audience, rests'⟩ := h rests
  obtain ⟨audience', rests''⟩ := h' rests'
  exact ⟨audience'.trans audience, rests''⟩

theorem removed (d : Dispatcher (Watched ε) (Monitor τ) π) (handle : ConnectionHandle) :
    Restful listens aside left d (d.connectionClosed handle) := by
  refine of_sessions ?_ fun id s found => get?_connectionClosed found
  cases registered : d.connections.get? handle with
  | none => rw [connectionClosed_of_unregistered registered]
  | some id => rw [connectionClosed_eq registered]

end Restful

/-- An operation that acts and leaves the streams of a session tidy. -/
def Careful {α : Type} (listens : Bool) (aside : StreamId → Prop)
    (op : Audience → Session (Monitor τ) → Except Fault (α × Session (Monitor τ))) : Prop :=
  ∀ (a : Audience) (s s' : Session (Monitor τ)) (r : α) (left : StreamId → Prop),
    (listens = true → a.listener.isSome = true) → Tidy listens aside left s → op a s = .ok (r, s') →
      Acts a s s' ∧ Tidy listens aside left s'

theorem rests_putSession {d : Dispatcher (Watched ε) (Monitor τ) π} {id : SessionId}
    {s : Session (Monitor τ)} (hears : listens = true → d.audience.listener.isSome = true)
    (number : ∀ n x, d.sessions.get? n = some x → x.id = n)
    (others : ∀ n x, n ≠ id → d.sessions.get? n = some x → Rested listens (aside n) (left n) x)
    (mine : s.id = id) (rested : Rested listens (aside id) (left id) s) :
    Rests listens aside left (d.putSession s) := by
  subst mine
  have here (n : SessionId) (x : Session (Monitor τ))
      (found : (d.putSession s).sessions.get? n = some x) :
      (n = s.id ∧ x = { s with posted := [] }) ∨ (n ≠ s.id ∧ d.sessions.get? n = some x) := by
    have found : (d.sessions.update s.id fun _ => { s with posted := [] }).get? n = some x := found
    rw [Table.get?_update] at found
    split at found
    · obtain ⟨y, -, e⟩ : ∃ y, d.sessions.get? n = some y ∧ { s with posted := [] } = x :=
        Option.map_eq_some_iff.1 found
      exact .inl ⟨‹_›, e.symm⟩
    · exact .inr ⟨‹_›, found⟩
  refine ⟨hears, fun n x found => ?_, fun n x found => ?_⟩
  · obtain ⟨rfl, rfl⟩ | ⟨-, found⟩ := here n x found
    · rfl
    · exact number n x found
  · obtain ⟨rfl, rfl⟩ | ⟨other, found⟩ := here n x found
    · exact rested.same rfl rfl
    · exact others n x other found

theorem restful_onSession {α : Type} {id : SessionId}
    {op : Audience → Session (Monitor τ) → Except Fault (α × Session (Monitor τ))}
    {d d' : Dispatcher (Watched ε) (Monitor τ) π} {r : Option α} (careful : Careful listens (aside id) op)
    (h : d.onSession id op = .ok (r, d')) : Restful listens aside left d d' := by
  unfold onSession at h
  split at h
  · cases h
    exact .refl d
  · rename_i s found
    obtain ⟨⟨x, s'⟩, done, h⟩ := ok_of_bind h
    cases h
    intro rests
    have before := rests.rested id s found
    obtain ⟨acts, tidy⟩ := careful _ _ _ _ _ rests.hears before.toTidy done
    have mine : s'.id = id := (Session.sameSession_acts _ acts).id.trans (rests.number id s found)
    exact ⟨rfl, rests_putSession rests.hears rests.number (fun n x _ found => rests.rested n x found)
      mine (before.acts tidy acts)⟩

theorem Doing.careful {α : Type} {aside : StreamId → Prop}
    {op : Audience → Session (Monitor τ) → Except Fault (α × Session (Monitor τ))} (doing : Doing op) :
    Careful listens aside op :=
  fun _ _ _ _ _ hears tidy done => ⟨(doing done).acts, tidy.deeds hears (doing done)⟩

theorem reactive_restful :
    Reactive (Restful listens aside left (ε := ε) (τ := τ) (π := π)) where
  same same := .of_eq same.audience same.sessions
  trans := .trans
  onSession doing done := restful_onSession doing.careful done

/-! ## Driving -/

variable [Endpoint ε τ π]

/-- What a session goes through when it is driven brings it to rest, even if something arrived for it. -/
theorem rested_driven {listens : Bool} {aside left : StreamId → Prop} {a : Audience} {now : Instant}
    {e : Watched ε} {s s₁ s₂ : Session (Monitor τ)} (hears : listens = true → a.listener.isSome = true)
    (roused : Roused listens aside left s) (first : s.process a now = .ok s₁)
    (second : { s₁ with transport := (Endpoint.settle s₁.connection s₁.transport e).1 }.process a now =
      .ok s₂) :
    let s₃ := Session.reclaim a { s₂ with
      transport := (Endpoint.transmit (ε := Watched ε) now s₂.transport).2 }
    Rested listens aside left s₃ ∧ s₃.id = s.id := by
  have rested₁ := roused.process hears first
  have same₁ := Session.sameSession_acts _ (Session.acts_process _ now first)
  have settled := rested₁.transport (m := (Endpoint.settle s₁.connection s₁.transport e).1)
    Watched.later_settle
  have rested₂ := settled.roused.process hears second
  have same₂ := Session.sameSession_acts _ (Session.acts_process _ now second)
  have sent := rested₂.transport (m := (Endpoint.transmit (ε := Watched ε) now s₂.transport).2)
    Watched.later_transmit
  have deeds := Session.deeds_reclaim a sent.named
  have same₃ := Session.sameSession_acts _ deeds.acts
  exact ⟨sent.acts (sent.toTidy.deeds hears deeds) deeds.acts, same₃.id.trans (same₂.id.trans same₁.id)⟩

theorem rests_drive {now : Instant} {id : SessionId} {d d' : Dispatcher (Watched ε) (Monitor τ) π}
    (hears : listens = true → d.audience.listener.isSome = true)
    (number : ∀ n x, d.sessions.get? n = some x → x.id = n)
    (others : ∀ n x, n ≠ id → d.sessions.get? n = some x → Rested listens (aside n) (left n) x)
    (mine : ∀ s, d.sessions.get? id = some s → Roused listens (aside id) (left id) s)
    (h : d.drive now id = .ok d') : d'.audience = d.audience ∧ Rests listens aside left d' := by
  unfold drive at h
  split at h
  · rename_i absent
    obtain rfl := Except.ok.inj h
    refine ⟨rfl, hears, number, fun n x found => others n x (fun same => ?_) found⟩
    rw [same, absent] at found
    cases found
  rename_i s found
  obtain ⟨s₁, first, h⟩ := ok_of_bind h
  rcases settling : Endpoint.settle s₁.connection s₁.transport d.endpoint with ⟨t, endpoint⟩
  rw [settling] at h
  obtain ⟨s₂, second, h⟩ := ok_of_bind h
  obtain ⟨rested, same⟩ := rested_driven (e := d.endpoint) hears (mine s found) first
    (by rw [settling]; exact second)
  rcases sending : Endpoint.transmit (ε := Watched ε) now s₂.transport with ⟨packets, t'⟩
  rw [sending] at h rested same
  dsimp only at h
  generalize Session.reclaim d.audience { s₂ with transport := t' } = s₃ at h rested same
  obtain ⟨d₁, told, h⟩ := ok_of_bind h
  have key : s₃.id = id := same.trans (number id s found)
  have flushed : ({ d with endpoint := endpoint }.send packets).audience = d.audience ∧
      ({ d with endpoint := endpoint }.send packets).sessions = d.sessions := by
    rw [send_eq]
    exact ⟨rfl, rfl⟩
  have put : Rests listens aside left
      (({ d with endpoint := endpoint }.send packets).putSession { s₃ with signals := [] }) := by
    refine rests_putSession ?_ ?_ ?_ key (rested.same rfl rfl)
    · rw [flushed.1]
      exact hears
    · rw [flushed.2]
      exact number
    · rw [flushed.2]
      exact others
  have signalled : Restful listens aside left _ d₁ := reactive_restful.signals told
  have ended : Restful listens aside left d₁ d' := by
    rw [← Except.ok.inj h]
    split
    · exact .removed d₁ _
    · exact .refl d₁
  obtain ⟨audience, rests⟩ := (signalled.trans ended) put
  exact ⟨audience.trans flushed.1, rests⟩

theorem restful_drive {now : Instant} {id : SessionId} {d d' : Dispatcher (Watched ε) (Monitor τ) π}
    (h : d.drive now id = .ok d') : Restful listens aside left d d' := fun rests =>
  rests_drive rests.hears rests.number (fun n x _ found => rests.rested n x found)
    (fun s found => (rests.rested id s found).roused) h

/-! ## Arrivals -/

section
variable {now : Instant} {d d' : Dispatcher (Watched ε) (Monitor τ) π}

omit [Endpoint ε τ π] in
theorem restful_createSession {handle : ConnectionHandle} {m : Monitor τ} {id : SessionId}
    (fresh : m.due = []) (h : d.createSession now handle m = .ok (id, d')) :
    Restful listens aside left d d' := by
  obtain ⟨-, e⟩ := createSession_eq h
  have audience : d'.audience = d.audience := by rw [e]
  have sessions : d'.sessions = d.sessions.insert id (.begun id handle m d.options now) := by rw [e]
  intro rests
  refine ⟨audience, audience ▸ rests.hears, fun n s found => ?_, fun n s found => ?_⟩
  · rw [sessions, Table.get?_insert] at found
    split at found
    · rename_i mine
      rw [← Option.some.inj found, mine]
      rfl
    · exact rests.number n s found
  · rw [sessions, Table.get?_insert] at found
    split at found
    · rw [← Option.some.inj found]
      exact ⟨Session.tidy_of_empty rfl, fun _ => fresh⟩
    · exact rests.rested n s found

theorem restful_delivered {packet : π} {id : SessionId}
    (h : { d with sessions := d.sessions.update id fun s =>
      { s with transport := Endpoint.deliver (ε := Watched ε) now packet s.transport } }.drive now id =
        .ok d') : Restful listens aside left d d' := by
  intro rests
  have there {n : SessionId} {s' : Session (Monitor τ)}
      (held : (d.sessions.update id fun s =>
        { s with transport := Endpoint.deliver (ε := Watched ε) now packet s.transport }).get? n =
          some s') :
      ∃ s, d.sessions.get? n = some s ∧ s' = if n = id then { s with
        transport := Endpoint.deliver (ε := Watched ε) now packet s.transport } else s := by
    rw [Table.get?_update] at held
    split at held
    · obtain ⟨s, held, e⟩ : ∃ s, d.sessions.get? n = some s ∧ { s with
          transport := Endpoint.deliver (ε := Watched ε) now packet s.transport } = s' :=
        Option.map_eq_some_iff.1 held
      exact ⟨s, held, by rw [if_pos ‹_›, e]⟩
    · exact ⟨s', held, by rw [if_neg ‹_›]⟩
  refine rests_drive (d := { d with sessions := d.sessions.update id fun s =>
      { s with transport := Endpoint.deliver (ε := Watched ε) now packet s.transport } })
    rests.hears (fun n s' held => ?_) (fun n s' other held => ?_) (fun s' held => ?_) h
  · obtain ⟨s, before, rfl⟩ := there held
    split <;> exact rests.number n s before
  · obtain ⟨s, before, rfl⟩ := there held
    rw [if_neg other]
    exact rests.rested n s before
  · obtain ⟨s, before, rfl⟩ := there held
    rw [if_pos rfl]
    exact (rests.rested id s before).arrived _

/-- A session is added for a connection that was just made, and driven. -/
theorem restful_added {handle : ConnectionHandle} {m : Monitor τ} {id : SessionId} {e : Watched ε}
    {d₁ : Dispatcher (Watched ε) (Monitor τ) π} (fresh : m.due = [])
    (registered : { d with endpoint := e }.createSession now handle m = .ok (id, d₁))
    (driven : d₁.drive now id = .ok d') : Restful listens aside left d d' := by
  have moved : Restful listens aside left d { d with endpoint := e } := .of_eq rfl rfl
  have created : Restful listens aside left { d with endpoint := e } d₁ :=
    restful_createSession fresh registered
  exact (moved.trans created).trans (restful_drive driven)

theorem covering_restful : Covering (Restful listens aside left (ε := ε) (τ := τ) (π := π)) :=
  { reactive_restful with
    drive := restful_drive
    removed := .removed
    arrived := fun _ => .of_eq rfl rfl
    refused := fun _ _ _ => .of_eq rfl rfl
    declined := fun _ => .of_eq rfl rfl
    delivered := restful_delivered
    begun := fun connected => restful_added (Watched.fresh_connect connected)
    accepted := fun granted => restful_added (Watched.fresh_accept granted) }

end

/-! ## Runs -/

omit [Endpoint ε τ π] in
theorem careful_operate {aside : StreamId → Prop} (now : Instant) {ops : List Session.Operation}
    (apart : ∀ id, .createIncoming id ∈ ops → aside id) :
    Careful listens aside fun (a : Audience) (s : Session (Monitor τ)) =>
      return ((), ← s.operate a now ops) := by
  intro a s s' r left hears tidy done
  obtain ⟨s₁, done, e⟩ := ok_of_bind done
  cases e
  exact ⟨Session.acts_operate tidy.named done, tidy.operate hears apart done⟩

/-- Whether a stream of a session is taken in because the application asks for it, and not because the
transport accepted it. -/
def Move.TakesIn (n : SessionId) (id : StreamId) : Move π → Prop
  | .operate _ m ops => m = n ∧ .createIncoming id ∈ ops
  | .touch _ m ops => m = n ∧ .createIncoming id ∈ ops
  | _ => False

theorem restful_step {x : Move π} {d : Dispatcher (Watched ε) (Monitor τ) π}
    (apart : ∀ n id, x.TakesIn n id → aside n id) (other : ∀ c, x ≠ .adjust c) :
    Restful listens aside left d (d.step x) := by
  unfold step
  split
  · refine covering_restful.attempt (fun now n ops asked d d' r operated => ?_)
      (fun c adjusts => absurd adjusts (other c)) ‹_›
    refine restful_onSession (careful_operate now fun id mem => apart n id ?_) operated
    obtain rfl | rfl := asked
    · exact ⟨rfl, mem⟩
    · exact ⟨rfl, mem⟩
  · exact .refl d

/-- As far as visitors are concerned, the sessions of a run are always at rest. -/
theorem rests_run {d : Dispatcher (Watched ε) (Monitor τ) π} {moves : List (Move π)}
    (apart : ∀ x ∈ moves, ∀ n id, x.TakesIn n id → aside n id)
    (rests : Rests false aside left d) : Rests false aside left (d.run moves) := by
  induction moves generalizing d with
  | nil => exact rests
  | cons x moves ih =>
    refine ih (fun y mem => apart y (List.mem_cons_of_mem x mem)) ?_
    by_cases adjusts : ∃ c, x = .adjust c
    · obtain ⟨c, rfl⟩ := adjusts
      exact ⟨nofun, rests.number, rests.rested⟩
    · exact (restful_step (apart x (List.mem_cons_self ..)) (not_exists.1 adjusts) rests).2

end Dispatcher

end QuicSessions
