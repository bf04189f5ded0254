import QuicSessions.Proofs.Dispatchers.Partings
import QuicSessions.Proofs.Sessions.Faultless

/-!
# Shutting down a server

A server can be shut down at any time, whatever its sessions are doing: no session that is begun makes a
mistake when it is closed and driven. A shutdown empties both tables and ends with the news of the end. A
server that is deserted and has no settings for connections of its own stays so: nothing that happens to it
registers a session or tells anybody anything.
-/

set_option autoImplicit false

namespace QuicSessions.Dispatcher

variable {ε τ π : Type} [Transport τ]

/-! ## Driving makes no mistakes -/

section Driving

variable {d : Dispatcher ε τ π} {s : Session τ}

theorem react_of_begun (resident : Resident d s) (begun : s.state ≠ .created) (x : Signal) :
    ∃ d', d.react s.id x = .ok d' := by
  cases x with
  | closed reason during => exact ⟨_, rfl⟩
  | connected =>
    have opens (d : Dispatcher ε τ π) (there : d.sessions.get? s.id = some s) :
        ∃ r d', d.onSession s.id (fun a s => s.openBidirectional a) = .ok (r, d') := by
      obtain ⟨r, s', opened⟩ := Session.openStream_of_begun d.audience begun .bi
      unfold onSession Session.openBidirectional
      rw [there]
      dsimp only
      rw [opened]
      exact ⟨_, _, rfl⟩
    by_cases client : d.role.isClient = true
    · have told (news : ClientNews) : (d.tellClient news).sessions.get? s.id = some s := by
        rw [tellClient_eq]
        exact resident.found
      unfold react
      rw [if_pos client, resident.sessionHandle]
      dsimp only
      split
      · obtain ⟨r, d', opened⟩ := opens _ (told _)
        rw [opened]
        exact ⟨d', rfl⟩
      · exact ⟨_, rfl⟩
    · unfold react
      rw [if_neg client]
      exact ⟨d, rfl⟩

theorem reactions_of_begun (resident : Resident d s) (begun : s.state ≠ .created) (signals : List Signal) :
    ∃ d', signals.foldlM (react s.id) d = .ok d' := by
  induction signals generalizing d s with
  | nil => exact ⟨d, rfl⟩
  | cons x signals ih =>
    obtain ⟨d₁, reacted⟩ := react_of_begun resident begun x
    obtain ⟨notices, lived, -, -⟩ := lived_react 0 resident reacted
    have here := lived.resident resident (collected_reacting [x] resident.collected)
    have begun' := Session.kept_begun.run resident.named begun (d.reacting 0 [x])
    obtain ⟨d', rest⟩ := ih here begun'
    rw [(Session.sameSession_run resident.named _).id] at rest
    rw [List.foldlM_cons, reacted]
    exact ⟨d', rest⟩

omit [Transport τ] in
theorem resident_putSession {x : Session τ} (found : d.sessions.get? x.id = some s) (named : x.Named) :
    Resident (d.putSession x) { x with posted := [] } where
  found := by
    show (d.sessions.update x.id fun _ => { x with posted := [] }).get? x.id = _
    rw [Table.get?_update, if_pos rfl, found]
    rfl
  named := named
  collected := rfl

variable [Endpoint ε τ π]

/-- A dispatcher makes no mistake when it drives one of its sessions. -/
theorem drive_of_housed (housed : Housed d) (now : Instant) (id : SessionId) :
    ∃ d', d.drive now id = .ok d' := by
  unfold drive
  cases found : d.sessions.get? id with
  | none => exact ⟨d, rfl⟩
  | some s =>
    obtain ⟨rfl, resident⟩ := housed.residents id s found
    obtain ⟨s₁, first⟩ := Session.process_of_begun d.audience now (housed.begun s.id s found)
    have acts₁ := Session.acts_process _ _ first
    have begun₁ : s₁.state ≠ .created := Session.kept_begun.acts acts₁ (housed.begun s.id s found)
    dsimp only
    rw [first]
    rcases settling : Endpoint.settle s₁.connection s₁.transport d.endpoint with ⟨t, e⟩
    obtain ⟨s₂, second⟩ := Session.process_of_begun (s := { s₁ with transport := t }) d.audience now begun₁
    have acts₂ := Session.acts_process _ _ second
    rcases sending : Endpoint.transmit (ε := ε) now s₂.transport with ⟨packets, t'⟩
    simp only [bind, Except.bind, settling, second, sending]
    have named₁ : s₁.Named := Session.kept_named.acts acts₁ resident.named
    have named : s₂.Named := Session.kept_named.acts (s := { s₁ with transport := t }) acts₂ named₁
    have acts₃ := (Session.deeds_reclaim d.audience (s := { s₂ with transport := t' }) named).acts
    have begun₂ : s₂.state ≠ .created :=
      Session.kept_begun.acts (s := { s₁ with transport := t }) acts₂ begun₁
    have begun₃ := Session.kept_begun.acts acts₃ begun₂
    have key : s₂.id = s.id := (Session.sameSession_acts _ acts₂).id.trans (Session.sameSession_acts _ acts₁).id
    have key₃ := (Session.sameSession_acts _ acts₃).id.trans key
    have named₃ := Session.kept_named.acts acts₃ named
    generalize Session.reclaim d.audience { s₂ with transport := t' } = s₃ at *
    have there : ({ d with endpoint := e }.send packets).sessions.get? s₃.id = some s := by
      rw [send_eq, key₃]
      exact found
    have here := resident_putSession (x := { s₃ with signals := [] }) there named₃
    obtain ⟨d', reacted⟩ := reactions_of_begun here begun₃ s₃.signals
    rw [← key₃]
    exact ⟨_, by rw [show s₃.signals.foldlM (react s₃.id) _ = .ok d' from reacted]; rfl⟩

end Driving

variable [Endpoint ε τ π]

theorem farewell_of_housed {d : Dispatcher ε τ π} (housed : Housed d)
    (now : Instant) (role : Side) (id : SessionId) :
    ∃ d', d.perform (Stroke.exchange now (fun _ _ => [farewellOp role]) id) = .ok d' := by
  let ask : Stroke ε τ π := .request now id fun _ _ => [farewellOp role]
  have asked : ∃ d₁, d.apply ask = .ok d₁ := by
    show ∃ d₁, (d.onSession id _).map Prod.snd = .ok d₁
    unfold onSession
    cases d.sessions.get? id with
    | none => exact ⟨d, rfl⟩
    | some s => exact ⟨_, rfl⟩
  obtain ⟨d₁, asked⟩ := asked
  have housed₁ : Housed d₁ := housed.apply (x := ask) asked
  obtain ⟨d', driven⟩ := drive_of_housed housed₁ now id
  refine ⟨d', ?_⟩
  unfold Stroke.exchange
  rw [perform_cons, asked]
  exact (perform_one d₁ (.drive now id)).trans driven

theorem farewells_of_housed {d : Dispatcher ε τ π} (housed : Housed d)
    (now : Instant) (role : Side) (ids : List SessionId) :
    ∃ d', d.perform (ids.flatMap (Stroke.exchange now fun _ _ => [farewellOp role])) = .ok d' := by
  induction ids generalizing d with
  | nil => exact ⟨d, rfl⟩
  | cons id ids ih =>
    obtain ⟨d₁, first⟩ := farewell_of_housed housed now role id
    obtain ⟨d', rest⟩ := ih (housed.perform first)
    refine ⟨d', ?_⟩
    rw [List.flatMap_cons, perform_append, first]
    exact rest

/-! ## Whether it is shut down -/

/-- Whether no more connections are taken after a stroke. -/
def Stroke.shuts : Stroke ε τ π → Bool
  | .shut => true
  | _ => false

def Move.shuts : Move π → Bool
  | .shutdown _ => true
  | _ => false

section Shut

variable {d d' : Dispatcher ε τ π}

theorem shutDown_apply {x : Stroke ε τ π} (h : d.apply x = .ok d') :
    d'.shutDown = (d.shutDown || x.shuts) := by
  cases x with
  | register now handle t =>
    obtain ⟨⟨id, d₁⟩, registered, rfl⟩ := ok_of_map h
    obtain ⟨-, e⟩ := createSession_eq registered
    rw [e]
    exact (Bool.or_false _).symm
  | shut => cases h; exact (Bool.or_true _).symm
  | adjust c => cases h; exact (Bool.or_false _).symm
  | _ => exact (congrArg shutDown (works_apply h rfl)).trans (Bool.or_false _).symm

theorem shutDown_perform {strokes : List (Stroke ε τ π)} (h : d.perform strokes = .ok d') :
    d'.shutDown = (d.shutDown || strokes.any Stroke.shuts) := by
  induction strokes generalizing d with
  | nil =>
    cases h
    exact (Bool.or_false _).symm
  | cons x strokes ih =>
    obtain ⟨first, rest⟩ := perform_cons_cases h
    rw [ih rest, shutDown_apply first, Bool.or_assoc]
    rfl

end Shut

/-! ## The shutdown -/

section Shutdown

variable {d d' : Dispatcher ε τ π}

omit [Transport τ] [Endpoint ε τ π] in
theorem connections_removals (handles : List ConnectionHandle) (d : Dispatcher ε τ π)
    (handle : ConnectionHandle) :
    (handles.foldl (fun d handle => d.connectionClosed handle) d).connections.get? handle =
      if handle ∈ handles then none else d.connections.get? handle := by
  have single (other : ConnectionHandle) (d : Dispatcher ε τ π) :
      (d.connectionClosed other).connections.get? handle =
        if handle = other then none else d.connections.get? handle := by
    cases registered : d.connections.get? other with
    | none =>
      rw [connectionClosed_of_unregistered registered]
      by_cases same : handle = other
      · rw [if_pos same, same]
        exact registered
      · rw [if_neg same]
    | some id =>
      rw [connectionClosed_eq registered]
      exact Table.get?_erase ..
  induction handles generalizing d with
  | nil => rfl
  | cons other handles ih =>
    rw [List.foldl_cons, ih, single]
    by_cases later : handle ∈ handles
    · rw [if_pos later, if_pos (List.mem_cons_of_mem _ later)]
    · by_cases same : handle = other
      · rw [if_neg later, if_pos same, if_pos (same ▸ List.mem_cons_self ..)]
      · rw [if_neg later, if_neg same, if_neg fun mem => (List.mem_cons.1 mem).elim same later]

structure Vacated (d : Dispatcher ε τ π) : Prop where
  sessions : d.sessions.keys = []
  connections : d.connections.keys = []

omit [Transport τ] [Endpoint ε τ π] in
theorem vacated_of_connections (inOrder : InOrder d) (gone : ∀ handle, d.connections.get? handle = none) :
    Vacated d where
  sessions := by
    refine List.eq_nil_iff_forall_not_mem.2 fun n mem => ?_
    obtain ⟨s, found⟩ := Table.mem_keys_iff.1 mem
    have registered := (inOrder.inverse s.connection n).2 ⟨s, found, rfl⟩
    rw [gone] at registered
    cases registered
  connections := List.eq_nil_iff_forall_not_mem.2 fun handle => Table.get?_eq_none_iff.1 (gone handle)

/-- The first shutdown: every session is closed and driven, the connections that are left are
removed, and the end is told. -/
theorem shutting_plan (housed : Housed d) (on : d.shutDown = false) (now : Instant) :
    ∃ d₁, d.perform (d.farewells now) = .ok d₁ ∧
      d.shutting now = (d.farewells now ++ d₁.connections.keys.map .remove) ++ [.ended] ∧
      d.perform (d.shutting now) =
        .ok ((d₁.connections.keys.foldl (fun d handle => d.connectionClosed handle) d₁).tellServer .ended) := by
  obtain ⟨d₁, closing⟩ := farewells_of_housed (housed.apply (x := .shut) rfl) now d.role d.sessionIds
  have closing : d.perform (d.farewells now) = .ok d₁ := closing
  have plan : d.shutting now = (d.farewells now ++ d₁.connections.keys.map .remove) ++ [.ended] := by
    unfold shutting
    rw [on, if_neg Bool.false_ne_true, closing, List.append_assoc]
  refine ⟨d₁, closing, plan, ?_⟩
  rw [plan, perform_append, perform_append, closing]
  show (d₁.perform (d₁.connections.keys.map .remove) >>= _) = _
  rw [perform_removals]
  exact perform_one _ .ended

/-- A dispatcher that is not shut down yet can be. Its tables are empty then, and the last stroke, and only
this one, is the news of the end. -/
theorem shutting_vacates (inOrder : InOrder d) (on : d.shutDown = false) (now : Instant) :
    ∃ d' front, d.perform (d.shutting now) = .ok d' ∧
      d.shutting now = front ++ [.ended] ∧ (∀ y ∈ front, y ≠ .ended) ∧ d'.shutDown = true ∧ Vacated d' := by
  obtain ⟨d₁, closing, plan, performed⟩ := shutting_plan inOrder.housed on now
  have vacant : d.Throughout Vacant (d.farewells now) := by
    refine throughout_of_forall (fun d₂ y mem => ?_) d
    obtain rfl | mem := List.mem_cons.1 mem
    · exact trivial
    · obtain ⟨id, -, mem⟩ := List.mem_flatMap.1 mem
      simp only [Stroke.exchange, List.mem_cons, List.not_mem_nil, or_false] at mem
      obtain rfl | rfl := mem <;> exact trivial
  have inOrder₁ : InOrder d₁ := inOrder.perform vacant closing
  have shut : d₁.shutDown = true := by
    rw [shutDown_perform closing, on]
    rfl
  -- every connection that is left is removed
  let handles := d₁.connections.keys
  let d₂ := handles.foldl (fun d handle => d.connectionClosed handle) d₁
  have removing : d₁.perform (handles.map .remove) = .ok d₂ := perform_removals handles d₁
  have removals : d₁.Throughout Vacant (handles.map .remove) := by
    refine throughout_of_forall (fun d₂ y mem => ?_) d₁
    obtain ⟨handle, -, rfl⟩ := List.mem_map.1 mem
    exact trivial
  have inOrder₂ : InOrder d₂ := inOrder₁.perform removals removing
  have shut₂ : d₂.shutDown = true := by
    rw [shutDown_perform removing, shut]
    rfl
  have vacated : Vacated d₂ := by
    refine vacated_of_connections inOrder₂ fun handle => ?_
    refine (connections_removals handles d₁ handle).trans ?_
    by_cases mem : handle ∈ handles
    · exact if_pos mem
    · exact (if_neg mem).trans (Table.get?_eq_none_iff.2 mem)
  refine ⟨d₂.tellServer .ended, d.farewells now ++ handles.map .remove, performed, plan, fun y mem => ?_, ?_, ?_⟩
  · obtain mem | mem := List.mem_append.1 mem
    · obtain rfl | mem := List.mem_cons.1 mem
      · exact fun e => by cases e
      · obtain ⟨id, -, mem⟩ := List.mem_flatMap.1 mem
        simp only [Stroke.exchange, List.mem_cons, List.not_mem_nil, or_false] at mem
        obtain rfl | rfl := mem <;> exact fun e => by cases e
    · obtain ⟨handle, -, rfl⟩ := List.mem_map.1 mem
      exact fun e => by cases e
  · rw [tellServer_eq]
    exact shut₂
  · rw [tellServer_eq]
    exact ⟨vacated.sessions, vacated.connections⟩

end Shutdown

/-! ## After the end -/

/-- A server that is shut down, without sessions and connections, and without settings to begin any. -/
structure Deserted (d : Dispatcher ε τ π) : Prop extends Vacated d where
  shutDown : d.shutDown = true
  connecting : d.connecting = none

/-- A stroke that may come after the end. -/
def Stroke.Late : Stroke ε τ π → Prop
  | .register .. => False
  | .ended => False
  | .adjust c => c.connecting = none
  | _ => True

namespace Deserted

variable {d d' : Dispatcher ε τ π} (deserted : Deserted d)
include deserted

omit [Transport τ] [Endpoint ε τ π] in
theorem absent (id : SessionId) : d.sessions.get? id = none := by
  refine Table.get?_eq_none_iff.2 ?_
  rw [deserted.sessions]
  exact List.not_mem_nil

omit [Transport τ] [Endpoint ε τ π] in
theorem unregistered (handle : ConnectionHandle) : d.connections.get? handle = none := by
  refine Table.get?_eq_none_iff.2 ?_
  rw [deserted.connections]
  exact List.not_mem_nil

/-- What happens after the end comes to nothing. -/
theorem late {x : Move π} (settings : ∀ c, x = .adjust c → c.connecting = none) :
    ∀ y ∈ d.course x, y.Late := by
  have exchanged {now : Instant} {ops : Audience → Session τ → List Session.Operation} {id : SessionId} :
      ∀ y ∈ (Stroke.exchange now ops id : List (Stroke ε τ π)), y.Late := by
    intro y mem
    simp only [Stroke.exchange, List.mem_cons, List.not_mem_nil, or_false] at mem
    obtain rfl | rfl := mem <;> exact trivial
  intro y mem
  cases x with
  | connect now remote name =>
    simp only [course, beginning, deserted.connecting, List.not_mem_nil] at mem
  | receive now source packet =>
    change y ∈ d.arriving now source packet at mem
    unfold arriving at mem
    split at mem
    · rw [deserted.unregistered] at mem
      obtain rfl := List.mem_singleton.1 mem
      exact trivial
    · unfold granting at mem
      rw [deserted.shutDown, Bool.true_or, if_pos rfl] at mem
      simp only [List.mem_cons, List.not_mem_nil, or_false] at mem
      obtain rfl | rfl | rfl := mem <;> exact trivial
    · simp only [List.mem_cons, List.not_mem_nil, or_false] at mem
      obtain rfl | rfl := mem <;> exact trivial
    · obtain rfl := List.mem_singleton.1 mem
      exact trivial
  | timeout now =>
    obtain rfl | mem := List.mem_cons.1 mem
    · exact trivial
    · obtain ⟨id, -, mem⟩ := List.mem_flatMap.1 mem
      exact exchanged y mem
  | drive now id =>
    obtain rfl := List.mem_singleton.1 mem
    exact trivial
  | driveAll now =>
    obtain ⟨id, -, rfl⟩ := List.mem_map.1 mem
    exact trivial
  | operate now id ops => exact exchanged y mem
  | touch now id ops =>
    obtain rfl := List.mem_singleton.1 mem
    exact trivial
  | send now id stream data => exact exchanged y mem
  | connectionClosed handle =>
    obtain rfl := List.mem_singleton.1 mem
    exact trivial
  | shutdown now =>
    simp only [course, shutting, deserted.shutDown, if_true, List.not_mem_nil] at mem
  | adjust c =>
    obtain rfl := List.mem_singleton.1 mem
    exact settings c rfl
  | collect =>
    obtain rfl := List.mem_singleton.1 mem
    exact trivial

theorem apply {y : Stroke ε τ π} (late : y.Late) (h : d.apply y = .ok d') :
    Deserted d' ∧ d.said y = [] ∧ d.begun y = [] := by
  have unchanged (same : d' = d) : Deserted d' ∧ d.said y = [] := by
    refine ⟨same ▸ deserted, said_of_posted h ?_⟩
    rw [same, List.append_nil]
  cases y with
  | register => cases late
  | ended => cases late
  | endpoint e =>
    cases h
    exact ⟨⟨⟨deserted.sessions, deserted.connections⟩, deserted.shutDown, deserted.connecting⟩,
      said_of_posted rfl (List.append_nil _).symm, rfl⟩
  | answer packets =>
    have said : d.said (.answer packets) = [] := by
      refine said_of_posted h ?_
      cases h
      rw [send_eq, List.append_nil]
    cases h
    rw [send_eq]
    exact ⟨⟨⟨deserted.sessions, deserted.connections⟩, deserted.shutDown, deserted.connecting⟩, said, rfl⟩
  | deliver now id packet =>
    cases h
    refine ⟨⟨⟨?_, deserted.connections⟩, deserted.shutDown, deserted.connecting⟩,
      said_of_posted rfl (List.append_nil _).symm, rfl⟩
    exact (Table.keys_update ..).trans deserted.sessions
  | request now id ops =>
    have same : d' = d := by
      obtain ⟨r, done, e⟩ := ok_of_map h
      unfold onSession at done
      rw [deserted.absent] at done
      cases done
      exact e.symm
    exact ⟨(unchanged same).1, (unchanged same).2, rfl⟩
  | drive now id =>
    have same : d' = d := by
      change d.drive now id = .ok d' at h
      unfold drive at h
      rw [deserted.absent] at h
      exact (Except.ok.inj h).symm
    exact ⟨(unchanged same).1, (unchanged same).2, rfl⟩
  | poll =>
    have same : d' = d := eq_of_poll h
    exact ⟨(unchanged same).1, (unchanged same).2, rfl⟩
  | remove handle =>
    have same : d' = d := by
      rw [← Except.ok.inj h]
      exact connectionClosed_of_unregistered (deserted.unregistered handle)
    exact ⟨(unchanged same).1, (unchanged same).2, rfl⟩
  | shut =>
    cases h
    exact ⟨⟨⟨deserted.sessions, deserted.connections⟩, rfl, deserted.connecting⟩,
      said_of_posted rfl (List.append_nil _).symm, rfl⟩
  | adjust c =>
    cases h
    exact ⟨⟨⟨deserted.sessions, deserted.connections⟩, deserted.shutDown, late⟩,
      said_of_posted rfl (List.append_nil _).symm, rfl⟩
  | collect =>
    cases h
    refine ⟨⟨⟨deserted.sessions, deserted.connections⟩, deserted.shutDown, deserted.connecting⟩, ?_, rfl⟩
    exact List.drop_nil

theorem perform {strokes : List (Stroke ε τ π)} (late : ∀ y ∈ strokes, y.Late)
    (h : d.perform strokes = .ok d') :
    Deserted d' ∧ d.gather said strokes = [] ∧ d.gather begun strokes = [] := by
  induction strokes generalizing d with
  | nil =>
    cases h
    exact ⟨deserted, rfl, rfl⟩
  | cons y strokes ih =>
    obtain ⟨first, rest⟩ := perform_cons_cases h
    obtain ⟨deserted', said, begun⟩ := deserted.apply (late y (List.mem_cons_self ..)) first
    obtain ⟨last, more, others⟩ := ih deserted' (fun z mem => late z (List.mem_cons_of_mem y mem)) rest
    rw [gather_cons, gather_cons, said, begun, more, others]
    exact ⟨last, rfl, rfl⟩

/-- Whatever happens after the end, nobody is told anything and no session is registered. -/
theorem run {moves : List (Move π)} (settings : ∀ c, .adjust c ∈ moves → c.connecting = none) :
    Deserted (d.run moves) ∧ d.gather said (d.strokes moves) = [] ∧ d.gather begun (d.strokes moves) = [] := by
  induction moves generalizing d with
  | nil => exact ⟨deserted, rfl, rfl⟩
  | cons x moves ih =>
    have done := perform_made d x
    have course : ∀ y ∈ d.made x, y.Late := fun y mem =>
      deserted.late (fun c e => settings c (e ▸ List.mem_cons_self ..)) y (mem_made mem)
    obtain ⟨deserted', said, begun⟩ := deserted.perform course done
    obtain ⟨last, more, others⟩ := ih deserted' fun c mem => settings c (List.mem_cons_of_mem x mem)
    refine ⟨last, ?_, ?_⟩
    · show d.gather Dispatcher.said (d.made x ++ (d.step x).strokes moves) = []
      rw [gather_append _ done, said, more]
      rfl
    · show d.gather Dispatcher.begun (d.made x ++ (d.step x).strokes moves) = []
      rw [gather_append _ done, begun, others]
      rfl

end Deserted

end QuicSessions.Dispatcher
