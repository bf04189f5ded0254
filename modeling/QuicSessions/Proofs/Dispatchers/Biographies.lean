import QuicSessions.Proofs.Dispatchers.Shares

/-!
# Sessions from registration to removal

As long as no connection gets a handle that is registered, and fewer sessions are made than there are
numbers, each session of a run is registered once and removed once at most. In between the table holds it
under its number, as it was registered and after the steps of its life; before and after it takes no steps
and has no share in anything.
-/

set_option autoImplicit false

namespace QuicSessions.Dispatcher

open Session (Named)

variable {ε τ π : Type} [Transport τ]

/-! ## Tables in order -/

/-- Each session is one that was there, perhaps after some steps. -/
theorem Lived.origin {d d' : Dispatcher ε τ π} {id n : SessionId} {steps : List (Session.Step τ)}
    {notices : List Notice} {s' : Session τ} (h : Lived id steps notices d d')
    (found : d'.sessions.get? n = some s') :
    ∃ s, d.sessions.get? n = some s ∧ (s' = s.run steps ∧ n = id ∨ s' = s) := by
  rw [h.sessions n] at found
  split at found
  · obtain ⟨s, there, rfl⟩ := Option.map_eq_some_iff.1 found
    exact ⟨s, there, .inl ⟨rfl, ‹_›⟩⟩
  · exact ⟨s', found, .inr rfl⟩

/-- Sessions are filed under their numbers, they are begun, and what they posted was collected. -/
structure Housed (d : Dispatcher ε τ π) : Prop where
  filed : Filed d
  collected : ∀ id s, d.sessions.get? id = some s → s.posted = []
  begun : ∀ id s, d.sessions.get? id = some s → s.state ≠ .created

namespace Housed

variable {d d' : Dispatcher ε τ π}

omit [Transport τ] in
theorem residents (housed : Housed d) (id : SessionId) (s : Session τ)
    (found : d.sessions.get? id = some s) : s.id = id ∧ Resident d s := by
  obtain ⟨key, named⟩ := housed.filed id s found
  exact ⟨key, by rw [key]; exact found, named, housed.collected id s found⟩

omit [Transport τ] in
theorem of_same (housed : Housed d) (sessions : d'.sessions = d.sessions) : Housed d' where
  filed id s found := housed.filed id s (sessions ▸ found)
  collected id s found := housed.collected id s (sessions ▸ found)
  begun id s found := housed.begun id s (sessions ▸ found)

theorem lived {id : SessionId} {steps : List (Session.Step τ)} {notices : List Notice} (housed : Housed d)
    (lived : Lived id steps notices d d')
    (clean : ∀ s, d.sessions.get? id = some s → s.posted = [] → (s.run steps).posted = []) : Housed d' := by
  refine ⟨fun n s' found => ?_, fun n s' found => ?_, fun n s' found => ?_⟩
  · obtain ⟨s, there, ⟨rfl, -⟩ | rfl⟩ := lived.origin found
    · obtain ⟨key, named⟩ := housed.filed n s there
      exact ⟨(Session.sameSession_run named steps).id.trans key, Session.named_run named steps⟩
    · exact housed.filed n s' there
  · obtain ⟨s, there, ⟨rfl, mine⟩ | rfl⟩ := lived.origin found
    · exact clean s (mine ▸ there) (housed.collected n s there)
    · exact housed.collected n s' there
  · obtain ⟨s, there, ⟨rfl, -⟩ | rfl⟩ := lived.origin found
    · exact Session.kept_begun.run (housed.filed n s there).2 (housed.begun n s there) steps
    · exact housed.begun n s' there

omit [Transport τ] in
theorem removed (housed : Housed d) (handle : ConnectionHandle) : Housed (d.connectionClosed handle) where
  filed := housed.filed.removed handle
  collected id s found := housed.collected id s (get?_connectionClosed found)
  begun id s found := housed.begun id s (get?_connectionClosed found)

omit [Transport τ] in
theorem without (housed : Housed d) (handle : Option ConnectionHandle) : Housed (d.without handle) := by
  cases handle with
  | none => exact housed
  | some handle => exact housed.removed handle

theorem registered {now : Instant} {handle : ConnectionHandle} {t : τ} {id : SessionId} (housed : Housed d)
    (h : d.createSession now handle t = .ok (id, d')) : Housed d' := by
  obtain ⟨-, e⟩ := createSession_eq h
  have origin (n : SessionId) (s : Session τ) (found : d'.sessions.get? n = some s) :
      s = .begun id handle t d.options now ∨ d.sessions.get? n = some s := by
    rw [e] at found
    have found := (Table.get?_insert ..).symm.trans found
    split at found
    · exact .inl (Option.some.inj found).symm
    · exact .inr found
  refine ⟨housed.filed.added h, fun n s found => ?_, fun n s found => ?_⟩
  · obtain rfl | there := origin n s found
    · rfl
    · exact housed.collected n s there
  · obtain rfl | there := origin n s found
    · intro e
      cases e
    · exact housed.begun n s there

end Housed

/-- Sessions are filed under their numbers and their connections, they are begun, and what they posted was
collected. -/
structure InOrder (d : Dispatcher ε τ π) : Prop where
  filed : Filed d
  inverse : Inverse d
  collected : ∀ id s, d.sessions.get? id = some s → s.posted = []
  begun : ∀ id s, d.sessions.get? id = some s → s.state ≠ .created

namespace InOrder

variable {d d' : Dispatcher ε τ π}

omit [Transport τ] in
theorem housed (inOrder : InOrder d) : Housed d := ⟨inOrder.filed, inOrder.collected, inOrder.begun⟩

omit [Transport τ] in
theorem of_housed (housed : Housed d) (inverse : Inverse d) : InOrder d :=
  ⟨housed.filed, inverse, housed.collected, housed.begun⟩

omit [Transport τ] in
theorem residents (inOrder : InOrder d) (id : SessionId) (s : Session τ)
    (found : d.sessions.get? id = some s) : s.id = id ∧ Resident d s := inOrder.housed.residents id s found

omit [Transport τ] in
protected theorem new (role : Side) (endpoint : ε) (address : SocketAddress) (options : SessionOptions) :
    InOrder (Dispatcher.new role endpoint address options : Dispatcher ε τ π) where
  filed _ _ found := by cases found
  inverse _ _ := ⟨fun found => (by cases found), fun ⟨_, found, _⟩ => (by cases found)⟩
  collected _ _ found := by cases found
  begun _ _ found := by cases found

omit [Transport τ] in
theorem of_same (inOrder : InOrder d) (connections : d'.connections = d.connections)
    (sessions : d'.sessions = d.sessions) : InOrder d' := by
  refine .of_housed (inOrder.housed.of_same sessions) fun handle id => ?_
  rw [connections, sessions]
  exact inOrder.inverse handle id

theorem lived {id : SessionId} {steps : List (Session.Step τ)} {notices : List Notice} (inOrder : InOrder d)
    (lived : Lived id steps notices d d')
    (clean : ∀ s, d.sessions.get? id = some s → s.posted = [] → (s.run steps).posted = []) : InOrder d' := by
  refine .of_housed (inOrder.housed.lived lived clean) fun handle n => ?_
  rw [lived.connections, inOrder.inverse handle n]
  constructor
  · rintro ⟨s, there, on⟩
    by_cases mine : n = id
    · refine ⟨s.run steps, ?_, ?_⟩
      · rw [lived.sessions n, if_pos mine, there]
        rfl
      · exact (Session.sameSession_run (inOrder.filed n s there).2 steps).connection.trans on
    · exact ⟨s, by rw [lived.sessions n, if_neg mine]; exact there, on⟩
  · rintro ⟨s', found, on⟩
    obtain ⟨s, there, ⟨rfl, -⟩ | rfl⟩ := lived.origin found
    · refine ⟨s, there, ?_⟩
      rw [← on]
      exact (Session.sameSession_run (inOrder.filed n s there).2 steps).connection.symm
    · exact ⟨s', there, on⟩

omit [Transport τ] in
theorem removed (inOrder : InOrder d) (handle : ConnectionHandle) : InOrder (d.connectionClosed handle) :=
  .of_housed (inOrder.housed.removed handle) (inOrder.inverse.removed handle)

omit [Transport τ] in
theorem without (inOrder : InOrder d) (handle : Option ConnectionHandle) : InOrder (d.without handle) := by
  cases handle with
  | none => exact inOrder
  | some handle => exact inOrder.removed handle

theorem registered {now : Instant} {handle : ConnectionHandle} {t : τ} {id : SessionId} (inOrder : InOrder d)
    (unused : handle ∉ d.connections.keys) (new : d.nextSession ∉ d.sessions.keys)
    (h : d.createSession now handle t = .ok (id, d')) : InOrder d' := by
  obtain ⟨number, -⟩ := createSession_eq h
  exact .of_housed (inOrder.housed.registered h) (inOrder.inverse.added unused (number ▸ new) h)

omit [Transport τ] in
/-- Exactly the session on the connection is removed. -/
theorem get?_removed (inOrder : InOrder d) (handle : ConnectionHandle) {n : SessionId} {s : Session τ}
    (found : d.sessions.get? n = some s) :
    (d.connectionClosed handle).sessions.get? n = if s.connection = handle then none else some s := by
  by_cases on : s.connection = handle
  · have registered : d.connections.get? handle = some n := (inOrder.inverse handle n).2 ⟨s, found, on⟩
    rw [connectionClosed_eq registered, if_pos on]
    exact (Table.get?_erase ..).trans (if_pos rfl)
  · rw [if_neg on]
    cases registered : d.connections.get? handle with
    | none =>
      rw [connectionClosed_of_unregistered registered]
      exact found
    | some m =>
      have other : n ≠ m := by
        rintro rfl
        obtain ⟨s', found', on'⟩ := (inOrder.inverse handle n).1 registered
        cases found.symm.trans found'
        exact on on'
      rw [connectionClosed_eq registered]
      exact (Table.get?_erase ..).trans ((if_neg other).trans found)

end InOrder

variable [Endpoint ε τ π]

/-! ## Single strokes -/

/-- A connection that is registered gets a handle and a number that are not in use. -/
def Vacant (d : Dispatcher ε τ π) : Stroke ε τ π → Prop
  | .register _ handle _ => handle ∉ d.connections.keys ∧ d.nextSession ∉ d.sessions.keys
  | _ => True

instance (d : Dispatcher ε τ π) (x : Stroke ε τ π) : Decidable (Vacant d x) :=
  match x with
  | .register _ handle _ =>
    inferInstanceAs (Decidable (handle ∉ d.connections.keys ∧ d.nextSession ∉ d.sessions.keys))
  | .endpoint _ | .answer _ | .deliver .. | .request .. | .drive .. | .poll | .remove _ | .shut | .ended
  | .adjust _ | .collect => isTrue trivial

section Single

variable {d d' : Dispatcher ε τ π} {x : Stroke ε τ π}

theorem Housed.apply (housed : Housed d) (h : d.apply x = .ok d') : Housed d' := by
  by_cases ordinary : x.ordinary = true
  · obtain ⟨id, notices, d₁, parts, -⟩ := parts_apply ordinary housed.residents h
    rw [parts.result]
    exact (housed.lived parts.lived parts.clean).without _
  · cases x with
    | register now handle t =>
      obtain ⟨⟨id, d₁⟩, registered, rfl⟩ := ok_of_map h
      exact housed.registered registered
    | shut => cases h; exact housed.of_same rfl
    | ended =>
      cases h
      exact housed.of_same (by rw [tellServer_eq])
    | adjust c => cases h; exact housed.of_same rfl
    | collect => cases h; exact housed.of_same rfl
    | _ => exact absurd rfl ordinary

theorem InOrder.apply (inOrder : InOrder d) (vacant : Vacant d x) (h : d.apply x = .ok d') : InOrder d' := by
  by_cases ordinary : x.ordinary = true
  · obtain ⟨id, notices, d₁, parts, -⟩ := parts_apply ordinary inOrder.residents h
    rw [parts.result]
    exact (inOrder.lived parts.lived parts.clean).without _
  · cases x with
    | register now handle t =>
      obtain ⟨⟨id, d₁⟩, registered, rfl⟩ := ok_of_map h
      exact inOrder.registered vacant.1 vacant.2 registered
    | shut => cases h; exact inOrder.of_same rfl rfl
    | ended =>
      cases h
      exact inOrder.of_same (by rw [tellServer_eq]) (by rw [tellServer_eq])
    | adjust c => cases h; exact inOrder.of_same rfl rfl
    | collect => cases h; exact inOrder.of_same rfl rfl
    | _ => exact absurd rfl ordinary

/-- The tables after a stroke that is not ordinary, and not a registration either. -/
theorem sessions_of_extraordinary (extraordinary : x.ordinary = false) (h : d.apply x = .ok d')
    {n : SessionId} (unborn : ∀ s ∈ d.begun x, s.id ≠ n) :
    d'.sessions.get? n = d.sessions.get? n ∧ d.removed? x = none := by
  cases x with
  | register now handle t =>
    obtain ⟨⟨id, d₁⟩, registered, rfl⟩ := ok_of_map h
    obtain ⟨number, e⟩ := createSession_eq registered
    have other : n ≠ id := by
      have other := unborn _ (List.mem_singleton.2 rfl)
      rw [number]
      exact fun same => other same.symm
    rw [e]
    exact ⟨(Table.get?_insert ..).trans (if_neg other), rfl⟩
  | shut => cases h; exact ⟨rfl, rfl⟩
  | ended =>
    cases h
    rw [tellServer_eq]
    exact ⟨rfl, rfl⟩
  | adjust c => cases h; exact ⟨rfl, rfl⟩
  | collect => cases h; exact ⟨rfl, rfl⟩
  | _ => cases extraordinary

theorem idle_of_extraordinary (extraordinary : x.ordinary = false) (n : SessionId) :
    d.life n x = [] ∧ d.taken n x = [] := by
  refine idle_of_subject ?_ d
  cases x with
  | register | shut | ended | adjust | collect => intro named; cases named
  | _ => cases extraordinary

/-- A session that is there takes its steps in a stroke, and stays unless its connection is removed. -/
theorem get?_apply (inOrder : InOrder d) (h : d.apply x = .ok d') {n : SessionId} {s : Session τ}
    (found : d.sessions.get? n = some s) (unborn : ∀ s ∈ d.begun x, s.id ≠ n) :
    d'.sessions.get? n = if d.removed? x = some s.connection then none else some (s.run (d.life n x)) := by
  cases ordinary : x.ordinary with
  | false =>
    obtain ⟨same, stays⟩ := sessions_of_extraordinary ordinary h unborn
    rw [same, stays, if_neg nofun, (idle_of_extraordinary ordinary n).1]
    exact found
  | true =>
    obtain ⟨id, notices, d₁, parts, -⟩ := parts_apply ordinary inOrder.residents h
    have lived : d₁.sessions.get? n = some (s.run (d.life n x)) := by
      rw [parts.lived.sessions n, found]
      by_cases mine : n = id
      · rw [if_pos mine, mine]
        rfl
      · rw [if_neg mine, (parts.others n mine).1]
        rfl
    have later := inOrder.lived parts.lived parts.clean
    have same : (s.run (d.life n x)).connection = s.connection :=
      (Session.sameSession_run (inOrder.filed n s found).2 _).connection
    rw [parts.result]
    cases d.removed? x with
    | none =>
      rw [if_neg nofun]
      exact lived
    | some handle =>
      show (d₁.connectionClosed handle).sessions.get? n = _
      rw [later.get?_removed handle lived, same]
      by_cases on : s.connection = handle
      · rw [if_pos on, if_pos (congrArg some on.symm)]
      · rw [if_neg on, if_neg fun e => on (Option.some.inj e).symm]

/-- A session that is not there does not come by a stroke that does not register it. -/
theorem get?_apply_of_absent (inOrder : InOrder d) (h : d.apply x = .ok d') {n : SessionId}
    (absent : d.sessions.get? n = none) (unborn : ∀ s ∈ d.begun x, s.id ≠ n) :
    d'.sessions.get? n = none := by
  cases ordinary : x.ordinary with
  | false =>
    rw [(sessions_of_extraordinary ordinary h unborn).1]
    exact absent
  | true =>
    obtain ⟨id, notices, d₁, parts, -⟩ := parts_apply ordinary inOrder.residents h
    have still : d₁.sessions.get? n = none := by
      rw [parts.lived.sessions n, absent]
      split <;> rfl
    rw [parts.result]
    cases d.removed? x with
    | none => exact still
    | some handle =>
      refine Option.eq_none_iff_forall_ne_some.2 fun s found => ?_
      have found : d₁.sessions.get? n = some s := get?_connectionClosed found
      rw [still] at found
      cases found

end Single

/-! ## Whole courses -/

section Courses

variable {d d' : Dispatcher ε τ π} {strokes : List (Stroke ε τ π)} {n : SessionId} {s : Session τ}

theorem gather_cons {β : Type} (f : Dispatcher ε τ π → Stroke ε τ π → List β) (d : Dispatcher ε τ π)
    (x : Stroke ε τ π) (strokes : List (Stroke ε τ π)) :
    d.gather f (x :: strokes) = f d x ++ (d.stroke x).gather f strokes := rfl

theorem Housed.perform (housed : Housed d) (h : d.perform strokes = .ok d') : Housed d' := by
  induction strokes generalizing d with
  | nil =>
    cases h
    exact housed
  | cons x strokes ih =>
    obtain ⟨first, rest⟩ := perform_cons_cases h
    exact ih (housed.apply first) rest

theorem InOrder.perform (inOrder : InOrder d) (vacant : d.Throughout Vacant strokes)
    (h : d.perform strokes = .ok d') : InOrder d' := by
  induction strokes generalizing d with
  | nil =>
    cases h
    exact inOrder
  | cons x strokes ih =>
    obtain ⟨first, rest⟩ := perform_cons_cases h
    exact ih (inOrder.apply vacant.1 first) vacant.2 rest

/-- No session that strokes register has the number. -/
def Unborn (n : SessionId) (d : Dispatcher ε τ π) (strokes : List (Stroke ε τ π)) : Prop :=
  ∀ s ∈ d.gather begun strokes, s.id ≠ n

instance (n : SessionId) (d : Dispatcher ε τ π) (strokes : List (Stroke ε τ π)) :
    Decidable (Unborn n d strokes) := inferInstanceAs (Decidable (∀ s ∈ d.gather begun strokes, s.id ≠ n))

theorem unborn_cons {x : Stroke ε τ π} (unborn : Unborn n d (x :: strokes)) :
    (∀ s ∈ d.begun x, s.id ≠ n) ∧ Unborn n (d.stroke x) strokes :=
  ⟨fun s mem => unborn s (List.mem_append_left _ mem), fun s mem => unborn s (List.mem_append_right _ mem)⟩

/-- A session that is not registered does not come to be there. -/
theorem absent_perform (inOrder : InOrder d) (vacant : d.Throughout Vacant strokes)
    (h : d.perform strokes = .ok d') (absent : d.sessions.get? n = none) (unborn : Unborn n d strokes) :
    d'.sessions.get? n = none := by
  induction strokes generalizing d with
  | nil =>
    cases h
    exact absent
  | cons x strokes ih =>
    obtain ⟨first, rest⟩ := perform_cons_cases h
    obtain ⟨here, later⟩ := unborn_cons unborn
    exact ih (inOrder.apply vacant.1 first) vacant.2 rest (get?_apply_of_absent inOrder first absent here) later

/-- Strokes contribute nothing, as long as none does in which the session is not there. -/
theorem gather_of_absent {β : Type} {f : Dispatcher ε τ π → Stroke ε τ π → List β}
    {P : Dispatcher ε τ π → Stroke ε τ π → Prop}
    (nothing : ∀ {d d' : Dispatcher ε τ π} {x : Stroke ε τ π}, InOrder d → P d x → d.apply x = .ok d' →
      d.sessions.get? n = none → (∀ s ∈ d.begun x, s.id ≠ n) → f d x = [])
    (inOrder : InOrder d) (vacant : d.Throughout Vacant strokes) (always : d.Throughout P strokes)
    (h : d.perform strokes = .ok d') (absent : d.sessions.get? n = none) (unborn : Unborn n d strokes) :
    d.gather f strokes = [] := by
  induction strokes generalizing d with
  | nil => rfl
  | cons x strokes ih =>
    obtain ⟨first, rest⟩ := perform_cons_cases h
    obtain ⟨here, later⟩ := unborn_cons unborn
    have gone := get?_apply_of_absent inOrder first absent here
    rw [gather_cons, nothing inOrder always.1 first absent here,
      ih (inOrder.apply vacant.1 first) vacant.2 always.2 rest gone later]
    rfl

theorem throughout_true (d : Dispatcher ε τ π) (strokes : List (Stroke ε τ π)) :
    d.Throughout (fun _ _ => True) strokes := by
  induction strokes generalizing d with
  | nil => exact trivial
  | cons x strokes ih => exact ⟨trivial, ih (d.stroke x)⟩

/-- As long as it is not registered, a session has no life. -/
theorem life_of_absent (inOrder : InOrder d) (vacant : d.Throughout Vacant strokes)
    (h : d.perform strokes = .ok d') (absent : d.sessions.get? n = none) (unborn : Unborn n d strokes) :
    d.gather (life n) strokes = [] :=
  gather_of_absent (fun _ _ _ absent _ => (idle_of_absent absent _).1) inOrder vacant
    (throughout_true d strokes) h absent unborn

/-- A session that is there takes the steps of its life. It is still there in the end, or there was a
stroke in which its connection was removed, and nothing of it follows. -/
theorem life_perform (inOrder : InOrder d) (vacant : d.Throughout Vacant strokes)
    (h : d.perform strokes = .ok d') (found : d.sessions.get? n = some s) (unborn : Unborn n d strokes) :
    d'.sessions.get? n = some (s.run (d.gather (life n) strokes)) ∨
      d'.sessions.get? n = none ∧ ∃ before x after d₁, strokes = before ++ x :: after ∧
        d.perform before = .ok d₁ ∧ InOrder d₁ ∧
        d₁.sessions.get? n = some (s.run (d.gather (life n) before)) ∧
        d₁.removed? x = some s.connection ∧
        d.gather (life n) strokes = d.gather (life n) before ++ d₁.life n x := by
  induction strokes generalizing d s with
  | nil =>
    cases h
    exact .inl found
  | cons x strokes ih =>
    obtain ⟨first, rest⟩ := perform_cons_cases h
    obtain ⟨here, later⟩ := unborn_cons unborn
    have inOrder' := inOrder.apply vacant.1 first
    have table := get?_apply inOrder first found here
    rw [gather_cons]
    by_cases removed : d.removed? x = some s.connection
    · rw [if_pos removed] at table
      have gone := absent_perform inOrder' vacant.2 rest table later
      have idle := life_of_absent inOrder' vacant.2 rest table later
      refine .inr ⟨gone, [], x, strokes, d, rfl, rfl, inOrder, found, removed, ?_⟩
      rw [idle, List.append_nil]
      rfl
    · rw [if_neg removed] at table
      have same := Session.sameSession_run (inOrder.filed n s found).2 (d.life n x)
      obtain stays | ⟨gone, before, y, after, d₂, rfl, passed, inOrder₂, held, last, whole⟩ :=
        ih inOrder' vacant.2 rest table later
      · refine .inl ?_
        rw [Session.run_append]
        exact stays
      · refine .inr ⟨gone, x :: before, y, after, d₂, rfl, ?_, inOrder₂, ?_, ?_, ?_⟩
        · rw [perform_cons, first]
          exact passed
        · rw [gather_cons, Session.run_append]
          exact held
        · rw [last, same.connection]
        · rw [whole, gather_cons, List.append_assoc]

/-- The stroke of a course in which a session leaves the table, and the dispatcher before it. -/
structure Leaves (n : SessionId) (d : Dispatcher ε τ π) (strokes : List (Stroke ε τ π))
    (e : Dispatcher ε τ π) (x : Stroke ε τ π) : Prop where
  reached : ∃ before after, strokes = before ++ x :: after ∧ d.perform before = .ok e
  there : (e.sessions.get? n).isSome = true
  left : (e.stroke x).sessions.get? n = none

theorem Leaves.cons {x y : Stroke ε τ π} {e : Dispatcher ε τ π} (first : d.apply x = .ok (d.stroke x))
    (h : Leaves n (d.stroke x) strokes e y) : Leaves n d (x :: strokes) e y where
  reached := by
    obtain ⟨before, after, split, passed⟩ := h.reached
    refine ⟨x :: before, after, by rw [split]; rfl, ?_⟩
    rw [perform_cons, first]
    exact passed
  there := h.there
  left := h.left

/-- What strokes contribute while a session is there, is known from its life, and from the stroke that removes
it if it comes to that. -/
theorem gather_of_life {β : Type} {f : Dispatcher ε τ π → Stroke ε τ π → List β}
    {g : Session τ → List (Session.Step τ) → List β} {Last : Dispatcher ε τ π → Stroke ε τ π → List β → Prop}
    {P : Dispatcher ε τ π → Stroke ε τ π → Prop} {handle : SessionHandle}
    (empty : ∀ s, g s [] = [])
    (append : ∀ s before after, g s (before ++ after) = g s before ++ g (s.run before) after)
    (nothing : ∀ {d d' : Dispatcher ε τ π} {x : Stroke ε τ π}, InOrder d → P d x → d.apply x = .ok d' →
      d.sessions.get? n = none → (∀ s ∈ d.begun x, s.id ≠ n) → f d x = [])
    (share : ∀ {d d' : Dispatcher ε τ π} {x : Stroke ε τ π} {s : Session τ}, InOrder d → P d x →
      d.apply x = .ok d' → d.sessions.get? n = some s → s.sessionHandle = handle →
      (∀ s ∈ d.begun x, s.id ≠ n) → ∃ last, f d x = g s (d.life n x) ++ last ∧
        if d.removed? x = some s.connection then Last d x last else last = [])
    (inOrder : InOrder d) (vacant : d.Throughout Vacant strokes) (always : d.Throughout P strokes)
    (h : d.perform strokes = .ok d') (found : d.sessions.get? n = some s) (called : s.sessionHandle = handle)
    (unborn : Unborn n d strokes) :
    ∃ last, d.gather f strokes = g s (d.gather (life n) strokes) ++ last ∧
      if d'.sessions.get? n = none then ∃ e x, Leaves n d strokes e x ∧ Last e x last else last = [] := by
  induction strokes generalizing d s with
  | nil =>
    cases h
    refine ⟨[], ?_, ?_⟩
    · rw [List.append_nil]
      exact (empty s).symm
    · rw [found, if_neg nofun]
  | cons x strokes ih =>
    obtain ⟨first, rest⟩ := perform_cons_cases h
    obtain ⟨here, later⟩ := unborn_cons unborn
    have inOrder' := inOrder.apply vacant.1 first
    have table := get?_apply inOrder first found here
    obtain ⟨last, contributed, ended⟩ := share inOrder always.1 first found called here
    rw [gather_cons, gather_cons, contributed, append]
    by_cases removed : d.removed? x = some s.connection
    · rw [if_pos removed] at table ended
      have gone := absent_perform inOrder' vacant.2 rest table later
      rw [gather_of_absent nothing inOrder' vacant.2 always.2 rest table later,
        life_of_absent inOrder' vacant.2 rest table later, empty]
      refine ⟨last, by rw [List.append_nil, List.append_nil], ?_⟩
      rw [if_pos gone]
      have there : (d.sessions.get? n).isSome = true := by
        rw [found]
        rfl
      exact ⟨d, x, ⟨⟨[], strokes, rfl, rfl⟩, there, table⟩, ended⟩
    · rw [if_neg removed] at table ended
      have same := sessionHandle_run (inOrder.filed n s found).2 (d.life n x)
      obtain ⟨more, continued, finished⟩ := ih inOrder' vacant.2 always.2 rest table (same.trans called) later
      refine ⟨more, by rw [continued, ended, List.append_nil, List.append_assoc], ?_⟩
      split at finished
      · obtain ⟨e, y, leaves, ended⟩ := finished
        rw [if_pos ‹_›]
        exact ⟨e, y, leaves.cons first, ended⟩
      · rw [if_neg ‹_›]
        exact finished

end Courses

end QuicSessions.Dispatcher
