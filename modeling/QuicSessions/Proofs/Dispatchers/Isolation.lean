import QuicSessions.Proofs.Dispatchers.Announcements
import QuicSessions.Scenario.Bare
import QuicSessions.Wire.Station

/-!
# Sessions beside one another

The sessions of a dispatcher share its endpoint, its socket, its audience and its two tables. A move that
is addressed to one of them is nevertheless work on this one alone: any other is afterwards what it was, on
the connection that it was on, and nothing is posted but on behalf of the one. For this no connection may
get a handle or a number that is in use.
-/

set_option autoImplicit false

namespace QuicSessions

/-- A notice is posted on behalf of the session `id`, from which `signals` were taken: it names the session,
or it tells of a connection that failed, which is what one of the signals says. -/
def Notice.OnBehalf (id : SessionId) (signals : List Signal) (y : Notice) : Prop :=
  y.about? = some id ∨
    ∃ v reason, y = .client v (.connectionFailed reason) ∧ .closed reason true ∈ signals

namespace Dispatcher

variable {ε τ π : Type}

/-! ## What is posted on behalf of one session -/

/-- Whatever was posted was posted on behalf of the session `id`, from which `signals` were taken. -/
def Reports (id : SessionId) (signals : List Signal) (d d' : Dispatcher ε τ π) : Prop :=
  ∃ notices, d'.posted = d.posted ++ notices ∧ ∀ y ∈ notices, y.OnBehalf id signals

namespace Reports

variable {id : SessionId} {signals more : List Signal} {d d' d'' : Dispatcher ε τ π}

theorem of_eq (posted : d'.posted = d.posted) : Reports id signals d d' :=
  ⟨[], by rw [posted, List.append_nil], List.forall_mem_nil _⟩

theorem refl (d : Dispatcher ε τ π) : Reports id signals d d := of_eq rfl

theorem of_about {notices : List Notice} (posted : d'.posted = d.posted ++ notices)
    (about : ∀ y ∈ notices, y.about? = some id) : Reports id signals d d' :=
  ⟨notices, posted, fun y mem => .inl (about y mem)⟩

theorem trans (h : Reports id signals d d') (h' : Reports id more d' d'') :
    Reports id (signals ++ more) d d'' := by
  obtain ⟨notices, posted, behalf⟩ := h
  obtain ⟨notices', posted', behalf'⟩ := h'
  refine ⟨notices ++ notices', by rw [posted', posted, List.append_assoc], fun y mem => ?_⟩
  obtain mem | mem := List.mem_append.1 mem
  · obtain about | ⟨v, reason, told, signalled⟩ := behalf y mem
    · exact .inl about
    · exact .inr ⟨v, reason, told, List.mem_append_left _ signalled⟩
  · obtain about | ⟨v, reason, told, signalled⟩ := behalf' y mem
    · exact .inl about
    · exact .inr ⟨v, reason, told, List.mem_append_right _ signalled⟩

theorem tellClient {news : ClientNews} (behalf : ∀ v, (Notice.client v news).OnBehalf id signals) :
    Reports id signals d (d.tellClient news) := by
  unfold Dispatcher.tellClient
  split
  · rename_i v visited
    refine ⟨d.audience.heard [.client v news], rfl, fun y mem => ?_⟩
    obtain rfl := List.mem_singleton.1 (Session.mem_of_heard _ mem)
    exact behalf v
  · exact .refl d

variable [Transport τ] {s : Session τ}

/-- A session that is asked for something posts in its own name. -/
theorem onSession {α : Type} {op : Audience → Session τ → Except Fault (α × Session τ)} {r : Option α}
    (resident : Resident d s)
    (took : ∀ r s', op d.audience s = .ok (r, s') → ∃ steps, s.run steps = s')
    (h : d.onSession s.id op = .ok (r, d')) : Reports s.id [] d d' := by
  unfold Dispatcher.onSession at h
  rw [resident.found] at h
  obtain ⟨⟨r', s'⟩, done, h⟩ := ok_of_bind h
  cases h
  obtain ⟨steps, rfl⟩ := took r' s' done
  exact .of_about rfl fun y mem => (Session.own_run resident.named resident.collected steps y mem).about

theorem react {signal : Signal} (resident : Resident d s) (h : d.react s.id signal = .ok d') :
    Reports s.id [signal] d d' := by
  cases signal with
  | connected =>
    by_cases client : d.role.isClient = true
    · have handle : d.sessionHandle s.id = some s.sessionHandle := by
        unfold sessionHandle
        rw [resident.found]
        rfl
      unfold Dispatcher.react at h
      rw [if_pos client, handle] at h
      dsimp only at h
      have told : Reports s.id [.connected] d (d.tellClient (.connected s.sessionHandle)) :=
        .tellClient fun v => .inl rfl
      have here : Resident (d.tellClient (.connected s.sessionHandle)) s := by
        refine ⟨?_, resident.named, resident.collected⟩
        rw [tellClient_eq]
        exact resident.found
      split at h
      · obtain ⟨⟨r, d₁⟩, opened, h⟩ := ok_of_bind h
        cases h
        refine told.trans (.onSession here (fun r s' done => ?_) opened)
        refine ⟨[.operate (d.tellClient (.connected s.sessionHandle)).audience 0 (.openStream .bi)],
          Session.step_of_run (r := .stream (r.map StreamHandle.stream)) ?_⟩
        show (s.openBidirectional _ >>= _) = _
        rw [done]
        rfl
      · exact Except.ok.inj h ▸ told
    · unfold Dispatcher.react at h
      rw [if_neg client] at h
      exact Except.ok.inj h ▸ .refl d
  | closed reason during =>
    unfold Dispatcher.react at h
    rw [← Except.ok.inj h]
    split
    · rename_i failed
      obtain rfl : during = true := (Bool.and_eq_true_iff.1 failed).2
      exact .tellClient fun v => .inr ⟨v, reason, rfl, List.mem_singleton_self _⟩
    · exact .refl d

theorem reactions {signals : List Signal} (resident : Resident d s)
    (h : signals.foldlM (Dispatcher.react s.id) d = .ok d') : Reports s.id signals d d' := by
  induction signals generalizing d s with
  | nil =>
    cases h
    exact .refl _
  | cons x signals ih =>
    rw [List.foldlM_cons] at h
    obtain ⟨d₁, reacted, h⟩ := ok_of_bind h
    have first : Reports s.id [x] d d₁ := .react resident reacted
    obtain ⟨notices, lived, -⟩ := lived_react 0 resident reacted
    have same := Session.sameSession_run resident.named (d.reacting 0 [x])
    have here := lived.resident resident (collected_reacting [x] resident.collected)
    rw [← same.id] at h
    have rest := ih here h
    rw [same.id] at rest
    exact first.trans rest

omit [Transport τ] in
theorem removed {handle : ConnectionHandle} (registered : d.connections.get? handle = some id) :
    Reports id signals d (d.connectionClosed handle) :=
  .of_about (posted_connectionClosed handle d) (about_leaving registered)

variable [Endpoint ε τ π]

theorem drive {now : Instant} (inOrder : InOrder d) (h : d.apply (.drive now id) = .ok d') :
    Reports id (d.taken id (.drive now id)) d d' := by
  cases found : d.sessions.get? id with
  | none =>
    cases (drive_of_absent found).symm.trans h
    exact .refl d
  | some s =>
    obtain ⟨rfl, resident⟩ := inOrder.residents id s found
    obtain ⟨d₁, d₂, first, reacted, result⟩ := drive_parts resident h
    have here : Resident d₁ (s.run (d.driving now s ++ taking now d.audience)) :=
      first.resident resident (by rw [run_driven])
    have same := Session.sameSession_run resident.named (d.driving now s ++ taking now d.audience)
    rw [← same.id] at reacted
    obtain ⟨notices, second, -⟩ := lived_reactions now here reacted
    have reported := Reports.reactions here reacted
    rw [same.id] at reported
    have spoken : Reports s.id [] d d₁ := .of_about first.posted fun y mem =>
      (Session.own_run resident.named resident.collected _ y mem).about
    rw [taken_drive found, result]
    have driven := spoken.trans reported
    split
    · -- the connection that is removed is its own
      have registered : d₂.connections.get? s.connection = some s.id := by
        rw [second.connections, first.connections]
        exact (inOrder.inverse _ _).2 ⟨s, found, rfl⟩
      have parted : Reports s.id [] d₂ (d₂.connectionClosed s.connection) := .removed registered
      have whole := driven.trans parted
      rwa [List.append_nil] at whole
    · exact driven

theorem apply {x : Stroke ε τ π} (inOrder : InOrder d) (subject : x.subject? = some id)
    (h : d.apply x = .ok d') : Reports id (d.taken id x) d d' := by
  cases x with
  | deliver now m packet =>
    cases h
    exact .of_eq rfl
  | request now m ops =>
    obtain rfl : m = id := Option.some.inj subject
    rw [taken_request]
    obtain ⟨⟨r, d₁⟩, done, rfl⟩ := ok_of_map h
    cases found : d.sessions.get? m with
    | none =>
      rw [onSession_of_absent found] at done
      cases done
      exact .refl d
    | some s =>
      obtain ⟨rfl, resident⟩ := inOrder.residents m s found
      refine .onSession resident (fun r s' did => ?_) done
      obtain ⟨s'', did, e⟩ := ok_of_bind did
      cases e
      exact ⟨_, run_asking did⟩
  | drive now m =>
    obtain rfl : m = id := Option.some.inj subject
    exact .drive inOrder h
  | _ => cases subject

end Reports

/-! ## Strokes within one session -/

/-- A stroke that is work on the session `id`, or only moves the endpoint. -/
def Stroke.Within (id : SessionId) (y : Stroke ε τ π) : Prop :=
  y.subject? = some id ∨ ∃ e, y = .endpoint e

section Strokes

variable [Transport τ] [Endpoint ε τ π] {d d' : Dispatcher ε τ π} {id n : SessionId}
  {y : Stroke ε τ π} {strokes : List (Stroke ε τ π)}

omit [Endpoint ε τ π] in
theorem Stroke.Within.begun (within : y.Within id) (d : Dispatcher ε τ π) : d.begun y = [] := by
  obtain subject | ⟨e, rfl⟩ := within
  · cases y with
    | register => cases subject
    | _ => rfl
  · rfl

omit [Transport τ] [Endpoint ε τ π] in
theorem Stroke.Within.vacant (within : y.Within id) (d : Dispatcher ε τ π) : Vacant d y := by
  obtain subject | ⟨e, rfl⟩ := within
  · cases y with
    | register => cases subject
    | _ => exact trivial
  · exact trivial

theorem Stroke.Within.apply (within : y.Within id) (inOrder : InOrder d) (h : d.apply y = .ok d') :
    InOrder d' := inOrder.apply (within.vacant d) h

/-- The connection that is removed is that of the session itself. -/
theorem Stroke.Within.removed {s : Session τ} (within : y.Within id) (inOrder : InOrder d)
    (found : d.sessions.get? n = some s) (other : n ≠ id) : d.removed? y ≠ some s.connection := by
  intro removed
  obtain subject | ⟨e, rfl⟩ := within
  · cases y with
    | drive now m =>
      obtain rfl : m = id := Option.some.inj subject
      unfold removed? at removed
      dsimp only at removed
      cases found' : d.sessions.get? m with
      | none =>
        rw [found'] at removed
        cases removed
      | some s' =>
        rw [found'] at removed
        dsimp only at removed
        split at removed
        · have mine := (inOrder.inverse s.connection n).2 ⟨s, found, rfl⟩
          have its := (inOrder.inverse s.connection m).2 ⟨s', found', Option.some.inj removed⟩
          exact other (Option.some.inj (mine.symm.trans its))
        · cases removed
    | deliver | request => cases removed
    | _ => cases subject
  · cases removed

/-- Other sessions are what they were. -/
theorem Stroke.Within.get?_apply (within : y.Within id) (inOrder : InOrder d) (other : n ≠ id)
    (h : d.apply y = .ok d') : d'.sessions.get? n = d.sessions.get? n := by
  have unborn : ∀ s ∈ d.begun y, s.id ≠ n := by
    rw [within.begun]
    exact List.forall_mem_nil _
  cases found : d.sessions.get? n with
  | none => exact get?_apply_of_absent inOrder h found unborn
  | some s =>
    have elsewhere : y.subject? ≠ some n := by
      obtain subject | ⟨e, rfl⟩ := within
      · rw [subject]
        exact fun same => other (Option.some.inj same).symm
      · exact nofun
    rw [Dispatcher.get?_apply inOrder h found unborn, if_neg (within.removed inOrder found other),
      (idle_of_subject elsewhere d).1]
    rfl

theorem Stroke.Within.reports (within : y.Within id) (inOrder : InOrder d) (h : d.apply y = .ok d') :
    Reports id (d.taken id y) d d' := by
  obtain subject | ⟨e, rfl⟩ := within
  · exact .apply inOrder subject h
  · cases h
    exact .of_eq rfl

/-- Any number of strokes within a session leave the others what they were, and what is posted in them is
posted on its behalf. -/
theorem within_perform (inOrder : InOrder d) (within : ∀ y ∈ strokes, y.Within id)
    (h : d.perform strokes = .ok d') :
    InOrder d' ∧ (∀ n, n ≠ id → d'.sessions.get? n = d.sessions.get? n) ∧
      Reports id (d.gather (taken id) strokes) d d' := by
  induction strokes generalizing d with
  | nil =>
    cases h
    exact ⟨inOrder, fun _ _ => rfl, .refl _⟩
  | cons y strokes ih =>
    obtain ⟨first, rest⟩ := perform_cons_cases h
    have here := within y (List.mem_cons_self ..)
    obtain ⟨last, same, reported⟩ :=
      ih (here.apply inOrder first) (fun z mem => within z (List.mem_cons_of_mem y mem)) rest
    refine ⟨last, fun n other => ?_, ?_⟩
    · exact (same n other).trans (here.get?_apply inOrder other first)
    · rw [gather_cons]
      exact (here.reports inOrder first).trans reported

end Strokes

/-! ## Moves that are addressed to one session -/

section Moves

variable [Transport τ] [Endpoint ε τ π] {d : Dispatcher ε τ π} {id : SessionId} {x : Move π}

/-- The session that a move is addressed to: by its number, or by its connection if a packet arrives. -/
def addressee? (d : Dispatcher ε τ π) : Move π → Option SessionId
  | .drive _ id => some id
  | .operate _ id _ => some id
  | .touch _ id _ => some id
  | .send _ id _ _ => some id
  | .receive now source packet =>
    match Endpoint.arrival now source packet d.endpoint with
    | (.connection handle, _) => d.connections.get? handle
    | _ => none
  | _ => none

theorem within_course (addressed : d.addressee? x = some id) : ∀ y ∈ d.course x, y.Within id := by
  have exchanged {now : Instant} {ops : Audience → Session τ → List Session.Operation} :
      ∀ y ∈ (Stroke.exchange now ops id : List (Stroke ε τ π)), y.Within id := by
    intro y mem
    simp only [Stroke.exchange, List.mem_cons, List.not_mem_nil, or_false] at mem
    obtain rfl | rfl := mem <;> exact .inl rfl
  intro y mem
  cases x with
  | drive now m =>
    obtain rfl := List.mem_singleton.1 mem
    exact .inl addressed
  | touch now m ops =>
    obtain rfl := List.mem_singleton.1 mem
    exact .inl addressed
  | operate now m ops =>
    obtain rfl : m = id := Option.some.inj addressed
    exact exchanged y mem
  | send now m stream data =>
    obtain rfl : m = id := Option.some.inj addressed
    exact exchanged y mem
  | receive now source packet =>
    have mem : y ∈ d.arriving now source packet := mem
    unfold addressee? at addressed
    unfold arriving at mem
    dsimp only at addressed
    rcases arrived : Endpoint.arrival now source packet d.endpoint with ⟨handle | _ | packets | _, e⟩ <;>
      rw [arrived] at addressed mem
    · dsimp only at addressed mem
      rw [addressed] at mem
      simp only [List.mem_cons, List.not_mem_nil, or_false] at mem
      obtain rfl | rfl | rfl := mem
      · exact .inr ⟨e, rfl⟩
      · exact .inl rfl
      · exact .inl rfl
    · cases addressed
    · cases addressed
    · cases addressed
  | _ => cases addressed

/-- A move that is addressed to a session that is not there does nothing at all. -/
theorem attempt_of_absent (inverse : Inverse d) (addressed : d.addressee? x = some id)
    (absent : d.sessions.get? id = none) : d.attempt x = .ok d := by
  cases x with
  | drive now m =>
    obtain rfl : m = id := Option.some.inj addressed
    exact drive_of_absent absent
  | touch now m ops =>
    obtain rfl : m = id := Option.some.inj addressed
    show d.onSession m _ >>= _ = _
    rw [onSession_of_absent absent]
    rfl
  | operate now m ops =>
    obtain rfl : m = id := Option.some.inj addressed
    show d.sessionOp now m _ >>= _ = _
    unfold sessionOp
    rw [onSession_of_absent absent]
    rfl
  | send now m stream data =>
    obtain rfl : m = id := Option.some.inj addressed
    show d.sendTo now m stream data >>= _ = _
    unfold sendTo sessionOp
    rw [onSession_of_absent absent]
    rfl
  | receive now source packet =>
    -- a connection that is registered has a session
    unfold addressee? at addressed
    dsimp only at addressed
    split at addressed
    · obtain ⟨s, found, -⟩ := (inverse _ id).1 addressed
      rw [absent] at found
      cases found
    · cases addressed
  | _ => cases addressed

/-- In a run in which no connection gets a handle or a number that is in use, a move that is addressed to
one session leaves any other what it was, on the connection that it was on. All that is posted is posted on
behalf of the one. If that is not there, the move does nothing at all. -/
theorem addressed_move_spares_others (role : Side) (endpoint : ε) (address : SocketAddress)
    (options : SessionOptions) (before : List (Move π)) (x : Move π) (id : SessionId) :
    let d₀ : Dispatcher ε τ π := new role endpoint address options
    let d := d₀.run before
    d₀.Throughout Vacant (d₀.strokes before) → d.addressee? x = some id →
      (∀ n, n ≠ id → (d.step x).sessions.get? n = d.sessions.get? n ∧
        ∀ handle, (d.step x).connections.get? handle = some n ↔ d.connections.get? handle = some n) ∧
      (∃ notices, (d.step x).posted = d.posted ++ notices ∧
        ∀ y ∈ notices, y.OnBehalf id (d.gather (taken id) (d.made x))) ∧
      (d.sessions.get? id = none → d.attempt x = .ok d) := by
  intro d₀ d vacant addressed
  have inOrder : InOrder d := (InOrder.new role endpoint address options).perform vacant (perform_strokes d₀ before)
  have within : ∀ y ∈ d.made x, y.Within id := fun y mem => within_course addressed y (mem_made mem)
  obtain ⟨later, same, reported⟩ := within_perform inOrder within (perform_made d x)
  refine ⟨fun n other => ⟨same n other, fun handle => ?_⟩, reported, attempt_of_absent inOrder.inverse addressed⟩
  rw [later.inverse handle n, inOrder.inverse handle n, same n other]

/-- A client with a visitor begins two connections. -/
def twoBegun : List (Move Wire.Payload) :=
  [.adjust ⟨some Scenario.commonSettings, .silent, none, some default, false, 2, 32, false⟩,
    .connect 0 Scenario.serverAddress "localhost", .connect 0 Scenario.serverAddress "localhost"]

/-- The first of them is closed before it is connected, of which the visitor is told. The second goes on. -/
theorem addressed_move_spares_others_two :
    let d₀ : Dispatcher Wire.Station Wire.Connection Wire.Payload :=
      new .client .client Scenario.clientAddress .standard
    let d := d₀.run twoBegun
    let d' := d.step (.operate 0 ⟨1⟩ [.close 7 "enough"])
    (d.sessions.get? ⟨2⟩).isSome = true ∧ d'.sessions.get? ⟨2⟩ = d.sessions.get? ⟨2⟩ ∧
      d'.connections.get? ⟨1⟩ = some ⟨2⟩ ∧ d.posted = [] ∧
      d'.posted = [.client default (.connectionFailed (.application 7 "enough"))] := by
  intro d₀ d d'
  have vacant : d₀.Throughout Vacant (d₀.strokes twoBegun) := by decide +kernel
  have spared := (addressed_move_spares_others .client Wire.Station.client Scenario.clientAddress .standard
    twoBegun (.operate 0 ⟨1⟩ [.close 7 "enough"]) ⟨1⟩ vacant rfl).1 ⟨2⟩ (by decide)
  have registered : d.connections.get? ⟨1⟩ = some ⟨2⟩ := by decide +kernel
  exact ⟨by decide +kernel, spared.1, (spared.2 ⟨1⟩).2 registered, by decide +kernel, by decide +kernel⟩

end Moves

end Dispatcher

end QuicSessions
