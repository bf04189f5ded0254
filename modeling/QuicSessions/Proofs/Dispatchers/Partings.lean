import QuicSessions.Proofs.Dispatchers.Announcements

/-!
# How sessions part from their dispatcher

A session is registered once and removed once at most. By the time it is removed it was closed, and its
signals were taken: a connection whose closing is over had a cause to close, and a shutdown closes and drives
every session before it removes any. Only a removal by hand could come earlier.
-/

set_option autoImplicit false

namespace QuicSessions

/-- Whether a move asks sessions for the operation without being told to. -/
def Session.Operation.routine : Session.Operation → Bool
  | .timeout _ => true
  | .getOrOpen _ => true
  | .write .. => true
  | .close .. => true
  | _ => false

namespace Dispatcher

open Session (Named)

variable {ε τ π : Type} [Transport τ]

/-! ## Where strokes come from -/

/-- What a move must be, to have a stroke in its course. -/
def Stroke.From (x : Move π) : Stroke ε τ π → Prop
  | .request _ id ops => (∀ a s, .takeSignals ∉ ops a s) ∨
      ∃ now asked, (x = .operate now id asked ∨ x = .touch now id asked) ∧ ops = fun _ _ => asked
  | .remove handle => x = .connectionClosed handle ∨ ∃ now, x = .shutdown now
  | .shut => ∃ now, x = .shutdown now
  | .ended => ∃ now, x = .shutdown now
  | .adjust c => x = .adjust c
  | .collect => x = .collect
  | _ => True

/-- What a move must be, to have a stroke in its course, and what it asks by itself. -/
def Stroke.Of (x : Move π) : Stroke ε τ π → Prop
  | .request _ id ops => (∀ a s, ∀ op ∈ ops a s, op.routine = true) ∨
      ∃ now asked, (x = .operate now id asked ∨ x = .touch now id asked) ∧ ops = fun _ _ => asked
  | y => y.From x

omit [Transport τ] in
theorem Stroke.Of.stems {x : Move π} {y : Stroke ε τ π} (h : y.Of x) : y.From x := by
  cases y with
  | request now id ops =>
    refine h.imp_left fun routine a s mem => ?_
    cases routine a s _ mem
  | _ => exact h

section Courses

variable [Endpoint ε τ π] {x : Move π} {y : Stroke ε τ π}

omit [Transport τ] [Endpoint ε τ π] in
theorem of_exchange {now : Instant} {ops : Audience → Session τ → List Session.Operation} {id : SessionId}
    (routine : ∀ a s, ∀ op ∈ ops a s, op.routine = true) (mem : y ∈ Stroke.exchange now ops id) : y.Of x := by
  simp only [Stroke.exchange, List.mem_cons, List.not_mem_nil, or_false] at mem
  obtain rfl | rfl := mem
  · exact .inl routine
  · exact trivial

omit [Transport τ] [Endpoint ε τ π] in
theorem of_opening {now : Instant} {id : SessionId} {handle : ConnectionHandle} {t : τ} {e : ε}
    (mem : y ∈ Stroke.opening now id handle t e) : y.Of x := by
  simp only [Stroke.opening, List.mem_cons, List.not_mem_nil, or_false] at mem
  obtain rfl | rfl | rfl := mem <;> exact trivial

omit [Transport τ] in
theorem of_granting {now : Instant} {source : SocketAddress} {packet : π} {d : Dispatcher ε τ π}
    (mem : y ∈ d.granting now source packet) : y.Of x := by
  unfold granting at mem
  split at mem
  · simp only [List.mem_cons, List.not_mem_nil, or_false] at mem
    obtain rfl | rfl := mem <;> exact trivial
  · split at mem
    · simp only [List.mem_cons, List.not_mem_nil, or_false] at mem
      obtain rfl | rfl := mem <;> exact trivial
    · exact of_opening mem

omit [Transport τ] in
theorem of_arriving {now : Instant} {source : SocketAddress} {packet : π} {d : Dispatcher ε τ π}
    (mem : y ∈ d.arriving now source packet) : y.Of x := by
  unfold arriving at mem
  split at mem
  · split at mem
    · obtain rfl := List.mem_singleton.1 mem
      exact trivial
    · simp only [List.mem_cons, List.not_mem_nil, or_false] at mem
      obtain rfl | rfl | rfl := mem <;> exact trivial
  · obtain rfl | mem := List.mem_cons.1 mem
    · exact trivial
    · exact of_granting mem
  · simp only [List.mem_cons, List.not_mem_nil, or_false] at mem
    obtain rfl | rfl := mem <;> exact trivial
  · obtain rfl := List.mem_singleton.1 mem
    exact trivial

omit [Transport τ] in
theorem of_beginning {now : Instant} {remote : SocketAddress} {name : String} {d : Dispatcher ε τ π}
    (mem : y ∈ d.beginning now remote name) : y.Of x := by
  unfold beginning at mem
  split at mem
  · cases mem
  · split at mem
    · cases mem
    · exact of_opening mem

omit [Transport τ] [Endpoint ε τ π] in
theorem of_farewells {now : Instant} {d : Dispatcher ε τ π} (mem : y ∈ d.farewells now) :
    y.Of (.shutdown now) := by
  obtain rfl | mem := List.mem_cons.1 mem
  · exact ⟨now, rfl⟩
  · obtain ⟨id, -, mem⟩ := List.mem_flatMap.1 mem
    exact of_exchange (fun a s => by simp [farewellOp, Session.Operation.routine]) mem

theorem of_shutting {now : Instant} {d : Dispatcher ε τ π} (mem : y ∈ d.shutting now) :
    y.Of (.shutdown now) := by
  unfold shutting at mem
  split at mem
  · cases mem
  · split at mem
    · exact of_farewells mem
    · simp only [List.mem_append, List.mem_map, List.mem_singleton] at mem
      obtain mem | ⟨handle, -, rfl⟩ | rfl := mem
      · exact of_farewells mem
      · exact .inr ⟨now, rfl⟩
      · exact ⟨now, rfl⟩

theorem of_course {d : Dispatcher ε τ π} (mem : y ∈ d.course x) : y.Of x := by
  cases x with
  | connect now remote name => exact of_beginning mem
  | receive now source packet => exact of_arriving mem
  | timeout now =>
    obtain rfl | mem := List.mem_cons.1 mem
    · exact trivial
    obtain ⟨id, -, mem⟩ := List.mem_flatMap.1 mem
    exact of_exchange (fun a s => by simp [Session.Operation.routine]) mem
  | drive now id =>
    obtain rfl := List.mem_singleton.1 mem
    exact trivial
  | driveAll now =>
    obtain ⟨id, -, rfl⟩ := List.mem_map.1 mem
    exact trivial
  | operate now id ops =>
    simp only [course, Stroke.exchange, List.mem_cons, List.not_mem_nil, or_false] at mem
    obtain rfl | rfl := mem
    · exact .inr ⟨now, ops, .inl rfl, rfl⟩
    · exact trivial
  | touch now id ops =>
    obtain rfl := List.mem_singleton.1 mem
    exact .inr ⟨now, ops, .inr rfl, rfl⟩
  | send now id stream data =>
    refine of_exchange (fun a s => ?_) mem
    unfold writing
    split <;> simp [Session.Operation.routine]
  | connectionClosed handle =>
    obtain rfl := List.mem_singleton.1 mem
    exact .inl rfl
  | shutdown now => exact of_shutting mem
  | adjust c =>
    obtain rfl := List.mem_singleton.1 mem
    rfl
  | collect =>
    obtain rfl := List.mem_singleton.1 mem
    rfl

theorem from_course {d : Dispatcher ε τ π} (mem : y ∈ d.course x) : y.From x := (of_course mem).stems

/-- A stroke of a run comes from one of its moves. -/
theorem from_strokes {d : Dispatcher ε τ π} {moves : List (Move π)} (mem : y ∈ d.strokes moves) :
    ∃ x ∈ moves, y.From x := by
  induction moves generalizing d with
  | nil => cases mem
  | cons x moves ih =>
    obtain mem | mem := List.mem_append.1 mem
    · exact ⟨x, List.mem_cons_self .., from_course (mem_made mem)⟩
    · obtain ⟨x', mem, stems⟩ := ih mem
      exact ⟨x', List.mem_cons_of_mem x mem, stems⟩

/-- What holds at the beginning of a run and outlasts what the owner sets holds all along. -/
theorem throughout_strokes {I : Dispatcher ε τ π → Prop} {Q : Controls → Prop}
    (fixed : ∀ {d d' : Dispatcher ε τ π}, Fixed d d' → I d → I d')
    (adjusted : ∀ {d : Dispatcher ε τ π} {c : Controls}, I d → Q c → I (d.adjust c))
    {d : Dispatcher ε τ π} {moves : List (Move π)} (first : I d) (sets : ∀ c, .adjust c ∈ moves → Q c) :
    d.Throughout (fun d _ => I d) (d.strokes moves) ∧ I (d.run moves) := by
  have all : ∀ y ∈ d.strokes moves, ∀ c, y = .adjust c → Q c := by
    rintro y mem c rfl
    obtain ⟨x, made, stems⟩ := from_strokes mem
    obtain rfl : x = .adjust c := stems
    exact sets c made
  obtain ⟨always, last⟩ := throughout_of_kept (Q := fun y => ∀ c, y = .adjust c → Q c)
    (kept_of_fixed fixed adjusted) first all (perform_strokes d moves)
  exact ⟨throughout_mono (fun _ _ h => h.1) always, last⟩

end Courses

/-! ## The signals of a session that is driven -/

section Driven

variable {s : Session τ} {d : Dispatcher ε τ π}

/-- The reaction to its signals makes a session signal nothing. -/
theorem signals_reacting (now : Instant) (signals : List Signal) (named : Named s) :
    (s.run (d.reacting now signals)).signals = s.signals := by
  induction signals generalizing s with
  | nil => rfl
  | cons x signals ih =>
    rw [reacting_cons, Session.run_append, ih (Session.named_run named _)]
    unfold reacting
    rw [List.flatMap_cons, List.flatMap_nil, List.append_nil]
    cases x with
    | closed reason during => rfl
    | connected =>
      dsimp only
      split
      · have opened := Session.signals_step (x := .operate d.audience now (.openStream .bi)) named rfl rfl
        have silent : (Session.Step.operate d.audience now (.openStream .bi)).signals s = [] :=
          ite_self _
        rw [silent, List.append_nil] at opened
        exact opened
      · rfl

variable [Endpoint ε τ π]

theorem signals_driven {now : Instant} {n : SessionId} (found : d.sessions.get? n = some s) (named : Named s) :
    (s.run (d.life n (.drive now n))).signals = [] := by
  rw [life_drive found, Session.run_append, signals_reacting now _ (Session.named_run named _),
    Session.run_append, (run_taking ..).1]

end Driven

/-! ## Closed and taken leave of -/

/-- A session that is closed, and whose owner knows all about it. -/
def Over (s : Session τ) : Prop := s.state = .closed ∧ s.signals = []

/-- A connection is not removed but by driving, unless its session has what it takes to be removed by hand. -/
def Parted (P : Session τ → Prop) (d : Dispatcher ε τ π) : Stroke ε τ π → Prop
  | .remove handle => ∀ id s, d.sessions.get? id = some s → s.connection = handle → P s
  | _ => True

section Closing

variable [Endpoint ε τ π] {d d' : Dispatcher ε τ π} {P : Session τ → Prop}

theorem closed_run_of_closed {s : Session τ} (named : Named s) (closed : s.state = .closed)
    (steps : List (Session.Step τ)) : (s.run steps).state = .closed := by
  have kept := (Session.kept_rank SessionState.closed.rank).run named (by rw [closed]) steps
  exact Session.eq_closed_of_rank kept

theorem closed_farewell {s : Session τ} (named : Named s) (a : Audience) (now : Instant) (role : Side) :
    (s.run (asking a now [farewellOp role] ++ [.collect])).state = .closed := by
  have cause : ((Session.Step.operate a now (farewellOp role)).cause s).isSome = true := rfl
  rw [collected]
  exact (Session.closed_step named rfl).2 (.inr cause)

omit [Endpoint ε τ π] in
theorem unborn_of_subject {x : Stroke ε τ π} {id n : SessionId} (subject : x.subject? = some id) :
    ∀ s ∈ d.begun x, s.id ≠ n := by
  intro s mem
  cases x with
  | register => cases subject
  | _ => cases mem

/-- A session that was asked to close and driven is over, and the others are as they were. -/
theorem over_exchange {now : Instant} {role : Side} {id : SessionId} (inOrder : InOrder d)
    (h : d.perform (Stroke.exchange now (fun _ _ => [farewellOp role]) id) = .ok d') {n : SessionId}
    {s' : Session τ} (found : d'.sessions.get? n = some s') :
    n = id ∧ Over s' ∨ n ≠ id ∧ d.sessions.get? n = some s' := by
  obtain ⟨d₁, asked, driven⟩ := exchange_cases h
  have inOrder₁ := inOrder.apply (x := .request now id fun _ _ => [farewellOp role]) trivial asked
  cases before : d.sessions.get? n with
  | none =>
    have between := get?_apply_of_absent inOrder asked before (unborn_of_subject rfl)
    have absent := get?_apply_of_absent inOrder₁ driven between (unborn_of_subject rfl)
    rw [absent] at found
    cases found
  | some s =>
    have between : d₁.sessions.get? n = some (s.run (d.life n (.request now id fun _ _ => [farewellOp role]))) :=
      (get?_apply inOrder asked before (unborn_of_subject rfl)).trans (if_neg nofun)
    have after := get?_apply inOrder₁ driven between (unborn_of_subject rfl)
    have named := (inOrder₁.filed n _ between).2
    rw [found] at after
    split at after
    · cases after
    · have last := Option.some.inj after
      by_cases mine : n = id
      · subst mine
        refine .inl ⟨rfl, ?_⟩
        have life : d.life n (.request now n fun _ _ => [farewellOp role]) =
            asking d.audience now [farewellOp role] ++ [.collect] := by
          unfold Dispatcher.life
          rw [before]
          exact if_pos rfl
        have closed : (s.run (d.life n (.request now n fun _ _ => [farewellOp role]))).state = .closed := by
          rw [life]
          exact closed_farewell (inOrder.filed n s before).2 d.audience now role
        rw [last]
        exact ⟨closed_run_of_closed named closed _, signals_driven between named⟩
      · refine .inr ⟨mine, ?_⟩
        have other {y : Stroke ε τ π} (subject : y.subject? = some id) (d : Dispatcher ε τ π) :
            d.life n y = [] := (others_of_subject subject d n mine).1
        rw [last, other rfl, other rfl]
        rfl

/-- After its farewells, all sessions of a dispatcher are over. -/
theorem over_exchanges {now : Instant} {role : Side} {ids : List SessionId} (inOrder : InOrder d)
    (h : d.perform (ids.flatMap (Stroke.exchange now fun _ _ => [farewellOp role])) = .ok d')
    {n : SessionId} {s' : Session τ} (found : d'.sessions.get? n = some s') :
    Over s' ∨ n ∉ ids ∧ d.sessions.get? n = some s' := by
  induction ids generalizing d with
  | nil =>
    cases h
    exact .inr ⟨List.not_mem_nil, found⟩
  | cons id ids ih =>
    rw [List.flatMap_cons, perform_append] at h
    obtain ⟨d₁, first, rest⟩ := ok_of_bind h
    have vacant : d.Throughout Vacant (Stroke.exchange now (fun _ _ => [farewellOp role]) id) :=
      ⟨trivial, trivial, trivial⟩
    obtain finished | ⟨unnamed, there⟩ := ih (inOrder.perform vacant first) rest
    · exact .inl finished
    · obtain ⟨-, finished⟩ | ⟨other, before⟩ := over_exchange inOrder first there
      · exact .inl finished
      · exact .inr ⟨fun mem => (List.mem_cons.1 mem).elim other unnamed, before⟩

theorem over_farewells {now : Instant} (inOrder : InOrder d) (h : d.perform (d.farewells now) = .ok d')
    {n : SessionId} {s' : Session τ} (found : d'.sessions.get? n = some s') : Over s' := by
  obtain ⟨-, rest⟩ := perform_cons_cases h
  have shut : d.stroke .shut = { d with shutDown := true } := rfl
  rw [shut] at rest
  have inOrder' : InOrder { d with shutDown := true } := inOrder.of_same rfl rfl
  obtain finished | ⟨unnamed, before⟩ := over_exchanges inOrder' rest found
  · exact finished
  · have live : n ∈ d.sessions.keys := Table.mem_keys_iff.2 ⟨s', before⟩
    exact absurd ((List.mergeSort_perm ..).mem_iff.2 live) unnamed

theorem throughout_of_forall {Q : Dispatcher ε τ π → Stroke ε τ π → Prop} {strokes : List (Stroke ε τ π)}
    (always : ∀ d, ∀ y ∈ strokes, Q d y) (d : Dispatcher ε τ π) : d.Throughout Q strokes := by
  induction strokes generalizing d with
  | nil => exact trivial
  | cons y strokes ih =>
    refine ⟨always d y (List.mem_cons_self ..), ih (fun d z mem => ?_) (d.stroke y)⟩
    exact always d z (List.mem_cons_of_mem y mem)

omit [Transport τ] [Endpoint ε τ π] in
theorem parted_of_from {x : Move π} {y : Stroke ε τ π} (stems : y.From x)
    (byHand : ∀ handle, x ≠ .connectionClosed handle) (shuts : ∀ now, x ≠ .shutdown now)
    (d : Dispatcher ε τ π) : Parted P d y := by
  cases y with
  | remove handle => exact stems.elim (absurd · (byHand handle)) fun ⟨now, e⟩ => absurd e (shuts now)
  | _ => exact trivial

theorem parted_removals (handles : List ConnectionHandle)
    (all : ∀ n s, d.sessions.get? n = some s → P s) : d.Throughout (Parted P) (handles.map .remove) := by
  induction handles generalizing d with
  | nil => exact trivial
  | cons handle handles ih =>
    refine ⟨fun n s found _ => all n s found, ih fun n s found => ?_⟩
    have removed : d.stroke (.remove handle) = d.connectionClosed handle := rfl
    rw [removed] at found
    exact all n s (get?_connectionClosed found)

/-- A move parts with no session before it is over, unless it removes one by hand. -/
theorem parted_course {x : Move π} (enough : ∀ s, Over s → P s) (inOrder : InOrder d)
    (h : d.perform (d.course x) = .ok d')
    (byHand : ∀ handle, x = .connectionClosed handle → Parted P d (.remove handle)) :
    d.Throughout (Parted P) (d.course x) := by
  have elsewhere (removes : ∀ handle, x ≠ .connectionClosed handle) (shuts : ∀ now, x ≠ .shutdown now) :
      d.Throughout (Parted P) (d.course x) := by
    -- the course is fixed, whatever dispatcher it is carried out on
    generalize course : d.course x = strokes
    refine throughout_of_forall (fun d₁ y mem => ?_) d
    exact parted_of_from (from_course (course ▸ mem)) removes shuts d₁
  cases x with
  | connectionClosed handle => exact ⟨byHand handle rfl, trivial⟩
  | shutdown now =>
    change d.perform (d.shutting now) = _ at h
    show d.Throughout (Parted P) (d.shutting now)
    unfold shutting at h ⊢
    by_cases shut : d.shutDown = true
    · rw [if_pos shut]
      exact trivial
    · rw [if_neg shut] at h ⊢
      cases closing : d.perform (d.farewells now) with
      | error fault =>
        rw [closing] at h
        dsimp only at h
        rw [closing] at h
        cases h
      | ok d₁ =>
        dsimp only
        refine (throughout_append closing _).2 ⟨?_, ?_⟩
        · refine throughout_of_forall (fun d y mem => ?_) d
          obtain rfl | mem := List.mem_cons.1 mem
          · exact trivial
          · obtain ⟨id, -, mem⟩ := List.mem_flatMap.1 mem
            have ofNone : y.Of (.collect : Move π) :=
              of_exchange (fun a s => by simp [farewellOp, Session.Operation.routine]) mem
            exact parted_of_from ofNone.stems nofun nofun d
        · refine (throughout_append (perform_removals _ d₁) _).2 ⟨?_, trivial, trivial⟩
          exact parted_removals _ fun n s found => enough s (over_farewells inOrder closing found)
  | _ => exact elsewhere nofun nofun

theorem parted_strokes {moves : List (Move π)} (enough : ∀ s, Over s → P s) (inOrder : InOrder d)
    (vacant : d.Throughout Vacant (d.strokes moves))
    (byHand : ∀ before handle after, moves = before ++ .connectionClosed handle :: after →
      Parted P (d.run before) (.remove handle)) : d.Throughout (Parted P) (d.strokes moves) := by
  induction moves generalizing d with
  | nil => exact trivial
  | cons x moves ih =>
    have done := perform_made d x
    obtain ⟨here, later⟩ := (throughout_append done _).1 vacant
    refine (throughout_append done _).2 ⟨?_, ih (inOrder.perform here done) later fun before handle after split =>
      byHand (x :: before) handle after (by rw [split]; rfl)⟩
    cases attempted : d.attempt x with
    | error fault =>
      unfold made
      rw [attempted]
      exact trivial
    | ok d₁ =>
      rw [made_of_attempt attempted]
      refine parted_course enough inOrder ((attempt_eq d x).symm.trans attempted) fun handle e => ?_
      exact byHand [] handle moves (by rw [e]; rfl)

end Closing

/-! ## The sessions of a run -/

variable [Endpoint ε τ π]

/-- A registration: the dispatcher before it, its stroke, the session, and the strokes that follow. -/
structure Birth (ε τ π : Type) where
  earlier : Dispatcher ε τ π
  stroke : Stroke ε τ π
  session : Session τ
  after : List (Stroke ε τ π)

namespace Birth

def later (b : Birth ε τ π) : Dispatcher ε τ π := b.earlier.stroke b.stroke

/-- The steps that the session takes after its registration. -/
def life (b : Birth ε τ π) : List (Session.Step τ) := b.later.gather (Dispatcher.life b.session.id) b.after

/-- The same steps, with the loops taken round by round. -/
def rounds (b : Birth ε τ π) : List (Session.Step τ) := b.session.rounds b.life

/-- The number of the session is not given out again. -/
def Single (b : Birth ε τ π) : Prop := Unborn b.session.id b.later b.after

instance (b : Birth ε τ π) : Decidable b.Single := inferInstanceAs (Decidable (Unborn _ _ _))

end Birth

def births : Dispatcher ε τ π → List (Stroke ε τ π) → List (Birth ε τ π)
  | _, [] => []
  | d, x :: strokes =>
    (match x with
      | .register now handle t =>
        [⟨d, .register now handle t, .begun d.nextSession handle t d.options now, strokes⟩]
      | _ => []) ++ births (d.stroke x) strokes

theorem map_session_births (d : Dispatcher ε τ π) (strokes : List (Stroke ε τ π)) :
    (d.births strokes).map Birth.session = d.gather begun strokes := by
  induction strokes generalizing d with
  | nil => rfl
  | cons x strokes ih =>
    unfold births
    rw [List.map_append, ih, gather_cons]
    cases x <;> rfl

section Run

variable {d₀ d d' : Dispatcher ε τ π} {strokes after : List (Stroke ε τ π)} {s : Session τ}
  {b : Birth ε τ π}

theorem mem_births (mem : b ∈ d₀.births strokes) (h : d₀.perform strokes = .ok d') :
    ∃ before now handle t, strokes = before ++ b.stroke :: b.after ∧ d₀.perform before = .ok b.earlier ∧
      b.stroke = .register now handle t ∧ b.earlier.apply b.stroke = .ok b.later ∧
      b.session = .begun b.earlier.nextSession handle t b.earlier.options now := by
  induction strokes generalizing d₀ with
  | nil => cases mem
  | cons x strokes ih =>
    obtain ⟨first, rest⟩ := perform_cons_cases h
    obtain mem | mem := List.mem_append.1 mem
    · split at mem
      · obtain rfl := List.mem_singleton.1 mem
        exact ⟨[], _, _, _, rfl, rfl, rfl, first, rfl⟩
      · cases mem
    · obtain ⟨before, now, handle, t, rfl, passed, registers, registered, e⟩ := ih mem rest
      refine ⟨x :: before, now, handle, t, rfl, ?_, registers, registered, e⟩
      rw [perform_cons, first]
      exact passed

/-- What holds at every stroke holds at every one that comes after a registration. -/
theorem throughout_births {P : Dispatcher ε τ π → Stroke ε τ π → Prop} (mem : b ∈ d₀.births strokes)
    (h : d₀.perform strokes = .ok d') (always : d₀.Throughout P strokes) : b.later.Throughout P b.after := by
  obtain ⟨before, now, handle, t, rfl, passed, -⟩ := mem_births mem h
  exact ((throughout_append passed _).1 always).2.2

/-- Just after its registration a session is in the table, at the beginning of its handshake. -/
theorem begins_of_births (mem : b ∈ d₀.births strokes) (h : d₀.perform strokes = .ok d')
    (inOrder : InOrder d₀) (vacant : d₀.Throughout Vacant strokes) :
    InOrder b.later ∧ b.later.perform b.after = .ok d' ∧ b.later.sessions.get? b.session.id = some b.session ∧
      Named b.session ∧ b.session.state = .handshakeInProgress ∧ b.session.encrypted = false ∧
      b.session.signals = [] := by
  obtain ⟨before, now, handle, t, split, passed, registers, registered, e⟩ := mem_births mem h
  rw [split] at vacant h
  obtain ⟨early, late⟩ := (throughout_append passed _).1 vacant
  have inOrder' := (inOrder.perform early passed).apply late.1 registered
  have found : b.later.sessions.get? b.session.id = some b.session := by
    rw [registers] at registered
    obtain ⟨⟨id, d₁⟩, created, same⟩ := ok_of_map registered
    have found := get?_createSession created
    rw [(createSession_cases created).1] at found
    rw [e, ← same]
    exact found
  rw [perform_append, passed] at h
  obtain ⟨-, rest⟩ := perform_cons_cases h
  refine ⟨inOrder', rest, found, (inOrder'.filed _ _ found).2, ?_, ?_, ?_⟩ <;> rw [e] <;> rfl

/-- A session whose connection is removed is removed by hand, or it was driven and its closing is over. -/
theorem removed_cases {x : Stroke ε τ π} {n : SessionId} (inOrder : InOrder d)
    (found : d.sessions.get? n = some s) (removed : d.removed? x = some s.connection) :
    x = .remove s.connection ∧ d.life n x = [] ∨
      ∃ now, x = .drive now n ∧ Transport.isDrained (s.run (d.driving now s)).transport = true := by
  cases x with
  | remove handle =>
    obtain rfl : handle = s.connection := Option.some.inj removed
    exact .inl ⟨rfl, (idle_of_subject (fun named => by cases named) d).1⟩
  | drive now id =>
    obtain ⟨s₁, there, ended, on⟩ : ∃ s₁, d.sessions.get? id = some s₁ ∧
        Transport.isDrained (s₁.run (d.driving now s₁)).transport = true ∧ s₁.connection = s.connection := by
      unfold removed? at removed
      dsimp only at removed
      split at removed
      · cases removed
      · split at removed
        · exact ⟨_, ‹_›, ‹_›, Option.some.inj removed⟩
        · cases removed
    -- the connection that is removed is the one of the session that is driven
    have mine := (inOrder.inverse s.connection n).2 ⟨s, found, rfl⟩
    have driven := (inOrder.inverse s.connection id).2 ⟨s₁, there, on⟩
    obtain rfl : id = n := Option.some.inj (driven.symm.trans mine)
    cases found.symm.trans there
    exact .inr ⟨now, rfl, ended⟩
  | _ => cases removed

section Removed

variable {P : Session τ → Prop} {n : SessionId}

/-- By the time that a session is removed it had a cause to close. -/
theorem cause_of_removed (closed : ∀ s, P s → s.state = .closed) (inOrder : InOrder d)
    (vacant : d.Throughout Vacant after) (parted : d.Throughout (Parted P) after)
    (h : d.perform after = .ok d') (found : d.sessions.get? n = some s) (open_ : s.state ≠ .closed)
    (unborn : Unborn n d after) (forCause : s.ClosesForCause (d.gather (life n) after))
    (gone : d'.sessions.get? n = none) :
    (s.firstCause (s.rounds (d.gather (life n) after))).isSome = true := by
  have named := (inOrder.filed n s found).2
  obtain stays | ⟨-, before, x, rest, d₁, rfl, passed, inOrder₁, held, removed, whole⟩ :=
    life_perform inOrder vacant h found unborn
  · rw [gone] at stays
    cases stays
  have same := Session.sameSession_run named (d.gather (life n) before)
  rw [whole] at forCause ⊢
  rw [← same.connection] at removed
  obtain ⟨rfl, idle⟩ | ⟨now, rfl, ended⟩ := removed_cases inOrder₁ held removed
  · have shut := closed _ (((throughout_append passed _).1 parted).2.1 n _ held rfl)
    rw [idle, List.append_nil]
    rw [← Session.run_rounds] at shut
    exact ((Session.closed_run named (Session.single_rounds s _)).1 shut).resolve_left open_
  · have life : d₁.life n (.drive now n) = _ := life_drive held
    generalize d.gather (Dispatcher.life n) before = steps at *
    have cause := forCause (steps ++ d₁.driving now (s.run steps)) (.operate d₁.audience now .takeSignals)
      (.collect :: d₁.reacting now ((s.run steps).run (d₁.driving now (s.run steps))).signals)
      (by rw [life]; unfold taking; simp) rfl (by rw [Session.run_append]; exact ended)
    rw [life, List.append_assoc, ← List.append_assoc, Session.rounds_append, Session.firstCause_append,
      Option.isSome_or, cause]
    rfl

/-- By then all its signals were taken. -/
theorem signals_of_removed (told : ∀ s, P s → s.signals = []) (inOrder : InOrder d)
    (vacant : d.Throughout Vacant after) (parted : d.Throughout (Parted P) after)
    (h : d.perform after = .ok d') (found : d.sessions.get? n = some s) (unborn : Unborn n d after)
    (gone : d'.sessions.get? n = none) : (s.run (d.gather (life n) after)).signals = [] := by
  have named := (inOrder.filed n s found).2
  obtain stays | ⟨-, before, x, rest, d₁, rfl, passed, inOrder₁, held, removed, whole⟩ :=
    life_perform inOrder vacant h found unborn
  · rw [gone] at stays
    cases stays
  have same := Session.sameSession_run named (d.gather (life n) before)
  rw [← same.connection] at removed
  rw [whole, Session.run_append]
  obtain ⟨rfl, idle⟩ | ⟨now, rfl, -⟩ := removed_cases inOrder₁ held removed
  · rw [idle]
    exact told _ (((throughout_append passed _).1 parted).2.1 n _ held rfl)
  · exact signals_driven held (Session.named_run named _)

end Removed

end Run

end Dispatcher

end QuicSessions
