import QuicSessions.Proofs.Sessions.Runs

/-!
# Loops, round by round

Two operations of a session loop over what waits in its transport: taking every report, and taking in
every stream that the peer opened. Each round of such a loop is a move of the transport and a step of
its own. So every run of a session is a run of single steps, and what is proved of single steps holds
at every point inside a loop.
-/

set_option autoImplicit false

namespace QuicSessions.Session

variable {τ : Type} [Transport τ]

/-- The rounds that take in the streams of the peer: each is accepted, then received. -/
def acceptRounds (a : Audience) (now : Instant) (dir : Dir) (s : Session τ) : List (Step τ) :=
  match Transport.acceptStream dir s.transport with
  | none => []
  | some (id, t) =>
    let round := [.transport t, .operate a now (.createIncoming id)]
    match createIncoming a now id { s with transport := t } with
    | .error _ => round
    | .ok (_, s') =>
      if s'.state = .closed then round
      else if Transport.backlog s'.transport < Transport.backlog s.transport then
        round ++ acceptRounds a now dir s'
      else round
termination_by Transport.backlog s.transport

/-- The rounds of the reaction to one report. -/
def reportRounds (a : Audience) (now : Instant) (e : Event) (s : Session τ) : List (Step τ) :=
  match e with
  | .opened dir => s.acceptRounds a now dir
  | e => [.report a now e]

/-- The rounds that take every report: each is polled, then the session reacts. -/
def processRounds (a : Audience) (now : Instant) (s : Session τ) : List (Step τ) :=
  match Transport.poll s.transport with
  | none => []
  | some (e, t) =>
    let round := .transport t :: { s with transport := t }.reportRounds a now e
    match react a now e { s with transport := t } with
    | .error _ => round
    | .ok s' =>
      if Transport.backlog s'.transport < Transport.backlog s.transport then
        round ++ processRounds a now s'
      else round
termination_by Transport.backlog s.transport

namespace Step

/-- Whether a step goes without a loop. -/
def single : Step τ → Bool
  | .operate _ _ .process => false
  | .operate _ _ (.acceptPending _) => false
  | .report _ _ (.opened _) => false
  | _ => true

/-- The single steps that a step consists of. A mistake leaves the session as it was. -/
def rounds (s : Session τ) : Step τ → List (Step τ)
  | .operate a now .process =>
    match s.process a now with
    | .ok _ => s.processRounds a now
    | .error _ => []
  | .operate a now (.acceptPending dir) =>
    match s.acceptPending a now dir with
    | .ok _ => s.acceptRounds a now dir
    | .error _ => []
  | .report a now (.opened dir) =>
    match s.acceptPending a now dir with
    | .ok _ => s.acceptRounds a now dir
    | .error _ => []
  | x => [x]

end Step

/-- The single steps that a run consists of. -/
def rounds (s : Session τ) : List (Step τ) → List (Step τ)
  | [] => []
  | x :: steps => x.rounds s ++ (s.step x).rounds steps

/-! ## The rounds of a loop do what the loop does -/

theorem run_cons (s : Session τ) (x : Step τ) (steps : List (Step τ)) :
    s.run (x :: steps) = (s.step x).run steps := rfl

theorem rounds_append (s : Session τ) (before after : List (Step τ)) :
    s.rounds (before ++ after) = s.rounds before ++ (s.run before).rounds after := by
  induction before generalizing s with
  | nil => rfl
  | cons x before ih =>
    show x.rounds s ++ (s.step x).rounds (before ++ after) = x.rounds s ++ (s.step x).rounds before ++ _
    rw [ih, List.append_assoc]
    rfl

section Steps

variable {a : Audience} {now : Instant} {s s' : Session τ}

theorem step_of_run {op : Operation} {r : Answer} (h : op.run a now s = .ok (r, s')) :
    s.step (.operate a now op) = s' := by
  unfold step
  dsimp only
  rw [h]

theorem step_of_fault {op : Operation} {fault : Fault} (h : op.run a now s = .error fault) :
    s.step (.operate a now op) = s := by
  unfold step
  dsimp only
  rw [h]

theorem step_of_react {e : Event} (h : s.react a now e = .ok s') : s.step (.report a now e) = s' := by
  unfold step
  dsimp only
  rw [h]

theorem step_of_createIncoming {id : StreamId} {r : Option StreamHandle}
    (h : s.createIncoming a now id = .ok (r, s')) :
    s.step (.operate a now (.createIncoming id)) = s' := by
  have ran : (Operation.createIncoming id).run a now s =
      .ok (.stream (r.map StreamHandle.stream), s') := by
    show s.createIncoming a now id >>= _ = _
    rw [h]
    rfl
  exact step_of_run ran

end Steps

variable {a : Audience} {now : Instant}

theorem run_acceptRounds {dir : Dir} {s s' : Session τ} (h : s.acceptPending a now dir = .ok s') :
    s.run (s.acceptRounds a now dir) = s' := by
  fun_induction acceptPending a now dir s with
  | case1 s none_waits =>
    unfold acceptRounds
    rw [none_waits]
    exact Except.ok.inj h
  | case2 s id t waits fault failed => cases h
  | case3 s id t waits r s₁ taken closed =>
    unfold acceptRounds
    rw [waits]
    dsimp only
    rw [taken]
    dsimp only
    rw [if_pos closed]
    exact (step_of_createIncoming taken).trans (Except.ok.inj h)
  | case4 s id t waits r s₁ taken opened less ih =>
    unfold acceptRounds
    rw [waits]
    dsimp only
    rw [taken]
    dsimp only
    rw [if_neg opened, if_pos less]
    rw [List.cons_append, List.cons_append, List.nil_append, run_cons, run_cons]
    show (({ s with transport := t } : Session τ).step (.operate a now (.createIncoming id))).run _ = s'
    rw [step_of_createIncoming taken]
    exact ih h
  | case5 s id t waits r s₁ taken opened full =>
    unfold acceptRounds
    rw [waits]
    dsimp only
    rw [taken]
    dsimp only
    rw [if_neg opened, if_neg full]
    exact (step_of_createIncoming taken).trans (Except.ok.inj h)

theorem run_reportRounds {e : Event} {s s' : Session τ} (h : s.react a now e = .ok s') :
    s.run (s.reportRounds a now e) = s' := by
  unfold reportRounds
  split
  · exact run_acceptRounds h
  · exact step_of_react h

theorem run_processRounds {s s' : Session τ} (h : s.process a now = .ok s') :
    s.run (s.processRounds a now) = s' := by
  fun_induction process a now s with
  | case1 s none_waits =>
    unfold processRounds
    rw [none_waits]
    exact Except.ok.inj h
  | case2 s e t waits fault failed => cases h
  | case3 s e t waits s₁ reacted less ih =>
    unfold processRounds
    rw [waits]
    dsimp only
    rw [reacted]
    dsimp only
    rw [if_pos less, List.cons_append, run_cons, run_append]
    show Session.run (({ s with transport := t } : Session τ).run _) _ = s'
    rw [run_reportRounds reacted]
    exact ih h
  | case4 s e t waits s₁ reacted full =>
    unfold processRounds
    rw [waits]
    dsimp only
    rw [reacted]
    dsimp only
    rw [if_neg full]
    exact (run_reportRounds reacted).trans (Except.ok.inj h)

/-! ## Runs of single steps -/

theorem run_rounds_step (s : Session τ) (x : Step τ) : s.run (x.rounds s) = s.step x := by
  unfold Step.rounds
  split
  · rename_i a now
    split
    · rename_i s' done
      have ran : Operation.process.run a now s = .ok (.done, s') := by
        show s.process a now >>= _ = _
        rw [done]
        rfl
      exact (run_processRounds done).trans (step_of_run ran).symm
    · rename_i fault failed
      have ran : Operation.process.run a now s = .error fault := by
        show s.process a now >>= _ = _
        rw [failed]
        rfl
      exact (step_of_fault ran).symm
  · rename_i a now dir
    split
    · rename_i s' done
      have ran : (Operation.acceptPending dir).run a now s = .ok (.done, s') := by
        show s.acceptPending a now dir >>= _ = _
        rw [done]
        rfl
      exact (run_acceptRounds done).trans (step_of_run ran).symm
    · rename_i fault failed
      have ran : (Operation.acceptPending dir).run a now s = .error fault := by
        show s.acceptPending a now dir >>= _ = _
        rw [failed]
        rfl
      exact (step_of_fault ran).symm
  · rename_i a now dir
    split
    · rename_i done
      exact (run_acceptRounds done).trans (step_of_react (e := .opened dir) done).symm
    · rename_i fault failed
      have react_failed : s.react a now (.opened dir) = .error fault := failed
      unfold step
      dsimp only
      rw [react_failed]
      rfl
  · rfl

/-- The rounds of a run do what the run does. -/
theorem run_rounds (s : Session τ) (steps : List (Step τ)) : s.run (s.rounds steps) = s.run steps := by
  induction steps generalizing s with
  | nil => rfl
  | cons x steps ih =>
    show s.run (x.rounds s ++ (s.step x).rounds steps) = (s.step x).run steps
    rw [run_append, run_rounds_step]
    exact ih (s.step x)

/-- A round of a loop moves the transport, receives a stream of the peer, or handles one report. -/
inductive Step.Round (a : Audience) (now : Instant) : Step τ → Prop where
  | move (t : τ) : Round a now (.transport t)
  | receive (id : StreamId) : Round a now (.operate a now (.createIncoming id))
  | report {e : Event} (other : ∀ dir, e ≠ .opened dir) : Round a now (.report a now e)

theorem round_acceptRounds {dir : Dir} (s : Session τ) :
    ∀ x ∈ s.acceptRounds a now dir, x.Round a now := by
  have round (t : τ) (id : StreamId) :
      ∀ x ∈ [Step.transport t, .operate a now (.createIncoming id)], x.Round a now := by
    intro x mem
    obtain rfl | mem := List.mem_cons.1 mem
    · exact .move t
    · obtain rfl := List.mem_singleton.1 mem
      exact .receive id
  fun_induction acceptRounds a now dir s with
  | case1 s none_waits => exact fun x mem => by cases mem
  | case2 s id t waits first fault failed => exact round t id
  | case3 s id t waits first r s₁ taken closed => exact round t id
  | case4 s id t waits first r s₁ taken opened less ih =>
    intro x mem
    obtain mem | mem := List.mem_append.1 mem
    · exact round t id x mem
    · exact ih x mem
  | case5 s id t waits first r s₁ taken opened full => exact round t id

theorem round_reportRounds {e : Event} (s : Session τ) :
    ∀ x ∈ s.reportRounds a now e, x.Round a now := by
  unfold reportRounds
  split
  · exact round_acceptRounds s
  · rename_i other
    intro x mem
    obtain rfl := List.mem_singleton.1 mem
    exact .report other

theorem round_processRounds (s : Session τ) : ∀ x ∈ s.processRounds a now, x.Round a now := by
  have round (t : τ) (e : Event) (s : Session τ) :
      ∀ x ∈ .transport t :: s.reportRounds a now e, x.Round a now := by
    intro x mem
    obtain rfl | mem := List.mem_cons.1 mem
    · exact .move t
    · exact round_reportRounds s x mem
  fun_induction processRounds a now s with
  | case1 s none_waits => exact fun x mem => by cases mem
  | case2 s e t waits first fault failed => exact round t e _
  | case3 s e t waits first s₁ reacted less ih =>
    intro x mem
    obtain mem | mem := List.mem_append.1 mem
    · exact round t e _ x mem
    · exact ih x mem
  | case4 s e t waits first s₁ reacted full => exact round t e _

omit [Transport τ] in
theorem Step.Round.single {x : Step τ} (round : x.Round a now) : x.single = true := by
  cases round with
  | move t => rfl
  | receive id => rfl
  | @report e other => cases e <;> first | rfl | exact absurd rfl (other _)

/-- The single steps of a step are the step itself, or rounds of its loop. -/
theorem rounds_step_cases (s : Session τ) {x y : Step τ} (mem : y ∈ x.rounds s) :
    (y = x ∧ x.single = true) ∨ ∃ a now, y.Round a now ∧
      ((∃ op, x = .operate a now op) ∨ ∃ e, x = .report a now e) := by
  unfold Step.rounds at mem
  split at mem
  · split at mem
    · exact .inr ⟨_, _, round_processRounds s y mem, .inl ⟨_, rfl⟩⟩
    · cases mem
  · split at mem
    · exact .inr ⟨_, _, round_acceptRounds s y mem, .inl ⟨_, rfl⟩⟩
    · cases mem
  · split at mem
    · exact .inr ⟨_, _, round_acceptRounds s y mem, .inr ⟨_, rfl⟩⟩
    · cases mem
  · rename_i not_process not_accept not_opened
    refine .inl ⟨List.mem_singleton.1 mem, ?_⟩
    unfold Step.single
    split
    · exact absurd rfl (not_process _ _)
    · exact absurd rfl (not_accept _ _ _)
    · exact absurd rfl (not_opened _ _ _)
    · rfl

/-- The single steps of a run are steps of it, or rounds of the loop of one. -/
theorem rounds_cases {s : Session τ} {steps : List (Step τ)} {y : Step τ} (mem : y ∈ s.rounds steps) :
    ∃ x ∈ steps, (y = x ∧ x.single = true) ∨ ∃ a now, y.Round a now ∧
      ((∃ op, x = .operate a now op) ∨ ∃ e, x = .report a now e) := by
  induction steps generalizing s with
  | nil => cases mem
  | cons x steps ih =>
    obtain mem | mem := List.mem_append.1 mem
    · exact ⟨x, List.mem_cons_self .., rounds_step_cases s mem⟩
    · obtain ⟨z, there, cases⟩ := ih mem
      exact ⟨z, List.mem_cons_of_mem x there, cases⟩

/-- Every run is a run of single steps. -/
theorem single_rounds (s : Session τ) (steps : List (Step τ)) :
    ∀ x ∈ s.rounds steps, x.single = true := by
  intro y mem
  obtain ⟨x, -, ⟨rfl, single⟩ | ⟨a, now, round, -⟩⟩ := rounds_cases mem
  · exact single
  · exact round.single

end QuicSessions.Session
