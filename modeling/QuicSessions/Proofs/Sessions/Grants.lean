import QuicSessions.Proofs.Sessions.Credit
import QuicSessions.Proofs.Sessions.Faultless

/-!
# No grant is lost

A session that found no credit waits to be told that there is more. If its transport never raises the
credit of a direction without a report, and loses no report, then whenever the session believes that there
is no credit, there is none, or the report that there is more still waits. So a grant that was handled ends
the refusals, and the session visitor is told of it.
-/

set_option autoImplicit false

namespace QuicSessions.Session

open Transport (Waits Announced Settled GrantsAloud Calls retaining_calls)

variable {τ : Type} [Transport τ]

/-! ## What is remembered is true -/

/-- Where the session remembers that there was no credit, there is none, or a report of more waits. -/
def Accurate (s : Session τ) : Prop := ∀ dir, s.blocked.get dir = true → Settled dir s.transport

/-- Once the handshake is over, the moves of a session's transport tell of every grant. -/
def MovesAloud (s : Session τ) : List (Step τ) → Prop
  | [] => True
  | x :: steps =>
    (∀ t, x = .transport t → s.encrypted = true → Announced s.transport t) ∧ (s.step x).MovesAloud steps

theorem movesAloud_append {s : Session τ} {before after : List (Step τ)} (first : s.MovesAloud before)
    (rest : (s.run before).MovesAloud after) : s.MovesAloud (before ++ after) := by
  induction before generalizing s with
  | nil => exact rest
  | cons x before ih => exact ⟨first.1, ih first.2 rest⟩

theorem movesAloud_of_still {s : Session τ} {steps : List (Step τ)}
    (still : ∀ x ∈ steps, ∀ t, x ≠ .transport t) : s.MovesAloud steps := by
  induction steps generalizing s with
  | nil => trivial
  | cons x steps ih =>
    refine ⟨fun t moved => absurd moved (still x (List.mem_cons_self ..) t), ih fun y mem => ?_⟩
    exact still y (List.mem_cons_of_mem x mem)

/-- A session opens no stream before its handshake is over, so it remembers nothing of credit either. -/
def Secured (s : Session τ) : Prop := ∀ dir, s.blocked.get dir = true → s.encrypted = true

section Steps

variable {x : Step τ} {s s' : Session τ}

theorem encrypted_of_gate {dir : Dir} (gate : s.refusal? dir = none) : s.encrypted = true := by
  cases encrypted : s.encrypted with
  | true => rfl
  | false =>
    unfold refusal? at gate
    split at gate
    · cases gate
    · rw [encrypted] at gate
      cases gate

theorem encrypted_of_spending {dir : Dir} (spending : Spending s x s') (secured : Secured s)
    (blocked : s'.blocked.get dir = true) : s.encrypted = true := by
  cases spending with
  | granted a now granted =>
    rw [afterCredit_eq] at blocked
    dsimp only at blocked
    rw [PerDir.get_set] at blocked
    split at blocked
    · cases blocked
    · exact secured dir blocked
  | exhausted other gate h => exact encrypted_of_gate gate
  | moved t => exact secured dir blocked
  | unspent other h => exact secured dir (h.blocked ▸ blocked)

theorem secured_step (single : x.single = true) (secured : Secured s) : Secured (s.step x) := by
  intro dir blocked
  have spending := spending_step (s := s) (leaves_of_single single)
  rw [encrypted_step single, encrypted_of_spending spending secured blocked, Bool.true_or]

theorem secured_run (secured : Secured s) (steps : List (Step τ)) : Secured (s.run steps) := by
  have rounds : Secured (s.run (s.rounds steps)) :=
    List.foldlRecOn (motive := Secured) (s.rounds steps) step secured fun _ secured x mem =>
      secured_step (single_rounds s steps x mem) secured
  rwa [run_rounds] at rounds

variable [GrantsAloud τ]

/-- What a step does keeps what is remembered true. About the direction that it grants more in, nothing
has to be known. -/
theorem accurate_spending (spending : Spending s x s')
    (moved : ∀ dir t, x = .transport t → s.blocked.get dir = true → Announced s.transport t)
    (settled : ∀ dir, x.grants ≠ some dir → s.blocked.get dir = true → Settled dir s.transport) :
    Accurate s' := by
  intro dir blocked
  cases spending with
  | granted a now granted =>
    rw [afterCredit_eq] at blocked ⊢
    dsimp only at blocked ⊢
    rw [PerDir.get_set] at blocked
    split at blocked
    · cases blocked
    · rename_i different
      exact settled dir (fun same => different (Option.some.inj same).symm) blocked
  | exhausted other gate exhausted =>
    dsimp only at blocked ⊢
    rw [PerDir.get_set] at blocked
    split at blocked
    · rename_i same
      exact .inl (same ▸ exhausted)
    · exact settled dir (by rw [other]; exact nofun) blocked
  | moved t => exact (moved dir t rfl blocked).settled (settled dir nofun blocked)
  | unspent other unspent =>
    rw [unspent.blocked] at blocked
    exact unspent.calls.settled (settled dir (by rw [other]; exact nofun) blocked)

/-- A report is taken and handled. If it is of more credit, nothing is remembered in that direction. -/
theorem accurate_reaction {a : Audience} {now : Instant} {e : Event} {t : τ}
    (polled : Transport.poll s.transport = some (e, t))
    (reacted : react a now e { s with transport := t } = .ok s') (accurate : Accurate s) :
    Accurate s' := by
  refine accurate_spending (spending_react reacted) (fun dir t moved => by cases moved)
    fun dir other blocked => ?_
  exact Transport.settled_of_poll polled (fun same => other (by rw [same]; rfl)) (accurate dir blocked)

theorem accurate_process {a : Audience} {now : Instant} (h : s.process a now = .ok s')
    (accurate : Accurate s) : Accurate s' := by
  fun_induction process a now s with
  | case1 s none_waits => exact Except.ok.inj h ▸ accurate
  | case2 s e t waits fault failed => cases h
  | case3 s e t waits s₁ reacted less ih => exact ih h (accurate_reaction waits reacted accurate)
  | case4 s e t waits s₁ reacted full => exact Except.ok.inj h ▸ accurate_reaction waits reacted accurate

theorem accurate_step (moved : ∀ t, x = .transport t → s.encrypted = true → Announced s.transport t)
    (secured : Secured s) (accurate : Accurate s) : Accurate (s.step x) := by
  cases polls : x.polls with
  | false =>
    exact accurate_spending (spending_step polls)
      (fun dir t move blocked => moved t move (secured dir blocked)) fun dir _ => accurate dir
  | true =>
    unfold Step.polls at polls
    split at polls
    · rename_i a now
      unfold step
      dsimp only
      split
      · rename_i answer s' done
        obtain ⟨s₁, processed, done⟩ := ok_of_bind done
        cases done
        exact accurate_process processed accurate
      · exact accurate
    · cases polls

theorem accurate_run {steps : List (Step τ)} (aloud : s.MovesAloud steps) (secured : Secured s)
    (accurate : Accurate s) : Accurate (s.run steps) := by
  induction steps generalizing s with
  | nil => exact accurate
  | cons x steps ih =>
    have first : Accurate (s.step x) := accurate_step aloud.1 secured accurate
    exact ih aloud.2 (secured_run secured [x]) first

omit [GrantsAloud τ] in
/-- The first round of taking all reports takes the next and handles it. -/
theorem processRounds_of_poll {e : Event} {t : τ} (a : Audience) (now : Instant)
    (polled : Transport.poll s.transport = some (e, t)) :
    ∃ after, s.processRounds a now =
      .transport t :: reportRounds a now e { s with transport := t } ++ after := by
  unfold processRounds
  rw [polled]
  dsimp only
  split
  · exact ⟨[], (List.append_nil _).symm⟩
  · split
    · exact ⟨_, rfl⟩
    · exact ⟨[], (List.append_nil _).symm⟩

omit [GrantsAloud τ] in
theorem rounds_process {a : Audience} {now : Instant} (h : s.process a now = .ok s') :
    s.rounds [.operate a now .process] = s.processRounds a now := by
  show Step.rounds s (.operate a now .process) ++ [] = _
  unfold Step.rounds
  dsimp only
  rw [h, List.append_nil]

/-- A report of more credit that waited before all reports were taken, and waits no longer, was handled. -/
theorem report_of_waiting {a : Audience} {now : Instant} {dir : Dir} (h : s.process a now = .ok s')
    (waits : Waits (.available dir) s.transport) (silent : ¬ Waits (.available dir) s'.transport) :
    .report a now (.available dir) ∈ s.processRounds a now := by
  -- a report that comes later still waits after the reaction to this one
  have still {e : Event} {t : τ} {s s₁ : Session τ} (polled : Transport.poll s.transport = some (e, t))
      (reacted : react a now e { s with transport := t } = .ok s₁)
      (waits : Waits (.available dir) s.transport) (other : e ≠ .available dir) :
      Waits (.available dir) s₁.transport := by
    have calls : Calls t s₁.transport := retains_react (retaining_calls t) reacted (.refl t)
    exact calls.keeps_waiting (waits.after polled other)
  have here {t : τ} {s : Session τ} (polled : Transport.poll s.transport = some (.available dir, t)) :
      .report a now (.available dir) ∈ s.processRounds a now := by
    obtain ⟨after, rounds⟩ := processRounds_of_poll a now polled
    rw [rounds]
    exact List.mem_cons_of_mem _ (List.mem_cons_self ..)
  fun_induction process a now s with
  | case1 s none_waits => exact absurd (Except.ok.inj h ▸ waits) silent
  | case2 s e t polled fault failed => cases h
  | case3 s e t polled s₁ reacted less ih =>
    by_cases same : e = .available dir
    · exact here (same ▸ polled)
    · unfold processRounds
      rw [polled]
      dsimp only
      rw [reacted]
      dsimp only
      rw [if_pos less]
      exact List.mem_append_right _ (ih h (still polled reacted waits same))
  | case4 s e t polled s₁ reacted full =>
    by_cases same : e = .available dir
    · exact here (same ▸ polled)
    · exact absurd (Except.ok.inj h ▸ still polled reacted waits same) silent

end Steps

/-! ## Refusals and grants -/

section Refusals

variable {dir : Dir} {s : Session τ}

omit [Transport τ] in
/-- Identifiers with a handle of 32 bits come in four kinds, and last for so many streams of each. -/
theorem exhausted_of_no_handle (none_left : (s.nextId dir).handle?.isNone = true) :
    UInt32.size / 4 ≤ s.opened.get dir := by
  have beyond : ¬ (s.nextId dir).raw < UInt32.size := by
    intro fits
    unfold StreamId.handle? at none_left
    rw [if_pos fits] at none_left
    cases none_left
  have raw : (s.nextId dir).raw = 4 * s.opened.get dir + 2 * dir.bit + s.side.bit := rfl
  have bits : dir.bit ≤ 1 ∧ s.side.bit ≤ 1 := by cases dir <;> cases s.side <;> decide
  have size : UInt32.size = 4 * 1073741824 := rfl
  omega

/-- A session that refuses a stream for want of credit remembers that there was none, or is out of
identifiers. -/
theorem blocked_of_limitReached (refused : s.refusal? dir = some .limitReached) :
    s.blocked.get dir = true ∨ UInt32.size / 4 ≤ s.opened.get dir := by
  unfold refusal? at refused
  split at refused
  · cases refused
  split at refused
  · cases refused
  split at refused
  · cases refused
  split at refused
  · rename_i shut
    exact (Bool.or_eq_true_iff.1 shut).imp_right exhausted_of_no_handle
  · cases refused

theorem step_of_grant {a : Audience} {now : Instant} {v : SessionVisitor} (active : s.state = .active)
    (visited : s.visitor = some v) (taken : a.taken = true) :
    s.step (.report a now (.available dir)) = { s with
      blocked := s.blocked.set dir false
      posted := s.posted ++ [.session v s.sessionHandle (.canCreate dir)] } := by
  have credited : s.step (.report a now (.available dir)) = s.afterCredit a dir := rfl
  rw [credited]
  unfold afterCredit
  dsimp only
  rw [if_pos active]
  unfold tellVisitor post visitorNotice Audience.heard
  dsimp only
  rw [visited, taken]
  rfl

end Refusals

/-- In every run in which the transport tells of every grant: where the session remembers that there was
no credit and no report of more waits, there is none. So a session refuses for want of credit only while
there is none, or while the report of more waits, or when it has used up all identifiers. Taking all
reports handles that report, and handled while the session is active it ends the refusals and is posted to
the visitor. -/
theorem no_grant_lost [GrantsAloud τ] (id : SessionId) (handle : ConnectionHandle) (t : τ)
    (options : SessionOptions) (now : Instant) (steps : List (Step τ))
    (aloud : (new id handle t options now).MovesAloud steps) :
    let s₀ := new id handle t options now
    let s := s₀.run steps
    (∀ dir, s.blocked.get dir = true → ¬ Waits (.available dir) s.transport →
      Transport.openStream dir s.transport = none) ∧
    (∀ dir, s.refusal? dir = some .limitReached → ¬ Waits (.available dir) s.transport →
      Transport.openStream dir s.transport = none ∨ UInt32.size / 4 ≤ s.opened.get dir) ∧
    (∀ a time dir s', s.process a time = .ok s' → Waits (.available dir) s.transport →
      ¬ Waits (.available dir) s'.transport →
      .report a time (.available dir) ∈ s.rounds [.operate a time .process]) ∧
    ∀ before a time dir after v, s₀.rounds steps = before ++ .report a time (.available dir) :: after →
      (s₀.run before).state = .active → (s₀.run before).visitor = some v → a.taken = true →
      s₀.run (before ++ [.report a time (.available dir)]) = { s₀.run before with
        blocked := (s₀.run before).blocked.set dir false
        posted := (s₀.run before).posted ++
          [.session v (s₀.run before).sessionHandle (.canCreate dir)] } := by
  intro s₀ s
  have accurate : Accurate s := by
    refine accurate_run aloud (fun dir blocked => ?_) fun dir blocked => ?_
    · cases dir <;> cases blocked
    · cases dir <;> cases blocked
  have dry (dir : Dir) (blocked : s.blocked.get dir = true) (silent : ¬ Waits (.available dir) s.transport) :
      Transport.openStream dir s.transport = none := (accurate dir blocked).resolve_right silent
  refine ⟨dry, fun dir refused silent => ?_, ?_, ?_⟩
  · exact (blocked_of_limitReached refused).imp_left fun blocked => dry dir blocked silent
  · intro a time dir s' done waits silent
    rw [rounds_process done]
    exact report_of_waiting done waits silent
  · intro before a time dir after v _ active visited taken
    rw [run_append]
    show (s₀.run before).step (.report a time (.available dir)) = _
    exact step_of_grant active visited taken

/-! ## A grant after the last stream -/

/-- A client that asks for a second stream of a server that allows one, and is visited after that. -/
def refusedSteps : List (Step Wire.Connection) :=
  scantSteps ++ [.operate .silent 0 (.openStream .bi), .operate .silent 0 (.setVisitor default)]

def refusedSession : Session Wire.Connection :=
  (new ⟨1⟩ ⟨0⟩ scantConnection .standard 0).run refusedSteps

/-- Its connection, when the server has allowed a second stream. -/
def grantedConnection : Wire.Connection :=
  refusedSession.transport.receive 0 ⟨0, 1, [.maxStreams .bi 2]⟩

def grantedSession : Session Wire.Connection := { refusedSession with transport := grantedConnection }

theorem announced_granted : Announced refusedSession.transport grantedConnection := by
  refine Wire.Connection.announced_of_queued ?_ fun dir dry credit => ?_
  · have nothing : refusedSession.transport.queued = [] := by decide +kernel
    rw [nothing]
    exact List.nil_subset _
  · cases dir with
    | bi => decide +kernel
    | uni => exact absurd (Option.isNone_iff_eq_none.1 (by decide +kernel)) credit

/-- The client is refused while its server allows one stream, and there is no credit. When the server has
allowed a second, taking the reports ends the refusals, and the visitor is told. -/
theorem no_grant_lost_granted :
    let s₀ := new ⟨1⟩ ⟨0⟩ scantConnection .standard 0
    let granted := refusedSteps ++ [.transport grantedConnection, .operate .silent 0 .process]
    s₀.MovesAloud refusedSteps ∧ refusedSession.refusal? .bi = some .limitReached ∧
      ¬ Waits (.available .bi) refusedSession.transport ∧
      Transport.openStream .bi refusedSession.transport = none ∧ s₀.MovesAloud granted ∧
      ∃ before after,
        s₀.rounds granted = before ++ .report .silent 0 (.available .bi) :: after ∧
        (s₀.run (before ++ [.report .silent 0 (.available .bi)])).blocked.get .bi = false ∧
        .session default refusedSession.sessionHandle (.canCreate .bi) ∈
          (s₀.run (before ++ [.report .silent 0 (.available .bi)])).posted := by
  intro s₀ granted
  have calm : s₀.MovesAloud refusedSteps := movesAloud_of_still (by simp [refusedSteps, scantSteps])
  have refused : refusedSession.refusal? .bi = some .limitReached := by decide +kernel
  have silent : ¬ Waits (.available .bi) refusedSession.transport := by
    rw [Wire.Connection.waits_iff_queued]
    decide +kernel
  have spare : ¬ UInt32.size / 4 ≤ refusedSession.opened.get .bi := by decide +kernel
  have dry := ((no_grant_lost ⟨1⟩ ⟨0⟩ scantConnection .standard 0 refusedSteps calm).2.1 .bi refused
    silent).resolve_right spare
  have aloud : s₀.MovesAloud granted := by
    refine movesAloud_append calm ⟨fun t moved _ => ?_, movesAloud_of_still (by simp)⟩
    cases moved
    exact announced_granted
  have posts := (no_grant_lost ⟨1⟩ ⟨0⟩ scantConnection .standard 0 granted aloud).2.2.2
  -- the first round of taking the reports takes the one of the grant
  obtain ⟨t, polled⟩ : ∃ t, Transport.poll grantedConnection = some (.available .bi, t) := by
    have next : (Transport.poll grantedConnection).map Prod.fst = some (.available .bi) := by decide +kernel
    obtain ⟨⟨e, t⟩, polled, rfl⟩ := Option.map_eq_some_iff.1 next
    exact ⟨t, polled⟩
  have begun : grantedSession.state ≠ .created := by decide +kernel
  obtain ⟨s', done⟩ := process_of_begun .silent 0 begun
  obtain ⟨after, first⟩ := processRounds_of_poll (s := grantedSession) .silent 0 polled
  have rounds : s₀.rounds granted =
      (s₀.rounds refusedSteps ++ [.transport grantedConnection, .transport t]) ++
        .report .silent 0 (.available .bi) :: after := by
    have last : (s₀.run refusedSteps).rounds [.transport grantedConnection, .operate .silent 0 .process] =
        .transport grantedConnection :: grantedSession.rounds [.operate .silent 0 .process] := rfl
    rw [rounds_append, last, rounds_process done, first, List.append_assoc]
    rfl
  have reached : s₀.run (s₀.rounds refusedSteps ++ [.transport grantedConnection, .transport t]) =
      { refusedSession with transport := t } := by
    rw [run_append, run_rounds]
    rfl
  have active : refusedSession.state = .active := by decide +kernel
  have visited : refusedSession.visitor = some default := by decide +kernel
  have told := posts _ .silent 0 .bi after default rounds (by rw [reached]; exact active)
    (by rw [reached]; exact visited) rfl
  refine ⟨calm, refused, silent, dry, aloud, _, after, rounds, ?_, ?_⟩
  · rw [told]
    rfl
  · rw [told, reached]
    exact List.mem_append_right _ (List.mem_singleton_self _)

end QuicSessions.Session
