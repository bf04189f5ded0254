import QuicSessions.Proofs.Sessions.Farewells

/-!
# What a session signals

A session has two things to signal to its owner, that the handshake is over and that it is closed. The
first it signals when the transport reports it, the second for the first cause it meets. So the signals
of a whole run are known from the reports and the causes in it. If the transport reports the end of the
handshake once at most, and not after a cause to close, there is at most one of each, in that order.
-/

set_option autoImplicit false

namespace QuicSessions.Session

variable {τ : Type} [Transport τ]

namespace Step

/-- The transport reports that the handshake is over. -/
def completes : Step τ → Bool
  | .report _ _ .connected => true
  | _ => false

/-- The owner takes the signals. -/
def takes : Step τ → Bool
  | .operate _ _ .takeSignals => true
  | _ => false

/-- The owner collects what was posted. -/
def collects : Step τ → Bool
  | .collect => true
  | _ => false

/-- What a single step signals. -/
def signals (s : Session τ) (x : Step τ) : List Signal :=
  (if x.completes then [.connected] else []) ++
    if s.state = .closed then [] else (x.cause s).toList.map fun reason => .closed reason (!s.encrypted)

end Step

/-! ## Single steps -/

/-- No handshake ended, and nothing is signalled but that the session is closed. -/
def Mute (s s' : Session τ) : Prop :=
  s'.encrypted = s.encrypted ∧
    (s'.signals = s.signals ∨
      s.state ≠ .closed ∧ ∃ reason, s'.signals = s.signals ++ [.closed reason (!s.encrypted)])

namespace Mute

variable {a : Audience} {now : Instant} {s s' : Session τ}

omit [Transport τ] in
theorem of_eq (encrypted : s'.encrypted = s.encrypted) (signals : s'.signals = s.signals) : Mute s s' :=
  ⟨encrypted, .inl signals⟩

omit [Transport τ] in
theorem refl (s : Session τ) : Mute s s := of_eq rfl rfl

omit [Transport τ] in
theorem of_quiet (quiet : Quiet s s') : Mute s s' := by
  rw [quiet.eq]
  exact of_eq rfl rfl

omit [Transport τ] in
theorem concluded (t : τ) (reason : CloseReason) :
    Mute s ({ s with transport := t }.conclude a reason) := by
  by_cases closed : s.state = .closed
  · rw [conclude_of_closed a (by exact closed)]
    exact of_eq rfl rfl
  · rw [conclude_eq a (by exact closed)]
    exact ⟨rfl, .inr ⟨closed, reason, rfl⟩⟩

theorem closed (code : UInt32) (reason : String) : Mute s (s.closeConnection a now code reason) := by
  unfold closeConnection
  split
  · exact .refl s
  · exact .concluded _ _

omit [Transport τ] in
theorem goodbye (t : τ) : Mute s ({ s with transport := t }.receiveGoaway a) := by
  unfold receiveGoaway
  split <;> exact of_eq rfl rfl

theorem openStream {dir : Dir} {r : Option StreamHandle} (h : s.openStream a dir = .ok (r, s')) :
    Mute s s' := by
  obtain ⟨-, rfl⟩ | ⟨-, -, -, rfl⟩ | ⟨id, t, -, -, -, rfl⟩ := openStream_forms a h
  · exact .refl _
  · exact of_eq rfl rfl
  · exact of_eq rfl rfl

theorem screen {id : StreamId} {r : Option Refusal} (h : s.screen a now id = .ok (r, s')) :
    Mute s s' := by
  obtain ⟨-, rfl⟩ | ⟨-, -, -, rfl⟩ | ⟨-, -, -, rfl⟩ | ⟨-, -, rfl⟩ := screen_cases a now h
  · exact .refl _
  · exact .closed _ _
  · exact .refl _
  · exact .refl _

theorem createIncoming {id : StreamId} {r : Option StreamHandle}
    (h : s.createIncoming a now id = .ok (r, s')) : Mute s s' := by
  obtain ⟨-, rfl | ⟨code, rfl⟩⟩ | ⟨-, -, -, -, rfl⟩ | ⟨-, -, rfl⟩ := createIncoming_forms a now h
  · exact .refl _
  · exact .of_eq rfl rfl
  · exact .closed _ _
  · rw [(quiet_deliver a id (s.afterTakeIn a id)).eq, afterTakeIn_eq]
    exact .of_eq rfl rfl

theorem timeout (after : Nat) : Mute s (s.timeout a (now + after)) := by
  unfold Session.timeout
  dsimp only
  split
  · exact .concluded _ _
  · split
    · split <;> exact .of_eq rfl rfl
    · exact .of_eq rfl rfl

end Mute

variable {a : Audience} {now : Instant} {s s' : Session τ}

theorem mute_operate {op : Operation} {r : Answer}
    (single : (Step.operate (τ := τ) a now op).single = true)
    (leaves : (Step.operate (τ := τ) a now op).takes = false) (h : op.run a now s = .ok (r, s')) :
    Mute s s' := by
  cases operated_of_run a now h with
  | process processed => cases single
  | acceptPending accepted => cases single
  | takeSignals => cases leaves
  | asks => exact .refl s
  | opens opened => exact .openStream opened
  | start started =>
    rw [(start_cases started).2]
    exact .of_eq rfl rfl
  | beginHandshake begun =>
    obtain ⟨-, rfl⟩ | ⟨-, -, rfl⟩ := beginHandshake_cases begun
    · exact .of_eq rfl rfl
    · exact .refl _
  | screen screened => exact .screen screened
  | createIncoming created => exact .createIncoming created
  | write id data fin => exact .of_quiet (quiet_streamWrite id data fin s)
  | read id limit => exact .of_quiet (quiet_streamRead a id limit s)
  | closeStream id => exact .of_quiet (quiet_streamClose id s)
  | setStreamVisitor id v => exact .of_quiet (quiet_setStreamVisitor a id v s)
  | setVisitor v =>
    rw [setVisitor_eq]
    exact .of_eq rfl rfl
  | reclaim =>
    obtain ⟨streams, unannounced, posted, e⟩ := reclaim_eq a s
    rw [e]
    exact .of_eq rfl rfl
  | receiveGoaway => exact .goodbye s.transport
  | close code reason => exact .closed code reason
  | setRespectGoaway respect => exact .of_eq rfl rfl
  | sendGoaway => exact .of_eq rfl rfl
  | timeout after => exact .timeout after

theorem mute_report {e : Event} (single : (Step.report (τ := τ) a now e).single = true)
    (early : (Step.report (τ := τ) a now e).completes = false) (h : s.react a now e = .ok s') :
    Mute s s' := by
  cases e with
  | opened dir => cases single
  | connected => cases early
  | handshakeData => cases h; exact .refl s
  | lost cause => cases h; exact .concluded s.transport _
  | readable id => cases h; exact .of_quiet (quiet_deliver a id s)
  | writable id => cases h; exact .of_quiet (quiet_streamWritable a id s)
  | finished id => cases h; exact .of_eq rfl rfl
  | stopped id code => cases h; exact .of_eq rfl rfl
  | available dir =>
    cases h
    show Mute s (s.afterCredit a dir)
    rw [afterCredit_eq]
    exact .of_eq rfl rfl
  | datagram =>
    cases h
    obtain ⟨t, e | e⟩ := drainDatagrams_cases a s
    · rw [e]
      exact .of_eq rfl rfl
    · rw [e]
      exact .goodbye t
  | datagramsUnblocked => cases h; exact .refl s

/-- A single step that neither reports the end of the handshake nor takes the signals. -/
theorem mute_step {x : Step τ} (single : x.single = true) (early : x.completes = false)
    (leaves : x.takes = false) : Mute s (s.step x) := by
  cases x with
  | operate a now op =>
    unfold step
    dsimp only
    split
    · rename_i done
      exact mute_operate single leaves done
    · exact .refl s
  | report a now e =>
    unfold step
    dsimp only
    split
    · rename_i done
      exact mute_report single early done
    · exact .refl s
  | transport t => exact .of_eq rfl rfl
  | collect => exact .of_eq rfl rfl

theorem step_of_completes {x : Step τ} (completes : x.completes = true) (s : Session τ) :
    s.step x = s.handshakeComplete x.audience ∧ x.cause s = none := by
  unfold Step.completes at completes
  split at completes
  · exact ⟨rfl, rfl⟩
  · cases completes

/-- A session is encrypted from the end of the handshake on. -/
theorem encrypted_step {x : Step τ} (single : x.single = true) :
    (s.step x).encrypted = (s.encrypted || x.completes) := by
  cases completes : x.completes with
  | true =>
    rw [(step_of_completes completes s).1, handshakeComplete_eq, Bool.or_true]
  | false =>
    rw [Bool.or_false]
    cases takes : x.takes with
    | false => exact (mute_step single completes takes).1
    | true =>
      unfold Step.takes at takes
      split at takes
      · rfl
      · cases takes

theorem signals_step {x : Step τ} (named : Named s) (single : x.single = true)
    (leaves : x.takes = false) : (s.step x).signals = s.signals ++ x.signals s := by
  unfold Step.signals
  cases completes : x.completes with
  | true =>
    obtain ⟨step, cause⟩ := step_of_completes completes s
    rw [step, handshakeComplete_eq, cause]
    show s.signals ++ [Signal.connected] = s.signals ++ ([Signal.connected] ++ if s.state = .closed then [] else [])
    rw [ite_self, List.append_nil]
  | false =>
    have verdicts := verdicts_step named single
    obtain ⟨-, same | ⟨open_, reason, more⟩⟩ := mute_step (s := s) single completes leaves
    · -- nothing was signalled, so there was no cause
      rw [signalled_of_same same] at verdicts
      rw [same]
      split at verdicts
      · rename_i closed
        rw [if_pos closed]
        exact (List.append_nil _).symm
      · rename_i open_
        rw [if_neg open_, ← verdicts]
        exact (List.append_nil _).symm
    · rw [signalled_of_append more, if_neg open_] at verdicts
      rw [more, if_neg open_, ← verdicts]
      rfl

/-! ## Runs -/

section Runs

variable {steps : List (Step τ)}

theorem firstCause_append (s : Session τ) (before after : List (Step τ)) :
    s.firstCause (before ++ after) = (s.firstCause before).or ((s.run before).firstCause after) := by
  induction before generalizing s with
  | nil => rfl
  | cons x before ih =>
    show (x.cause s).or ((s.step x).firstCause (before ++ after)) = ((x.cause s).or _).or _
    rw [ih, Option.or_assoc]
    rfl

/-- The signals of a run. -/
def signalsOf (s : Session τ) (steps : List (Step τ)) : List Signal := s.along (fun s x => x.signals s) steps

theorem signals_run (named : Named s) (single : ∀ x ∈ steps, x.single = true)
    (leaves : ∀ x ∈ steps, x.takes = false) : (s.run steps).signals = s.signals ++ s.signalsOf steps := by
  induction steps generalizing s with
  | nil => exact (List.append_nil _).symm
  | cons x steps ih =>
    have first := signals_step (x := x) named (single x (List.mem_cons_self ..)) (leaves x (List.mem_cons_self ..))
    have rest := ih (named_step named x) (fun y mem => single y (List.mem_cons_of_mem x mem))
      fun y mem => leaves y (List.mem_cons_of_mem x mem)
    have split : s.signalsOf (x :: steps) = x.signals s ++ (s.step x).signalsOf steps := rfl
    rw [run_cons, rest, first, split, List.append_assoc]

/-- The transport reports the end of the handshake once at most, and not after a cause to close. -/
structure Candid (s : Session τ) (steps : List (Step τ)) : Prop where
  once : (steps.filter Step.completes).length ≤ 1
  early : ∀ before x after, steps = before ++ x :: after → x.completes = true → s.firstCause before = none

/-- A step that reports the end of the handshake is the only one. -/
theorem Candid.later {x : Step τ} (candid : s.Candid (x :: steps)) (completes : x.completes = true) :
    steps.any Step.completes = false := by
  have once := candid.once
  rw [List.filter_cons_of_pos completes, List.length_cons] at once
  have none_later : steps.filter Step.completes = [] := List.eq_nil_of_length_eq_zero (by omega)
  exact List.any_eq_false.2 fun y mem completes =>
    (List.filter_eq_nil_iff.1 none_later) y mem completes

theorem Candid.tail {x : Step τ} (candid : s.Candid (x :: steps)) : (s.step x).Candid steps where
  once := by
    refine Nat.le_trans (List.Sublist.length_le ?_) candid.once
    exact (List.sublist_cons_self x steps).filter _
  early before y after split completes := by
    have early := candid.early (x :: before) y after (by rw [split]; rfl) completes
    exact (Option.or_eq_none_iff.1 early).2

/-- After a cause to close, no handshake ends. -/
theorem Candid.never {x : Step τ} (candid : s.Candid (x :: steps)) (cause : (x.cause s).isSome = true) :
    steps.any Step.completes = false := by
  refine List.any_eq_false.2 fun y mem completes => ?_
  obtain ⟨before, after, split⟩ := List.append_of_mem mem
  have early := candid.early (x :: before) y after (by rw [split]; rfl) completes
  rw [(Option.or_eq_none_iff.1 early).1] at cause
  cases cause

/-- A closed session of whose handshake nothing more is heard signals nothing more. -/
theorem signalsOf_of_closed (named : Named s) (single : ∀ x ∈ steps, x.single = true)
    (closed : s.state = .closed) (silent : steps.any Step.completes = false) : s.signalsOf steps = [] := by
  induction steps generalizing s with
  | nil => rfl
  | cons x steps ih =>
    rw [List.any_cons, Bool.or_eq_false_iff] at silent
    have alone := single x (List.mem_cons_self ..)
    have here : x.signals s = [] := by
      unfold Step.signals
      rw [silent.1, if_pos closed]
      rfl
    have split : s.signalsOf (x :: steps) = x.signals s ++ (s.step x).signalsOf steps := rfl
    rw [split, here, List.nil_append]
    exact ih (named_step named x) (fun y mem => single y (List.mem_cons_of_mem x mem))
      ((closed_step named alone).2 (.inl closed)) silent.2

/-- What a session signals in its life: that the handshake is over, if it is, and then that it is closed,
if it is, for the first cause, and whether this was during the handshake. -/
theorem signalsOf_candid (named : Named s) (single : ∀ x ∈ steps, x.single = true)
    (open_ : s.state ≠ .closed) (candid : s.Candid steps)
    (unreported : s.encrypted = true → steps.any Step.completes = false) :
    s.signalsOf steps = (if steps.any Step.completes then [.connected] else []) ++
      (s.firstCause steps).toList.map fun reason =>
        .closed reason (!(s.encrypted || steps.any Step.completes)) := by
  induction steps generalizing s with
  | nil => rfl
  | cons x steps ih =>
    have alone := single x (List.mem_cons_self ..)
    have others : ∀ y ∈ steps, y.single = true := fun y mem => single y (List.mem_cons_of_mem x mem)
    have stage := closed_step (x := x) named alone
    have split : s.signalsOf (x :: steps) = x.signals s ++ (s.step x).signalsOf steps := rfl
    have first : s.firstCause (x :: steps) = (x.cause s).or ((s.step x).firstCause steps) := rfl
    rw [split, first, List.any_cons]
    cases cause : x.cause s with
    | some reason =>
      -- the session closes here, and nothing follows
      have early : x.completes = false := by
        rw [Bool.eq_false_iff]
        intro completes
        rw [(step_of_completes completes s).2] at cause
        cases cause
      have closed : (s.step x).state = .closed := stage.2 (.inr (by rw [cause]; rfl))
      have silent := candid.never (by rw [cause]; rfl)
      rw [signalsOf_of_closed (named_step named x) others closed silent, early, silent]
      unfold Step.signals
      rw [early, if_neg open_, cause, Bool.or_self, Bool.or_false]
      rfl
    | none =>
      have still : (s.step x).state ≠ .closed := fun closed =>
        (stage.1 closed).elim open_ (by rw [cause]; exact nofun)
      have here : x.signals s = if x.completes then [.connected] else [] := by
        unfold Step.signals
        rw [if_neg open_, cause]
        exact List.append_nil _
      rw [Option.none_or, here]
      cases completes : x.completes with
      | true =>
        have silent := candid.later completes
        have encrypted : (s.step x).encrypted = true := by
          rw [encrypted_step alone, completes, Bool.or_true]
        rw [ih (named_step named x) others still candid.tail fun _ => silent, silent, encrypted,
          Bool.true_or, Bool.or_true]
        rfl
      | false =>
        have encrypted : (s.step x).encrypted = s.encrypted := by
          rw [encrypted_step alone, completes, Bool.or_false]
        have unreported : (s.step x).encrypted = true → steps.any Step.completes = false := by
          intro h
          have none := unreported (encrypted ▸ h)
          rw [List.any_cons, completes, Bool.false_or] at none
          exact none
        rw [ih (named_step named x) others still candid.tail unreported, encrypted, Bool.false_or]
        rfl

/-- Whenever the signals are taken of a session whose connection is past closing, there was a cause to close:
it was closed from here, or the loss of the connection was reported. -/
def ClosesForCause (s : Session τ) (steps : List (Step τ)) : Prop :=
  ∀ before x after, steps = before ++ x :: after → x.takes = true →
    Transport.isDrained (s.run before).transport = true → (s.firstCause (s.rounds before)).isSome = true

omit [Transport τ] in
/-- What holds of every way to split a run holds at every place of it. -/
theorem splits_iff {P : List (Step τ) → Step τ → Prop} :
    (∀ before x after, steps = before ++ x :: after → P before x) ↔
      ∀ k, (h : k < steps.length) → P (steps.take k) steps[k] := by
  constructor
  · intro splits k h
    exact splits _ _ (steps.drop (k + 1)) (by simp)
  · rintro places before x after rfl
    have place := places before.length (by simp)
    simpa using place

theorem candid_iff : s.Candid steps ↔ (steps.filter Step.completes).length ≤ 1 ∧
    ∀ k, (h : k < steps.length) → steps[k].completes = true → s.firstCause (steps.take k) = none := by
  have early := @splits_iff τ steps fun before x => x.completes = true → s.firstCause before = none
  exact ⟨fun candid => ⟨candid.once, early.1 candid.early⟩, fun ⟨once, places⟩ => ⟨once, early.2 places⟩⟩

instance : Decidable (s.Candid steps) := decidable_of_iff' _ candid_iff

instance : Decidable (s.ClosesForCause steps) :=
  decidable_of_iff' (∀ k, (h : k < steps.length) → steps[k].takes = true →
    Transport.isDrained (s.run (steps.take k)).transport = true →
      (s.firstCause (s.rounds (steps.take k))).isSome = true) splits_iff

/-! ## Inside a loop -/

/-- No round of a loop takes the signals or collects what was posted. -/
def Step.inner (x : Step τ) : Prop := x.takes = false ∧ x.collects = false

omit [Transport τ] in
theorem Step.Round.inner {x : Step τ} (round : x.Round a now) : x.inner := by
  cases round <;> exact ⟨rfl, rfl⟩

/-- A round of a run is a step of it, or inside a loop. -/
theorem mem_rounds {y : Step τ} (mem : y ∈ s.rounds steps) : y ∈ steps ∨ y.inner := by
  obtain ⟨x, there, ⟨rfl, -⟩ | ⟨a, now, round, -⟩⟩ := rounds_cases mem
  · exact .inl there
  · exact .inr round.inner

/-- The signals of a run, with its loops taken round by round. -/
theorem signals_rounds (named : Named s) (leaves : ∀ x ∈ steps, x.takes = false) :
    (s.run steps).signals = s.signals ++ s.signalsOf (s.rounds steps) := by
  have leaves' : ∀ y ∈ s.rounds steps, y.takes = false := fun y mem =>
    (mem_rounds mem).elim (leaves y) fun inner => inner.1
  have all := signals_run named (single_rounds s steps) leaves'
  rwa [run_rounds] at all

/-- The signals that the owner takes in a run. -/
def takenOf (s : Session τ) (steps : List (Step τ)) : List Signal :=
  s.along (fun s x => if x.takes then s.signals else []) steps

theorem step_of_takes {x : Step τ} (takes : x.takes = true) (s : Session τ) :
    s.step x = { s with signals := [] } ∧ s.signalsOf (s.rounds [x]) = [] := by
  unfold Step.takes at takes
  split at takes
  · refine ⟨rfl, ?_⟩
    show (if s.state = .closed then [] else []) ++ [] = []
    rw [ite_self, List.append_nil]
  · cases takes

/-- What was signalled is what was taken and what waits to be. -/
theorem taken_signals (named : Named s) (steps : List (Step τ)) :
    s.takenOf steps ++ (s.run steps).signals = s.signals ++ s.signalsOf (s.rounds steps) := by
  induction steps generalizing s with
  | nil => exact (List.append_nil _).symm
  | cons x steps ih =>
    have rest := ih (named_step named x)
    have taken : s.takenOf (x :: steps) = (if x.takes then s.signals else []) ++ (s.step x).takenOf steps := rfl
    have signalled : s.signalsOf (s.rounds (x :: steps)) =
        s.signalsOf (s.rounds [x]) ++ (s.step x).signalsOf ((s.step x).rounds steps) := by
      have split : s.rounds (x :: steps) = s.rounds [x] ++ (s.step x).rounds steps := rounds_append s [x] steps
      have same : s.run (s.rounds [x]) = s.step x := run_rounds s [x]
      rw [split]
      unfold signalsOf
      rw [along_append, same]
    rw [taken, signalled, run_cons, List.append_assoc, rest]
    cases takes : x.takes with
    | true =>
      obtain ⟨step, silent⟩ := step_of_takes takes s
      rw [silent, step]
      rfl
    | false =>
      have here : (s.run [x]).signals = s.signals ++ s.signalsOf (s.rounds [x]) := by
        refine signals_rounds named fun y mem => ?_
        rw [List.mem_singleton.1 mem]
        exact takes
      have here : (s.step x).signals = s.signals ++ s.signalsOf (s.rounds [x]) := here
      rw [here, List.append_assoc]
      rfl

/-! ## What was posted in a run -/

theorem posted_step (named : Named s) {x : Step τ} (leaves : x.collects = false) :
    (s.step x).posted = s.posted ++ told s (s.step x) := by
  have grows : s.posted <+: (s.step x).posted := by
    cases x with
    | operate a now op =>
      unfold step
      dsimp only
      split
      · rename_i done
        exact posted_acts a (acts_run a now named done)
      · exact List.prefix_refl _
    | report a now e =>
      unfold step
      dsimp only
      split
      · rename_i done
        exact posted_acts a (course_react a now done).acts
      · exact List.prefix_refl _
    | transport t => exact List.prefix_refl _
    | collect => cases leaves
  obtain ⟨more, posted⟩ := grows
  rw [told_of_append posted.symm, posted]

/-- What is told in a run, step after step. -/
def toldOf (s : Session τ) (steps : List (Step τ)) : List Notice :=
  s.along (fun s x => told s (s.step x)) steps

theorem posted_run (named : Named s) (leaves : ∀ x ∈ steps, x.collects = false) :
    (s.run steps).posted = s.posted ++ s.toldOf steps := by
  induction steps generalizing s with
  | nil => exact (List.append_nil _).symm
  | cons x steps ih =>
    have first := posted_step (x := x) named (leaves x (List.mem_cons_self ..))
    have rest := ih (named_step named x) fun y mem => leaves y (List.mem_cons_of_mem x mem)
    have split : s.toldOf (x :: steps) = told s (s.step x) ++ (s.step x).toldOf steps := rfl
    rw [run_cons, rest, first, split, List.append_assoc]

/-- What was posted in a run of a session whose notices were collected. -/
theorem posted_rounds (named : Named s) (collected : s.posted = []) (leaves : ∀ x ∈ steps, x.collects = false) :
    (s.run steps).posted = s.toldOf (s.rounds steps) := by
  have leaves' : ∀ y ∈ s.rounds steps, y.collects = false := fun y mem =>
    (mem_rounds mem).elim (leaves y) fun inner => inner.2
  have all := posted_run named leaves'
  rwa [run_rounds, collected, List.nil_append] at all

/-- Collecting tells nobody anything. -/
theorem toldOf_collected (s : Session τ) (steps : List (Step τ)) :
    s.toldOf (s.rounds (steps ++ [.collect])) = s.toldOf (s.rounds steps) := by
  have nothing : (s.run (s.rounds steps)).toldOf ((s.run steps).rounds [.collect]) = [] := by
    show List.drop _ [] ++ [] = []
    rw [List.drop_nil, List.append_nil]
  rw [rounds_append]
  unfold toldOf at nothing ⊢
  rw [along_append, nothing, List.append_nil]

/-! ## The end of a session -/

/-- A session that is closed has no more streams to tell of, and is not closed again. -/
theorem goesOn_of_closed (named : Named s) (single : ∀ x ∈ steps, x.single = true) (closed : s.state = .closed)
    (emptied : Emptied s) : ∀ n ∈ s.toldOf steps, n.parting = false := by
  induction steps generalizing s with
  | nil => exact fun n mem => absurd mem List.not_mem_nil
  | cons x steps ih =>
    have o := outcome_step s (single x (List.mem_cons_self ..))
    have staying := staying_outcome o named (.inr closed)
    have nobody : departed s (s.step x) = [] :=
      departed_of_keys named fun k live => absurd ((emptied closed).1 ▸ live) List.not_mem_nil
    have silent : (told s (s.step x)).filter Notice.parting = [] := by
      rw [staying.told, nobody]
      exact ite_self _
    have rest := ih (named_step named x) (fun y mem => single y (List.mem_cons_of_mem x mem))
      (staying.stage.2 closed) (emptied_outcome o emptied)
    intro n mem
    obtain here | later := List.mem_append.1 mem
    · exact Bool.eq_false_iff.2 fun parting => List.filter_eq_nil_iff.1 silent n here parting
    · exact rest n later

/-- A session that had a cause to close closed at the first: it told of every stream and of the end of the
connection, and of no such thing afterwards. -/
theorem closing_of_cause (named : Named s) (single : ∀ x ∈ steps, x.single = true) (open_ : s.state ≠ .closed)
    (cause : (s.firstCause steps).isSome = true) :
    ∃ before x after reason, steps = before ++ x :: after ∧
      Closing x.audience reason (s.run before) ((s.run before).step x) ∧
      ∀ n ∈ ((s.run before).step x).toldOf after, n.parting = false := by
  induction steps generalizing s with
  | nil => cases cause
  | cons x steps ih =>
    have alone := single x (List.mem_cons_self ..)
    have later : ∀ y ∈ steps, y.single = true := fun y mem => single y (List.mem_cons_of_mem x mem)
    cases here : x.cause s with
    | some reason =>
      have o := outcome_step s alone
      rw [here] at o
      have closing := closing_outcome o named open_
      have emptied := emptied_outcome o fun closed => absurd closed open_
      exact ⟨[], x, steps, reason, rfl, closing, goesOn_of_closed (named_step named x) later closing.closed emptied⟩
    | none =>
      have still : (s.step x).state ≠ .closed := by
        intro closed
        obtain closed | cause := (closed_step named alone).1 closed
        · exact open_ closed
        · rw [here] at cause
          cases cause
      have first : s.firstCause (x :: steps) = (x.cause s).or ((s.step x).firstCause steps) := rfl
      rw [first, here] at cause
      obtain ⟨before, y, after, reason, rfl, closing, rest⟩ := ih (named_step named x) later still cause
      exact ⟨x :: before, y, after, reason, rfl, closing, rest⟩

end Runs

end QuicSessions.Session
