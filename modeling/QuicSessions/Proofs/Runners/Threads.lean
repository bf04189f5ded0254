import Mathlib.Data.List.Nodup
import QuicSessions.Runner

/-!
# A runner among threads

Any number of threads use one runner: they post tasks, call it and wait for the answer, and stop it, while
its worker runs what was accepted. What a task does while it runs is left open: it may post tasks, call its
own runner, which runs the call at once inside the task, stop the runner, and it returns at some time. An
act is one step of one thread or of the worker; any sequence of acts is an interleaving. An act that is not
possible, such as one of a thread that waits, changes nothing.
-/

set_option autoImplicit false

namespace QuicSessions.Runner

/-- A task: its number, and whether its caller waits for what it returns. -/
structure Job where
  ticket : Nat
  awaited : Bool
  deriving DecidableEq

/-- What the worker is at: a task, and the calls that it is in, one inside the other. -/
structure Running (ρ : Type) where
  job : Job
  /-- What the innermost call was answered by the calls that it made. -/
  answers : List ρ
  /-- The same of the calls around it, the task itself last. -/
  around : List (List ρ)

def Running.calls {ρ : Type} (r : Running ρ) : List (List ρ) := r.answers :: r.around

/-- What a thread other than the worker is at. -/
inductive Caller where
  | free
  /-- It waits for the answer to its call. -/
  | waiting (ticket : Nat)
  /-- It waits until the worker is gone. -/
  | joining
  deriving DecidableEq

inductive Deed (ρ : Type) where
  | post
  | invoke
  | stop
  /-- The innermost call is over, or the task if it is in none. -/
  | finish (result : ρ)

/-- A step of a thread or of the worker. -/
inductive Act (ρ : Type) where
  | post (who : Nat)
  | invoke (who : Nat)
  | stop (who : Nat)
  /-- A thread that waits looks whether it may go on. -/
  | resume (who : Nat)
  | start
  | inside (x : Deed ρ)
  | leave

/-- The thread whose act it is; none if it is the worker. -/
def Act.thread? {ρ : Type} : Act ρ → Option Nat
  | .post who | .invoke who | .stop who | .resume who => some who
  | .start | .inside _ | .leave => none

/-- A runner, what its worker and the other threads are at, and what happened so far. -/
structure World (ρ : Type) where
  runner : Runner Job
  running : Option (Running ρ)
  callers : Nat → Caller
  /-- The answers that were sent to callers. -/
  replies : List (Nat × ρ)
  /-- The number of the next task. -/
  issued : Nat
  /-- The tasks that were accepted, first accepted first. -/
  accepted : List Nat
  refused : List Nat
  /-- The tasks that the worker began, in order. -/
  begun : List Nat
  /-- The tasks that are over, in order, with what they returned. -/
  results : List (Nat × ρ)
  /-- What calls from other threads returned. -/
  answers : List (Nat × Option ρ)

namespace World

variable {ρ : Type}

def new (name : String) : World ρ := ⟨.new name, none, fun _ => .free, [], 0, [], [], [], [], []⟩

/-- The calls that the worker is in, innermost first. -/
def calls (w : World ρ) : List (List ρ) := (w.running.map Running.calls).getD []

def current (w : World ρ) : List Nat := (w.running.map fun r => r.job.ticket).toList

def waitingTasks (w : World ρ) : List Nat := w.runner.queue.map Job.ticket

def ended (w : World ρ) : List Nat := w.results.map Prod.fst

/-! ## Steps -/

def setCaller (who : Nat) (c : Caller) (w : World ρ) : World ρ :=
  { w with callers := fun other => if other = who then c else w.callers other }

def offer (awaited : Bool) (w : World ρ) : World ρ :=
  let (taken, r) := w.runner.post ⟨w.issued, awaited⟩
  { w with
    runner := r
    issued := w.issued + 1
    accepted := w.accepted ++ if taken then [w.issued] else []
    refused := w.refused ++ if taken then [] else [w.issued] }

/-- Posts a task and waits for what it returns. A call that is refused returns nothing. -/
def call (who : Nat) (w : World ρ) : World ρ :=
  if w.runner.serving then (w.offer true).setCaller who (.waiting w.issued)
  else { w.offer true with answers := w.answers ++ [(w.issued, none)] }

/-- Closes the runner, and waits for the worker if nobody closed it before. -/
def close (who : Nat) (w : World ρ) : World ρ :=
  let (waits, r) := w.runner.close false
  if waits then { w with runner := r }.setCaller who .joining else { w with runner := r }

/-- The answer is taken if it is there; if the worker is gone there will be none. -/
def resume (who : Nat) (w : World ρ) : World ρ :=
  match w.callers who with
  | .free => w
  | .waiting ticket =>
    match w.replies.lookup ticket with
    | some result => { w with answers := w.answers ++ [(ticket, some result)] }.setCaller who .free
    | none =>
      if w.runner.stage = .gone then { w with answers := w.answers ++ [(ticket, none)] }.setCaller who .free
      else w
  | .joining => if w.runner.stage = .gone then w.setCaller who .free else w

def start (w : World ρ) : World ρ :=
  match w.runner.begin? with
  | some (job, r) =>
    { w with runner := r, running := some ⟨job, [], []⟩, begun := w.begun ++ [job.ticket] }
  | none => w

def inside (r : Running ρ) (w : World ρ) : Deed ρ → World ρ
  | .post => w.offer false
  | .invoke => { w with running := some { r with answers := [], around := r.calls } }
  | .stop => { w with runner := (w.runner.close true).2 }
  | .finish result =>
    match r.around with
    | caller :: around =>
      { w with running := some { r with answers := caller ++ [result], around := around } }
    | [] =>
      { w with
        runner := w.runner.finish
        running := none
        replies := w.replies ++ if r.job.awaited then [(r.job.ticket, result)] else []
        results := w.results ++ [(r.job.ticket, result)] }

def step (w : World ρ) : Act ρ → World ρ
  | .post who => if w.callers who = .free then w.offer false else w
  | .invoke who => if w.callers who = .free then w.call who else w
  | .stop who => if w.callers who = .free then w.close who else w
  | .resume who => w.resume who
  | .start => w.start
  | .inside x =>
    match w.running with
    | some r => w.inside r x
    | none => w
  | .leave =>
    match w.runner.leave? with
    | some r => { w with runner := r }
    | none => w

theorem offer_of_serving (awaited : Bool) {w : World ρ} (serving : w.runner.serving = true) :
    w.offer awaited = { w with
      runner := { w.runner with queue := w.runner.queue ++ [⟨w.issued, awaited⟩] }
      issued := w.issued + 1
      accepted := w.accepted ++ [w.issued] } := by
  simp [offer, Runner.post, serving]

theorem offer_of_closed (awaited : Bool) {w : World ρ} (closed : w.runner.serving = false) :
    w.offer awaited = { w with issued := w.issued + 1, refused := w.refused ++ [w.issued] } := by
  simp [offer, Runner.post, closed]

/-! ## Whose act changes what -/

theorem callers_setCaller {who other : Nat} (apart : other ≠ who) (c : Caller) (w : World ρ) :
    (w.setCaller who c).callers other = w.callers other := if_neg apart

/-- An act of a thread concerns neither what the worker is at nor another thread. -/
theorem step_of_thread (w : World ρ) {a : Act ρ} {who : Nat} (acts : a.thread? = some who) :
    (w.step a).running = w.running ∧ (w.step a).begun = w.begun ∧
      ∀ other, other ≠ who → (w.step a).callers other = w.callers other := by
  cases a with
  | post _ =>
    unfold step
    dsimp only
    split <;> exact ⟨rfl, rfl, fun _ _ => rfl⟩
  | invoke _ =>
    cases acts
    unfold step call
    dsimp only
    split
    · split
      · exact ⟨rfl, rfl, fun _ apart => callers_setCaller apart ..⟩
      · exact ⟨rfl, rfl, fun _ _ => rfl⟩
    · exact ⟨rfl, rfl, fun _ _ => rfl⟩
  | stop _ =>
    cases acts
    unfold step close
    dsimp only
    split
    · split
      · exact ⟨rfl, rfl, fun _ apart => callers_setCaller apart ..⟩
      · exact ⟨rfl, rfl, fun _ _ => rfl⟩
    · exact ⟨rfl, rfl, fun _ _ => rfl⟩
  | resume _ =>
    cases acts
    unfold step resume
    dsimp only
    split
    · exact ⟨rfl, rfl, fun _ _ => rfl⟩
    · split
      · exact ⟨rfl, rfl, fun _ apart => callers_setCaller apart ..⟩
      · split
        · exact ⟨rfl, rfl, fun _ apart => callers_setCaller apart ..⟩
        · exact ⟨rfl, rfl, fun _ _ => rfl⟩
    · split
      · exact ⟨rfl, rfl, fun _ apart => callers_setCaller apart ..⟩
      · exact ⟨rfl, rfl, fun _ _ => rfl⟩
  | start => cases acts
  | inside _ => cases acts
  | leave => cases acts

theorem callers_of_worker (w : World ρ) {a : Act ρ} (acts : a.thread? = none) :
    (w.step a).callers = w.callers := by
  cases a with
  | start =>
    unfold step start
    dsimp only
    split <;> rfl
  | leave =>
    unfold step
    dsimp only
    split <;> rfl
  | inside x =>
    unfold step
    dsimp only
    split
    · cases x with
      | finish result =>
        unfold inside
        dsimp only
        split <;> rfl
      | _ => rfl
    · rfl
  | _ => cases acts

/-! ## What never changes -/

/-- Every task that was accepted is over, or the worker is at it, or it waits, in the order of acceptance. -/
structure Orderly (w : World ρ) : Prop where
  accepted : w.accepted = w.begun ++ w.waitingTasks
  begun : w.begun = w.ended ++ w.current
  numbered : ∀ t ∈ w.accepted ++ w.refused, t < w.issued
  distinct : (w.accepted ++ w.refused).Nodup
  busy : w.runner.stage = .busy ↔ w.running.isSome = true
  gone : w.runner.stage = .gone → w.runner.queue = [] ∧ w.runner.accepting = false
  replies : ∀ x ∈ w.replies, x ∈ w.results
  /-- The task of a call is in the queue or in work, or its answer was sent. -/
  waiting : ∀ who t, w.callers who = .waiting t →
    ⟨t, true⟩ ∈ w.runner.queue ∨ (∃ r, w.running = some r ∧ r.job = ⟨t, true⟩) ∨ ∃ x, (t, x) ∈ w.replies
  answered : ∀ t a, (t, a) ∈ w.answers → t ∈ w.refused ∧ a = none ∨ ∃ x, a = some x ∧ (t, x) ∈ w.results

theorem numbers_of_perm {xs ys : List Nat} {n : Nat} (perm : xs.Perm (n :: ys)) (below : ∀ t ∈ ys, t < n)
    (distinct : ys.Nodup) : (∀ t ∈ xs, t < n + 1) ∧ xs.Nodup := by
  have fresh : n ∉ ys := fun mem => Nat.lt_irrefl n (below n mem)
  refine ⟨fun t mem => ?_, perm.nodup_iff.2 (List.nodup_cons.2 ⟨fresh, distinct⟩)⟩
  obtain rfl | old := List.mem_cons.1 (perm.mem_iff.1 mem)
  · omega
  · have lt := below t old
    omega

namespace Orderly

variable {w : World ρ}

protected theorem new (name : String) : Orderly (World.new name : World ρ) where
  accepted := rfl
  begun := rfl
  numbered := by simp [World.new]
  distinct := by simp [World.new]
  busy := by simp [World.new, Runner.new]
  gone := by simp [World.new, Runner.new]
  replies := by simp [World.new]
  waiting := by simp [World.new]
  answered := by simp [World.new]

theorem setCaller (h : Orderly w) (who : Nat) {c : Caller} (calls : ∀ t, c ≠ .waiting t) :
    Orderly (w.setCaller who c) where
  accepted := h.accepted
  begun := h.begun
  numbered := h.numbered
  distinct := h.distinct
  busy := h.busy
  gone := h.gone
  replies := h.replies
  waiting other t waits := by
    unfold World.setCaller at waits
    by_cases same : other = who
    · simp [same] at waits
      exact absurd waits (calls t)
    · simp [same] at waits
      exact h.waiting other t waits
  answered := h.answered

theorem offer (h : Orderly w) (awaited : Bool) : Orderly (w.offer awaited) := by
  cases serving : w.runner.serving with
  | true =>
    have open_ : w.runner.stage ≠ .gone := by
      simp [Runner.serving] at serving
      exact serving.2
    have perm : (w.accepted ++ [w.issued] ++ w.refused).Perm (w.issued :: (w.accepted ++ w.refused)) := by simp
    obtain ⟨numbered, distinct⟩ := numbers_of_perm perm h.numbered h.distinct
    rw [offer_of_serving awaited serving]
    refine ⟨?_, h.begun, numbered, distinct, h.busy, fun gone => absurd gone open_, h.replies, ?_, h.answered⟩
    · simp [waitingTasks, h.accepted]
    · intro who t waits
      obtain queued | working | sent := h.waiting who t waits
      · exact .inl (List.mem_append_left _ queued)
      · exact .inr (.inl working)
      · exact .inr (.inr sent)
  | false =>
    have perm : (w.accepted ++ (w.refused ++ [w.issued])).Perm (w.issued :: (w.accepted ++ w.refused)) := by
      simp [← List.append_assoc]
    obtain ⟨numbered, distinct⟩ := numbers_of_perm perm h.numbered h.distinct
    rw [offer_of_closed awaited serving]
    refine ⟨h.accepted, h.begun, numbered, distinct, h.busy, h.gone, h.replies, h.waiting, ?_⟩
    intro t a mem
    obtain ⟨refused, none_⟩ | answered := h.answered t a mem
    · exact .inl ⟨List.mem_append_left _ refused, none_⟩
    · exact .inr answered

theorem call (h : Orderly w) (who : Nat) : Orderly (w.call who) := by
  have offered := h.offer true
  unfold World.call
  split
  · rename_i serving
    refine ⟨offered.accepted, offered.begun, offered.numbered, offered.distinct, offered.busy, offered.gone,
      offered.replies, fun other t waits => ?_, offered.answered⟩
    unfold World.setCaller at waits
    by_cases same : other = who
    · simp [same] at waits
      refine .inl ?_
      simp [World.setCaller, offer_of_serving true serving, waits]
    · simp [same] at waits
      exact offered.waiting other t waits
  · rename_i closed
    have closed : w.runner.serving = false := Bool.eq_false_iff.2 closed
    refine ⟨offered.accepted, offered.begun, offered.numbered, offered.distinct, offered.busy, offered.gone,
      offered.replies, offered.waiting, fun t a mem => ?_⟩
    obtain old | new := List.mem_append.1 mem
    · obtain ⟨refused, none_⟩ | answered := h.answered t a old
      · refine .inl ⟨?_, none_⟩
        simp [offer_of_closed true closed, refused]
      · refine .inr ?_
        simpa [offer_of_closed true closed] using answered
    · obtain ⟨rfl, rfl⟩ : t = w.issued ∧ a = none := by simpa using new
      refine .inl ⟨?_, rfl⟩
      simp [offer_of_closed true closed]

/-- Closing a runner takes nothing from its queue. -/
theorem closed (h : Orderly w) (fromTask : Bool) :
    Orderly { w with runner := (w.runner.close fromTask).2 } where
  accepted := h.accepted
  begun := h.begun
  numbered := h.numbered
  distinct := h.distinct
  busy := h.busy
  gone gone := ⟨(h.gone gone).1, rfl⟩
  replies := h.replies
  waiting := h.waiting
  answered := h.answered

theorem close (h : Orderly w) (who : Nat) : Orderly (w.close who) := by
  unfold World.close
  dsimp only
  split
  · exact (h.closed false).setCaller who nofun
  · exact h.closed false

theorem idle_of_gone (h : Orderly w) (gone : w.runner.stage = .gone) :
    w.runner.queue = [] ∧ w.running = none := by
  refine ⟨(h.gone gone).1, Option.not_isSome_iff_eq_none.1 fun busy => ?_⟩
  rw [h.busy.2 busy] at gone
  cases gone

/-- A call that was accepted is answered before the worker is gone. -/
theorem replied_of_gone (h : Orderly w) (gone : w.runner.stage = .gone) {who t : Nat}
    (waits : w.callers who = .waiting t) : ∃ x, (t, x) ∈ w.replies := by
  obtain ⟨empty, resting⟩ := h.idle_of_gone gone
  obtain queued | ⟨r, working, -⟩ | sent := h.waiting who t waits
  · rw [empty] at queued
    cases queued
  · rw [resting] at working
    cases working
  · exact sent

theorem resume (h : Orderly w) (who : Nat) : Orderly (w.resume who) := by
  unfold World.resume
  split
  · exact h
  · rename_i t waits
    split
    · rename_i x sent
      have free : Orderly (w.setCaller who .free) := h.setCaller who nofun
      refine ⟨free.accepted, free.begun, free.numbered, free.distinct, free.busy, free.gone, free.replies,
        free.waiting, fun t' a mem => ?_⟩
      obtain old | new := List.mem_append.1 mem
      · exact h.answered t' a old
      · obtain ⟨rfl, rfl⟩ : t' = t ∧ a = some x := by simpa using new
        obtain ⟨_, _, split, -⟩ := List.lookup_eq_some_iff.1 sent
        refine .inr ⟨x, rfl, h.replies _ ?_⟩
        rw [split]
        simp
    · rename_i missing
      split
      · rename_i gone
        obtain ⟨x, sent⟩ := h.replied_of_gone gone waits
        have absent := List.lookup_eq_none_iff.1 missing (t, x) sent
        simp at absent
      · exact h
  · split
    · exact h.setCaller who nofun
    · exact h

theorem start (h : Orderly w) : Orderly w.start := by
  unfold World.start Runner.begin?
  split
  · rename_i job r begins
    split at begins
    · rename_i job' rest idle queue
      cases begins
      have resting : w.running = none := by
        refine Option.not_isSome_iff_eq_none.1 fun busy => ?_
        rw [h.busy.2 busy] at idle
        cases idle
      refine ⟨?_, ?_, h.numbered, h.distinct, by simp, by simp, h.replies, ?_, h.answered⟩
      · have accepted := h.accepted
        simp [waitingTasks, queue] at accepted ⊢
        exact accepted
      · have begun := h.begun
        simp [ended, current, resting] at begun ⊢
        exact begun
      · intro who t waits
        obtain queued | ⟨r, working, -⟩ | sent := h.waiting who t waits
        · rw [queue] at queued
          obtain rfl | later := List.mem_cons.1 queued
          · exact .inr (.inl ⟨_, rfl, rfl⟩)
          · exact .inl later
        · rw [resting] at working
          cases working
        · exact .inr (.inr sent)
    · cases begins
  · exact h

theorem moved (h : Orderly w) {r r' : Running ρ} (working : w.running = some r) (same : r'.job = r.job) :
    Orderly { w with running := some r' } where
  accepted := h.accepted
  begun := by
    have begun := h.begun
    simp [current, working] at begun
    simp [current, same, begun, ended]
  numbered := h.numbered
  distinct := h.distinct
  busy := by simp [h.busy, working]
  gone := h.gone
  replies := h.replies
  waiting who t waits := by
    obtain queued | ⟨r₁, working', job⟩ | sent := h.waiting who t waits
    · exact .inl queued
    · rw [working] at working'
      cases working'
      exact .inr (.inl ⟨r', rfl, same.trans job⟩)
    · exact .inr (.inr sent)
  answered := h.answered

theorem inside (h : Orderly w) {r : Running ρ} (working : w.running = some r) (x : Deed ρ) :
    Orderly (w.inside r x) := by
  cases x with
  | post => exact h.offer false
  | invoke => exact h.moved working rfl
  | stop => exact h.closed true
  | finish result =>
    unfold World.inside
    dsimp only
    split
    · exact h.moved working rfl
    · refine ⟨h.accepted, ?_, h.numbered, h.distinct, by simp [Runner.finish], by simp [Runner.finish],
        fun y mem => ?_, fun who t waits => ?_, fun t a mem => ?_⟩
      · have begun := h.begun
        simp [current, working, ended] at begun ⊢
        exact begun
      · obtain old | new := List.mem_append.1 mem
        · exact List.mem_append_left _ (h.replies y old)
        · split at new
          · exact List.mem_append_right _ new
          · cases new
      · obtain queued | ⟨r₁, working', job⟩ | ⟨y, sent⟩ := h.waiting who t waits
        · exact .inl queued
        · rw [working] at working'
          cases working'
          refine .inr (.inr ⟨result, List.mem_append_right _ ?_⟩)
          simp [job]
        · exact .inr (.inr ⟨y, List.mem_append_left _ sent⟩)
      · obtain refused | ⟨y, e, mem⟩ := h.answered t a mem
        · exact .inl refused
        · exact .inr ⟨y, e, List.mem_append_left _ mem⟩

theorem leave (h : Orderly w) : Orderly (w.step .leave) := by
  unfold World.step Runner.leave?
  dsimp only
  split
  · rename_i r left
    split at left
    · rename_i finished
      cases left
      simp [Runner.stopped] at finished
      obtain ⟨⟨idle, empty⟩, closed⟩ := finished
      have resting : ¬ w.running.isSome = true := by
        intro busy
        rw [h.busy.2 busy] at idle
        cases idle
      exact ⟨h.accepted, h.begun, h.numbered, h.distinct, by simp [resting], fun _ => ⟨empty, closed⟩,
        h.replies, h.waiting, h.answered⟩
    · cases left
  · exact h

theorem step (h : Orderly w) (a : Act ρ) : Orderly (w.step a) := by
  cases a with
  | post who =>
    unfold World.step
    dsimp only
    split
    · exact h.offer false
    · exact h
  | invoke who =>
    unfold World.step
    dsimp only
    split
    · exact h.call who
    · exact h
  | stop who =>
    unfold World.step
    dsimp only
    split
    · exact h.close who
    · exact h
  | resume who => exact h.resume who
  | start => exact h.start
  | inside x =>
    unfold World.step
    dsimp only
    split
    · rename_i r working
      exact h.inside working x
    · exact h
  | leave => exact h.leave

end Orderly

end World

end QuicSessions.Runner
