import Mathlib.Data.Nat.Init
import QuicSessions.Proofs.Runners.Threads

/-!
# Every interleaving

A schedule is an infinite sequence of acts, so it stands for any interleaving of the threads and the worker.
Whatever the schedule, tasks begin in the order in which they were accepted, one at a time; a call from
another thread is answered what its own task returned, and a call from the worker is run at once. If the
worker gets its turn again and again and every task is over at some time, every task that was accepted is
run, a stop notwithstanding.
-/

set_option autoImplicit false

namespace QuicSessions.Runner

namespace World

variable {ρ : Type}

def after (name : String) (schedule : Nat → Act ρ) : Nat → World ρ
  | 0 => .new name
  | n + 1 => (after name schedule n).step (schedule n)

/-! ## What is past stays -/

/-- Nothing that happened is undone. -/
structure Grows (w w' : World ρ) : Prop where
  accepted : w.accepted <+: w'.accepted
  refused : w.refused <+: w'.refused
  begun : w.begun <+: w'.begun
  results : w.results <+: w'.results
  replies : w.replies <+: w'.replies
  answers : w.answers <+: w'.answers

namespace Grows

variable {w w' w'' : World ρ}

theorem of_same (accepted : w'.accepted = w.accepted) (refused : w'.refused = w.refused)
    (begun : w'.begun = w.begun) (results : w'.results = w.results) (replies : w'.replies = w.replies)
    (answers : w.answers <+: w'.answers) : Grows w w' :=
  ⟨accepted ▸ List.prefix_refl _, refused ▸ List.prefix_refl _, begun ▸ List.prefix_refl _,
    results ▸ List.prefix_refl _, replies ▸ List.prefix_refl _, answers⟩

theorem refl (w : World ρ) : Grows w w := of_same rfl rfl rfl rfl rfl (List.prefix_refl _)

theorem trans (h : Grows w w') (h' : Grows w' w'') : Grows w w'' where
  accepted := h.accepted.trans h'.accepted
  refused := h.refused.trans h'.refused
  begun := h.begun.trans h'.begun
  results := h.results.trans h'.results
  replies := h.replies.trans h'.replies
  answers := h.answers.trans h'.answers

theorem offer (awaited : Bool) (w : World ρ) : Grows w (w.offer awaited) where
  accepted := List.prefix_append ..
  refused := List.prefix_append ..
  begun := List.prefix_refl _
  results := List.prefix_refl _
  replies := List.prefix_refl _
  answers := List.prefix_refl _

theorem call (who : Nat) (w : World ρ) : Grows w (w.call who) := by
  have offered := offer true w
  unfold World.call
  split
  · exact ⟨offered.accepted, offered.refused, offered.begun, offered.results, offered.replies, offered.answers⟩
  · exact ⟨offered.accepted, offered.refused, offered.begun, offered.results, offered.replies,
      List.prefix_append ..⟩

theorem close (who : Nat) (w : World ρ) : Grows w (w.close who) := by
  unfold World.close
  dsimp only
  split <;> exact of_same rfl rfl rfl rfl rfl (List.prefix_refl _)

theorem resume (who : Nat) (w : World ρ) : Grows w (w.resume who) := by
  unfold World.resume
  split
  · exact .refl w
  · split
    · exact of_same rfl rfl rfl rfl rfl (List.prefix_append ..)
    · split
      · exact of_same rfl rfl rfl rfl rfl (List.prefix_append ..)
      · exact .refl w
  · split
    · exact of_same rfl rfl rfl rfl rfl (List.prefix_refl _)
    · exact .refl w

theorem start (w : World ρ) : Grows w w.start := by
  unfold World.start
  split
  · exact ⟨List.prefix_refl _, List.prefix_refl _, List.prefix_append .., List.prefix_refl _,
      List.prefix_refl _, List.prefix_refl _⟩
  · exact .refl w

theorem inside (r : Running ρ) (x : Deed ρ) (w : World ρ) : Grows w (w.inside r x) := by
  cases x with
  | post => exact offer false w
  | invoke => exact of_same rfl rfl rfl rfl rfl (List.prefix_refl _)
  | stop => exact of_same rfl rfl rfl rfl rfl (List.prefix_refl _)
  | finish result =>
    unfold World.inside
    dsimp only
    split
    · exact of_same rfl rfl rfl rfl rfl (List.prefix_refl _)
    · exact ⟨List.prefix_refl _, List.prefix_refl _, List.prefix_refl _, List.prefix_append ..,
        List.prefix_append .., List.prefix_refl _⟩

theorem step (w : World ρ) (a : Act ρ) : Grows w (w.step a) := by
  unfold World.step
  cases a with
  | post who =>
    dsimp only
    split
    · exact offer false w
    · exact .refl w
  | invoke who =>
    dsimp only
    split
    · exact call who w
    · exact .refl w
  | stop who =>
    dsimp only
    split
    · exact close who w
    · exact .refl w
  | resume who => exact resume who w
  | start => exact start w
  | inside x =>
    dsimp only
    split
    · exact inside _ x w
    · exact .refl w
  | leave =>
    dsimp only
    split
    · exact of_same rfl rfl rfl rfl rfl (List.prefix_refl _)
    · exact .refl w

end Grows

section Schedule

variable (name : String) (schedule : Nat → Act ρ)

theorem orderly_after (n : Nat) : Orderly (after name schedule n) := by
  induction n with
  | zero => exact .new name
  | succ n ih => exact ih.step (schedule n)

theorem grows_after {n m : Nat} (le : n ≤ m) : Grows (after name schedule n) (after name schedule m) := by
  induction m, le using Nat.le_induction with
  | base => exact .refl _
  | succ m _ ih => exact ih.trans (.step _ (schedule m))

end Schedule

namespace Orderly

variable {w : World ρ}

theorem prefix_ended (h : Orderly w) : w.ended <+: w.accepted := by
  rw [h.accepted, h.begun, List.append_assoc]
  exact List.prefix_append ..

theorem prefix_begun (h : Orderly w) : w.begun <+: w.accepted := by
  rw [h.accepted]
  exact List.prefix_append ..

/-- Whatever was accepted before a task that is over is over, too. -/
theorem ended_of_before (h : Orderly w) {t t' : Nat} (ended : t ∈ w.ended)
    (before : [t', t].Sublist w.accepted) : t' ∈ w.ended := by
  obtain ⟨later, split⟩ := h.prefix_ended
  have distinct : w.accepted.Nodup := (List.nodup_append.1 h.distinct).1
  rw [← split] at before distinct
  obtain ⟨xs, ys, e, first, second⟩ := List.sublist_append_iff.1 before
  have apart := (List.nodup_append.1 distinct).2.2
  -- the later of the two cannot stand behind everything that is over
  match xs, e with
  | [], e =>
    have mem : t ∈ later := second.subset (by simp [← (show [t', t] = ys from e)])
    exact absurd rfl (apart t ended t mem)
  | x :: xs, e =>
    obtain ⟨rfl, -⟩ := List.cons.inj e
    exact first.subset (List.mem_cons_self ..)

theorem length_accepted (h : Orderly w) :
    w.accepted.length = w.results.length + w.current.length + w.runner.queue.length := by
  rw [h.accepted, h.begun, List.length_append, List.length_append]
  simp [ended, waitingTasks]

end Orderly

/-! ## Calls from the worker -/

/-- The calls around one that is over: the first of them has its answer. -/
def answering (result : ρ) : List (List ρ) → List (List ρ)
  | caller :: around => (caller ++ [result]) :: around
  | [] => []

theorem length_answering (result : ρ) (around : List (List ρ)) :
    (answering result around).length = around.length := by
  cases around <;> rfl

/-- While the worker is at a task nothing that waits is begun, and only the innermost call goes on: it may
make another call, or be over, of which the call around it has the answer. -/
theorem calls_step {w : World ρ} (h : Orderly w) (busy : w.calls ≠ []) (a : Act ρ) :
    (w.step a).begun = w.begun ∧
      ((w.step a).calls = w.calls ∨
        a = .inside .invoke ∧ (w.step a).calls = [] :: w.calls ∨
        ∃ result, a = .inside (.finish result) ∧ ∃ innermost around, w.calls = innermost :: around ∧
          (w.step a).calls = answering result around) := by
  obtain ⟨r, working⟩ : ∃ r, w.running = some r := by
    cases working : w.running with
    | some r => exact ⟨r, rfl⟩
    | none => simp [calls, working] at busy
  have stage : w.runner.stage = .busy := h.busy.2 (by rw [working]; rfl)
  have calls : w.calls = r.calls := by simp [World.calls, working]
  have outside {who : Nat} (acts : a.thread? = some who) :
      (w.step a).begun = w.begun ∧ (w.step a).calls = w.calls := by
    obtain ⟨running, begun, -⟩ := step_of_thread w acts
    exact ⟨begun, by simp [World.calls, running]⟩
  cases a with
  | post who => exact (outside rfl).imp_right .inl
  | invoke who => exact (outside rfl).imp_right .inl
  | stop who => exact (outside rfl).imp_right .inl
  | resume who => exact (outside rfl).imp_right .inl
  | start =>
    have nothing : w.step .start = w := by
      simp [step, start, Runner.begin?, stage]
    rw [nothing]
    exact ⟨rfl, .inl rfl⟩
  | leave =>
    have nothing : w.step .leave = w := by
      simp [step, Runner.leave?, stage]
    rw [nothing]
    exact ⟨rfl, .inl rfl⟩
  | inside x =>
    have acts : w.step (.inside x) = w.inside r x := by
      simp [step, working]
    rw [acts]
    cases x with
    | post => exact ⟨rfl, .inl rfl⟩
    | stop => exact ⟨rfl, .inl rfl⟩
    | invoke =>
      refine ⟨rfl, .inr (.inl ⟨rfl, ?_⟩)⟩
      rw [calls]
      rfl
    | finish result =>
      have innermost : w.calls = r.answers :: r.around := calls
      unfold inside
      dsimp only
      split
      · rename_i caller rest around
        exact ⟨rfl, .inr (.inr ⟨result, rfl, _, _, innermost, by rw [around]; rfl⟩)⟩
      · rename_i around
        exact ⟨rfl, .inr (.inr ⟨result, rfl, _, _, innermost, by rw [around]; rfl⟩)⟩

/-- As long as the worker is inside a call, what is around the call stays as it is. -/
theorem calls_inside (name : String) {schedule : Nat → Act ρ} {n m : Nat} {outer : List (List ρ)}
    {begun : List Nat} (entered : (after name schedule n).calls = [] :: outer)
    (before : (after name schedule n).begun = begun) (le : n ≤ m)
    (deeper : ∀ k, n ≤ k → k ≤ m → outer.length < (after name schedule k).calls.length) :
    (after name schedule m).begun = begun ∧
      ∃ inner, inner ≠ [] ∧ (after name schedule m).calls = inner ++ outer := by
  induction m, le using Nat.le_induction with
  | base => exact ⟨before, [[]], by simp, entered⟩
  | succ m le ih =>
    obtain ⟨same, inner, some_, calls⟩ := ih fun k low high => deeper k low (by omega)
    have deep := deeper (m + 1) (by omega) (Nat.le_refl _)
    have busy : (after name schedule m).calls ≠ [] := by simp [calls, some_]
    obtain ⟨unchanged, goes⟩ := calls_step (orderly_after name schedule m) busy (schedule m)
    have next : after name schedule (m + 1) = (after name schedule m).step (schedule m) := rfl
    rw [next] at deep ⊢
    refine ⟨unchanged.trans same, ?_⟩
    obtain stays | ⟨-, made⟩ | ⟨result, -, innermost, around, here, finished⟩ := goes
    · exact ⟨inner, some_, stays.trans calls⟩
    · exact ⟨[] :: inner, by simp, by rw [made, calls]; rfl⟩
    · -- the call that is over is not the first that was entered
      rw [calls] at here
      rw [finished] at deep ⊢
      match inner, here with
      | [last], here =>
        obtain ⟨-, rfl⟩ := List.cons.inj here
        rw [length_answering] at deep
        exact absurd deep (Nat.lt_irrefl _)
      | first :: second :: rest, here =>
        obtain ⟨-, rfl⟩ := List.cons.inj here
        exact ⟨(second ++ [result]) :: rest, by simp, rfl⟩

/-! ## Every task is run -/

/-- The worker gets its turn again and again, and whenever it is at a task, the task is over at some time. -/
structure Lively (name : String) (schedule : Nat → Act ρ) : Prop where
  starts : ∀ n, ∃ m, n ≤ m ∧ schedule m = .start
  returns : ∀ n, (after name schedule n).running.isSome = true →
    ∃ m, n ≤ m ∧ (after name schedule m).running = none

theorem begun_start {w : World ρ} (h : Orderly w) (resting : w.running = none) (waits : w.runner.queue ≠ []) :
    w.start.begun.length = w.begun.length + 1 := by
  have idle : w.runner.stage = .idle := by
    cases stage : w.runner.stage with
    | idle => rfl
    | busy =>
      have busy := h.busy.1 stage
      rw [resting] at busy
      cases busy
    | gone => exact absurd (h.gone stage).1 waits
  obtain ⟨job, rest, queue⟩ := List.exists_cons_of_ne_nil waits
  simp [start, Runner.begin?, idle, queue]

section Liveness

variable {name : String} {schedule : Nat → Act ρ} (lively : Lively name schedule)
include lively

theorem rests (n : Nat) : ∃ m, n ≤ m ∧ (after name schedule m).running = none := by
  by_cases busy : (after name schedule n).running.isSome = true
  · exact lively.returns n busy
  · exact ⟨n, Nat.le_refl n, Option.not_isSome_iff_eq_none.1 busy⟩

/-- As long as some task was accepted that is not over, one more will be. -/
theorem one_more {n : Nat}
    (behind : (after name schedule n).results.length < (after name schedule n).accepted.length) :
    ∃ m, n ≤ m ∧ (after name schedule n).results.length < (after name schedule m).results.length := by
  obtain ⟨m, le, turn⟩ := lively.starts n
  have h := orderly_after name schedule m
  have lengths := h.length_accepted
  have begun : (after name schedule m).begun.length =
      (after name schedule m).results.length + (after name schedule m).current.length := by
    rw [h.begun]
    simp [ended]
  have accepted := (grows_after name schedule le).accepted.length_le
  have results := (grows_after name schedule le).results.length_le
  have more := (grows_after name schedule (show m ≤ m + 1 by omega)).begun.length_le
  -- after the turn of the worker some task was begun that was not over at first
  have started : (after name schedule n).results.length < (after name schedule (m + 1)).begun.length := by
    cases running : (after name schedule m).running with
    | some r =>
      have one : (after name schedule m).current.length = 1 := by simp [current, running]
      omega
    | none =>
      have nobody : (after name schedule m).current.length = 0 := by simp [current, running]
      by_cases queue : (after name schedule m).runner.queue = []
      · rw [queue, List.length_nil] at lengths
        omega
      · have next : after name schedule (m + 1) = (after name schedule m).start := by
          show (after name schedule m).step (schedule m) = _
          rw [turn]
          rfl
        rw [next, begun_start h running queue]
        omega
  -- and it is over when the worker rests the next time
  obtain ⟨k, later, resting⟩ := rests lively (m + 1)
  have finished := (orderly_after name schedule k).begun
  have grown := (grows_after name schedule later).begun.length_le
  refine ⟨k, by omega, ?_⟩
  rw [finished] at grown
  simp [ended, current, resting] at grown
  omega

theorem all_run (n : Nat) : ∃ m, n ≤ m ∧ (after name schedule n).accepted <+: (after name schedule m).ended := by
  have reach : ∀ j, j ≤ (after name schedule n).accepted.length →
      ∃ m, n ≤ m ∧ j ≤ (after name schedule m).results.length := by
    intro j
    induction j with
    | zero => exact fun _ => ⟨n, Nat.le_refl n, Nat.zero_le _⟩
    | succ j ih =>
      intro le
      obtain ⟨m, low, reached⟩ := ih (by omega)
      by_cases enough : j + 1 ≤ (after name schedule m).results.length
      · exact ⟨m, low, enough⟩
      · have accepted := (grows_after name schedule low).accepted.length_le
        obtain ⟨k, later, more⟩ := one_more lively (n := m) (by omega)
        exact ⟨k, by omega, by omega⟩
  obtain ⟨m, le, reached⟩ := reach _ (Nat.le_refl _)
  have finished := (orderly_after name schedule m).prefix_ended
  have accepted := (grows_after name schedule le).accepted
  refine ⟨m, le, List.prefix_of_prefix_length_le accepted finished ?_⟩
  rw [ended, List.length_map]
  exact reached

end Liveness

/-! ## Calls from other threads -/

section Calls

variable {w : World ρ} {who t : Nat}

theorem lookup_of_mem {replies : List (Nat × ρ)} {x : ρ} (sent : (t, x) ∈ replies) :
    ∃ y, replies.lookup t = some y := by
  cases found : replies.lookup t with
  | some y => exact ⟨y, rfl⟩
  | none =>
    have absent := List.lookup_eq_none_iff.1 found (t, x) sent
    simp at absent

theorem Orderly.accepted_of_waiting (h : Orderly w) (waits : w.callers who = .waiting t) : t ∈ w.accepted := by
  rw [h.accepted, h.begun]
  obtain queued | ⟨r, working, job⟩ | ⟨x, sent⟩ := h.waiting who t waits
  · refine List.mem_append_right _ ?_
    exact List.mem_map.2 ⟨_, queued, rfl⟩
  · refine List.mem_append_left _ (List.mem_append_right _ ?_)
    simp [current, working, job]
  · refine List.mem_append_left _ (List.mem_append_left _ ?_)
    exact List.mem_map.2 ⟨_, h.replies _ sent, rfl⟩

theorem Orderly.replied_of_ended (h : Orderly w) (waits : w.callers who = .waiting t) (finished : t ∈ w.ended) :
    ∃ x, (t, x) ∈ w.replies := by
  have distinct : w.accepted.Nodup := (List.nodup_append.1 h.distinct).1
  rw [h.accepted, h.begun, List.append_assoc] at distinct
  have apart := (List.nodup_append.1 distinct).2.2 t finished
  obtain queued | ⟨r, working, job⟩ | sent := h.waiting who t waits
  · have mem : t ∈ w.waitingTasks := List.mem_map.2 ⟨_, queued, rfl⟩
    exact absurd rfl (apart t (List.mem_append_right _ mem))
  · have mem : t ∈ w.current := by simp [current, working, job]
    exact absurd rfl (apart t (List.mem_append_left _ mem))
  · exact sent

theorem answered_of_sent {x : ρ} (waits : w.callers who = .waiting t) (sent : (t, x) ∈ w.replies) :
    ∃ y, (t, some y) ∈ (w.resume who).answers := by
  obtain ⟨y, found⟩ := lookup_of_mem sent
  refine ⟨y, ?_⟩
  unfold resume
  rw [waits]
  dsimp only
  rw [found]
  exact List.mem_append_right _ (List.mem_singleton.2 rfl)

theorem waiting_call (h : Orderly w) (ok : w.issued ∈ (w.call who).accepted) :
    (w.call who).callers who = .waiting w.issued := by
  unfold call at ok ⊢
  split
  · simp [setCaller]
  · rename_i closed
    rw [if_neg closed] at ok
    rw [offer_of_closed true (Bool.eq_false_iff.2 closed)] at ok
    exact absurd (h.numbered _ (List.mem_append_left _ ok)) (Nat.lt_irrefl _)

/-- A thread waits until it is answered. -/
theorem waiting_step (h : Orderly w) (waits : w.callers who = .waiting t) (a : Act ρ) :
    (w.step a).callers who = .waiting t ∨ ∃ x, (t, some x) ∈ (w.step a).answers := by
  have busy : w.callers who ≠ .free := by
    rw [waits]
    exact nofun
  have unmoved (nothing : w.step a = w) : (w.step a).callers who = .waiting t := by
    rw [nothing]
    exact waits
  by_cases own : a.thread? = some who
  · cases a with
    | post _ =>
      cases own
      exact .inl (unmoved (if_neg busy))
    | invoke _ =>
      cases own
      exact .inl (unmoved (if_neg busy))
    | stop _ =>
      cases own
      exact .inl (unmoved (if_neg busy))
    | resume _ =>
      cases own
      show (w.resume who).callers who = _ ∨ ∃ x, (t, some x) ∈ (w.resume who).answers
      cases found : w.replies.lookup t with
      | some x =>
        obtain ⟨_, _, split, -⟩ := List.lookup_eq_some_iff.1 found
        have sent : (t, x) ∈ w.replies := by simp [split]
        exact .inr (answered_of_sent waits sent)
      | none =>
        -- the worker is there still, since a call is answered before it goes
        have stays : w.runner.stage ≠ .gone := by
          intro gone
          obtain ⟨x, sent⟩ := h.replied_of_gone gone waits
          obtain ⟨y, found'⟩ := lookup_of_mem sent
          rw [found] at found'
          cases found'
        have nothing : w.resume who = w := by simp [resume, waits, found, stays]
        exact .inl (unmoved nothing)
    | start => cases own
    | inside _ => cases own
    | leave => cases own
  · refine .inl (Eq.trans ?_ waits)
    cases acts : a.thread? with
    | none => rw [callers_of_worker w acts]
    | some other =>
      have apart : who ≠ other := fun e => own (acts.trans (congrArg some e.symm))
      exact (step_of_thread w acts).2.2 who apart

end Calls

/-- A thread that waits, and that looks for its answer again and again, has it at some time. -/
theorem answered_of_waiting {name : String} {schedule : Nat → Act ρ} (lively : Lively name schedule)
    {who : Nat} (looks : ∀ n, ∃ m, n ≤ m ∧ schedule m = .resume who) {n t : Nat}
    (waits : (after name schedule n).callers who = .waiting t) :
    ∃ m x, (t, some x) ∈ (after name schedule m).answers := by
  have until_ : ∀ m, n ≤ m → (after name schedule m).callers who = .waiting t ∨
      ∃ x, (t, some x) ∈ (after name schedule m).answers := by
    intro m le
    induction m, le using Nat.le_induction with
    | base => exact .inl waits
    | succ m _ ih =>
      obtain waits | ⟨x, answered⟩ := ih
      · exact waiting_step (orderly_after name schedule m) waits (schedule m)
      · exact .inr ⟨x, (grows_after name schedule (show m ≤ m + 1 by omega)).answers.subset answered⟩
  have accepted := (orderly_after name schedule n).accepted_of_waiting waits
  obtain ⟨m, le, run⟩ := all_run lively n
  obtain ⟨k, later, turn⟩ := looks m
  obtain waits | ⟨x, answered⟩ := until_ k (by omega)
  · have finished : t ∈ (after name schedule k).ended := by
      have results := (grows_after name schedule later).results
      exact (results.map Prod.fst).subset (run.subset accepted)
    obtain ⟨x, sent⟩ := (orderly_after name schedule k).replied_of_ended waits finished
    obtain ⟨y, answered⟩ := answered_of_sent waits sent
    refine ⟨k + 1, y, ?_⟩
    show (t, some y) ∈ ((after name schedule k).step (schedule k)).answers
    rw [turn]
    exact answered
  · exact ⟨k, x, answered⟩

/-! ## Every schedule -/

theorem calls_invoke {w : World ρ} (busy : w.calls ≠ []) : (w.step (.inside .invoke)).calls = [] :: w.calls := by
  cases working : w.running with
  | none => simp [calls, working] at busy
  | some r => simp [step, working, inside, calls, Running.calls]

/-- A task that was refused is begun neither before nor after. -/
theorem never_begun {name : String} {schedule : Nat → Act ρ} {n t : Nat}
    (refused : t ∈ (after name schedule n).refused) (m : Nat) : t ∉ (after name schedule m).begun := by
  intro begun
  have h := orderly_after name schedule (max n m)
  have refused := (grows_after name schedule (Nat.le_max_left n m)).refused.subset refused
  have begun := (grows_after name schedule (Nat.le_max_right n m)).begun.subset begun
  have apart := (List.nodup_append.1 h.distinct).2.2
  exact apart t (h.prefix_begun.subset begun) t refused rfl

/-- What a call returned: nothing if it was refused; otherwise what its task returned, and then everything
accepted before it is over. -/
theorem Orderly.returned {w : World ρ} (h : Orderly w) {t : Nat} {a : Option ρ} (answered : (t, a) ∈ w.answers) :
    t ∈ w.refused ∧ a = none ∨ t ∈ w.accepted ∧ ∃ x, a = some x ∧ (t, x) ∈ w.results ∧
      ∀ t', [t', t].Sublist w.accepted → t' ∈ w.ended := by
  obtain refused | ⟨x, e, result⟩ := h.answered t a answered
  · exact .inl refused
  · have finished : t ∈ w.ended := List.mem_map.2 ⟨_, result, rfl⟩
    exact .inr ⟨h.prefix_ended.subset finished, x, e, result, fun _ before => h.ended_of_before finished before⟩

/-- The act after which the worker is back where it was when a call was entered is the end of that call. -/
theorem call_over {w : World ρ} (h : Orderly w) {inner outer : List (List ρ)} (some_ : inner ≠ [])
    (calls : w.calls = inner ++ outer) {a : Act ρ} (back : (w.step a).calls.length ≤ outer.length) :
    ∃ result, a = .inside (.finish result) ∧ (w.step a).calls = answering result outer := by
  have deep : outer.length < w.calls.length := by
    have := List.length_pos_iff.2 some_
    rw [calls, List.length_append]
    omega
  have busy : w.calls ≠ [] := List.ne_nil_of_length_pos (by omega)
  obtain stays | ⟨-, made⟩ | ⟨result, act, innermost, around, here, finished⟩ := (calls_step h busy a).2
  · rw [stays] at back
    omega
  · rw [made, List.length_cons] at back
    omega
  · refine ⟨result, act, ?_⟩
    obtain ⟨first, rest, rfl⟩ := List.exists_cons_of_ne_nil some_
    rw [calls] at here
    obtain rfl : rest ++ outer = around := (List.cons.inj here).2
    rw [finished, length_answering, List.length_append] at back
    obtain rfl : rest = [] := List.eq_nil_of_length_eq_zero (by omega)
    exact finished

/-- In every interleaving the tasks that were accepted run once each, one at a time and in the order of
acceptance, also after a stop, and a task that was refused never runs. A call from another thread is
answered what its own task returned, and everything accepted before it is over then. A call from the worker
is entered at once, however deep, and nothing that waits is begun before it is over. -/
theorem tasks_run_in_order (name : String) (schedule : Nat → Act ρ) :
    let w := after name schedule
    (∀ n, (w n).accepted = (w n).ended ++ (w n).current ++ (w n).waitingTasks ∧
        (w n).begun = (w n).ended ++ (w n).current ∧ ((w n).accepted ++ (w n).refused).Nodup ∧
        (∀ t ∈ (w n).refused, ∀ m, t ∉ (w m).begun) ∧
        ∀ t a, (t, a) ∈ (w n).answers →
          t ∈ (w n).refused ∧ a = none ∨
          t ∈ (w n).accepted ∧ ∃ x, a = some x ∧ (t, x) ∈ (w n).results ∧
            ∀ t', [t', t].Sublist (w n).accepted → t' ∈ (w n).ended) ∧
    (∀ n, schedule n = .inside .invoke → (w n).calls ≠ [] →
      (w (n + 1)).calls = [] :: (w n).calls ∧
      ∀ m, n < m → (∀ k, n < k → k ≤ m → (w n).calls.length < (w k).calls.length) →
        (w m).begun = (w n).begun ∧ (∃ inner, inner ≠ [] ∧ (w m).calls = inner ++ (w n).calls) ∧
        ((w (m + 1)).calls.length ≤ (w n).calls.length → ∃ result, schedule m = .inside (.finish result) ∧
            (w (m + 1)).calls = answering result (w n).calls)) ∧
    (Lively name schedule →
      (∀ n, ∃ m, n ≤ m ∧ (w n).accepted <+: (w m).ended) ∧
      ∀ who, (∀ n, ∃ m, n ≤ m ∧ schedule m = .resume who) →
        ∀ n, schedule n = .invoke who → (w n).callers who = .free → (w n).issued ∈ (w (n + 1)).accepted →
          ∃ m x, ((w n).issued, some x) ∈ (w m).answers) := by
  intro w
  refine ⟨fun n => ?_, fun n invoke busy => ?_, fun lively => ⟨all_run lively, fun who looks n invoke free ok => ?_⟩⟩
  · have h : Orderly (w n) := orderly_after name schedule n
    refine ⟨?_, h.begun, h.distinct, fun t refused => never_begun refused, fun t a => h.returned⟩
    rw [← h.begun]
    exact h.accepted
  · have h : Orderly (w n) := orderly_after name schedule n
    have next : w (n + 1) = (w n).step (.inside .invoke) := by
      rw [← invoke]
      rfl
    have entered : (w (n + 1)).calls = [] :: (w n).calls := by
      rw [next]
      exact calls_invoke busy
    have before : (w (n + 1)).begun = (w n).begun := by
      rw [next]
      exact (calls_step h busy _).1
    refine ⟨entered, fun m later deeper => ?_⟩
    obtain ⟨begun, inner, some_, calls⟩ :=
      calls_inside name entered before later fun k low high => deeper k low high
    exact ⟨begun, ⟨inner, some_, calls⟩, call_over (orderly_after name schedule m) some_ calls⟩
  · have next : w (n + 1) = (w n).call who := by
      show (w n).step (schedule n) = _
      rw [invoke]
      exact if_pos free
    rw [next] at ok
    have waits : (w (n + 1)).callers who = .waiting (w n).issued := by
      rw [next]
      exact waiting_call (orderly_after name schedule n) ok
    exact answered_of_waiting lively looks waits

/-- Two threads give tasks to a runner; the first task makes calls one inside the other, in which the runner
is stopped by a third thread, so that a last task is refused. -/
def opening : List (Act Nat) :=
  [.post 1, .invoke 0, .start, .inside .post, .inside .invoke, .inside .invoke, .stop 2, .post 1,
    .inside (.finish 7), .inside (.finish 8), .inside (.finish 9)]

def turns (n : Nat) : Act Nat :=
  match n % 3 with
  | 0 => .start
  | 1 => .inside (.finish 5)
  | _ => .resume 0

def stoppedEarly (n : Nat) : Act Nat := opening.getD n (turns n)

theorem stoppedEarly_of_opened {n : Nat} (opened : 11 ≤ n) : stoppedEarly n = turns n := by
  unfold stoppedEarly
  rw [List.getD_eq_getElem?_getD, List.getElem?_eq_none opened]
  rfl

theorem rests_stoppedEarly {n : Nat} (late : 17 ≤ n) : after "io" stoppedEarly n = after "io" stoppedEarly 17 := by
  induction n, late using Nat.le_induction with
  | base => rfl
  | succ n late ih =>
    show (after "io" stoppedEarly n).step (stoppedEarly n) = _
    rw [ih, stoppedEarly_of_opened (by omega)]
    unfold turns
    split <;> rfl

theorem lively_stoppedEarly : Lively "io" stoppedEarly where
  starts n := by
    refine ⟨3 * (n + 4), by omega, ?_⟩
    rw [stoppedEarly_of_opened (by omega)]
    simp [turns]
  returns n _ := by
    refine ⟨max n 17, Nat.le_max_left .., ?_⟩
    rw [rests_stoppedEarly (Nat.le_max_right ..)]
    rfl

/-- The runner is stopped at its seventh act. The three tasks that were accepted are over at last and the
fourth never runs; the call of the first thread is answered after the task that was accepted before it, and
the outer of the calls that the first task makes is over when the inner one is. -/
theorem tasks_run_in_order_stopped :
    (after "io" stoppedEarly 8).accepted = [0, 1, 2] ∧ (∀ m, 3 ∉ (after "io" stoppedEarly m).begun) ∧
      (∃ m, 8 ≤ m ∧ [0, 1, 2] <+: (after "io" stoppedEarly m).ended) ∧
      (∃ m x, (1, some x) ∈ (after "io" stoppedEarly m).answers) ∧
      0 ∈ (after "io" stoppedEarly 15).ended ∧
      ∃ result, Act.inside (.finish 8) = .inside (.finish result) ∧
        (after "io" stoppedEarly 10).calls = answering result [[]] := by
  obtain ⟨order, inline, live⟩ := tasks_run_in_order "io" stoppedEarly
  obtain ⟨run, answered⟩ := live lively_stoppedEarly
  have looks : ∀ n, ∃ m, n ≤ m ∧ stoppedEarly m = .resume 0 := by
    intro n
    refine ⟨3 * (n + 4) + 2, by omega, ?_⟩
    rw [stoppedEarly_of_opened (by omega), turns]
    have mod : (3 * (n + 4) + 2) % 3 = 2 := by omega
    rw [mod]
    rfl
  refine ⟨by decide, (order 8).2.2.2.1 3 (by decide), run 8, answered 0 looks 1 rfl rfl (by decide), ?_, ?_⟩
  · obtain ⟨refused, -⟩ | ⟨-, x, -, -, before⟩ := (order 15).2.2.2.2 1 (some 5) (by decide)
    · exact absurd refused (by decide)
    · exact before 0 (by decide)
  · have deeper : ∀ k, k ≤ 9 → 4 < k →
        (after "io" stoppedEarly 4).calls.length < (after "io" stoppedEarly k).calls.length := by
      decide
    exact ((inline 4 rfl (by decide)).2 9 (by decide) fun k low high => deeper k high low).2.2 (by decide)

end World

end QuicSessions.Runner
