import QuicSessions.Proofs.Instances.Runs

/-!
# The worker of an instance

What a task does has nothing to do with what else is in the queue, so a task that is posted behind others is
carried out on what those left. Between calls an instance is at rest: its worker is at no task, no launch is
left in the queue, and what the dispatcher posted has been taken over.
-/

set_option autoImplicit false

namespace QuicSessions.Instance

variable {ν ε τ π : Type}

/-! ## Taking over what was posted -/

/-- What the installed dispatcher posted has been taken over. -/
def Collected (i : Instance ν ε τ π) : Prop := ∀ d, i.thread.installed = some d → d.posted = []

theorem collect_eq (i : Instance ν ε τ π) : ∃ thread notices,
    i.collect = { i with thread := thread, notices := notices } := by
  unfold collect
  split <;> exact ⟨_, _, rfl⟩

theorem collected_collect (i : Instance ν ε τ π) : Collected i.collect := by
  unfold collect
  intro d installed
  split at installed
  · rename_i vacant
    rw [vacant] at installed
    cases installed
  · cases installed
    rfl

theorem collect_of_collected {i : Instance ν ε τ π} (collected : Collected i) : i.collect = i := by
  obtain ⟨io, ⟨installed, loops⟩, visitor, listener, notices, launched⟩ := i
  cases installed with
  | none => rfl
  | some d =>
    have posted : d.posted = [] := collected d rfl
    unfold collect
    dsimp only
    rw [posted, List.append_nil, ← posted]

theorem collect_io (io : Runner (Task ν)) (i : Instance ν ε τ π) :
    { i with io := io }.collect = { i.collect with io := io } := by
  unfold collect
  dsimp only
  split <;> rfl

/-! ## Tasks -/

/-- Whether the task is to launch a dispatcher. -/
def Task.launches : Task ν → Bool
  | .launch _ => true
  | _ => false

/-- The instance with another task at the end of its queue. -/
def push (task : Task ν) (i : Instance ν ε τ π) : Instance ν ε τ π :=
  { i with io := { i.io with queue := i.io.queue ++ [task] } }

theorem post_eq (task : Task ν) (i : Instance ν ε τ π) :
    (i.post task).2 = if i.io.serving then i.push task else i := by
  unfold post Runner.post
  dsimp only
  split <;> rfl

section
variable {α : Type} {op : Option (Dispatcher ε τ π) → Except Fault (α × Option (Dispatcher ε τ π))}

theorem operate_io (io : Runner (Task ν)) (i : Instance ν ε τ π) :
    operate op { i with io := io } = (operate op i).map fun (r, i') => (r, { i' with io := io }) := by
  unfold operate
  dsimp only
  cases i.thread.operate op with
  | error e => rfl
  | ok done => exact congrArg (fun i' => Except.ok (done.1, i')) (collect_io io { i with thread := done.2 })

theorem launched_operate {i i' : Instance ν ε τ π} {r : α} (h : i.operate op = .ok (r, i')) :
    i'.launched = i.launched ∧ i'.io = i.io ∧ Collected i' := by
  obtain ⟨⟨_, thread⟩, -, h⟩ := ok_of_bind h
  cases h
  obtain ⟨_, _, collects⟩ := collect_eq { i with thread := thread }
  exact ⟨by rw [collects], by rw [collects], collected_collect _⟩

end

variable [Installable ν] [Transport τ] [Endpoint ε τ π] {i i' : Instance ν ε τ π} {now : Instant}
  {held : List SocketAddress} {task : Task ν} {rest : List (Task ν)}

theorem do_snd_eq {α β : Type} (x : Except Fault (α × β)) :
    (do let (_, b) ← x; return b) = x.map Prod.snd := by
  cases x <;> rfl

/-- A task launches, or stops, or it is an operation on what is installed. -/
theorem perform_forms (now : Instant) (held : List SocketAddress) (task : Task ν) :
    (∃ l, task = .launch l) ∨ task = .stop ∨
      ∃ (α : Type) (op : Option (Dispatcher ε τ π) → Except Fault (α × Option (Dispatcher ε τ π))),
        ∀ i : Instance ν ε τ π, i.perform now held task = (i.operate op).map Prod.snd := by
  cases task with
  | launch l => exact .inl ⟨l, rfl⟩
  | stop => exact .inr (.inl rfl)
  | useVisitor v => exact .inr (.inr ⟨_, _, fun i => do_snd_eq (i.operate _)⟩)
  | useListener l => exact .inr (.inr ⟨_, _, fun i => do_snd_eq (i.operate _)⟩)
  | send session stream data => exact .inr (.inr ⟨_, _, fun i => do_snd_eq (i.operate _)⟩)

/-- What a task does has nothing to do with the runner. -/
theorem perform_io (now : Instant) (held : List SocketAddress) (task : Task ν) (io : Runner (Task ν))
    (i : Instance ν ε τ π) : perform now held task { i with io := io } =
      (perform now held task i).map fun i' => { i' with io := io } := by
  obtain ⟨l, rfl⟩ | rfl | ⟨_, op, operates⟩ := perform_forms (ε := ε) (τ := τ) (π := π) now held task
  · unfold perform
    dsimp only
    cases i.thread.launch l.occupied (i.thread.sockets ++ held) l.bindTo (l.make now) with
    | error e => rfl
    | ok done =>
      exact congrArg Except.ok (collect_io io { i with thread := done.2, launched := some done.1 })
  · unfold perform
    dsimp only
    cases i.thread.stop now <;> rfl
  · rw [operates, operates, operate_io]
    cases i.operate op <;> rfl

theorem perform_launch (now : Instant) (held : List SocketAddress) (l : Launch ν) (i : Instance ν ε τ π) :
    i.perform now held (.launch l) =
      (i.thread.launch l.occupied (i.thread.sockets ++ held) l.bindTo (l.make now)).map fun done =>
        { i with thread := done.2, launched := some done.1 }.collect := by
  unfold perform
  dsimp only
  cases i.thread.launch l.occupied (i.thread.sockets ++ held) l.bindTo (l.make now) <;> rfl

theorem perform_push (now : Instant) (held : List SocketAddress) (first later : Task ν)
    (i : Instance ν ε τ π) : (i.push later).perform now held first =
      (i.perform now held first).map fun i' => { i' with io := (i.push later).io } :=
  perform_io now held first _ i

/-- A task that launches nothing leaves what came of the last launch. -/
theorem launched_perform (ordinary : task.launches = false)
    (h : i.perform now held task = .ok i') : i'.launched = i.launched ∧ Collected i' := by
  obtain ⟨l, rfl⟩ | rfl | ⟨_, op, operates⟩ := perform_forms (ε := ε) (τ := τ) (π := π) now held task
  · cases ordinary
  · obtain ⟨⟨taken, thread⟩, stopped, h⟩ := ok_of_bind h
    cases h
    refine ⟨rfl, fun d installed => ?_⟩
    unfold IoThread.stop at stopped
    split at stopped
    · rename_i vacant
      cases stopped
      rw [vacant] at installed
      cases installed
    · obtain ⟨_, -, stopped⟩ := ok_of_bind stopped
      cases stopped
      cases installed
  · rw [operates] at h
    cases operated : i.operate op with
    | error e =>
      rw [operated] at h
      cases h
    | ok done =>
      rw [operated] at h
      cases h
      obtain ⟨launched, -, collected⟩ := launched_operate operated
      exact ⟨launched, collected⟩

/-! ## The queue -/

theorem workOne_of_cons (idle : i.io.stage = .idle) (queue : i.io.queue = task :: rest) :
    i.workOne now held = match i.perform now held task with
      | .ok i' => { i' with io := { i.io with queue := rest } }
      | .error _ => i.crash := by
  have begun : i.io.begin? = some (task, { i.io with queue := rest, stage := .busy }) := by
    unfold Runner.begin?
    rw [idle, queue]
  unfold workOne
  rw [begun]
  dsimp only
  rw [perform_io]
  cases i.perform now held task with
  | error e => rfl
  | ok i' =>
    show { i' with io := { i.io with queue := rest, stage := .idle } } = _
    rw [← idle]

/-- A worker that is at something, or gone, or has nothing to do, begins nothing. -/
theorem workOne_of_waiting (waits : i.io.stage ≠ .idle ∨ i.io.queue = []) : i.workOne now held = i := by
  have nothing : i.io.begin? = none := by
    unfold Runner.begin?
    split
    · rename_i idle queue
      rw [idle, queue] at waits
      exact absurd waits (by simp)
    · rfl
  unfold workOne
  rw [nothing]

theorem foldl_workOne_of_busy (busy : i.io.stage ≠ .idle) (tasks : List (Task ν)) :
    tasks.foldl (fun i _ => i.workOne now held) i = i := by
  induction tasks with
  | nil => rfl
  | cons task tasks ih =>
    rw [List.foldl_cons, workOne_of_waiting (.inl busy)]
    exact ih

theorem work_of_busy (busy : i.io.stage ≠ .idle) : i.work now held = i :=
  foldl_workOne_of_busy busy i.io.queue

theorem work_of_nil (empty : i.io.queue = []) : i.work now held = i := by
  unfold work
  rw [empty]
  rfl

theorem work_of_cons (idle : i.io.stage = .idle) (queue : i.io.queue = task :: rest) :
    i.work now held = match i.perform now held task with
      | .ok i' => { i' with io := { i.io with queue := rest } }.work now held
      | .error _ => i.crash := by
  have first : i.work now held = rest.foldl (fun i _ => i.workOne now held) (i.workOne now held) := by
    unfold work
    rw [queue]
    rfl
  rw [first, workOne_of_cons idle queue]
  cases i.perform now held task with
  | ok i' => rfl
  | error e =>
    have gone : i.crash.io.stage ≠ .idle := nofun
    exact foldl_workOne_of_busy gone rest

/-- A task at the end of the queue is carried out on what the tasks before it leave, if they leave a
worker. -/
theorem work_push (idle : i.io.stage = .idle) (now : Instant) (held : List SocketAddress) (task : Task ν) :
    ((i.work now held).io = i.io.fail ∧ (i.push task).work now held = i.work now held) ∨
    ((i.work now held).io = { i.io with queue := [] } ∧
      (i.push task).work now held = match (i.work now held).perform now held task with
        | .ok i' => { i' with io := (i.work now held).io }
        | .error _ => (i.work now held).crash) := by
  generalize tasks : i.io.queue = queue
  induction queue generalizing i with
  | nil =>
    have pushed : (i.push task).io.queue = [task] := by
      show i.io.queue ++ [task] = _
      rw [tasks]
      rfl
    have alone : { i.io with queue := [] } = i.io := by rw [← tasks]
    refine .inr ⟨by rw [work_of_nil tasks, alone], ?_⟩
    rw [work_of_cons (i := i.push task) idle pushed, work_of_nil tasks]
    rw [perform_push]
    cases i.perform now held task with
    | error e => rfl
    | ok i' =>
      show ({ i' with io := { i.io with queue := [] } } : Instance ν ε τ π).work now held =
        { i' with io := i.io }
      rw [work_of_nil rfl, alone]
  | cons first rest ih =>
    have pushed : (i.push task).io.queue = first :: (rest ++ [task]) := by
      show i.io.queue ++ [task] = _
      rw [tasks]
      rfl
    rw [work_of_cons (i := i.push task) idle pushed, work_of_cons idle tasks]
    rw [perform_push]
    cases i.perform now held first with
    | error e => exact .inl ⟨rfl, rfl⟩
    | ok i' => exact ih (i := { i' with io := { i.io with queue := rest } }) idle rfl

/-! ## Between calls -/

/-- The worker is at no task, no launch waits, and all that was posted has been taken over. -/
structure Rested (i : Instance ν ε τ π) : Prop where
  free : i.io.stage ≠ .busy
  taken : i.launched = none
  ordinary : ∀ task ∈ i.io.queue, task.launches = false
  collected : Collected i

namespace Rested

omit [Installable ν] [Transport τ] [Endpoint ε τ π] in
theorem crash (rested : Rested i) : Rested i.crash where
  free gone := by cases gone
  taken := rested.taken
  ordinary _ mem := by cases mem
  collected _ installed := by cases installed

omit [Installable ν] [Transport τ] [Endpoint ε τ π] in
theorem collect (rested : Rested i) (thread : IoThread ε τ π) :
    Rested { i with thread := thread }.collect := by
  have collected := collected_collect { i with thread := thread }
  obtain ⟨_, _, collects⟩ := collect_eq { i with thread := thread }
  rw [collects] at collected ⊢
  exact ⟨rested.free, rested.taken, rested.ordinary, collected⟩

omit [Installable ν] [Transport τ] [Endpoint ε τ π] in
theorem operate (rested : Rested i) {α : Type} {r : α}
    {op : Option (Dispatcher ε τ π) → Except Fault (α × Option (Dispatcher ε τ π))}
    (operated : i.operate op = .ok (r, i')) : Rested i' := by
  obtain ⟨launched, io, collected⟩ := launched_operate operated
  exact ⟨io ▸ rested.free, launched.trans rested.taken, io ▸ rested.ordinary, collected⟩

theorem workOne (rested : Rested i) (now : Instant) (held : List SocketAddress) :
    Rested (i.workOne now held) := by
  cases queue : i.io.queue with
  | nil =>
    rw [workOne_of_waiting (.inr queue)]
    exact rested
  | cons task rest =>
    by_cases idle : i.io.stage = .idle
    · have ordinary := rested.ordinary
      rw [queue] at ordinary
      rw [workOne_of_cons idle queue]
      cases performed : i.perform now held task with
      | error e => exact rested.crash
      | ok i' =>
        obtain ⟨launched, collected⟩ := launched_perform (ordinary task (.head _)) performed
        exact ⟨rested.free, launched.trans rested.taken, fun t mem => ordinary t (.tail _ mem), collected⟩
    · rw [workOne_of_waiting (.inl idle)]
      exact rested

theorem work (rested : Rested i) (now : Instant) (held : List SocketAddress) :
    Rested (i.work now held) := by
  unfold Instance.work
  generalize i.io.queue = tasks
  induction tasks generalizing i with
  | nil => exact rested
  | cons task tasks ih => exact ih (rested.workOne now held)

end Rested

/-! ## Launches -/

/-- What a launch comes to on an instance whose worker has nothing else to do. -/
def settled (now : Instant) (held : List SocketAddress) (l : Launch ν) (w : Instance ν ε τ π) :
    Launched × Instance ν ε τ π :=
  if w.io.serving then
    match w.thread.launch l.occupied (w.thread.sockets ++ held) l.bindTo (l.make now) with
    | .ok (r, thread) => (r, { w with thread := thread }.collect)
    | .error _ => (.error .runnerStopped, w.crash)
  else (.error .runnerStopped, w)

section
omit [Transport τ] [Endpoint ε τ π] [Installable ν]

/-- What a caller takes who waits for a launch. -/
def answer (i : Instance ν ε τ π) : Launched × Instance ν ε τ π :=
  (i.launched.getD (.error .runnerStopped), { i with launched := none })

theorem answer_of_taken (taken : i.launched = none) : i.answer = (.error .runnerStopped, i) := by
  cases i
  cases taken
  rfl

theorem answer_of_launched (taken : i.launched = none) (thread : IoThread ε τ π) (r : Launched) :
    answer { ({ i with thread := thread, launched := some r }).collect with io := i.io } =
      (r, { i with thread := thread }.collect) := by
  unfold answer collect
  dsimp only
  split <;> rw [taken] <;> rfl

end

/-- A launch comes after everything that was posted before. -/
theorem launch_eq (rested : Rested i) (now : Instant) (held : List SocketAddress) (l : Launch ν) :
    i.launch now held l = settled now held (i.snapshot l) (i.work now held) := by
  have worked := rested.work now held
  have untold (stopped : (i.work now held).io.serving = false) :
      (i.work now held).answer = settled now held (i.snapshot l) (i.work now held) := by
    unfold settled
    rw [answer_of_taken worked.taken, stopped, if_neg Bool.false_ne_true]
  show ((i.post (.launch (i.snapshot l))).2.work now held).answer = _
  rw [post_eq]
  by_cases idle : i.io.stage = .idle
  · obtain ⟨failed, same⟩ | ⟨finished, next⟩ := work_push idle now held (.launch (i.snapshot l))
    · have stopped : (i.work now held).io.serving = false := by
        rw [failed]
        exact Bool.and_false _
      rw [apply_ite (work now held), same, ite_self]
      exact untold stopped
    · have serving : (i.work now held).io.serving = i.io.serving := by
        rw [finished]
        rfl
      by_cases on : i.io.serving = true
      · rw [if_pos on, next]
        unfold settled
        rw [if_pos (serving.trans on)]
        rw [perform_launch]
        cases (i.work now held).thread.launch (i.snapshot l).occupied
            ((i.work now held).thread.sockets ++ held) (i.snapshot l).bindTo ((i.snapshot l).make now) with
        | error e => exact answer_of_taken worked.crash.taken
        | ok done => exact answer_of_launched worked.taken done.2 done.1
      · rw [if_neg on]
        exact untold (serving.trans (Bool.eq_false_iff.2 on))
  · have gone : i.io.stage = .gone := by
      cases stage : i.io.stage with
      | idle => exact absurd stage idle
      | busy => exact absurd stage rested.free
      | gone => rfl
    have stopped : i.io.serving = false := by
      unfold Runner.serving
      rw [gone]
      exact Bool.and_false _
    rw [stopped, if_neg Bool.false_ne_true]
    refine untold ?_
    rw [work_of_busy idle]
    exact stopped

theorem Rested.settled (rested : Rested i) (now : Instant) (held : List SocketAddress) (l : Launch ν) :
    Rested (settled now held l i).2 := by
  unfold Instance.settled
  split
  · split
    · exact rested.collect _
    · exact rested.crash
  · exact rested

/-! ## Instances in use -/

variable {k : Side}

def Move.launches : Move k π → Bool
  | .post task => task.launches
  | _ => false

/-- What an instance comes to by moves, among which the launches are whole calls. -/
inductive Reached : Instance (VisitorOf k) ε τ π → Prop where
  | new (name : String) : Reached (.new name)
  | step {i : Instance (VisitorOf k) ε τ π} (h : Reached i) (x : Move k π) (ordinary : x.launches = false) :
    Reached (i.step x)
  | launch {i : Instance (VisitorOf k) ε τ π} (h : Reached i) (now : Instant) (held : List SocketAddress)
    (l : Launch (VisitorOf k)) : Reached (i.launch now held l).2

theorem Rested.step {i : Instance (VisitorOf k) ε τ π} (rested : Rested i) (x : Move k π)
    (ordinary : x.launches = false) : Rested (i.step x) := by
  cases x with
  | keepVisitor v => exact ⟨rested.free, rested.taken, rested.ordinary, rested.collected⟩
  | keepListener l => exact ⟨rested.free, rested.taken, rested.ordinary, rested.collected⟩
  | post task =>
    show Rested (i.post task).2
    rw [post_eq]
    split
    · refine ⟨rested.free, rested.taken, fun t mem => ?_, rested.collected⟩
      obtain before | new := List.mem_append.1 mem
      · exact rested.ordinary t before
      · rw [List.mem_singleton.1 new]
        exact ordinary
    · exact rested
  | work now held => exact rested.workOne now held
  | resume now socket w =>
    show Rested (i.resume now socket w)
    unfold Instance.resume
    split
    · exact rested.collect _
    · exact rested.crash
  | session now h r =>
    unfold Instance.step
    dsimp only
    split
    · rename_i operated
      exact rested.operate operated
    · exact rested
  | stream now h r =>
    unfold Instance.step
    dsimp only
    split
    · rename_i operated
      exact rested.operate operated
    · exact rested
  | deliver => exact ⟨rested.free, rested.taken, rested.ordinary, rested.collected⟩
  | takeLaunched => exact ⟨rested.free, rfl, rested.ordinary, rested.collected⟩
  | transmit =>
    refine ⟨rested.free, rested.taken, rested.ordinary, fun d installed => ?_⟩
    obtain ⟨d', was, rfl⟩ := Option.map_eq_some_iff.1 installed
    exact rested.collected d' was
  | close => exact ⟨rested.free, rested.taken, rested.ordinary, rested.collected⟩
  | leave =>
    have left : (i.io.leave?).getD i.io = i.io ∨
        (i.io.leave?).getD i.io = { i.io with stage := .gone } := by
      unfold Runner.leave?
      split
      · exact .inr rfl
      · exact .inl rfl
    refine ⟨?_, rested.taken, ?_, fun _ installed => by cases installed⟩
    · show ((i.io.leave?).getD i.io).stage ≠ _
      obtain same | gone := left
      · rw [same]
        exact rested.free
      · rw [gone]
        exact nofun
    · show ∀ task ∈ ((i.io.leave?).getD i.io).queue, _
      obtain same | gone := left
      · rw [same]
        exact rested.ordinary
      · rw [gone]
        exact rested.ordinary
  | crash => exact rested.crash

theorem Reached.rested {i : Instance (VisitorOf k) ε τ π} (h : Reached i) : Rested i := by
  induction h with
  | new name =>
    refine ⟨nofun, rfl, fun _ mem => ?_, fun _ installed => ?_⟩
    · cases mem
    · cases installed
  | step h x ordinary ih => exact ih.step x ordinary
  | launch h now held l ih =>
    rw [launch_eq ih]
    exact (ih.work now held).settled now held _

end QuicSessions.Instance
