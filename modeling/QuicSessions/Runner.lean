/-!
# Runners

A runner is a worker with a queue. Tasks are accepted until the runner is closed, and the worker runs
what was accepted one at a time in the order of acceptance; once the runner is closed and nothing is
left, the worker is gone. A task that fails takes the worker with it. Each definition here is one step, taken by the worker or by another thread;
threads may take their steps in any order.
-/

set_option autoImplicit false

namespace QuicSessions

/-- What the worker of a runner is at. -/
inductive Runner.Stage where
  | idle
  | busy
  | gone
  deriving DecidableEq

/-- A worker and the tasks it was given. -/
structure Runner (α : Type) where
  name : String
  /-- Tasks are accepted. -/
  accepting : Bool
  /-- What was accepted and not begun, first accepted first. -/
  queue : List α
  stage : Runner.Stage
  deriving DecidableEq

namespace Runner

variable {α : Type}

def new (name : String) : Runner α := ⟨name, true, [], .idle⟩

/-- Whether a task would be accepted: none is once the runner is closed, or its worker has failed. -/
def serving (r : Runner α) : Bool := r.accepting && decide (r.stage ≠ .gone)

/-- Adds a task to the queue and says whether it was accepted. -/
def post (task : α) (r : Runner α) : Bool × Runner α :=
  if r.serving then (true, { r with queue := r.queue ++ [task] }) else (false, r)

def stopped (r : Runner α) : Bool := !r.accepting

/-- The worker begins its next task. -/
def begin? (r : Runner α) : Option (α × Runner α) :=
  match r.stage, r.queue with
  | .idle, task :: rest => some (task, { r with queue := rest, stage := .busy })
  | _, _ => none

/-- The task that the worker was at is over. -/
def finish (r : Runner α) : Runner α := { r with stage := .idle }

/-- The task that the worker was at failed: the worker is gone, and what it had not begun is lost. -/
def fail (r : Runner α) : Runner α := { r with queue := [], stage := .gone }

/-- The worker goes once nothing can come any more. -/
def leave? (r : Runner α) : Option (Runner α) :=
  if r.stage = .idle && r.queue.isEmpty && r.stopped then some { r with stage := .gone } else none

/-- Accepts no more tasks. Says whether the caller then has to wait until the worker is gone: only
the first one to close the runner does, and never a task of the runner itself. -/
def close (fromTask : Bool) (r : Runner α) : Bool × Runner α :=
  (r.accepting && !fromTask, { r with accepting := false })

/-- The runner for a human reader. -/
def debug (r : Runner α) : String := "TaskRunner \x7b name: \"" ++ r.name ++ "\" \x7d"

/-! ## Lemmas -/

theorem queue_post (task : α) (r : Runner α) (h : (r.post task).1 = true) :
    (r.post task).2.queue = r.queue ++ [task] := by
  unfold post at h ⊢
  split
  · rfl
  · simp_all

theorem post_of_stopped (task : α) {r : Runner α} (h : r.stopped = true) :
    r.post task = (false, r) := by
  simp_all [post, stopped, serving]

theorem stopped_close (fromTask : Bool) (r : Runner α) : (r.close fromTask).2.stopped = true := rfl

end Runner

end QuicSessions
