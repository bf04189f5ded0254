import QuicSessions.Runner
import QuicSessions.Slot

/-!
# Some runners and what their threads keep

A few runners side by side, used from a thread that is none of theirs. After each step every worker
has done what it was given. Each worker's thread keeps a number or a text in its slot.
-/

set_option autoImplicit false

namespace QuicSessions.Scenario.Runners

/-! ## Tasks -/

/-- A line that a task leaves in the log. -/
inductive Entry (α : Type) where
  | plain (value : α)
  | number (n : Nat)
  /-- Written by a task that posted another one: whether that was accepted. -/
  | first (accepted : Bool)
  /-- Written by the other one. -/
  | second (value : α)
  /-- Written by work that a task left to its thread. -/
  | deferred (value : α)

/-- The kinds of values that a slot may hold. -/
inductive Kind where
  | number
  | text
  deriving DecidableEq

abbrev Held : Kind → Type
  | .number => UInt64
  | .text => String

/-- What a call of a runner is to do there. -/
inductive Call (α : Type) where
  | value (v : α)
  /-- Calls within calls, so many levels deep. -/
  | nested (depth : Nat)
  | belongs
  /-- Closes the runner from one of its own tasks, and posts another one. -/
  | closeInside
  | setNumber (n : UInt64)
  | setText (s : String)
  | add (n : UInt64)
  | textLength
  | takeNumber
  | takeText
  /-- An access within an access. -/
  | nestedAccess
  /-- Taking out within an access. -/
  | nestedTake

inductive Answer (α : Type) where
  | nothing
  | value (v : α)
  | flag (b : Bool)
  | count (n : Nat)
  | flags (a b : Bool)
  | text (s : String)
  | names (name debug : String)
  | noRuntime

/-- What waits in the queue of a runner. -/
inductive Task (α : Type) where
  | log (e : Entry α)
  | repost (value : α)
  | call (c : Call α)

/-! ## One runner -/

/-- A runner with the slot of its thread, the log of its tasks and the answer of its last call. -/
structure Site (α : Type) where
  runner : Runner (Task α)
  slot : Slot Held
  log : List (Entry α)
  reply : Option (Answer α)

namespace Site

variable {α : Type}

def new (name : String) : Site α := ⟨.new name, .empty, [], none⟩

def note (e : Entry α) (s : Site α) : Site α := { s with log := s.log ++ [e] }

def post (t : Task α) (s : Site α) : Bool × Site α :=
  let (accepted, r) := s.runner.post t
  (accepted, { s with runner := r })

/-- The answer of a call within calls: one more for each level. -/
def depthReached : Nat → Nat
  | 0 => 0
  | n + 1 => depthReached n + 1

/-- Works on the slot; the answer is nothing if the slot gives nothing. -/
def onSlot (f : Slot Held → Option (Answer α) × Slot Held) (s : Site α) : Answer α × Site α :=
  let (r, slot) := f s.slot
  (r.getD .nothing, { s with slot := slot })

def perform (c : Call α) (s : Site α) : Answer α × Site α :=
  match c with
  | .value v => (.value v, s)
  | .nested depth => (.count (depthReached depth), s)
  | .belongs => (.flag true, s)
  | .closeInside =>
    let (_, r) := s.runner.close true
    let (accepted, s) := { s with runner := r }.post (.log (.number 0))
    (.flags s.runner.stopped accepted, s)
  | .setNumber n => s.onSlot fun slot => (none, slot.set .number n)
  | .setText t => s.onSlot fun slot => (none, slot.set .text t)
  | .add n => s.onSlot fun slot =>
      slot.access .number fun _ (held : UInt64) => (.count (held + n).toNat, held + n)
  | .textLength => s.onSlot fun slot =>
      slot.access .text fun _ (held : String) => (.count held.utf8ByteSize, held)
  | .takeNumber => s.onSlot fun slot =>
      let (held, slot) := slot.take Kind.number
      (held.map fun n => .count n.toNat, slot)
  | .takeText => s.onSlot fun slot =>
      let (held, slot) := slot.take Kind.text
      (held.map .text, slot)
  | .nestedAccess => s.onSlot fun slot =>
      let (r, slot) := slot.access .number fun inner (held : UInt64) =>
        ((inner.access .number fun _ (n : UInt64) => (Answer.count n.toNat, n)).1, held)
      (r.join, slot)
  | .nestedTake => s.onSlot fun slot =>
      let (r, slot) := slot.access .number fun inner (held : UInt64) =>
        ((inner.take .number).1.map fun n => Answer.count n.toNat, held)
      (r.join, slot)

/-- Runs one task. -/
def run (t : Task α) (s : Site α) : Site α :=
  match t with
  | .log e => s.note e
  | .repost value =>
    let (accepted, s) := s.post (.log (.second value))
    s.note (.first accepted)
  | .call c =>
    let (r, s) := s.perform c
    { s with reply := some r }

/-- The worker runs its next tasks, at most `budget` of them. -/
def work : (budget : Nat) → Site α → Site α
  | 0, s => s
  | budget + 1, s =>
    match s.runner.begin? with
    | none => s
    | some (t, r) =>
      let s := { s with runner := r }.run t
      work budget { s with runner := s.runner.finish }

/-- The worker runs everything it was given. Every task posts at most one more, and that one posts
none. What the slot holds does not outlive the worker. -/
def settle (s : Site α) : Site α :=
  let s := s.work (2 * s.runner.queue.length)
  match s.runner.leave? with
  | some r => { s with runner := r, slot := .empty }
  | none => s

/-- Calls the runner from another thread and waits for the answer. -/
def call (c : Call α) (s : Site α) : Answer α × Site α :=
  let (accepted, s) := s.post (.call c)
  if accepted then
    let s := s.settle
    (s.reply.getD .nothing, { s with reply := none })
  else (.nothing, s)

/-- Posts a task and lets the worker run it. -/
def postSettled (t : Task α) (s : Site α) : Bool × Site α :=
  let (accepted, s) := s.post t
  (accepted, s.settle)

end Site

/-! ## Several runners -/

inductive Operation (α : Type) where
  | post (value : α)
  | postMany (n : Nat)
  | postReposting (value : α)
  | call (c : Call α)
  /-- A call of another runner from a task of this one. -/
  | cross (other : Nat) (value : α)
  | onThisThread
  | stop
  | isStopped
  | name
  | spawnLocal (value : α)
  | slotHere

structure State (α : Type) where
  /-- The workers host work that their tasks leave to them. -/
  runtime : Bool
  sites : List (Site α)

variable {α : Type}

def new (runtime : Bool) (count : Nat) : State α :=
  ⟨runtime, (List.range count).map fun i => .new ("runner-" ++ toString i)⟩

/-- Posts `n` tasks that log their numbers, and says how many were accepted. -/
def postNumbered (n : Nat) (s : Site α) : Nat × Site α :=
  (List.range n).foldl (fun (count, s) i =>
    let (accepted, s) := s.post (.log (.number i))
    (if accepted then count + 1 else count, s)) (0, s)

/-- An operation on one runner. -/
def Operation.runOn (runtime : Bool) (op : Operation α) (s : Site α) : Answer α × Site α :=
  match op with
  | .post value =>
    let (accepted, s) := s.postSettled (.log (.plain value))
    (.flag accepted, s)
  | .postMany n =>
    let (count, s) := postNumbered n s
    (.count count, s.settle)
  | .postReposting value =>
    let (accepted, s) := s.postSettled (.repost value)
    (.flag accepted, s)
  | .call c => s.call c
  | .cross _ value => s.call (.value value)
  | .onThisThread => (.flag false, s)
  | .stop =>
    let (_, r) := s.runner.close false
    (.nothing, { s with runner := r }.settle)
  | .isStopped => (.flag s.runner.stopped, s)
  | .name => (.names s.runner.name s.runner.debug, s)
  | .spawnLocal value =>
    if runtime then (.nothing, (s.postSettled (.log (.deferred value))).2) else (.noRuntime, s)
  | .slotHere => (.nothing, s)

/-- A step on the runner at `index`, with what was logged in it. An index past the last runner means
the last one. -/
def step (index : Nat) (op : Operation α) (s : State α) : (Answer α × List (Entry α)) × State α :=
  let last := s.sites.length - 1
  let target :=
    match op with
    | .cross other _ =>
      -- A task of a runner that is stopped does not get to call the other one.
      match s.sites[min index last]? with
      | some outer => if outer.runner.stopped then min index last else min other last
      | none => min index last
    | _ => min index last
  match s.sites[target]? with
  | none => ((.nothing, []), s)
  | some site =>
    let (a, site) := op.runOn s.runtime site
    ((a, site.log), { s with sites := s.sites.set target { site with log := [] } })

end QuicSessions.Scenario.Runners
