import QuicSessions.Client
import QuicSessions.Proofs.Dispatchers.Requests
import QuicSessions.Server

/-!
# Runs of an instance

An instance lives through calls, tasks of its worker, wakeups of its loops and requests through
handles, in any order. The dispatcher that is installed is replaced only by way of none at all, and
each one numbers its sessions from the start.
-/

set_option autoImplicit false

namespace QuicSessions

open Scenario (SessionRequest StreamRequest)

/-! ## The visitors of the two kinds of instances -/

/-- The visitors of an instance: servers and clients have different ones. -/
abbrev VisitorOf : Side → Type
  | .server => ServerVisitor
  | .client => ClientVisitor

instance (k : Side) : Installable (VisitorOf k) :=
  match k with
  | .server => inferInstanceAs (Installable ServerVisitor)
  | .client => inferInstanceAs (Installable ClientVisitor)

namespace Instance

variable {ε τ π : Type} {k : Side}

/-! ## Moves -/

/-- Something that happens to an instance. -/
inductive Move (k : Side) (π : Type) where
  | keepVisitor (v : VisitorOf k)
  | keepListener (l : Listener)
  | post (task : Task (VisitorOf k))
  /-- The worker runs its next task, while other sockets hold addresses. -/
  | work (now : Instant) (held : List SocketAddress)
  | resume (now : Instant) (socket : SocketAddress) (w : Wakeup π)
  | session (now : Instant) (h : SessionHandle) (r : SessionRequest)
  | stream (now : Instant) (h : StreamHandle) (r : StreamRequest)
  /-- The notices are delivered. -/
  | deliver
  /-- The caller takes what came of a launch. -/
  | takeLaunched
  /-- The host takes the packets that were handed to the socket. -/
  | transmit
  | close
  /-- The worker goes, and with it what its thread held. -/
  | leave
  /-- The worker fails. -/
  | crash

variable [Transport τ] [Endpoint ε τ π]

/-- The instance after a move. A request that must not be made changes nothing. -/
def step (i : Instance (VisitorOf k) ε τ π) : Move k π → Instance (VisitorOf k) ε τ π
  | .keepVisitor v => i.keepVisitor v
  | .keepListener l => i.keepListener l
  | .post task => (i.post task).2
  | .work now held => i.workOne now held
  | .resume now socket w => i.resume now socket w
  | .session now h r =>
    match i.operate (r.run now h) with
    | .ok (_, i') => i'
    | .error _ => i
  | .stream now h r =>
    match i.operate (r.run now h) with
    | .ok (_, i') => i'
    | .error _ => i
  | .deliver => { i with notices := [] }
  | .takeLaunched => { i with launched := none }
  | .transmit =>
    { i with thread := { i.thread with
        installed := i.thread.installed.map fun d => { d with sent := [] } } }
  | .close => { i with io := (i.io.close false).2 }
  | .leave => { i with io := (i.io.leave?).getD i.io, thread := .idle }
  | .crash => i.crash

def run (i : Instance (VisitorOf k) ε τ π) (moves : List (Move k π)) :
    Instance (VisitorOf k) ε τ π := moves.foldl step i

theorem run_append (i : Instance (VisitorOf k) ε τ π) (before after : List (Move k π)) :
    i.run (before ++ after) = (i.run before).run after := List.foldl_append

end Instance

/-! ## The calls of clients and servers -/

section Calls

variable {ε τ π : Type} {k : Side} [Transport τ] [Endpoint ε τ π] (now : Instant)
  (held : List SocketAddress)

namespace Instance

theorem work_eq_run (i : Instance (VisitorOf k) ε τ π) :
    i.work now held = i.run (i.io.queue.map fun _ => .work now held) := by
  unfold work run
  rw [List.foldl_map]
  rfl

theorem setVisitor_eq_run (v : VisitorOf k) (i : Instance (VisitorOf k) ε τ π) :
    i.setVisitor v = i.run [.keepVisitor v, .post (.useVisitor v)] := rfl

theorem setListener_eq_run (l : Listener) (i : Instance (VisitorOf k) ε τ π) :
    i.setListener l = i.run [.keepListener l, .post (.useListener l)] := rfl

theorem launch_eq_run (l : Launch (VisitorOf k)) (i : Instance (VisitorOf k) ε τ π) :
    ∃ moves, (i.launch now held l).2 = i.run moves := by
  refine ⟨[.post (.launch (i.snapshot l))] ++
    (i.post (.launch (i.snapshot l))).2.io.queue.map (fun _ => .work now held) ++ [.takeLaunched], ?_⟩
  rw [run_append, run_append]
  show { (i.post (.launch (i.snapshot l))).2.work now held with launched := none } = _
  rw [work_eq_run]
  rfl

theorem stop_eq_run (i : Instance (VisitorOf k) ε τ π) :
    ∃ moves, i.stop now held = i.run moves := by
  refine ⟨[.post .stop] ++ (i.post .stop).2.io.queue.map (fun _ => .work now held), ?_⟩
  rw [run_append]
  exact work_eq_run now held (i.post .stop).2

theorem finish_eq_run (i : Instance (VisitorOf k) ε τ π) :
    ∃ moves, i.finish now held = i.run moves := by
  obtain ⟨moves, stopped⟩ := stop_eq_run now held i
  refine ⟨moves ++ [.close, .leave], ?_⟩
  rw [run_append, ← stopped]
  rfl

end Instance

/-- Starting a client is a run of its instance, and so is stopping it. -/
theorem Client.start_eq_run (host : String) (port : UInt16) (s : Client ε τ π) :
    ∃ moves : List (Instance.Move .client π),
      (s.start now held host port).2.running = Instance.run (k := .client) s.running moves := by
  unfold start
  split
  · exact ⟨[], rfl⟩
  · rename_i remote settings prepared
    obtain ⟨moves, launched⟩ :=
      Instance.launch_eq_run now held (k := .client) (launchOf s.config settings remote) s.running
    refine ⟨moves, ?_⟩
    rw [← launched]
    dsimp only
    split <;> rfl

theorem Client.stop_eq_run (s : Client ε τ π) :
    ∃ moves : List (Instance.Move .client π),
      (s.stop now held).running = Instance.run (k := .client) s.running moves :=
  Instance.stop_eq_run now held (k := .client) s.running

/-- Listening is a run of the instance of a server, and so is stopping it. -/
theorem Server.listen_eq_run (port : UInt16) (s : Server ε τ π) :
    ∃ moves : List (Instance.Move .server π),
      (s.listen now held port).2.running = Instance.run (k := .server) s.running moves := by
  unfold listen
  split
  · exact ⟨[], rfl⟩
  · rename_i settings known
    exact Instance.launch_eq_run now held (k := .server) (launchOf s.config settings port) s.running

theorem Server.stop_eq_run (s : Server ε τ π) :
    ∃ moves : List (Instance.Move .server π),
      (s.stop now held).running = Instance.run (k := .server) s.running moves :=
  Instance.stop_eq_run now held (k := .server) s.running

end Calls

end QuicSessions
