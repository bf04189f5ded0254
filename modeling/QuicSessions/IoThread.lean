import QuicSessions.Dispatcher
import QuicSessions.Net.Binding

/-!
# The thread of an instance

The thread on which sockets are read keeps at most one dispatcher, and a read loop for each socket
that was bound on it. A loop sleeps until something arrives at its socket, its deadline comes, or it
is told that deadlines have moved. When it wakes it serves whatever dispatcher is installed then, looks
when that one next wants to be told the time, and sleeps again; if none is installed, or it is shut
down, the loop ends and its socket is released.
-/

set_option autoImplicit false

namespace QuicSessions

/-- A loop that reads one socket, asleep. -/
structure ReadLoop where
  /-- Until when it sleeps if nothing happens. -/
  deadline : Option Instant
  /-- How many packets it takes at a time. -/
  maxReads : Nat
  /-- It was told that deadlines have moved. -/
  woken : Bool
  deriving DecidableEq

/-- What ends the sleep of a loop. -/
inductive Wakeup (π : Type) where
  /-- Packets arrived at its socket, each with where it came from. -/
  | packets (arrived : List (SocketAddress × π))
  | deadline
  /-- It was told that deadlines have moved. -/
  | told

/-- The dispatcher that is installed, and the loop of each socket. -/
structure IoThread (ε τ π : Type) where
  installed : Option (Dispatcher ε τ π)
  loops : Table SocketAddress ReadLoop

namespace ReadLoop

/-- A loop that has not yet looked at anything. -/
def new : ReadLoop := ⟨none, 1, true⟩

/-- The loop after it looked at what is installed, or none if it ends. -/
def look {ε τ π : Type} [Transport τ] (installed : Option (Dispatcher ε τ π)) :
    Except Fault (Option ReadLoop) :=
  match installed with
  | none => .ok none
  | some d => if d.shutDown then .ok none else return some ⟨← d.pollTimeout, d.maxReads, false⟩

end ReadLoop

namespace IoThread

variable {ε τ π : Type} [Transport τ] [Endpoint ε τ π]

section
omit [Transport τ] [Endpoint ε τ π]

/-- A thread on which nothing is installed. -/
def idle : IoThread ε τ π := ⟨none, .empty⟩

/-- The addresses that its sockets hold. -/
def sockets (t : IoThread ε τ π) : List SocketAddress := t.loops.keys

/-- Tells the loop of the installed dispatcher's socket that deadlines have moved. -/
def wake (t : IoThread ε τ π) : IoThread ε τ π :=
  match t.installed with
  | none => t
  | some d => { t with loops := t.loops.update d.localAddress fun l => { l with woken := true } }

/-- Installs a dispatcher together with the loop of its socket. -/
def install (d : Dispatcher ε τ π) (t : IoThread ε τ π) : IoThread ε τ π :=
  ⟨some d, t.loops.insert d.localAddress .new⟩

/-- Binds a socket and installs the dispatcher that `make` makes for it. A thread that has one
already refuses with `occupied`; a thread that refuses for any reason stays as it was. -/
def launch {α : Type} (occupied : TransportError) (held : List SocketAddress)
    (wanted : SocketAddress)
    (make : SocketAddress → Except Fault (Except TransportError (α × Dispatcher ε τ π)))
    (t : IoThread ε τ π) : Except Fault (Except TransportError α × IoThread ε τ π) :=
  if t.installed.isSome then .ok (.error occupied, t)
  else
    match Net.bind held wanted with
    | .error e => .ok (.error (.ofIo e), t)
    | .ok address => do
      match ← make address with
      | .error e => return (.error e, t)
      | .ok (r, d) => return (.ok r, t.install d)

/-- An operation on what is installed, after which its loop looks again. -/
def operate {α : Type}
    (op : Option (Dispatcher ε τ π) → Except Fault (α × Option (Dispatcher ε τ π)))
    (t : IoThread ε τ π) : Except Fault (α × IoThread ε τ π) := do
  let (r, installed) ← op t.installed
  return (r, { t with installed := installed }.wake)

end

/-- Shuts the installed dispatcher down and takes it out. Its socket is released when its loop ends. -/
def stop (now : Instant) (t : IoThread ε τ π) :
    Except Fault (Option (Dispatcher ε τ π) × IoThread ε τ π) :=
  match t.installed with
  | none => .ok (none, t)
  | some d => do
    let d ← d.shutdown now
    return (some d, { t.wake with installed := none })

/-- What a loop does with a dispatcher when it wakes. -/
def serve (now : Instant) (w : Wakeup π) (d : Dispatcher ε τ π) :
    Except Fault (Dispatcher ε τ π) :=
  match w with
  | .packets arrived => arrived.foldlM (fun d (source, p) => d.receive now source p) d
  | .deadline => d.timeout now
  | .told => .ok d

/-- The loop of a socket wakes, serves what is installed, and sleeps again or ends. -/
def resume (now : Instant) (socket : SocketAddress) (w : Wakeup π) (t : IoThread ε τ π) :
    Except Fault (IoThread ε τ π) :=
  if t.loops.contains socket then do
    let installed ← t.installed.mapM (serve now w)
    return ⟨installed,
      match ← ReadLoop.look installed with
      | none => t.loops.erase socket
      | some l => t.loops.update socket fun _ => l⟩
  else .ok t

end IoThread

end QuicSessions
