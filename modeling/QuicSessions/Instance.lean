import QuicSessions.IoThread
import QuicSessions.Runner

/-!
# Instances

What a server and a client have in common: a runner whose worker owns the thread with the dispatcher,
the visitor and the listener that were registered, and the notices that wait to be delivered. A call
is made in two places: the caller keeps what has to be kept and posts a task, and the worker carries
the task out. Launching takes a snapshot of what is registered at the time of the call, and a later
registration reaches the dispatcher by a task of its own.
-/

set_option autoImplicit false

namespace QuicSessions

/-- Those whom a dispatcher tells its news. -/
class Installable (ν : Type) where
  install {ε τ π : Type} : Option ν → Dispatcher ε τ π → Dispatcher ε τ π

instance : Installable ServerVisitor := ⟨fun v d => { d with serverVisitor := v }⟩

instance : Installable ClientVisitor := ⟨fun v d => { d with clientVisitor := v }⟩

/-- Everything that it takes to install a dispatcher. -/
structure Launch (ν : Type) where
  role : Side
  /-- Where to bind its socket. -/
  bindTo : SocketAddress
  /-- The refusal if a dispatcher is installed already. -/
  occupied : TransportError
  settings : Settings
  options : SessionOptions
  openOnConnect : Bool
  maxSessions : Option Nat
  maxReads : Nat
  /-- The server to connect to at once, by its address and name. -/
  target : Option (SocketAddress × String)
  visitor : Option ν
  listener : Option Listener

namespace Launch

variable {ν ε τ π : Type} [Installable ν] [Endpoint ε τ π]

/-- The dispatcher at a local address. -/
def dispatcher (l : Launch ν) (localAddress : SocketAddress) : Dispatcher ε τ π :=
  let endpoint : ε :=
    match l.role with
    | .server => Endpoint.serving l.settings
    | .client => Endpoint.calling
  let d : Dispatcher ε τ π := .new l.role endpoint localAddress l.options
  Installable.install l.visitor <| Dispatcher.setMaxReads l.maxReads { d with
    audience := ⟨l.listener, true⟩
    connecting := if l.role.isClient then some l.settings else none
    openOnConnect := l.openOnConnect
    maxSessions := l.maxSessions.getD d.maxSessions }

/-- The dispatcher at a local address, with the session that it has begun if it is to connect. -/
def make [Transport τ] (now : Instant) (l : Launch ν) (localAddress : SocketAddress) :
    Except Fault (Except TransportError ((SocketAddress × Option SessionHandle) × Dispatcher ε τ π)) :=
  match l.target with
  | none => .ok (.ok ((localAddress, none), l.dispatcher localAddress))
  | some (remote, name) => do
    match ← (l.dispatcher localAddress).connect now remote name with
    | (.error e, _) => return .error (.ofQuic e)
    | (.ok id, d) =>
      match d.sessionHandle id with
      | some h => return .ok ((localAddress, some h), d)
      | none => return .error (.connection "session closed during connect" true)

end Launch

/-- What is posted to the runner of an instance. -/
inductive Instance.Task (ν : Type) where
  | useVisitor (v : ν)
  | useListener (l : Listener)
  | launch (l : Launch ν)
  | stop
  | send (session : SessionId) (stream : UInt32) (data : Bytes)

/-- What came of a launch: the local address, and the session if one was begun. -/
abbrev Instance.Launched : Type := Except TransportError (SocketAddress × Option SessionHandle)

/-- A server or a client at work; `ν` is the kind of its visitor. -/
structure Instance (ν ε τ π : Type) where
  io : Runner (Instance.Task ν)
  thread : IoThread ε τ π
  /-- The visitor that was registered last. -/
  visitor : Option ν
  /-- The listener that was registered last. -/
  listener : Option Listener
  /-- Notices that wait to be delivered. -/
  notices : List Notice
  /-- What came of the last launch, until the caller takes it. -/
  launched : Option Instance.Launched

namespace Instance

variable {ν ε τ π : Type}

def new (name : String) : Instance ν ε τ π := ⟨.new name, .idle, none, none, [], none⟩

/-! ## What the caller's thread does -/

/-- Posts a task, and says whether it was accepted. -/
def post (task : Task ν) (i : Instance ν ε τ π) : Bool × Instance ν ε τ π :=
  let (accepted, io) := i.io.post task
  (accepted, { i with io := io })

/-- Keeps a visitor for launches to come. -/
def keepVisitor (v : ν) (i : Instance ν ε τ π) : Instance ν ε τ π := { i with visitor := some v }

/-- Keeps a listener for launches to come. -/
def keepListener (l : Listener) (i : Instance ν ε τ π) : Instance ν ε τ π :=
  { i with listener := some l }

/-- A launch with what is registered now. -/
def snapshot (i : Instance ν ε τ π) (l : Launch ν) : Launch ν :=
  { l with visitor := i.visitor, listener := i.listener }

/-! ## What the worker does -/

/-- Takes over the notices that the installed dispatcher has posted. -/
def collect (i : Instance ν ε τ π) : Instance ν ε τ π :=
  match i.thread.installed with
  | none => i
  | some d =>
    { i with
      notices := i.notices ++ d.posted
      thread := { i.thread with installed := some { d with posted := [] } } }

/-- The worker failed in a task, and what its thread held is gone. -/
def crash (i : Instance ν ε τ π) : Instance ν ε τ π :=
  { i with io := i.io.fail, thread := .idle }

/-- An operation on what is installed. If the operation must not be made nothing changes. -/
def operate {α : Type}
    (op : Option (Dispatcher ε τ π) → Except Fault (α × Option (Dispatcher ε τ π)))
    (i : Instance ν ε τ π) : Except Fault (α × Instance ν ε τ π) := do
  let (r, thread) ← i.thread.operate op
  return (r, { i with thread := thread }.collect)

/-- Changes the installed dispatcher, if there is one. -/
def change (f : Dispatcher ε τ π → Dispatcher ε τ π) (i : Instance ν ε τ π) :
    Except Fault (Instance ν ε τ π) := do
  let (_, i) ← i.operate fun installed => return ((), installed.map f)
  return i

variable [Installable ν] [Transport τ] [Endpoint ε τ π]

/-- Carries out a task while other sockets hold the addresses in `held`. -/
def perform (now : Instant) (held : List SocketAddress) (task : Task ν) (i : Instance ν ε τ π) :
    Except Fault (Instance ν ε τ π) :=
  match task with
  | .useVisitor v => i.change (Installable.install (some v))
  | .useListener l => i.change (Dispatcher.setListener (some l))
  | .launch l => do
    let (r, thread) ← i.thread.launch l.occupied (i.thread.sockets ++ held) l.bindTo (l.make now)
    return { i with thread := thread, launched := some r }.collect
  | .stop => do
    let (taken, thread) ← i.thread.stop now
    return { i with
      thread := thread
      notices := i.notices ++ (taken.map Dispatcher.posted).getD [] }
  | .send session stream data => do
    let (_, i) ← i.operate fun installed =>
      match installed with
      | none => .ok (false, none)
      | some d => do
        let (sent, d) ← d.sendTo now session stream data
        return (sent, some d)
    return i

/-- The worker runs its next task. -/
def workOne (now : Instant) (held : List SocketAddress) (i : Instance ν ε τ π) :
    Instance ν ε τ π :=
  match i.io.begin? with
  | none => i
  | some (task, io) =>
    match perform now held task { i with io := io } with
    | .ok i => { i with io := i.io.finish }
    | .error _ => { i with io := io }.crash

/-- The worker runs everything that was posted. -/
def work (now : Instant) (held : List SocketAddress) (i : Instance ν ε τ π) : Instance ν ε τ π :=
  i.io.queue.foldl (fun i _ => i.workOne now held) i

/-- A loop of the thread wakes. -/
def resume (now : Instant) (socket : SocketAddress) (w : Wakeup π) (i : Instance ν ε τ π) :
    Instance ν ε τ π :=
  match i.thread.resume now socket w with
  | .ok thread => { i with thread := thread }.collect
  | .error _ => i.crash

/-! ## Calls -/

/-- Asks what is installed, after everything that was posted before. -/
def ask {α : Type} (f : Dispatcher ε τ π → α) (i : Instance ν ε τ π) : Option α :=
  if i.io.serving then i.thread.installed.map f else none

def setVisitor (v : ν) (i : Instance ν ε τ π) : Instance ν ε τ π :=
  ((i.keepVisitor v).post (.useVisitor v)).2

def setListener (l : Listener) (i : Instance ν ε τ π) : Instance ν ε τ π :=
  ((i.keepListener l).post (.useListener l)).2

/-- Launches with what is registered, and waits for what comes of it. -/
def launch (now : Instant) (held : List SocketAddress) (l : Launch ν) (i : Instance ν ε τ π) :
    Launched × Instance ν ε τ π :=
  let (_, i) := i.post (.launch (i.snapshot l))
  let i := i.work now held
  (i.launched.getD (.error .runnerStopped), { i with launched := none })

/-- Stops what is installed, and waits until that is done. -/
def stop (now : Instant) (held : List SocketAddress) (i : Instance ν ε τ π) : Instance ν ε τ π :=
  (i.post .stop).2.work now held

/-- The end of an instance: it is stopped, and its runner is closed. -/
def finish (now : Instant) (held : List SocketAddress) (i : Instance ν ε τ π) :
    Instance ν ε τ π :=
  let i := i.stop now held
  let (_, io) := i.io.close false
  { i with io := (io.leave?).getD io, thread := .idle }

end Instance

end QuicSessions
