import QuicSessions.Dispatcher

/-!
# Operations through handles

Applications address sessions and streams by handles. An operation runs on the dispatcher that is
installed where the handle's sessions live, and the session is driven after it. If none is installed,
or the session is gone, the operation has no effect and answers as if everything were over.
-/

set_option autoImplicit false

namespace QuicSessions

variable {ε τ π : Type} [Transport τ] [Endpoint ε τ π]

namespace SessionHandle

/-- Runs an operation on the session of a handle, if it is still there. -/
def invoke {α : Type} (now : Instant) (id : SessionId)
    (op : Audience → Session τ → Except Fault (α × Session τ))
    (installed : Option (Dispatcher ε τ π)) :
    Except Fault (Option α × Option (Dispatcher ε τ π)) :=
  match installed with
  | none => .ok (none, none)
  | some d => do
    let (r, d) ← d.sessionOp now id op
    return (r, some d)

/-- Runs an operation without an answer. -/
def tell (now : Instant) (id : SessionId) (op : Audience → Session τ → Session τ)
    (installed : Option (Dispatcher ε τ π)) : Except Fault (Option (Dispatcher ε τ π)) := do
  let (_, installed) ← invoke now id (fun a s => .ok ((), op a s)) installed
  return installed

/-- Asks something that changes nothing. -/
def ask {α : Type} (now : Instant) (id : SessionId) (f : Session τ → Except Fault α)
    (inert : α) (installed : Option (Dispatcher ε τ π)) :
    Except Fault (α × Option (Dispatcher ε τ π)) := do
  let (r, installed) ← invoke now id (fun _ s => return (← f s, s)) installed
  return (r.getD inert, installed)

variable (now : Instant) (h : SessionHandle) (installed : Option (Dispatcher ε τ π))

def setVisitor (v : SessionVisitor) : Except Fault (Option (Dispatcher ε τ π)) :=
  tell now h.id (fun a s => s.setVisitor a v) installed

def setRespectGoaway (respect : Bool) : Except Fault (Option (Dispatcher ε τ π)) :=
  tell now h.id (fun _ s => { s with respectGoaway := respect }) installed

/-- Asks the peer to open no more streams. -/
def goAway : Except Fault (Option (Dispatcher ε τ π)) :=
  tell now h.id (fun _ s => s.sendGoaway.2) installed

def closeWithError (code : UInt32) (reason : String) : Except Fault (Option (Dispatcher ε τ π)) :=
  tell now h.id (fun a s => s.closeConnection a now code reason) installed

def close : Except Fault (Option (Dispatcher ε τ π)) :=
  closeWithError now h installed AppCode.noError.value "closed by application"

def ready : Except Fault (Bool × Option (Dispatcher ε τ π)) :=
  ask now h.id (fun s => .ok s.ready) false installed

def state : Except Fault (SessionState × Option (Dispatcher ε τ π)) :=
  ask now h.id (fun s => .ok s.state) .closed installed

def shouldOpen : Except Fault (Bool × Option (Dispatcher ε τ π)) :=
  ask now h.id Session.shouldOpen false installed

def openBidirectional : Except Fault (Option StreamHandle × Option (Dispatcher ε τ π)) := do
  let (r, installed) ← invoke now h.id (fun a s => s.openBidirectional a) installed
  return (r.join, installed)

/-- Opens a stream that only this side writes. Handles of clients must not be asked to, whether the
session is there or not. -/
def openUnidirectional : Except Fault (Option StreamHandle × Option (Dispatcher ε τ π)) :=
  if h.side.isServer then do
    let (r, installed) ← invoke now h.id (fun a s => s.openUnidirectional a) installed
    return (r.join, installed)
  else .error (.clientUnidirectional h.id)

def stats : Except Fault (Option ConnectionStats × Option (Dispatcher ε τ π)) :=
  invoke now h.id (fun _ s => .ok (s.stats, s)) installed

end SessionHandle

namespace StreamHandle

variable (now : Instant) (h : StreamHandle) (installed : Option (Dispatcher ε τ π))

def setVisitor (v : StreamVisitor) : Except Fault (Option (Dispatcher ε τ π)) :=
  SessionHandle.tell now h.session (fun a s => s.setStreamVisitor a h.stream v) installed

/-- Writes all of the bytes or none, and says how many that is. -/
def write (data : Bytes) (fin : Bool) : Except Fault (Nat × Option (Dispatcher ε τ π)) := do
  let (r, installed) ←
    SessionHandle.invoke now h.session (fun _ s => .ok (s.streamWrite h.stream data fin)) installed
  return (r.getD 0, installed)

/-- Reads at most `limit` bytes. -/
def read (limit : Nat) : Except Fault (Bytes × Option (Dispatcher ε τ π)) := do
  let (r, installed) ←
    SessionHandle.invoke now h.session (fun a s => .ok (s.streamRead a h.stream limit)) installed
  return (r.getD [], installed)

def canWrite : Except Fault (Bool × Option (Dispatcher ε τ π)) :=
  SessionHandle.ask now h.session (fun s => .ok (s.streamCanWrite h.stream)) false installed

/-- Ends the write side. -/
def close : Except Fault (Option (Dispatcher ε τ π)) :=
  SessionHandle.tell now h.session (fun _ s => s.streamClose h.stream) installed

end StreamHandle

end QuicSessions
