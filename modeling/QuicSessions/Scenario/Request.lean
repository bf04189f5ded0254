import QuicSessions.Handle

/-!
# Requests through handles

What applications ask of sessions and streams by their handles, as data, with the replies. A request
is carried out on the dispatcher that is installed where the handle's sessions live.
-/

set_option autoImplicit false

namespace QuicSessions.Scenario

/-- What can be asked of a stream. -/
inductive StreamRequest where
  | write (data : Bytes) (fin : Bool)
  | read (limit : Nat)
  | canWrite
  | close
  | setVisitor (v : StreamVisitor)

/-- What can be asked of a session. -/
inductive SessionRequest where
  | openStream (dir : Dir)
  | setVisitor (v : SessionVisitor)
  | setRespectGoaway (respect : Bool)
  | goAway
  | close
  | closeWithError (code : UInt32) (reason : String)
  | state
  | ready
  | shouldOpen
  | stats

/-- What a request is answered with. -/
inductive Reply where
  | done
  | flag (value : Bool)
  | count (n : Nat)
  | bytes (value : Bytes)
  | opened (h : Option StreamHandle)
  | state (s : SessionState)
  | stats (s : Option ConnectionStats)

variable {ε τ π : Type} [Transport τ] [Endpoint ε τ π]

namespace StreamRequest

def run (r : StreamRequest) (now : Instant) (h : StreamHandle)
    (installed : Option (Dispatcher ε τ π)) :
    Except Fault (Reply × Option (Dispatcher ε τ π)) :=
  match r with
  | .write data fin => do
    let (n, installed) ← h.write now installed data fin
    return (.count n, installed)
  | .read limit => do
    let (bytes, installed) ← h.read now installed limit
    return (.bytes bytes, installed)
  | .canWrite => do
    let (b, installed) ← h.canWrite now installed
    return (.flag b, installed)
  | .close => return (.done, ← h.close now installed)
  | .setVisitor v => return (.done, ← h.setVisitor now installed v)

end StreamRequest

namespace SessionRequest

def run (r : SessionRequest) (now : Instant) (h : SessionHandle)
    (installed : Option (Dispatcher ε τ π)) :
    Except Fault (Reply × Option (Dispatcher ε τ π)) :=
  match r with
  | .openStream dir => do
    let (stream, installed) ← match dir with
      | .bi => h.openBidirectional now installed
      | .uni => h.openUnidirectional now installed
    return (.opened stream, installed)
  | .setVisitor v => return (.done, ← h.setVisitor now installed v)
  | .setRespectGoaway respect => return (.done, ← h.setRespectGoaway now installed respect)
  | .goAway => return (.done, ← h.goAway now installed)
  | .close => return (.done, ← h.close now installed)
  | .closeWithError code reason => return (.done, ← h.closeWithError now installed code reason)
  | .state => do
    let (stage, installed) ← h.state now installed
    return (.state stage, installed)
  | .ready => do
    let (b, installed) ← h.ready now installed
    return (.flag b, installed)
  | .shouldOpen => do
    let (b, installed) ← h.shouldOpen now installed
    return (.flag b, installed)
  | .stats => do
    let (s, installed) ← h.stats now installed
    return (.stats s, installed)

end SessionRequest

end QuicSessions.Scenario
