import QuicSessions.Visitor

/-!
# What visitors observe

An observation is one line of the log that visitors and the listener keep: who was told what, about
which session and which stream. Where events of several sessions and streams arrive in one step,
only the order among those of one stream, and among those of a session that name no stream, means
something; `arrange` brings the others into a fixed order.
-/

set_option autoImplicit false

namespace QuicSessions.Scenario

/-- The particulars of an observation. -/
inductive Detail where
  | bytes (value : Bytes)
  | text (value : String)
  | flag (value : Bool)
  | count (value : Nat)
  | reason (value : CloseReason)
  deriving DecidableEq

/-- One line of the log. -/
structure Observation where
  /-- The side or instance at which it was made. -/
  place : String
  /-- The kind and tag of the observer. -/
  observer : String
  name : String
  session : Option SessionId
  stream : Option UInt32
  details : List Detail
  deriving DecidableEq

namespace Observation

/-- The place of an optional number in the order: none comes first. -/
def rank (n : Option Nat) : Nat := (n.map (· + 1)).getD 0

/-- By place, then session, then stream. -/
def le (x y : Observation) : Bool :=
  if x.place ≠ y.place then decide (x.place ≤ y.place)
  else
    let xs := rank (x.session.map fun id => id.raw.toNat)
    let ys := rank (y.session.map fun id => id.raw.toNat)
    if xs ≠ ys then decide (xs ≤ ys)
    else decide (rank (x.stream.map UInt32.toNat) ≤ rank (y.stream.map UInt32.toNat))

/-- The observations in the fixed order; those that compare equal keep theirs. -/
def arrange (log : List Observation) : List Observation := log.mergeSort le

/-- The bytes of an observation of data. -/
def data? (o : Observation) : Option Bytes :=
  match o.name, o.details with
  | "data", [.bytes b] => some b
  | _, _ => none

/-- One observation in place of two neighbours that brought data of one stream to one observer. -/
def join? (x y : Observation) : Option Observation :=
  match x.data?, y.data? with
  | some a, some b =>
    if { x with details := [] } = { y with details := [] } then
      some { x with details := [.bytes (a ++ b)] }
    else none
  | _, _ => none

/-- The log with neighbouring data joined; `done` holds what is finished, last first. -/
def joinData : (done : List Observation) → List Observation → List Observation
  | done, [] => done.reverse
  | [], o :: rest => joinData [o] rest
  | x :: done, o :: rest =>
    match join? x o with
    | some j => joinData (j :: done) rest
    | none => joinData (o :: x :: done) rest

end Observation

/-! ## Notices as observations -/

open QuicSessions

def observeStream (v : StreamVisitor) (h : StreamHandle) (name : String)
    (details : List Detail) : Observation :=
  ⟨v.tag.place, "stream:" ++ v.tag.label, name, some h.session, some h.id, details⟩

def observeSession (v : SessionVisitor) (h : SessionHandle) (name : String)
    (stream : Option UInt32) (details : List Detail) : Observation :=
  ⟨v.tag.place, "session:" ++ v.tag.label, name, some h.id, stream, details⟩

def observeClient (v : ClientVisitor) (name : String)
    (session : Option SessionId) (stream : Option UInt32) (details : List Detail) : Observation :=
  ⟨v.tag.place, "client:" ++ v.tag.label, name, session, stream, details⟩

def observeServer (v : ServerVisitor) (name : String)
    (session : Option SessionId) (details : List Detail) : Observation :=
  ⟨v.tag.place, "server:" ++ v.tag.label, name, session, none, details⟩

def observeListener (l : Listener) (name : String) (session : SessionId)
    (stream : Option UInt32) (details : List Detail) : Observation :=
  ⟨l.tag.place, "listener:" ++ l.tag.label, name, some session, stream, details⟩

/-- The line that a notice leaves in the log. Whether a session is ready when its client visitor is
told of it is known only then, and is handed in. -/
def observe (ready : Bool) : Notice → Observation
  | .stream v h (.data bytes) => observeStream v h "data" [.bytes bytes]
  | .stream v h .fin => observeStream v h "fin" []
  | .stream v h .canWrite => observeStream v h "can_write" []
  | .stream v h .closed => observeStream v h "closed" []
  | .session v h (.incomingStream stream) =>
    observeSession v h "incoming_stream" (some stream.id)
      [.text stream.directionality.debug]
  | .session v h (.canCreate dir) =>
    observeSession v h "can_create" none [.flag (dir = .uni)]
  | .session v h .goaway => observeSession v h "goaway" none []
  | .session v h (.streamClosed stream) =>
    observeSession v h "stream_closed" (some stream) []
  | .session v h (.connectionClosed reason) =>
    observeSession v h "connection_closed" none [.reason reason, .flag reason.isNormal]
  | .server v (.session h) =>
    observeServer v "session" (some h.id) [.flag h.side.isServer]
  | .server v (.sessionClosed id connection) =>
    observeServer v "session_closed" (some id) [.text connection.display]
  | .server v .ended => observeServer v "ended" none []
  | .client v (.connected h) =>
    observeClient v "connected" (some h.id) none [.flag ready]
  | .client v (.connectionFailed reason) =>
    observeClient v "connection_failed" none none [.reason reason]
  | .listener l (.ready id stream) => observeListener l "ready" id (some stream) []
  | .listener l (.data id stream bytes) =>
    observeListener l "data" id (some stream) [.bytes bytes]
  | .listener l (.fin id stream) => observeListener l "fin" id (some stream) []
  | .listener l (.streamClosed id stream) =>
    observeListener l "stream_closed" id (some stream) []
  | .listener l (.sessionClosed id) => observeListener l "session_closed" id none []

end QuicSessions.Scenario
