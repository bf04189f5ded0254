import QuicSessions.SessionId
import QuicSessions.StreamId
import QuicSessions.CloseReason

/-!
# Visitors, handles and notices

Applications install visitors and a listener; sessions and dispatchers never call them but post
notices, which are delivered elsewhere in the order in which they were posted. A visitor carries a
tag by which it is known and a mode that says how it reacts to what it is told.
-/

set_option autoImplicit false

namespace QuicSessions

/-- By what an application addresses a session. -/
structure SessionHandle where
  id : SessionId
  connection : ConnectionHandle
  side : Side
  deriving DecidableEq

/-- The debug rendering of a session handle. -/
def SessionHandle.debug (h : SessionHandle) : String :=
  "SessionHandle \x7b id: " ++ h.id.debug ++ ", connection_id: " ++ h.connection.debug ++
    ", side: " ++ h.side.debug ++ " \x7d"

/-- By what an application addresses a stream. -/
structure StreamHandle where
  session : SessionId
  stream : StreamId
  directionality : Directionality
  deriving DecidableEq

namespace StreamHandle

/-- The integer by which the application knows the stream. -/
def id (h : StreamHandle) : UInt32 := h.stream.handle

/-- The debug rendering of a stream handle. -/
def debug (h : StreamHandle) : String :=
  "StreamHandle \x7b session_id: " ++ h.session.debug ++ ", stream_id: " ++
    toString h.id.toNat ++ ", directionality: " ++ h.directionality.debug ++ " \x7d"

end StreamHandle

/-- How a stream visitor reacts to data and to the end of the stream. -/
inductive StreamMode where
  | quiet
  /-- Writes data back and closes at the end. -/
  | echo
  /-- Closes at the end. -/
  | closer
  /-- Answers data with a last word. -/
  | replyFin
  deriving DecidableEq, Inhabited

/-- How a session visitor reacts. -/
inductive SessionMode where
  | quiet
  /-- Gives every incoming stream a visitor. -/
  | accept
  /-- Opens a stream as soon as it may. -/
  | opener
  /-- Closes the session when the peer says goodbye. -/
  | leaver
  deriving DecidableEq, Inhabited

/-- How a server visitor reacts. -/
inductive ServerMode where
  | quiet
  /-- Gives every session a visitor that accepts streams. -/
  | accept
  deriving DecidableEq, Inhabited

/-- How a client visitor reacts. -/
inductive ClientMode where
  | quiet
  /-- Opens a stream and greets. -/
  | hello
  deriving DecidableEq, Inhabited

/-- By what a visitor is known: where it was installed, and a label. -/
structure Tag where
  place : String
  label : String
  deriving DecidableEq, Inhabited

structure StreamVisitor where
  tag : Tag
  mode : StreamMode
  deriving DecidableEq, Inhabited

structure SessionVisitor where
  tag : Tag
  mode : SessionMode
  streamMode : StreamMode
  deriving DecidableEq, Inhabited

structure ServerVisitor where
  tag : Tag
  mode : ServerMode
  streamMode : StreamMode
  deriving DecidableEq, Inhabited

structure ClientVisitor where
  tag : Tag
  mode : ClientMode
  deriving DecidableEq, Inhabited

/-- One listener hears of all sessions and streams by their integers. -/
structure Listener where
  tag : Tag
  deriving DecidableEq, Inhabited

/-- What a stream visitor is told. -/
inductive StreamNews where
  | data (bytes : Bytes)
  | fin
  | canWrite
  | closed
  deriving DecidableEq

/-- What a session visitor is told. -/
inductive SessionNews where
  | incomingStream (stream : StreamHandle)
  | canCreate (dir : Dir)
  | goaway
  | streamClosed (stream : UInt32)
  | connectionClosed (reason : CloseReason)
  deriving DecidableEq

/-- What a server visitor is told. -/
inductive ServerNews where
  | session (session : SessionHandle)
  | sessionClosed (session : SessionId) (connection : ConnectionHandle)
  | ended
  deriving DecidableEq

/-- What a client visitor is told. -/
inductive ClientNews where
  | connected (session : SessionHandle)
  | connectionFailed (reason : CloseReason)
  deriving DecidableEq

/-- What the listener is told. -/
inductive ListenerNews where
  | ready (session : SessionId) (stream : UInt32)
  | data (session : SessionId) (stream : UInt32) (bytes : Bytes)
  | fin (session : SessionId) (stream : UInt32)
  | streamClosed (session : SessionId) (stream : UInt32)
  | sessionClosed (session : SessionId)
  deriving DecidableEq

/-- A callback that was posted, with its receiver. -/
inductive Notice where
  | stream (receiver : StreamVisitor) (stream : StreamHandle) (news : StreamNews)
  | session (receiver : SessionVisitor) (session : SessionHandle) (news : SessionNews)
  | server (receiver : ServerVisitor) (news : ServerNews)
  | client (receiver : ClientVisitor) (news : ClientNews)
  | listener (receiver : Listener) (news : ListenerNews)
  deriving DecidableEq

/-- Where notices go: the listener that is installed, if any, and whether notices are still taken. -/
structure Audience where
  listener : Option Listener
  taken : Bool
  deriving DecidableEq

namespace Audience

def silent : Audience := ⟨none, true⟩

instance : Inhabited Audience := ⟨silent⟩

/-- The notices that posting these amounts to: none once no more are taken. -/
def heard (a : Audience) (notices : List Notice) : List Notice :=
  if a.taken then notices else []

/-- The notice that tells the listener, if there is one. -/
def tellListener (a : Audience) (news : ListenerNews) : List Notice :=
  match a.listener with
  | some l => [.listener l news]
  | none => []

end Audience

end QuicSessions
