import QuicSessions.Wire.Connection

/-!
# Using a connection directly

What a peer without a session of this library can do on its connection.
-/

set_option autoImplicit false

namespace QuicSessions.Wire

/-- The use of a half that a stream does not have on this side: a programming mistake. -/
inductive Misuse where
  | noSendHalf
  | noReceiveHalf
  deriving DecidableEq

/-- The mistake as the condition that did not hold. -/
def Misuse.message : Misuse → String
  | .noSendHalf =>
    "assertion failed: id.dir() == Dir::Bi || id.initiator() == self.side.side()"
  | .noReceiveHalf =>
    "assertion failed: id.dir() == Dir::Bi || id.initiator() != self.side.side()"

/-- Passes if the stream can be written on a side. -/
def checkSends (id : StreamId) (side : Side) : Except Misuse Unit :=
  if (Directionality.of id side).writable then .ok () else .error .noSendHalf

/-- Passes if the stream can be read on a side. -/
def checkReceives (id : StreamId) (side : Side) : Except Misuse Unit :=
  if (Directionality.of id side).readable then .ok () else .error .noReceiveHalf

/-- A direct use of a connection. -/
inductive RawOperation where
  | openStream (dir : Dir)
  | write (id : StreamId) (data : Bytes)
  | finish (id : StreamId)
  | reset (id : StreamId) (code : Nat)
  | stop (id : StreamId) (code : Nat)
  | datagram (data : Bytes)

/-- What it answers. -/
inductive RawAnswer where
  | stream (id : Option StreamId)
  | count (n : Nat)
  | refused (text : String)
  | flag (value : Bool)
  | misused (m : Misuse)

namespace Connection

/-- Writes as much as fits; nothing written to a stream that takes more counts as zero bytes. -/
def rawWrite (id : StreamId) (data : Bytes) (c : Connection) : RawAnswer × Connection :=
  if data.isEmpty && !c.isClosed then
    match c.streams.writable id with
    | (.ok _, streams) => (.count 0, { c with streams := streams })
    | (.error answer, streams) => (describe answer, { c with streams := streams })
  else
    let (answer, c) := c.write id data
    (describe answer, c)
where
  /-- The answer in numbers or words. -/
  describe {n : Nat} : WriteAnswer n → RawAnswer
    | .accepted taken _ _ => .count taken
    | .blocked => .refused "unable to accept further writes"
    | .stopped code => .refused ("sending stopped by peer: error " ++ toString code)
    | .unknown => .refused "closed stream"

end Connection

namespace RawOperation

/-- The half that an operation needs. -/
def check (op : RawOperation) (side : Side) : Except Misuse Unit :=
  match op with
  | .write id _ => checkSends id side
  | .finish id => checkSends id side
  | .reset id _ => checkSends id side
  | .stop id _ => checkReceives id side
  | .openStream _ => .ok ()
  | .datagram _ => .ok ()

/-- Carries out an operation whose half is there. -/
def runChecked (op : RawOperation) (c : Connection) : RawAnswer × Connection :=
  match op with
  | .openStream dir =>
    match c.openStream dir with
    | some (id, c) => (.stream (some id), c)
    | none => (.stream none, c)
  | .write id data => c.rawWrite id data
  | .finish id =>
    let (answer, streams) := c.streams.finish id
    (.flag (answer = .done), { c with streams := streams })
  | .reset id code =>
    let (done, streams) := c.streams.reset id code
    (.flag done, { c with streams := streams })
  | .stop id code =>
    let (done, streams) := c.streams.stop id code
    (.flag done, { c with streams := streams })
  | .datagram data =>
    let (sent, c) := c.sendDatagram data
    (.flag sent, c)

/-- Carries out an operation; a mistaken one changes nothing. -/
def run (op : RawOperation) (c : Connection) : RawAnswer × Connection :=
  match op.check c.side with
  | .error m => (.misused m, c)
  | .ok () => op.runChecked c

end RawOperation

end QuicSessions.Wire
