import QuicSessions.LiveStream
import QuicSessions.Wire.Raw

/-!
# One stream on a connection that is never made

A live stream without a session, on the client end of a connection whose handshake never starts. The
stream may be set up as the server would have it; then one of its halves may be missing on this end,
and what needs that half stops there as a mistake.
-/

set_option autoImplicit false

namespace QuicSessions.Scenario

/-- The addresses of the two sides. -/
def serverAddress : SocketAddress := .v4 .loopback 4433

def clientAddress : SocketAddress := .v4 .loopback 50000

/-- The settings that allow the peer a hundred streams of each direction. -/
def commonSettings : Settings := ⟨⟨100, 100⟩, millis 30000, false⟩

/-- The client end of a connection that nothing was sent on. -/
def unmadeConnection : Wire.Connection := .new .client 0 serverAddress commonSettings

namespace Bare

/-- What can be asked of the stream. -/
inductive Operation where
  | write (data : Bytes) (fin : Bool)
  | flush
  | close
  | stopped (code : Nat)
  | finished
  | takeFin
  | read (limit : Nat)
  | drain
  | reject
  | closeConnection

/-- What an operation answers. -/
inductive Answer where
  | done
  | flag (value : Bool)
  | count (n : Nat)
  | pass (p : ReadPass)
  | misused (m : Wire.Misuse)

structure State where
  stream : LiveStream
  connection : Wire.Connection

def new (id : StreamId) (side : Side) (buffer : Nat) : State :=
  ⟨.new id (.of id side) buffer, unmadeConnection⟩

/-- The half that an operation needs on the way. -/
def Operation.check (side : Side) (op : Operation) (stream : LiveStream) :
    Except Wire.Misuse Unit :=
  let sends := Wire.checkSends stream.id .client
  let receives := Wire.checkReceives stream.id .client
  match op with
  | .write data fin => if (stream.enqueue? data fin).isSome then sends else .ok ()
  | .flush => if stream.writeClosed then .ok () else sends
  | .close => if stream.writeClosed || stream.finAsked then .ok () else sends
  | .read limit => if stream.readClosed || limit == 0 then .ok () else receives
  | .drain => if stream.readClosed then .ok () else receives
  | .reject => do
    if (Directionality.of stream.id side).readable then receives
    if (Directionality.of stream.id side).writable then sends
  | _ => .ok ()

/-- What a mistaken operation leaves behind: what was asked for waits, and is never sent. -/
def Operation.halt (op : Operation) (stream : LiveStream) : LiveStream :=
  match op with
  | .write data fin => (stream.enqueue? data fin).getD stream
  | .close => { stream with finAsked := true }
  | _ => stream

/-- Carries out an operation whose halves are there. -/
def Operation.runChecked (side : Side) (op : Operation) (s : State) : Answer × State :=
  match op with
  | .write data fin =>
    let (n, stream, c) := s.stream.write data fin s.connection
    (.count n, ⟨stream, c⟩)
  | .flush =>
    let (empty, stream, c) := s.stream.flush s.connection
    (.flag empty, ⟨stream, c⟩)
  | .close =>
    let (stream, c) := s.stream.close s.connection
    (.done, ⟨stream, c⟩)
  | .stopped _ => (.done, { s with stream := s.stream.abandonWrites })
  | .finished => (.done, { s with stream := s.stream.acknowledged })
  | .takeFin =>
    let (fin, stream) := s.stream.takeFin
    (.flag fin, { s with stream := stream })
  | .read limit =>
    let (pass, stream, c) := s.stream.readUpTo limit s.connection
    (.pass pass, ⟨stream, c⟩)
  | .drain =>
    let (pass, stream, c) := s.stream.drain s.connection
    (.pass pass, ⟨stream, c⟩)
  | .reject =>
    (.done, { s with
      connection := LiveStream.reject s.stream.id side AppCode.streamRefused.value.toNat
        s.connection })
  | .closeConnection => (.done, { s with connection := s.connection.close 0 0 [] })

def Operation.run (side : Side) (op : Operation) (s : State) : Answer × State :=
  match op.check side s.stream with
  | .error m => (.misused m, { s with stream := op.halt s.stream })
  | .ok () => op.runChecked side s

end Bare

end QuicSessions.Scenario
