import QuicSessions.Endpoint

/-!
# Frames and packets

The engine exchanges packets of frames in memory. Both ends of a connection know it by one number,
its link. No answer of this library shows how a packet is written, so frames stay values.
-/

set_option autoImplicit false

namespace QuicSessions.Wire

/-- What two ends of a connection tell each other. -/
inductive Frame where
  /-- The client's first flight: which streams it allows, and its longest silence. -/
  | hello (streams : PerDir Nat) (idle : Nat)
  /-- The server's flight. After it the client's handshake is over. -/
  | welcome (streams : PerDir Nat) (idle : Nat)
  /-- The client's last flight. After it the server's handshake is over. -/
  | complete
  | ping
  | ack (numbers : List Nat)
  | stream (id : StreamId) (offset : Nat) (data : Bytes) (fin : Bool)
  | reset (id : StreamId) (code : Nat)
  | stop (id : StreamId) (code : Nat)
  | maxStreamData (id : StreamId) (limit : Nat)
  | maxStreams (dir : Dir) (count : Nat)
  | datagram (data : Bytes)
  | applicationClose (code : Nat) (reason : Bytes)
  | transportClose (code : TransportCode) (reason : Bytes)
  /-- The sender knows nothing of the connection. -/
  | unknownConnection

namespace Frame

/-- Whether the frame has to be acknowledged. -/
def eliciting : Frame → Bool
  | ack _ => false
  | applicationClose _ _ => false
  | transportClose _ _ => false
  | unknownConnection => false
  | _ => true

/-- Whether the frame belongs to the handshake. -/
def ofHandshake : Frame → Bool
  | hello _ _ => true
  | welcome _ _ => true
  | complete => true
  | _ => false

/-- The cause that a closing frame gives. -/
def closeCause? : Frame → Option ConnectionError
  | applicationClose code reason => some (.applicationClosed code reason)
  | transportClose code reason => some (.connectionClosed code reason)
  | unknownConnection => some .reset
  | _ => none

/-- How many bytes a frame counts for: those that it carries, and one for what it is. -/
def size : Frame → Nat
  | stream _ _ data _ => data.length + 1
  | datagram data => data.length + 1
  | applicationClose _ reason => reason.length + 1
  | transportClose _ reason => reason.length + 1
  | _ => 1

end Frame

/-- A packet of one connection. -/
structure Packet where
  link : Nat
  number : Nat
  frames : List Frame

/-- How many bytes a packet counts for. -/
def Packet.size (p : Packet) : Nat := (p.frames.map Frame.size).foldl (· + ·) 0

/-- What a socket receives: a packet of this engine, or the bytes of a stranger. -/
inductive Payload where
  | packet (p : Packet)
  | foreign (bytes : Bytes)

/-! ## Packets of strangers -/

/-- The versions that the engine speaks: version 1 and the drafts 29 to 34. -/
def supportedVersion (v : Nat) : Bool := v == 1 || (0xff00001d ≤ v && v ≤ 0xff000022)

/-- What follows a connection identifier: its length, at most 20, and that many bytes. -/
def skipConnectionId : Bytes → Option Bytes
  | [] => none
  | n :: rest => if n.toNat ≤ 20 ∧ n.toNat ≤ rest.length then some (rest.drop n.toNat) else none

/-- Whether bytes are a long-header packet of a version that the engine does not speak, large enough
to be told so. -/
def wantsVersions (bytes : Bytes) : Bool :=
  match bytes with
  | first :: a :: b :: c :: d :: rest =>
    let version := ((a.toNat * 256 + b.toNat) * 256 + c.toNat) * 256 + d.toNat
    1200 ≤ bytes.length && 128 ≤ first.toNat && version != 0 && !supportedVersion version &&
      ((skipConnectionId rest).bind skipConnectionId).isSome
  | _ => false

end QuicSessions.Wire
