import QuicSessions.CloseReason
import QuicSessions.Statistics
import QuicSessions.StreamId

/-!
# What a session asks of its transport

A session drives one connection of an engine. `Transport` lists what it may ask of that connection,
and the answer types say what it may be told: an accepted write takes at least one byte and no more
than were offered, a region that is read is not empty and no longer than was asked for. Everything
in this library that works on streams and sessions is written for any transport.
-/

set_option autoImplicit false

namespace QuicSessions

/-- The answer to an offer of bytes on a stream. -/
inductive WriteAnswer (offered : Nat) where
  /-- Some of the bytes, counted from the first, are the transport's now. -/
  | accepted (taken : Nat) (pos : 0 < taken) (le : taken ≤ offered)
  /-- No room; the transport reports when there is some. -/
  | blocked
  /-- The peer asked not to be sent more. -/
  | stopped (code : Nat)
  /-- There is no such stream, or nothing more can be sent on it. -/
  | unknown

/-- The answer to the wish to end a stream after what was written. -/
inductive FinishAnswer where
  | done
  | stopped (code : Nat)
  | unknown
  deriving DecidableEq

/-- The answer to the wish to read on. -/
inductive ReadAnswer (limit : Nat) where
  /-- The next bytes of the stream that arrived together. -/
  | region (bytes : Bytes) (nonempty : bytes ≠ []) (le : bytes.length ≤ limit)
  /-- The peer ended the stream, and all of it was read. -/
  | finished
  /-- The peer gave the stream up. -/
  | reset (code : Nat)
  /-- Nothing for now; the transport reports when there is more. -/
  | blocked

/-- What a transport reports to its session. -/
inductive Event where
  | handshakeData
  | connected
  | lost (cause : ConnectionError)
  /-- The peer opened streams. -/
  | opened (dir : Dir)
  | readable (id : StreamId)
  | writable (id : StreamId)
  /-- The peer has everything sent on the stream, its end included. -/
  | finished (id : StreamId)
  | stopped (id : StreamId) (code : Nat)
  /-- The peer allows more streams. -/
  | available (dir : Dir)
  | datagram
  | datagramsUnblocked
  deriving DecidableEq

/-- A connection as its session sees it. -/
class Transport (τ : Type) where
  side : τ → Side
  remote : τ → SocketAddress
  counters : τ → PathCounters
  /-- Closing has begun, from either end. -/
  isClosed : τ → Bool
  /-- Closing is over. -/
  isDrained : τ → Bool
  openStream : Dir → τ → Option (StreamId × τ)
  /-- The next stream that the peer opened. -/
  acceptStream : Dir → τ → Option (StreamId × τ)
  write : StreamId → (data : Bytes) → τ → WriteAnswer data.length × τ
  finish : StreamId → τ → FinishAnswer × τ
  reset : StreamId → Nat → τ → τ
  stop : StreamId → Nat → τ → τ
  /-- Starts a pass of reads, unless there is nothing to read from. -/
  beginRead : StreamId → τ → Option τ
  nextRegion : StreamId → (limit : Nat) → τ → ReadAnswer limit × τ
  /-- Ends a pass; what was read is credited to the peer. -/
  endRead : StreamId → τ → τ
  poll : τ → Option (Event × τ)
  receiveDatagram : τ → Option (Bytes × τ)
  sendDatagram : Bytes → τ → Bool × τ
  ping : τ → τ
  close : Instant → Nat → Bytes → τ → τ
  /-- When the transport next wants to be told the time. -/
  deadline : τ → Option Instant
  timeout : Instant → τ → τ
  /-- How many reports, opened streams and datagrams wait for the session. -/
  backlog : τ → Nat

end QuicSessions
