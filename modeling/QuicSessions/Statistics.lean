import QuicSessions.Net.Address
import QuicSessions.Time

/-!
# Connection statistics

A snapshot of what the engine counted on one connection, with the number of open streams.
-/

set_option autoImplicit false

namespace QuicSessions

/-- What the engine counts on one connection. -/
structure PathCounters where
  rtt : Duration
  congestionWindow : Nat
  lostPackets : Nat
  bytesSent : Nat
  bytesReceived : Nat
  datagramsSent : Nat
  datagramsReceived : Nat

/-- A snapshot of a connection. The remote address is absent until one is known. -/
structure ConnectionStats where
  remoteAddress : Option SocketAddress
  rtt : Duration
  congestionWindow : Nat
  lostPackets : Nat
  bytesSent : Nat
  bytesReceived : Nat
  datagramsSent : Nat
  datagramsReceived : Nat
  openStreams : Nat

namespace ConnectionStats

/-- The snapshot of no connection: no address, and all counters zero. -/
def none : ConnectionStats := ⟨.none, .zero, 0, 0, 0, 0, 0, 0, 0⟩

/-- The snapshot of a connection to a remote address. -/
def ofCounters (c : PathCounters) (remote : SocketAddress) (openStreams : Nat) : ConnectionStats :=
  ⟨some remote, c.rtt, c.congestionWindow, c.lostPackets, c.bytesSent, c.bytesReceived,
    c.datagramsSent, c.datagramsReceived, openStreams⟩

end ConnectionStats

end QuicSessions
