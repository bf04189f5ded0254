import QuicSessions.Failure
import QuicSessions.SessionId
import QuicSessions.Transport

/-!
# What a dispatcher asks of its endpoint

An endpoint makes connections and tells which of them an arriving packet belongs to. `Endpoint`
lists what a dispatcher may ask of it; the dispatcher is written for any endpoint.
-/

set_option autoImplicit false

namespace QuicSessions

/-- What a side allows its peer, and how long it waits in silence. -/
structure Settings where
  /-- How many streams of each direction the peer may have open. -/
  streams : PerDir Nat
  /-- The longest silence, in nanoseconds. -/
  idle : Nat
  /-- Whether the peer's certificate has to be trusted. -/
  verify : Bool
  deriving Inhabited

/-- A packet with the address that it goes to. -/
structure Outgoing (π : Type) where
  destination : SocketAddress
  packet : π

/-- What an endpoint makes of an arriving packet. -/
inductive Arrival (π : Type) where
  /-- It belongs to a connection. -/
  | connection (handle : ConnectionHandle)
  /-- It asks for a new connection. -/
  | request
  /-- It is answered without a connection. -/
  | answer (packets : List (Outgoing π))
  | ignored

/-- Connections of type `τ` that exchange packets of type `π`. -/
class Endpoint (ε : Type) (τ π : outParam Type) where
  /-- An endpoint that peers may connect to. -/
  serving : Settings → ε
  /-- An endpoint that only begins connections. -/
  calling : ε
  connect : Instant → Settings → (remote : SocketAddress) → (serverName : String) → ε →
    Except ConnectError (ConnectionHandle × τ × ε)
  arrival : Instant → (source : SocketAddress) → π → ε → Arrival π × ε
  /-- Grants a request, or answers it if the packet turns out not to be a proper one. -/
  accept : Instant → (source : SocketAddress) → π → ε →
    Except (List (Outgoing π)) (ConnectionHandle × τ) × ε
  /-- Turns a request down. -/
  refuse : (source : SocketAddress) → π → ε → List (Outgoing π) × ε
  /-- Hands a packet to the connection that it belongs to. -/
  deliver : Instant → π → τ → τ
  /-- Lets connection and endpoint settle what they owe each other. -/
  settle : ConnectionHandle → τ → ε → τ × ε
  /-- Everything that the connection has to send now. -/
  transmit : Instant → τ → List (Outgoing π) × τ

end QuicSessions
