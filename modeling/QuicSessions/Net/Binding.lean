import QuicSessions.Failure

/-!
# Binding sockets

A socket is bound to an address of this host: a loopback address, or one that stands for any. No two
sockets may be bound to addresses at which the same packet could arrive. Port zero leaves the choice
to the host.
-/

set_option autoImplicit false

namespace QuicSessions

namespace IpAddress

/-- Whether a socket of this host may be bound here. -/
def isLocal : IpAddress → Bool
  | .v4 x => x.a == 127 || x == Ipv4.unspecified
  | .v6 x => x == Ipv6.loopback || x == Ipv6.unspecified

/-- Whether packets for the second address arrive at the first as well. The address that stands for
any of the newer family takes in both families. -/
def covers : IpAddress → IpAddress → Bool
  | .v4 x, .v4 y => x == Ipv4.unspecified || x == y
  | .v6 x, .v6 y => x == Ipv6.unspecified || x == y
  | .v6 x, .v4 _ => x == Ipv6.unspecified
  | .v4 _, .v6 _ => false

end IpAddress

namespace SocketAddress

/-- Whether some packet could arrive at both addresses. -/
def clashes (x y : SocketAddress) : Bool :=
  x.port == y.port && (x.ip.covers y.ip || y.ip.covers x.ip)

/-- The same address with another port. -/
def withPort (port : UInt16) : SocketAddress → SocketAddress
  | .v4 x _ => .v4 x port
  | .v6 x scope _ => .v6 x scope port

end SocketAddress

namespace Net

/-- The first of the ports that the host chooses from. -/
def firstChoice : Nat := 49152

/-- The addresses that the host chooses from for a socket without a port of its own. -/
def choices (wanted : SocketAddress) : List SocketAddress :=
  (List.range (UInt16.size - firstChoice)).map fun i => wanted.withPort (firstChoice + i).toUInt16

def addressInUse : IoError := ⟨.addressInUse, "Address already in use (os error 98)"⟩

def addressNotAvailable : IoError := ⟨.other, "Cannot assign requested address (os error 99)"⟩

/-- Whether an address can be bound beside those that are held. -/
def isFree (held : List SocketAddress) (a : SocketAddress) : Bool := held.all fun b => !a.clashes b

/-- Binds a socket, beside those that hold their addresses. -/
def bind (held : List SocketAddress) (wanted : SocketAddress) : Except IoError SocketAddress :=
  if !wanted.ip.isLocal then .error addressNotAvailable
  else if wanted.port = 0 then
    match (choices wanted).find? (isFree held) with
    | some a => .ok a
    | none => .error addressInUse
  else if isFree held wanted then .ok wanted
  else .error addressInUse

/-- A socket is never bound where it clashes with another. -/
theorem isFree_of_bind {held : List SocketAddress} {wanted a : SocketAddress}
    (h : bind held wanted = .ok a) : isFree held a = true := by
  unfold bind at h
  split at h
  · cases h
  split at h
  · split at h
    · next heq =>
      cases h
      exact List.find?_some heq
    · cases h
  split at h
  · next hfree =>
    cases h
    exact hfree
  · cases h

end Net

end QuicSessions
