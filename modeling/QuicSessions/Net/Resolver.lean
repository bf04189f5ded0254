import QuicSessions.Failure
import QuicSessions.Net.Address.Reader

/-!
# Resolving host names

The literal of an IP address needs no look-up. Names do, and the pool that looks them up is shut
down, so they fail.
-/

set_option autoImplicit false

namespace QuicSessions.Net

/-- The address of a host, with the given port. -/
def resolve (host : String) (port : UInt16) : Except TransportError SocketAddress :=
  match IpAddress.parse? host with
  | some ip => .ok (ip.withPort port)
  | none => .error (.configuration "factory" "resolver pool is shut down")

end QuicSessions.Net
