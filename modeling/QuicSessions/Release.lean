/-!
# The released version
-/

set_option autoImplicit false

namespace QuicSessions.Release

/-- The version number of this layer. -/
def number : String := "0.1.0"

/-- What the version brought. -/
def change : String := "goaway datagram, handshake timeout and integer-handle listener"

end QuicSessions.Release
