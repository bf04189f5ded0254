/-!
# Session identifiers and connection handles

Sessions are numbered with 32 bits; the numbers wrap around. A connection handle is the number of
the slot that an endpoint gave to a connection.
-/

set_option autoImplicit false

namespace QuicSessions

/-- The number of a session. -/
structure SessionId where
  raw : UInt32
  deriving DecidableEq, Inhabited

namespace SessionId

/-- The number given to the session after this one. -/
def next (id : SessionId) : SessionId := ⟨id.raw + 1⟩

def compare (a b : SessionId) : Ordering := Ord.compare a.raw.toNat b.raw.toNat

def le (a b : SessionId) : Bool := decide (a.raw.toNat ≤ b.raw.toNat)

/-- The name of a session. -/
def display (id : SessionId) : String := "session-" ++ toString id.raw.toNat

/-- The debug rendering of a session number. -/
def debug (id : SessionId) : String := "SessionId(" ++ toString id.raw.toNat ++ ")"

end SessionId

/-- The slot of a connection in its endpoint. -/
structure ConnectionHandle where
  slot : Nat
  deriving DecidableEq, Inhabited

namespace ConnectionHandle

/-- The name of a connection. -/
def display (h : ConnectionHandle) : String := "conn-" ++ toString h.slot

/-- The debug rendering of a connection handle. -/
def debug (h : ConnectionHandle) : String :=
  "ConnectionId(ConnectionHandle(" ++ toString h.slot ++ "))"

end ConnectionHandle

end QuicSessions
