import QuicSessions.Instance
import QuicSessions.Net.Resolver
import QuicSessions.Text.Quoted
import QuicSessions.Tls.Trust

/-!
# Clients

A client is made from a configuration that passes the check and certificates that can be read. It
has one session at a time, and may start again once it was stopped.
-/

set_option autoImplicit false

namespace QuicSessions

structure Client (ε τ π : Type) where
  config : ClientConfig
  trust : Trust
  running : Instance ClientVisitor ε τ π

namespace Client

variable {ε τ π : Type}

/-- A client of a configuration; `number` tells instances apart. -/
def create (number : Nat) (c : ClientConfig) : Except TransportError (Client ε τ π) := do
  c.validate.mapError TransportError.ofConfig
  let trust ← (Trust.ofConfig c).mapError TransportError.ofQuic
  return ⟨c, trust, .new ("quic-client-io-" ++ toString number)⟩

def options (c : ClientConfig) : SessionOptions where
  respectGoaway := c.respectGoaway
  buffer := c.maxBufferedBytes.toNat
  keepAlive := c.keepAliveInterval
  handshakeTimeout := some c.connectTimeout

/-- Any address of the family of another one. -/
def anyBeside : SocketAddress → SocketAddress
  | .v4 _ _ => .v4 .unspecified 0
  | .v6 _ _ _ => .v6 .unspecified 0 0

/-- What it takes to begin a session with a server. -/
def launchOf (c : ClientConfig) (settings : Settings) (remote : SocketAddress) :
    Launch ClientVisitor where
  role := .client
  bindTo := c.localBindAddress.getD (anyBeside remote)
  occupied := .configuration "client" "client is already started"
  settings := settings
  options := options c
  openOnConnect := c.openStreamOnConnect
  maxSessions := none
  maxReads := c.maxReads.toNat
  target := some (remote, c.serverName)
  visitor := none
  listener := none

section Calls

variable [Transport τ] [Endpoint ε τ π] (now : Instant) (held : List SocketAddress)

/-- The socket address and the settings that a session would begin with. -/
def prepare (host : String) (port : UInt16) (s : Client ε τ π) :
    Except TransportError (SocketAddress × Settings) := do
  let remote ← Net.resolve host port
  let settings ← (s.trust.settings s.config).mapError TransportError.ofQuic
  return (remote, settings)

/-- Begins a session with a server. The answer comes before the handshake is over. -/
def start (host : String) (port : UInt16) (s : Client ε τ π) :
    Except TransportError SessionHandle × Client ε τ π :=
  match s.prepare host port with
  | .error e => (.error e, s)
  | .ok (remote, settings) =>
    let (r, running) := s.running.launch now held (launchOf s.config settings remote)
    let s := { s with running := running }
    match r with
    | .ok (_, some h) => (.ok h, s)
    | .ok (_, none) => (.error .runnerStopped, s)
    | .error e => (.error e, s)

/-- Closes the session and releases the socket. -/
def stop (s : Client ε τ π) : Client ε τ π := { s with running := s.running.stop now held }

end Calls

/-- The session, if there is one. -/
def session (s : Client ε τ π) : Option SessionHandle :=
  (s.running.ask fun d => (d.sessionIds.head?.bind fun id => d.sessionHandle id)).join

/-- The client for a human reader. -/
def debug (s : Client ε τ π) : String :=
  "QuicClient \x7b server_name: " ++ Text.quoted s.config.serverName ++ ", io: " ++
    s.running.io.debug ++ " \x7d"

end Client

end QuicSessions
