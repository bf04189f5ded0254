import QuicSessions.Instance
import QuicSessions.Tls.Identity

/-!
# Servers

A server is made from a configuration that passes the check and an identity that can be read. It
listens on one port at a time, and may listen again once it was stopped.
-/

set_option autoImplicit false

namespace QuicSessions

structure Server (ε τ π : Type) where
  config : ServerConfig
  identity : Identity
  running : Instance ServerVisitor ε τ π

namespace Server

variable {ε τ π : Type}

/-- A server of a configuration; `number` tells instances apart. -/
def create (files : Files) (number : Nat) (c : ServerConfig) :
    Except TransportError (Server ε τ π) := do
  c.validate.mapError TransportError.ofConfig
  let identity ← (Identity.ofConfig files c).mapError TransportError.ofQuic
  return ⟨c, identity, .new ("quic-server-io-" ++ toString number)⟩

/-- A server with the certificate and the key that two files hold. -/
def createWithFiles (files : Files) (number : Nat) (cert key : String) :
    Except TransportError (Server ε τ π) :=
  create files number (ServerConfig.default.withCertFiles cert key)

def options (c : ServerConfig) : SessionOptions where
  respectGoaway := c.respectGoaway
  buffer := c.maxBufferedBytes.toNat
  keepAlive := c.keepAliveInterval
  handshakeTimeout := none

/-- What it takes to listen on a port. -/
def launchOf (c : ServerConfig) (settings : Settings) (port : UInt16) : Launch ServerVisitor where
  role := .server
  bindTo := c.bindAddress.ip.withPort port
  occupied := .configuration "server" "server is already listening"
  settings := settings
  options := options c
  openOnConnect := false
  maxSessions := some c.maxSessions.toNat
  maxReads := c.maxReads.toNat
  target := none
  visitor := none
  listener := none

section Calls

variable [Transport τ] [Endpoint ε τ π] (now : Instant) (held : List SocketAddress)

/-- Listens on a port, or on one that the host chooses, and answers with the port. -/
def listen (port : UInt16) (s : Server ε τ π) : Except TransportError UInt16 × Server ε τ π :=
  match s.identity.settings s.config with
  | .error e => (.error (.ofQuic e), s)
  | .ok settings =>
    let (r, running) := s.running.launch now held (launchOf s.config settings port)
    (r.map fun l => l.1.port, { s with running := running })

/-- Closes every session and releases the socket. -/
def stop (s : Server ε τ π) : Server ε τ π := { s with running := s.running.stop now held }

end Calls

/-- The port, or zero if the server does not listen. -/
def port (s : Server ε τ π) : UInt16 := (s.running.ask fun d => d.localAddress.port).getD 0

def isListening (s : Server ε τ π) : Bool := s.port ≠ 0

def sessions (s : Server ε τ π) : List SessionId := (s.running.ask Dispatcher.sessionIds).getD []

def session (id : SessionId) (s : Server ε τ π) : Option SessionHandle :=
  (s.running.ask (Dispatcher.sessionHandle id)).join

/-- The server for a human reader. -/
def debug (s : Server ε τ π) : String :=
  "QuicServer \x7b bind_address: " ++ s.config.bindAddress.render ++ ", io: " ++
    s.running.io.debug ++ " \x7d"

end Server

end QuicSessions
