import QuicSessions.CloseReason
import QuicSessions.Net.Address

/-!
# Failures

`QuicError` lists what can go wrong in the engine, the TLS layer and the sockets. `TransportError`
is what callers of servers and clients see: a connection, protocol or configuration failure, which
says whether trying again can help. Every `QuicError` has one `TransportError`.
-/

set_option autoImplicit false

namespace QuicSessions

/-- The kinds of socket and file errors. Those named here are worth trying again. -/
inductive IoErrorKind where
  | connectionRefused
  | connectionAborted
  | connectionReset
  | timedOut
  | interrupted
  | addressInUse
  | other
  deriving DecidableEq

namespace IoErrorKind

/-- The kind that a name stands for. -/
def ofName : String → IoErrorKind
  | "ConnectionRefused" => connectionRefused
  | "ConnectionAborted" => connectionAborted
  | "ConnectionReset" => connectionReset
  | "TimedOut" => timedOut
  | "Interrupted" => interrupted
  | "AddrInUse" => addressInUse
  | _ => other

def retryable : IoErrorKind → Bool
  | other => false
  | _ => true

end IoErrorKind

/-- An error of a socket or a file. -/
structure IoError where
  kind : IoErrorKind
  text : String
  deriving DecidableEq

/-- A failure as callers see it. -/
inductive TransportError where
  | connection (reason : String) (retryable : Bool)
  | protocol (name reason : String)
  | configuration (field reason : String)
  deriving DecidableEq, Inhabited

namespace TransportError

def retryable : TransportError → Bool
  | connection _ r => r
  | _ => false

/-- The code of the kind of failure. -/
def code : TransportError → String
  | connection _ _ => "CONNECTION_ERROR"
  | protocol _ _ => "PROTOCOL_ERROR"
  | configuration _ _ => "CONFIG_ERROR"

/-- A failure in words. -/
def message : TransportError → String
  | connection reason r =>
    "Connection error: " ++ reason ++ " (retryable: " ++ (if r then "true" else "false") ++ ")"
  | protocol name reason => "Protocol error (" ++ name ++ "): " ++ reason
  | configuration field reason => "Configuration error in field '" ++ field ++ "': " ++ reason

def ofIo (e : IoError) : TransportError :=
  connection ("IO error: " ++ e.text) e.kind.retryable

/-- The failure of a call to an instance whose worker thread is gone. -/
def runnerStopped : TransportError := connection "I/O runner stopped" false

end TransportError

/-- Why a connection could not be begun. -/
inductive ConnectError where
  | endpointStopping
  | cidsExhausted
  | invalidServerName (name : String)
  | invalidRemoteAddress (address : SocketAddress)
  | noDefaultClientConfig
  | unsupportedVersion
  deriving DecidableEq

/-- A connect error in words. -/
def ConnectError.message : ConnectError → String
  | endpointStopping => "endpoint stopping"
  | cidsExhausted => "CIDs exhausted"
  | invalidServerName name => "invalid server name: " ++ name
  | invalidRemoteAddress address => "invalid remote address: " ++ address.render
  | noDefaultClientConfig => "no default client config"
  | unsupportedVersion => "unsupported QUIC version"

/-- What the TLS layer objects to. -/
inductive TlsError where
  | unexpected (text : String)
  /-- The certificate cannot be used. -/
  | badCertificate
  /-- The private key cannot be used, or is not the one of the certificate. -/
  | badKey
  deriving DecidableEq

/-- A TLS error in words. -/
def TlsError.message : TlsError → String
  | unexpected text => "unexpected error: " ++ text
  | badCertificate => "invalid peer certificate: BadEncoding"
  | badKey => "keys may not be consistent: KeyMismatch"

/-- What is wrong with certificates or keys before the TLS layer sees them. -/
inductive CertificateError where
  | unreadableCertificates
  | unreadableKey
  | noCertificates
  | noKey
  | file (path : String) (e : IoError)
  | other (text : String)
  deriving DecidableEq

/-- A certificate error in words. -/
def CertificateError.message : CertificateError → String
  | unreadableCertificates => "Failed to parse certificates: malformed section"
  | unreadableKey => "Failed to parse private key: malformed section"
  | noCertificates => "No certificates found in PEM data"
  | noKey => "No private key found in PEM data"
  | file path e => "Failed to read " ++ path ++ ": " ++ e.text
  | other text => text

/-- What can go wrong in the engine, the TLS layer and the sockets. -/
inductive QuicError where
  | connect (e : ConnectError)
  | connection (e : ConnectionError)
  | tls (e : TlsError)
  | io (e : IoError)
  | certificate (e : CertificateError)
  | config (text : String)
  deriving DecidableEq

/-- An engine failure in words. -/
def QuicError.message : QuicError → String
  | connect e => "QUIC connect error: " ++ e.message
  | connection e => "QUIC connection error: " ++ e.message
  | tls e => "TLS error: " ++ e.message
  | io e => "IO error: " ++ e.text
  | certificate e => "Certificate error: " ++ e.message
  | config text => "Configuration error: " ++ text

/-- An engine failure as callers see it. A lost connection is worth trying again, a refused attempt
to connect is not. -/
def TransportError.ofQuic : QuicError → TransportError
  | .connect e => connection ("QUIC connect failed: " ++ e.message) false
  | .connection e => connection ("QUIC connection error: " ++ e.message) true
  | .tls e => configuration "tls" ("TLS error: " ++ e.message)
  | .io e => ofIo e
  | .certificate e => configuration "certificate" e.message
  | .config text => configuration "quic" text

end QuicSessions
