import QuicSessions.Config.Basic

/-!
# Configuration of a server
-/

set_option autoImplicit false

namespace QuicSessions

structure ServerConfig where
  /-- Where to bind; the port is replaced by the one that the server is to listen on. -/
  bindAddress : SocketAddress
  /-- The file of the certificate chain. -/
  certPath : Option String
  /-- The file of the private key. -/
  keyPath : Option String
  /-- The certificate chain itself, used when no file is given. -/
  certPem : Option String
  /-- The private key itself, used when no file is given. -/
  keyPem : Option String
  maxIdleTimeout : Duration
  /-- How often the peer is pinged while streams are open. -/
  keepAliveInterval : Option Duration
  /-- Streams of both directions that a peer may have open. -/
  maxBidiStreams : UInt32
  /-- Streams of one direction that a peer may have open. -/
  maxUniStreams : UInt32
  /-- Sessions at a time; more handshakes are refused. -/
  maxSessions : UInt64
  /-- Bytes that may wait on one stream. -/
  maxBufferedBytes : UInt64
  /-- Packets that are read before other tasks get their turn. -/
  maxReads : UInt64
  /-- Whether new sessions refuse streams that the peer opens after its goodbye. -/
  respectGoaway : Bool

namespace ServerConfig

def default : ServerConfig where
  bindAddress := .v4 .unspecified 0
  certPath := none
  keyPath := none
  certPem := none
  keyPem := none
  maxIdleTimeout := .ofSeconds 30
  keepAliveInterval := none
  maxBidiStreams := 100
  maxUniStreams := 100
  maxSessions := 10000
  maxBufferedBytes := 1048576
  maxReads := 32
  respectGoaway := false

instance : Inhabited ServerConfig := ⟨default⟩

/-- The fields in their order. -/
def fields : List (Json.Field ServerConfig) :=
  [ .of "bind_address" Json.decodeAddress fun c x => { c with bindAddress := x },
    .of "cert_path" (Json.decodeOption Json.decodeString) fun c x => { c with certPath := x },
    .of "key_path" (Json.decodeOption Json.decodeString) fun c x => { c with keyPath := x },
    .of "cert_pem" (Json.decodeOption Json.decodeString) fun c x => { c with certPem := x },
    .of "key_pem" (Json.decodeOption Json.decodeString) fun c x => { c with keyPem := x },
    .of "max_idle_timeout" Json.decodeDuration fun c x => { c with maxIdleTimeout := x },
    .of "keep_alive_interval" (Json.decodeOption Json.decodeDuration) fun c x =>
      { c with keepAliveInterval := x },
    .of "max_concurrent_bidi_streams" Json.decodeUInt32 fun c x => { c with maxBidiStreams := x },
    .of "max_concurrent_uni_streams" Json.decodeUInt32 fun c x => { c with maxUniStreams := x },
    .of "max_sessions" Json.decodeUInt64 fun c x => { c with maxSessions := x },
    .of "max_buffered_bytes_per_stream" Json.decodeUInt64 fun c x =>
      { c with maxBufferedBytes := x },
    .of "max_reads_per_iteration" Json.decodeUInt64 fun c x => { c with maxReads := x },
    .of "respect_goaway" Json.decodeBool fun c x => { c with respectGoaway := x } ]

def toJson (c : ServerConfig) : Json :=
  .record
    [ ("bind_address", c.bindAddress.toJson),
      ("cert_path", .optional .string c.certPath),
      ("key_path", .optional .string c.keyPath),
      ("cert_pem", .optional .string c.certPem),
      ("key_pem", .optional .string c.keyPem),
      ("max_idle_timeout", c.maxIdleTimeout.toJson),
      ("keep_alive_interval", .optional Duration.toJson c.keepAliveInterval),
      ("max_concurrent_bidi_streams", .natural c.maxBidiStreams.toUInt64),
      ("max_concurrent_uni_streams", .natural c.maxUniStreams.toUInt64),
      ("max_sessions", .natural c.maxSessions),
      ("max_buffered_bytes_per_stream", .natural c.maxBufferedBytes),
      ("max_reads_per_iteration", .natural c.maxReads),
      ("respect_goaway", .bool c.respectGoaway) ]

/-- Whether a certificate comes with its key: both from files, or neither. -/
def checkFiles (c : ServerConfig) : Except ConfigError Unit :=
  match c.certPath, c.keyPath with
  | some _, none =>
    .error (.missingField "key_path" "provide the private key matching cert_path")
  | none, some _ =>
    .error (.missingField "cert_path" "provide the certificate matching key_path")
  | _, _ => .ok ()

/-- What is said of a certificate without a key, and the other way round. -/
def pemSuggestion : String :=
  "provide both cert_pem and key_pem, or neither for a self-signed certificate"

/-- Whether a certificate comes with its key: both as texts, or neither. -/
def checkPem (c : ServerConfig) : Except ConfigError Unit :=
  match c.certPem, c.keyPem with
  | some _, none => .error (.missingField "key_pem" pemSuggestion)
  | none, some _ => .error (.missingField "cert_pem" pemSuggestion)
  | _, _ => .ok ()

/-- The check: positive limits, and certificates with their keys. -/
def validate (c : ServerConfig) : Except ConfigError Unit := do
  if c.maxIdleTimeout.isZero then
    throw (.mustBePositive "max_idle_timeout" "0s" "set a timeout like 30s")
  if c.maxSessions = 0 then
    throw (.mustBePositive "max_sessions" "0" "set a positive value like 10000")
  if c.maxBufferedBytes = 0 then
    throw (.mustBePositive "max_buffered_bytes_per_stream" "0" "set a positive value like 1048576")
  if c.maxReads = 0 then
    throw (.mustBePositive "max_reads_per_iteration" "0" "set a positive value like 32")
  c.checkFiles
  c.checkPem

instance : Configuration ServerConfig := ⟨default, fields, validate, toJson⟩

/-! ## Builders -/

/-- Binds where a text says. -/
def withBindText (text : String) (c : ServerConfig) : Except ConfigError ServerConfig :=
  match SocketAddress.parse? text with
  | some a => .ok { c with bindAddress := a }
  | none =>
    .error (.invalidAddress text "Invalid bind address: invalid socket address syntax")

def withBindAddress (a : SocketAddress) (c : ServerConfig) : ServerConfig :=
  { c with bindAddress := a }

def withCertFiles (cert key : String) (c : ServerConfig) : ServerConfig :=
  { c with certPath := some cert, keyPath := some key }

def withTlsPem (cert key : String) (c : ServerConfig) : ServerConfig :=
  { c with certPem := some cert, keyPem := some key }

def withMaxIdleTimeout (d : Duration) (c : ServerConfig) : ServerConfig :=
  { c with maxIdleTimeout := d }

def withKeepAliveInterval (d : Option Duration) (c : ServerConfig) : ServerConfig :=
  { c with keepAliveInterval := d }

def withMaxStreams (bidi uni : UInt32) (c : ServerConfig) : ServerConfig :=
  { c with maxBidiStreams := bidi, maxUniStreams := uni }

def withMaxSessions (n : UInt64) (c : ServerConfig) : ServerConfig := { c with maxSessions := n }

def withMaxBufferedBytes (n : UInt64) (c : ServerConfig) : ServerConfig :=
  { c with maxBufferedBytes := n }

def withMaxReads (n : UInt64) (c : ServerConfig) : ServerConfig := { c with maxReads := n }

def withRespectGoaway (b : Bool) (c : ServerConfig) : ServerConfig := { c with respectGoaway := b }

end ServerConfig

end QuicSessions
