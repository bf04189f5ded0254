import QuicSessions.Config.Basic

/-!
# Configuration of a client
-/

set_option autoImplicit false

namespace QuicSessions

structure ClientConfig where
  /-- The name that the server's certificate is for. -/
  serverName : String
  /-- Whether the server's certificate is checked. -/
  verifyCertificate : Bool
  /-- Certificates to check it against, in place of the usual ones. -/
  caCertPem : Option String
  /-- Where to bind; otherwise anywhere. -/
  localBindAddress : Option SocketAddress
  /-- How long a handshake may take. -/
  connectTimeout : Duration
  maxIdleTimeout : Duration
  /-- How often the peer is pinged while streams are open. -/
  keepAliveInterval : Option Duration
  /-- Streams of both directions that a peer may have open. -/
  maxBidiStreams : UInt32
  /-- Streams of one direction that a peer may have open. -/
  maxUniStreams : UInt32
  /-- Bytes that may wait on one stream. -/
  maxBufferedBytes : UInt64
  /-- Packets that are read before other tasks get their turn. -/
  maxReads : UInt64
  /-- Opens a stream as soon as the handshake is over, and tells the listener. -/
  openStreamOnConnect : Bool
  /-- Whether sessions refuse streams that the peer opens after its goodbye. -/
  respectGoaway : Bool

namespace ClientConfig

def default : ClientConfig where
  serverName := "localhost"
  verifyCertificate := false
  caCertPem := none
  localBindAddress := none
  connectTimeout := .ofSeconds 10
  maxIdleTimeout := .ofSeconds 30
  keepAliveInterval := none
  maxBidiStreams := 100
  maxUniStreams := 100
  maxBufferedBytes := 1048576
  maxReads := 32
  openStreamOnConnect := false
  respectGoaway := false

instance : Inhabited ClientConfig := ⟨default⟩

/-- The fields in their order. -/
def fields : List (Json.Field ClientConfig) :=
  [ .of "server_name" Json.decodeString fun c x => { c with serverName := x },
    .of "verify_certificate" Json.decodeBool fun c x => { c with verifyCertificate := x },
    .of "ca_cert_pem" (Json.decodeOption Json.decodeString) fun c x => { c with caCertPem := x },
    .of "local_bind_address" (Json.decodeOption Json.decodeAddress) fun c x =>
      { c with localBindAddress := x },
    .of "connect_timeout" Json.decodeDuration fun c x => { c with connectTimeout := x },
    .of "max_idle_timeout" Json.decodeDuration fun c x => { c with maxIdleTimeout := x },
    .of "keep_alive_interval" (Json.decodeOption Json.decodeDuration) fun c x =>
      { c with keepAliveInterval := x },
    .of "max_concurrent_bidi_streams" Json.decodeUInt32 fun c x => { c with maxBidiStreams := x },
    .of "max_concurrent_uni_streams" Json.decodeUInt32 fun c x => { c with maxUniStreams := x },
    .of "max_buffered_bytes_per_stream" Json.decodeUInt64 fun c x =>
      { c with maxBufferedBytes := x },
    .of "max_reads_per_iteration" Json.decodeUInt64 fun c x => { c with maxReads := x },
    .of "open_stream_on_connect" Json.decodeBool fun c x => { c with openStreamOnConnect := x },
    .of "respect_goaway" Json.decodeBool fun c x => { c with respectGoaway := x } ]

def toJson (c : ClientConfig) : Json :=
  .record
    [ ("server_name", .string c.serverName),
      ("verify_certificate", .bool c.verifyCertificate),
      ("ca_cert_pem", .optional .string c.caCertPem),
      ("local_bind_address", .optional SocketAddress.toJson c.localBindAddress),
      ("connect_timeout", c.connectTimeout.toJson),
      ("max_idle_timeout", c.maxIdleTimeout.toJson),
      ("keep_alive_interval", .optional Duration.toJson c.keepAliveInterval),
      ("max_concurrent_bidi_streams", .natural c.maxBidiStreams.toUInt64),
      ("max_concurrent_uni_streams", .natural c.maxUniStreams.toUInt64),
      ("max_buffered_bytes_per_stream", .natural c.maxBufferedBytes),
      ("max_reads_per_iteration", .natural c.maxReads),
      ("open_stream_on_connect", .bool c.openStreamOnConnect),
      ("respect_goaway", .bool c.respectGoaway) ]

/-- The check: a server name, positive limits, and no certificates that nothing is checked against. -/
def validate (c : ClientConfig) : Except ConfigError Unit := do
  if c.serverName.isEmpty then
    throw (.missingField "server_name" "set the TLS server name, e.g. \"localhost\"")
  if c.connectTimeout.isZero then
    throw (.mustBePositive "connect_timeout" "0s" "set a timeout like 10s")
  if c.maxIdleTimeout.isZero then
    throw (.mustBePositive "max_idle_timeout" "0s" "set a timeout like 30s")
  if c.maxBufferedBytes = 0 then
    throw (.mustBePositive "max_buffered_bytes_per_stream" "0" "set a positive value like 1048576")
  if c.maxReads = 0 then
    throw (.mustBePositive "max_reads_per_iteration" "0" "set a positive value like 32")
  if c.caCertPem.isSome && !c.verifyCertificate then
    throw (.invalidValue "ca_cert_pem" "<pem>"
      "a custom CA has no effect while verify_certificate is false"
      "enable verify_certificate or drop ca_cert_pem")

instance : Configuration ClientConfig := ⟨default, fields, validate, toJson⟩

/-! ## Builders -/

def withServerName (name : String) (c : ClientConfig) : ClientConfig := { c with serverName := name }

def withVerifyCertificate (b : Bool) (c : ClientConfig) : ClientConfig :=
  { c with verifyCertificate := b }

/-- Certificates to check against; this asks for the check as well. -/
def withCaCertPem (pem : String) (c : ClientConfig) : ClientConfig :=
  { c with caCertPem := some pem, verifyCertificate := true }

def withLocalBindAddress (a : SocketAddress) (c : ClientConfig) : ClientConfig :=
  { c with localBindAddress := some a }

def withConnectTimeout (d : Duration) (c : ClientConfig) : ClientConfig :=
  { c with connectTimeout := d }

def withMaxIdleTimeout (d : Duration) (c : ClientConfig) : ClientConfig :=
  { c with maxIdleTimeout := d }

def withKeepAliveInterval (d : Option Duration) (c : ClientConfig) : ClientConfig :=
  { c with keepAliveInterval := d }

def withMaxStreams (bidi uni : UInt32) (c : ClientConfig) : ClientConfig :=
  { c with maxBidiStreams := bidi, maxUniStreams := uni }

def withMaxBufferedBytes (n : UInt64) (c : ClientConfig) : ClientConfig :=
  { c with maxBufferedBytes := n }

def withOpenStreamOnConnect (b : Bool) (c : ClientConfig) : ClientConfig :=
  { c with openStreamOnConnect := b }

def withRespectGoaway (b : Bool) (c : ClientConfig) : ClientConfig := { c with respectGoaway := b }

end ClientConfig

end QuicSessions
