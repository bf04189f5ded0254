import QuicSessions.Config.Server
import QuicSessions.Endpoint
import QuicSessions.Tls.Certificate
import QuicSessions.Tls.PrivateKey

/-!
# Identities of servers

A server shows a chain of certificates and proves with a private key that the first one is its own.
Both come from files or from the configuration itself; without either the server makes a certificate
for `localhost`.
-/

set_option autoImplicit false

namespace QuicSessions

/-- The longest silence that a peer can be told, in milliseconds. -/
def idleLimit : Nat := 1 <<< 62

/-- What a side allows its peer, if the longest silence can be told. Silences are counted in whole
milliseconds. -/
def Settings.of (idle : Duration) (bidi uni : UInt32) (verify : Bool) : Except QuicError Settings :=
  if idle.toMillis < idleLimit then
    .ok ⟨⟨bidi.toNat, uni.toNat⟩, millis idle.toMillis, verify⟩
  else .error (.config "Invalid idle timeout: value too large for varint encoding")

/-- The certificates of a file; there has to be one. -/
def readCertificates (file : Bytes) : Except QuicError (Bytes × List Bytes) :=
  match Pem.certificates file with
  | none => .error (.certificate .unreadableCertificates)
  | some [] => .error (.certificate .noCertificates)
  | some (first :: rest) => .ok (first, rest)

/-- The private key of a file. -/
def readPrivateKey (file : Bytes) : Except QuicError Pem.PrivateKey :=
  match Pem.privateKey file with
  | (some key, _) => .ok key
  | (none, false) => .error (.certificate .unreadableKey)
  | (none, true) => .error (.certificate .noKey)

/-- How a server proves who it is. -/
inductive Identity where
  /-- With its own certificate, those that vouch for it, and the key. -/
  | given (leaf : Bytes) (others : List Bytes) (key : Pem.PrivateKey)
  /-- With a certificate that it makes for itself. -/
  | selfSigned

namespace Identity

/-- The identity that certificates and a key give. -/
def ofPem (cert key : Bytes) : Except QuicError Identity := do
  let (leaf, others) ← readCertificates cert
  return .given leaf others (← readPrivateKey key)

/-- The content of a file with certificates or keys. -/
def readFile (files : Files) (path : String) : Except QuicError Bytes :=
  match (files path).read with
  | .ok bytes => .ok bytes
  | .error e => .error (.certificate (.file path e))

/-- The identity that two files give. -/
def ofFiles (files : Files) (certPath keyPath : String) : Except QuicError Identity := do
  let cert ← readFile files certPath
  let key ← readFile files keyPath
  ofPem cert key

/-- The identity that a configuration describes: files come before texts. -/
def ofConfig (files : Files) (c : ServerConfig) : Except QuicError Identity :=
  match c.certPath, c.keyPath, c.certPem, c.keyPem with
  | some cert, some key, _, _ => ofFiles files cert key
  | _, _, some cert, some key => ofPem (Utf8.encode cert) (Utf8.encode key)
  | _, _, _, _ => .ok selfSigned

/-- Whether the key can be used, and is the one of the certificate. -/
def check : Identity → Except QuicError Unit
  | selfSigned => .ok ()
  | given leaf _ key =>
    match PrivateKey.publicKey? key, Certificate.publicKey? leaf with
    | none, _ => .error (.tls .badKey)
    | _, none => .error (.tls .badCertificate)
    | some stated, some certified => if stated = certified then .ok () else .error (.tls .badKey)

/-- What a server with this identity offers its peers. -/
def settings (i : Identity) (c : ServerConfig) : Except QuicError Settings := do
  i.check
  Settings.of c.maxIdleTimeout c.maxBidiStreams c.maxUniStreams false

end Identity

end QuicSessions
