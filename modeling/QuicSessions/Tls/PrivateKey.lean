import QuicSessions.Tls.Ed25519
import QuicSessions.Tls.Pem
import QuicSessions.Tls.PrimeCurve

/-!
# Private keys

A private key can be used if its parts agree and its algorithm is known: RSA from 2048 bits on, the
curves P-256 and P-384, and Ed25519. Of a usable key the public key is given in the way certificates
state it.
-/

set_option autoImplicit false

namespace QuicSessions.PrivateKey

/-! ## Algorithms -/

def rsaIdentifier : Bytes := [0x2a, 0x86, 0x48, 0x86, 0xf7, 0x0d, 0x01, 0x01, 0x01]

def curveIdentifier : Bytes := [0x2a, 0x86, 0x48, 0xce, 0x3d, 0x02, 0x01]

def ed25519Identifier : Bytes := [0x2b, 0x65, 0x70]

/-- An algorithm with its parameters, and a key, as certificates state them. -/
def statement (identifier parameters key : Bytes) : Bytes :=
  Der.write Der.sequence (Der.write Der.objectId identifier ++ parameters) ++
    Der.write Der.bitString (0 :: key)

def curveParameters (c : PrimeCurve) : Bytes := Der.write Der.objectId c.identifier

/-! ## Contents -/

/-- The fewest bits of an RSA modulus. -/
def rsaBits : Nat := 2048

/-- The public key of an RSA key: modulus and exponent. -/
def rsa? (key : Bytes) : Option Bytes := do
  let rest ← Der.expectOnly Der.sequence key
  let (version, rest) ← Der.expect Der.integer rest
  guard (version == [0])
  let (modulus, rest) ← Der.expect Der.integer rest
  let (exponent, _) ← Der.expect Der.integer rest
  guard (1 <<< (rsaBits - 1) ≤ Der.ofMagnitude modulus)
  return statement rsaIdentifier (Der.write Der.null [])
    (Der.write Der.sequence (Der.write Der.integer modulus ++ Der.write Der.integer exponent))

/-- The public key of a key on a curve. The key names its public part, and may name the curve. -/
def onCurve? (c : PrimeCurve) (key : Bytes) : Option Bytes := do
  let rest ← Der.expectOnly Der.sequence key
  let (version, rest) ← Der.expect Der.integer rest
  guard (version == [1])
  let (secret, rest) ← Der.expect Der.octetString rest
  let (curve, rest) := Der.expectOptional (Der.part 0) rest
  guard (curve.all (· == curveParameters c))
  let stated ← Der.expectOnly Der.bitString (← Der.expectOnly (Der.part 1) rest)
  let derived ← c.publicKey? secret
  guard (stated == 0 :: derived)
  return statement curveIdentifier (curveParameters c) derived

/-- The public key of an Ed25519 secret; `rest` may name it. -/
def ed25519? (key rest : Bytes) : Option Bytes := do
  let secret ← Der.expectOnly Der.octetString key
  guard (secret.length == 32)
  let derived := Ed25519.publicKey secret
  let (_attributes, rest) := Der.expectOptional (Der.part 0) rest
  let (stated, rest) := Der.expectOptional 0x81 rest
  guard (rest.isEmpty && stated.all (· == 0 :: derived))
  return statement ed25519Identifier [] derived

/-- The public key of a key that comes with its algorithm. -/
def wrapped? (key : Bytes) : Option Bytes := do
  let rest ← Der.expectOnly Der.sequence key
  let (version, rest) ← Der.expect Der.integer rest
  guard (version == [0] || version == [1])
  let (algorithm, rest) ← Der.expect Der.sequence rest
  let (identifier, parameters) ← Der.expect Der.objectId algorithm
  let (content, rest) ← Der.expect Der.octetString rest
  if identifier == rsaIdentifier then rsa? content
  else if identifier == curveIdentifier then
    if parameters == curveParameters .p256 then onCurve? .p256 content
    else if parameters == curveParameters .p384 then onCurve? .p384 content
    else none
  else if identifier == ed25519Identifier then
    guard parameters.isEmpty
    ed25519? content rest
  else none

/-- The public key of a private key, if that can be used. -/
def publicKey? (key : Pem.PrivateKey) : Option Bytes :=
  match key.form with
  | .pkcs1 => rsa? key.content
  | .pkcs8 => wrapped? key.content
  | .sec1 => onCurve? .p256 key.content <|> onCurve? .p384 key.content

end QuicSessions.PrivateKey
