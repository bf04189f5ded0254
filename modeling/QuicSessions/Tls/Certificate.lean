import QuicSessions.Tls.Der

/-!
# Certificates

Of a certificate only the public key is wanted: the algorithm and the key as the certificate states
them. Everything else has to be there in its place.
-/

set_option autoImplicit false

namespace QuicSessions.Certificate

/-- The version of certificates that have extensions. -/
def version : Bytes := Der.write Der.integer [2]

/-- The public key of a certificate, if it is one. -/
def publicKey? (certificate : Bytes) : Option Bytes := do
  let whole ← Der.expectOnly Der.sequence certificate
  let (signed, rest) ← Der.expect Der.sequence whole
  let (algorithm, rest) ← Der.expect Der.sequence rest
  let signature ← Der.expectOnly Der.bitString rest
  guard (signature.head? == some 0)
  let (found, rest) ← Der.expect (Der.part 0) signed
  guard (found == version)
  let (_serial, rest) ← Der.expect Der.integer rest
  let (promised, rest) ← Der.expect Der.sequence rest
  guard (promised == algorithm)
  let (_issuer, rest) ← Der.expect Der.sequence rest
  let (_validity, rest) ← Der.expect Der.sequence rest
  let (_subject, rest) ← Der.expect Der.sequence rest
  let (key, rest) ← Der.expect Der.sequence rest
  let (_extensions, rest) := Der.expectOptional (Der.part 3) rest
  guard rest.isEmpty
  return key

end QuicSessions.Certificate
