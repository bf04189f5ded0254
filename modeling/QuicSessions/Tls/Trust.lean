import QuicSessions.Config.Client
import QuicSessions.Tls.Identity

/-!
# Trust of clients

Which servers a client believes: all of them, those that the well-known authorities vouch for, or
those that given certificates vouch for.
-/

set_option autoImplicit false

namespace QuicSessions

inductive Trust where
  | everyone
  | wellKnown
  | given (first : Bytes) (others : List Bytes)

namespace Trust

/-- The trust that a configuration describes. -/
def ofConfig (c : ClientConfig) : Except QuicError Trust :=
  if !c.verifyCertificate then .ok everyone
  else
    match c.caCertPem with
    | none => .ok wellKnown
    | some pem => do
      let (first, others) ← readCertificates (Utf8.encode pem)
      return given first others

/-- The certificates that were given for checking. -/
def certificates : Trust → List Bytes
  | given first others => first :: others
  | _ => []

/-- Whether servers are checked. -/
def verifies : Trust → Bool
  | everyone => false
  | _ => true

/-- What a client with this trust offers its peer. -/
def settings (t : Trust) (c : ClientConfig) : Except QuicError Settings := do
  if t.certificates.any fun x => (Certificate.publicKey? x).isNone then
    throw (.tls .badCertificate)
  Settings.of c.maxIdleTimeout c.maxBidiStreams c.maxUniStreams t.verifies

end Trust

end QuicSessions
