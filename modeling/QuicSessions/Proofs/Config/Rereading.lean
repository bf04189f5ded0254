import QuicSessions.Config.Client
import QuicSessions.Config.Server
import QuicSessions.Proofs.Json.Records

/-!
# Configurations are read back from their texts

A configuration is written as a record of all its fields in their order. Reading this text decodes every field
to the value that was written, whatever it is, so nothing is left to the default values; and the check only
looks at these values. So what was read once is read again from its own text.
-/

set_option autoImplicit false

namespace QuicSessions

namespace Configuration

variable {α : Type} [Configuration α]

theorem ofText_render (lawful : Json.Lawful toJson (ofJson (α := α))) (c : α) :
    ofText (render c) = build c := by
  have parsed : parse (render c) = .ok c := by
    unfold parse render
    rw [Json.read_render (lawful.whole c)]
    dsimp only
    rw [lawful.back c]
    rfl
  unfold ofText
  rw [parsed]

/-- What a text describes passes the check. -/
theorem build_of_ofText {text : String} {c : α} (read : ofText text = .ok c) : build c = .ok c := by
  unfold ofText at read
  split at read
  · rename_i c' _
    unfold build at read ⊢
    cases checked : validate c' with
    | error e =>
      rw [checked] at read
      cases read
    | ok _ =>
      rw [checked] at read
      cases read
      rw [checked]
      rfl
  · cases read

end Configuration

open Json

/-- Every field of a server is written and read back. -/
theorem ServerConfig.lawful : Lawful Configuration.toJson (Configuration.ofJson (α := ServerConfig)) where
  whole c := by
    have text := (lawful_string.optional fun _ => nofun).whole
    have duration := lawful_duration.whole
    exact ⟨lawful_address.whole _, text _, text _, text _, text _, duration _,
      (lawful_duration.optional fun _ => nofun).whole _, trivial, trivial, trivial, trivial, trivial, trivial,
      trivial⟩
  back c := by
    have text := lawful_string.optional fun _ => nofun
    have interval := lawful_duration.optional fun _ => nofun
    have distinct : (fields.map Field.name).Nodup := by decide
    refine (decodeRecord_record distinct rfl _).trans ?_
    show decodeColumns fields [c.bindAddress.toJson, .optional .string c.certPath, .optional .string c.keyPath,
      .optional .string c.certPem, .optional .string c.keyPem, c.maxIdleTimeout.toJson,
      .optional Duration.toJson c.keepAliveInterval, .natural c.maxBidiStreams.toUInt64,
      .natural c.maxUniStreams.toUInt64, .natural c.maxSessions, .natural c.maxBufferedBytes,
      .natural c.maxReads, .bool c.respectGoaway] none default = .ok c
    unfold fields
    rw [lawful_address.column, text.column, text.column, text.column, text.column, lawful_duration.column,
      interval.column, lawful_uint32.column, lawful_uint32.column, lawful_uint64.column, lawful_uint64.column,
      lawful_uint64.column, lawful_bool.column]
    rfl

theorem ClientConfig.lawful : Lawful Configuration.toJson (Configuration.ofJson (α := ClientConfig)) where
  whole c := by
    have duration := lawful_duration.whole
    exact ⟨lawful_string.whole _, trivial, (lawful_string.optional fun _ => nofun).whole _,
      (lawful_address.optional fun _ => nofun).whole _, duration _, duration _,
      (lawful_duration.optional fun _ => nofun).whole _, trivial, trivial, trivial, trivial, trivial, trivial,
      trivial⟩
  back c := by
    have text := lawful_string.optional fun _ => nofun
    have address := lawful_address.optional fun _ => nofun
    have interval := lawful_duration.optional fun _ => nofun
    have distinct : (fields.map Field.name).Nodup := by decide
    refine (decodeRecord_record distinct rfl _).trans ?_
    show decodeColumns fields [.string c.serverName, .bool c.verifyCertificate, .optional .string c.caCertPem,
      .optional SocketAddress.toJson c.localBindAddress, c.connectTimeout.toJson, c.maxIdleTimeout.toJson,
      .optional Duration.toJson c.keepAliveInterval, .natural c.maxBidiStreams.toUInt64,
      .natural c.maxUniStreams.toUInt64, .natural c.maxBufferedBytes, .natural c.maxReads,
      .bool c.openStreamOnConnect, .bool c.respectGoaway] none default = .ok c
    unfold fields
    rw [lawful_string.column, lawful_bool.column, text.column, address.column, lawful_duration.column,
      lawful_duration.column, interval.column, lawful_uint32.column, lawful_uint32.column, lawful_uint64.column,
      lawful_uint64.column, lawful_bool.column, lawful_bool.column]
    rfl

namespace Configuration

/-- Whatever text describes a configuration of a server or of a client, the configuration is accepted again
from its own text, and is the same. -/
theorem accepted_text_reads_back :
    (∀ (text : String) (c : ServerConfig), ofText text = .ok c → ofText (render c) = .ok c) ∧
      ∀ (text : String) (c : ClientConfig), ofText text = .ok c → ofText (render c) = .ok c := by
  refine ⟨fun text c read => ?_, fun text c read => ?_⟩
  · rw [ofText_render ServerConfig.lawful]
    exact build_of_ofText read
  · rw [ofText_render ClientConfig.lawful]
    exact build_of_ofText read

/-- Members in any order, one of them unknown, with a surplus of nanoseconds and a scope. -/
def scatteredServer : String :=
  "\x7b \"max_idle_timeout\": \x7b\"nanos\": 2500000000, \"secs\": 4\x7d, \"colour\": [1, \x7b\x7d],
    \"cert_pem\": null, \"max_sessions\": 18446744073709551615, \"bind_address\": \"[FE80:0:0::1%7]:0443\" \x7d"

/-- The first columns of a client, with escapes in its name. -/
def columnedClient : String := "[\"a\\u0007\\/b\", true, \"pem\", \"[::ffff:1.2.3.4]:9\", [1, 1000000000]]"

theorem accepted_text_reads_back_twice :
    (∃ c : ServerConfig, ofText scatteredServer = .ok c ∧
        c.maxIdleTimeout = ⟨6, 500000000, by decide⟩ ∧ ofText (render c) = .ok c) ∧
      ∃ c : ClientConfig, ofText columnedClient = .ok c ∧ c.connectTimeout = .ofSeconds 2 ∧
        ofText (render c) = .ok c := by
  have carried : (ofText scatteredServer).map ServerConfig.maxIdleTimeout = .ok ⟨6, 500000000, by decide⟩ := by
    decide +kernel
  have timed : (ofText columnedClient).map ClientConfig.connectTimeout = .ok (.ofSeconds 2) := by decide +kernel
  refine ⟨?_, ?_⟩
  · cases read : (ofText scatteredServer : Except ConfigError ServerConfig) with
    | error e =>
      rw [read] at carried
      cases carried
    | ok c =>
      rw [read] at carried
      exact ⟨c, rfl, Except.ok.inj carried, accepted_text_reads_back.1 _ c read⟩
  · cases read : (ofText columnedClient : Except ConfigError ClientConfig) with
    | error e =>
      rw [read] at timed
      cases timed
    | ok c =>
      rw [read] at timed
      exact ⟨c, rfl, Except.ok.inj timed, accepted_text_reads_back.2 _ c read⟩

end Configuration

end QuicSessions
