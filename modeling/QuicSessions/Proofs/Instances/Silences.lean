import Mathlib.Algebra.Group.Nat.Defs
import QuicSessions.Proofs.Instances.Launches

/-!
# How long silence may last

A configuration gives the longest silence as a duration, and the peer is told a number of whole milliseconds
below 2^62. From one millisecond on this is a positive number; a duration that is too long is refused when
the settings are made, and then every call to listen or to start is refused too.
-/

set_option autoImplicit false

namespace QuicSessions

theorem Duration.toMillis_eq (d : Duration) : d.toMillis = d.toNanos / 1000000 := by
  unfold toMillis toNanos nanosPerSecond
  omega

theorem idleLimit_eq : idleLimit = 2 ^ 62 := by decide

/-- The settings for silences of this length: in whole milliseconds and limited, or refused. -/
structure Tells (idle : Duration) (made : Except QuicError Settings) : Prop where
  ok_iff : (∃ settings, made = .ok settings) ↔ idle.toMillis < 2 ^ 62
  limited (settings : Settings) : made = .ok settings →
    settings.idle = millis idle.toMillis ∧ 0 < idle.toMillis ∧ idle.toMillis < 2 ^ 62
  whole (settings : Settings) : made = .ok settings →
    settings.idle ≤ idle.toNanos ∧ idle.toNanos < settings.idle + millis 1
  refused : 2 ^ 62 ≤ idle.toMillis →
    made = .error (.config "Invalid idle timeout: value too large for varint encoding")

theorem tells_of {idle : Duration} (long : millis 1 ≤ idle.toNanos) (bidi uni : UInt32) (verify : Bool) :
    Tells idle (Settings.of idle bidi uni verify) := by
  have counted := idle.toMillis_eq
  unfold millis at long
  unfold Settings.of
  rw [idleLimit_eq]
  by_cases told : idle.toMillis < 2 ^ 62
  · rw [if_pos told]
    refine ⟨iff_of_true ⟨_, rfl⟩ told, ?_, ?_, fun tooLong => absurd told (Nat.not_lt.2 tooLong)⟩
    · rintro _ ⟨⟩
      refine ⟨rfl, ?_, told⟩
      omega
    · rintro _ ⟨⟩
      unfold millis
      dsimp only
      omega
  · rw [if_neg told]
    exact ⟨iff_of_false nofun told, nofun, nofun, fun _ => rfl⟩

/-- The settings that a configuration describes. -/
def ServerConfig.transport (c : ServerConfig) (verify : Bool) : Except QuicError Settings :=
  Settings.of c.maxIdleTimeout c.maxBidiStreams c.maxUniStreams verify

/-- The settings that a configuration describes. -/
def ClientConfig.transport (c : ClientConfig) (verify : Bool) : Except QuicError Settings :=
  Settings.of c.maxIdleTimeout c.maxBidiStreams c.maxUniStreams verify

theorem Identity.of_settings {i : Identity} {c : ServerConfig} {settings : Settings}
    (made : i.settings c = .ok settings) : c.transport false = .ok settings := by
  obtain ⟨-, -, made⟩ := ok_of_bind made
  exact made

theorem Trust.of_settings {t : Trust} {c : ClientConfig} {settings : Settings}
    (made : (t.settings c).mapError TransportError.ofQuic = .ok settings) :
    c.transport t.verifies = .ok settings := by
  unfold ClientConfig.transport
  unfold Trust.settings at made
  split at made
  · cases made
  · dsimp only [bind, Except.bind, pure, Except.pure] at made
    cases told : Settings.of c.maxIdleTimeout c.maxBidiStreams c.maxUniStreams t.verifies with
    | error e =>
      rw [told] at made
      cases made
    | ok known =>
      rw [told] at made
      cases made
      rfl

/-! ## Calls with such a configuration -/

open Instance (Reached)

variable {ε τ π : Type} [Transport τ] [Endpoint ε τ π] (now : Instant) (held : List SocketAddress)

/-- The endpoint of a server that listens was made with the settings of its configuration. -/
theorem Server.serving_of_listen (s : Server ε τ π) (reached : Reached (k := .server) s.running)
    {port p : UInt16} (listening : (s.listen now held port).1 = .ok p) : ∃ settings d,
      s.config.transport false = .ok settings ∧ (s.listen now held port).2.running.thread.installed = some d ∧
      d.endpoint = Endpoint.serving settings := by
  cases known : s.identity.settings s.config with
  | error e =>
    rw [listen_of_refused now held s port known] at listening
    cases listening
  | ok settings =>
    have outcome := Instance.outcome_launch (k := .server) reached now held (launchOf s.config settings port)
    rw [listen_of_known now held s port known] at listening ⊢
    generalize Instance.launch now held (launchOf s.config settings port) s.running = result
      at outcome listening ⊢
    obtain ⟨answer, i'⟩ := result
    cases answer with
    | error e => cases listening
    | ok r =>
      obtain ⟨a, d, makes, installed⟩ := outcome.made rfl
      cases makes with
      | alone => exact ⟨settings, _, Identity.of_settings known, installed, rfl⟩
      | connected targeted => cases targeted

/-- A client that was started connects with the settings of its configuration. -/
theorem Client.connecting_of_start (s : Client ε τ π) (reached : Reached (k := .client) s.running)
    {host : String} {port : UInt16} {h : SessionHandle} (started : (s.start now held host port).1 = .ok h) :
    ∃ settings d, s.config.transport s.trust.verifies = .ok settings ∧
      (s.start now held host port).2.running.thread.installed = some d ∧ d.connecting = some settings := by
  cases prepared : s.prepare host port with
  | error e =>
    rw [start_of_unprepared now held s prepared] at started
    cases started
  | ok known =>
    obtain ⟨remote, settings⟩ := known
    have outcome := Instance.outcome_launch (k := .client) reached now held
      (launchOf s.config settings remote)
    rw [start_of_prepared now held s prepared] at started ⊢
    generalize Instance.launch now held (launchOf s.config settings remote) s.running = result
      at outcome started ⊢
    obtain ⟨answer, i'⟩ := result
    cases answer with
    | error e => cases started
    | ok r =>
      obtain ⟨a, d, makes, installed⟩ := outcome.made rfl
      obtain ⟨_, -, prepared⟩ := ok_of_bind prepared
      obtain ⟨_, known, prepared⟩ := ok_of_bind prepared
      cases prepared
      cases makes with
      | alone untargeted => cases untargeted
      | connected _ _ _ _ settled => exact ⟨settings, _, Trust.of_settings known, installed, settled⟩

/-- For every configuration that passes its check and allows a silence of a millisecond or more: the settings
tell the peer its whole milliseconds, a positive number, exactly if that is below 2^62, and what is installed
has these settings. Otherwise the settings are refused, and every call to listen or to start fails and
changes nothing. -/
theorem silence_told_in_millis :
    (∀ c : ServerConfig, c.validate = .ok () → millis 1 ≤ c.maxIdleTimeout.toNanos →
      (∀ verify, Tells c.maxIdleTimeout (c.transport verify)) ∧
      ∀ (s : Server ε τ π) (now : Instant) (held : List SocketAddress) (port : UInt16), s.config = c →
        Reached (k := .server) s.running →
        (2 ^ 62 ≤ c.maxIdleTimeout.toMillis → ∃ e, s.listen now held port = (.error e, s)) ∧
        ∀ p, (s.listen now held port).1 = .ok p → ∃ settings d, c.transport false = .ok settings ∧
          (s.listen now held port).2.running.thread.installed = some d ∧
          d.endpoint = Endpoint.serving settings) ∧
    ∀ c : ClientConfig, c.validate = .ok () → millis 1 ≤ c.maxIdleTimeout.toNanos →
      (∀ verify, Tells c.maxIdleTimeout (c.transport verify)) ∧
      ∀ (s : Client ε τ π) (now : Instant) (held : List SocketAddress) (host : String) (port : UInt16),
        s.config = c → Reached (k := .client) s.running →
        (2 ^ 62 ≤ c.maxIdleTimeout.toMillis → ∃ e, s.start now held host port = (.error e, s)) ∧
        ∀ h, (s.start now held host port).1 = .ok h → ∃ settings d,
          c.transport s.trust.verifies = .ok settings ∧
          (s.start now held host port).2.running.thread.installed = some d ∧
          d.connecting = some settings := by
  refine ⟨fun c _ long => ?_, fun c _ long => ?_⟩
  · have tells (verify : Bool) : Tells c.maxIdleTimeout (c.transport verify) := tells_of long _ _ verify
    refine ⟨tells, fun s now held port same reached => ⟨fun tooLong => ?_, fun p listening => ?_⟩⟩
    · cases known : s.identity.settings s.config with
      | error e => exact ⟨.ofQuic e, s.listen_of_refused now held port known⟩
      | ok settings =>
        rw [same] at known
        cases ((tells false).refused tooLong).symm.trans (Identity.of_settings known)
    · rw [← same]
      exact s.serving_of_listen now held reached listening
  · have tells (verify : Bool) : Tells c.maxIdleTimeout (c.transport verify) := tells_of long _ _ verify
    refine ⟨tells, fun s now held host port same reached => ⟨fun tooLong => ?_, fun h started => ?_⟩⟩
    · cases prepared : s.prepare host port with
      | error e => exact ⟨e, s.start_of_unprepared now held prepared⟩
      | ok known =>
        obtain ⟨_, -, prepared⟩ := ok_of_bind prepared
        obtain ⟨_, known, -⟩ := ok_of_bind prepared
        rw [same] at known
        cases ((tells _).refused tooLong).symm.trans (Trust.of_settings known)
    · rw [← same]
      exact s.connecting_of_start now held reached started

/-- Of a second and a half 1500 ms are told; a server that allows a silence of 2^62 ms never listens. -/
theorem silence_told_in_millis_both :
    let c := { ServerConfig.default with maxIdleTimeout := ⟨1, 500400000, by decide⟩ }
    let s : Server Wire.Station Wire.Connection Wire.Payload := ⟨c, .selfSigned, .new "server"⟩
    let c' := { ServerConfig.default with maxIdleTimeout := ⟨4611686018427388, 0, by decide⟩ }
    let s' : Server Wire.Station Wire.Connection Wire.Payload := ⟨c', .selfSigned, .new "server"⟩
    (∃ settings d, settings.idle = millis 1500 ∧
      (s.listen 0 [] 4433).2.running.thread.installed = some d ∧ d.endpoint = .server settings) ∧
      ∃ e, s'.listen 0 [] 4433 = (.error e, s') := by
  intro c s c' s'
  obtain ⟨servers, -⟩ := silence_told_in_millis (ε := Wire.Station) (τ := Wire.Connection) (π := Wire.Payload)
  obtain ⟨tells, calls⟩ := servers c (by decide) (by decide)
  obtain ⟨-, calls'⟩ := servers c' (by decide) (by decide +kernel)
  have listening : (s.listen 0 [] 4433).1 = .ok 4433 := by decide +kernel
  obtain ⟨-, installs⟩ := calls s 0 [] 4433 rfl (.new "server")
  obtain ⟨settings, d, made, installed, served⟩ := installs 4433 listening
  obtain ⟨refused, -⟩ := calls' s' 0 [] 4433 rfl (.new "server")
  have told : settings.idle = millis 1500 := ((tells false).limited settings made).1.trans (by decide +kernel)
  exact ⟨⟨settings, d, told, installed, served⟩, refused (by decide +kernel)⟩

/-- A configuration may pass its check with a silence that is too long to be told, or with one that is cut off
to no limit at all. -/
theorem accepted_silence_untold :
    let long := { ServerConfig.default with maxIdleTimeout := ⟨4611686018427388, 0, by decide⟩ }
    let short := { ClientConfig.default with maxIdleTimeout := ⟨0, 1, by decide⟩ }
    (long.validate = .ok () ∧ ∀ settings, long.transport false ≠ .ok settings) ∧
      short.validate = .ok () ∧ ∃ settings, short.transport true = .ok settings ∧ settings.idle = 0 := by
  intro long short
  have refused : long.transport false = .error _ := if_neg (by decide +kernel)
  have made : short.transport true = .ok _ := if_pos (by decide +kernel)
  refine ⟨⟨by decide, fun settings told => ?_⟩, by decide, _, made, ?_⟩
  · cases refused.symm.trans told
  · show millis short.maxIdleTimeout.toMillis = 0
    decide

end QuicSessions
