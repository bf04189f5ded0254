import Mathlib.Logic.Function.Iterate
import Mathlib.Order.MinMax
import QuicSessions.Client
import QuicSessions.Proofs.Sessions.Stages
import QuicSessions.Server

/-!
# Deadlines

A session waits for the end of its handshake, if it is a client's, and for its next keep-alive, if it
is active and in use. What an act does to the first is one of six things, so an invariant of the
handshake is checked six times. What a timeout leaves of both is read off the four ways in which a
session can take it: the handshake is late, a keep-alive is due, it is not due yet, or there is none.
-/

set_option autoImplicit false

namespace QuicSessions

theorem Duration.toNanos_eq_zero_iff {d : Duration} : d.toNanos = 0 ↔ d = .zero := by
  constructor
  · intro h
    obtain ⟨secs, nanos, bound⟩ := d
    simp only [Duration.toNanos, nanosPerSecond] at h
    have none_left : nanos = 0 := by omega
    have no_second : secs = 0 := UInt64.toNat.inj (by simp; omega)
    subst none_left no_second
    rfl
  · rintro rfl
    rfl

/-- Options that a configuration which passes its check gives to its sessions. -/
inductive SessionOptions.Checked : SessionOptions → Prop where
  | server {c : ServerConfig} (h : c.validate = .ok ()) : Checked (Server.options c)
  | client {c : ClientConfig} (h : c.validate = .ok ()) : Checked (Client.options c)

/-- No check looks at the interval between keep-alives. -/
theorem SessionOptions.Checked.withKeepAlive {options : SessionOptions} (checked : options.Checked)
    (interval : Option Duration) : Checked { options with keepAlive := interval } := by
  cases checked with
  | @server c h =>
    exact .server (c := { c with keepAliveInterval := interval }) h
  | @client c h =>
    exact .client (c := { c with keepAliveInterval := interval }) h

namespace Session

variable {τ : Type}

/-! ## Deadlines that have come -/

theorem reached_iff {deadline : Option Instant} {now : Instant} :
    reached deadline now = true ↔ ∃ t, deadline = some t ∧ t ≤ now := by
  cases deadline <;> simp [reached]

theorem reached_earlier (x y : Option Instant) (now : Instant) :
    reached (earlier x y) now = (reached x now || reached y now) := by
  cases x <;> cases y <;> simp [earlier, reached, ← Bool.decide_or]

/-- What the session waits for, whatever its transport waits for, is still to come. -/
structure Ahead (now : Instant) (s : Session τ) : Prop where
  keepAlive : ∀ t, s.keepAliveDeadline = some t → now < t
  handshake : ∀ t, s.handshakeDeadline = some t → now < t

theorem keepAliveDeadline_eq_some_iff {s : Session τ} {t : Instant} :
    s.keepAliveDeadline = some t ↔ s.state = .active ∧ s.inUse = true ∧
      ∃ d, s.options.keepAlive = some d ∧ t = s.lastKeepAlive + d.toNanos := by
  unfold keepAliveDeadline
  split
  · rename_i h
    simp only [h, true_and, Option.map_eq_some_iff]
    exact exists_congr fun d => and_congr_right fun _ => eq_comm
  · rename_i h
    simp only [reduceCtorEq, false_iff]
    exact fun ⟨active, used, _⟩ => h ⟨active, used⟩

section Timeout

variable [Transport τ] (a : Audience) {now : Instant} {s : Session τ}

theorem reached_deadline (now : Instant) (s : Session τ) :
    reached s.deadline now = (reached (Transport.deadline s.transport) now ||
      (reached s.keepAliveDeadline now || reached s.handshakeDeadline now)) := by
  rw [deadline, reached_earlier, reached_earlier]

theorem Ahead.reached_deadline (ahead : s.Ahead now) :
    reached s.deadline now = reached (Transport.deadline s.transport) now := by
  have keepAlive : reached s.keepAliveDeadline now = false := by
    rw [Bool.eq_false_iff, ne_eq, reached_iff]
    rintro ⟨t, h, le⟩
    exact Nat.not_lt.2 le (ahead.keepAlive t h)
  have handshake : reached s.handshakeDeadline now = false := by
    rw [Bool.eq_false_iff, ne_eq, reached_iff]
    rintro ⟨t, h, le⟩
    exact Nat.not_lt.2 le (ahead.handshake t h)
  rw [Session.reached_deadline, keepAlive, handshake, Bool.or_false, Bool.or_false]

theorem timeout_of_late (h : s.late now = true) :
    s.timeout a now = { s with
      transport := Transport.close now AppCode.handshakeTimeout.value.toNat
        (Utf8.encode "handshake timeout") (Transport.timeout now s.transport) }.conclude a .timeout :=
  if_pos h

theorem timeout_of_due (inTime : s.late now = false) {t : Instant}
    (k : s.keepAliveDeadline = some t) (due : t ≤ now) :
    s.timeout a now = { s with
      transport := Transport.ping (Transport.timeout now s.transport)
      lastKeepAlive := now } := by
  unfold timeout
  dsimp only
  rw [if_neg (by simpa [late] using inTime)]
  split
  · rename_i u found
    obtain rfl : t = u := Option.some.inj (k.symm.trans found)
    rw [if_pos due]
  · rename_i nothing
    exact absurd (k.symm.trans nothing) (by simp)

theorem timeout_of_early (inTime : s.late now = false) {t : Instant}
    (k : s.keepAliveDeadline = some t) (early : now < t) :
    s.timeout a now = { s with transport := Transport.timeout now s.transport } := by
  unfold timeout
  dsimp only
  rw [if_neg (by simpa [late] using inTime)]
  split
  · rename_i u found
    obtain rfl : t = u := Option.some.inj (k.symm.trans found)
    rw [if_neg (Nat.not_le.2 early)]
  · rename_i nothing
    exact absurd (k.symm.trans nothing) (by simp)

theorem timeout_of_idle (inTime : s.late now = false) (k : s.keepAliveDeadline = none) :
    s.timeout a now = { s with
      transport := Transport.timeout now s.transport
      lastKeepAlive := now } := by
  unfold timeout
  dsimp only
  rw [if_neg (by simpa [late] using inTime)]
  split
  · rename_i t found
    exact absurd (k.symm.trans found) (by simp)
  · rfl

/-- A timeout in time moves the transport and the base of the keep-alives, and nothing else. -/
theorem timeout_in_time (inTime : s.late now = false) :
    ∃ t base, s.timeout a now = { s with transport := t, lastKeepAlive := base } := by
  cases k : s.keepAliveDeadline with
  | none => exact ⟨_, _, timeout_of_idle a inTime k⟩
  | some t =>
    by_cases due : t ≤ now
    · exact ⟨_, _, timeout_of_due a inTime k due⟩
    · exact ⟨_, s.lastKeepAlive, timeout_of_early a inTime k (Nat.not_le.1 due)⟩

end Timeout

/-! ## What an act does to the handshake -/

/-- What an act does to the stage, the encryption and the deadline of the handshake. -/
inductive Advance (s s' : Session τ) : Prop where
  | stays (state : s'.state = s.state) (encrypted : s'.encrypted = s.encrypted)
      (deadline : s'.handshakeDeadline = s.handshakeDeadline)
  | starts (was : s.state = .created) (state : s'.state = .initialized)
      (encrypted : s'.encrypted = s.encrypted)
      (deadline : s'.handshakeDeadline = s.handshakeDeadline)
  | begins (now : Instant) (was : s.state = .initialized) (state : s'.state = .handshakeInProgress)
      (encrypted : s'.encrypted = s.encrypted)
      (deadline : s'.handshakeDeadline =
        if s.side.isClient then s.options.handshakeTimeout.map fun d => now + d.toNanos else none)
      (fits : ∀ due, s'.handshakeDeadline = some due → due.Representable)
  | completes (state : s'.state = s.state.afterHandshake) (encrypted : s'.encrypted = true)
      (deadline : s'.handshakeDeadline = none)
  | drains (was : s.state = .active) (state : s'.state = .draining)
      (encrypted : s'.encrypted = s.encrypted)
      (deadline : s'.handshakeDeadline = s.handshakeDeadline)
  | closes (state : s'.state = .closed) (encrypted : s'.encrypted = s.encrypted)
      (deadline : s'.handshakeDeadline = none)

theorem Advance.of_quiet {s s' : Session τ} (quiet : Quiet s s') : Advance s s' := by
  rw [quiet.eq]
  exact .stays rfl rfl rfl

theorem advance_receiveGoaway (a : Audience) (s : Session τ) : Advance s (s.receiveGoaway a) := by
  cases received : s.goawayReceived with
  | true =>
    rw [receiveGoaway_of_received a received]
    exact .stays rfl rfl rfl
  | false =>
    rw [receiveGoaway_eq a received]
    by_cases active : s.state = .active
    · exact .drains active (if_pos active) rfl rfl
    · exact .stays (if_neg active) rfl rfl

/-- A handshake that begins has to be over before the clock ends. -/
theorem representable_of_beginHandshake {now : Instant} {s s' : Session τ}
    (initialized : s.state = .initialized) (h : s.beginHandshake now = .ok s') {due : Instant}
    (waits : s'.handshakeDeadline = some due) : due.Representable := by
  have created : ¬ s.state = .created := by rw [initialized]; exact nofun
  unfold beginHandshake at h
  rw [if_neg created, if_pos initialized] at h
  dsimp only at h
  generalize (if s.side.isClient = true then
    s.options.handshakeTimeout.map fun d => now + d.toNanos else none) = deadline at h
  split at h
  · rename_i fits
    cases h
    rw [show deadline = some due from waits, Option.all_some] at fits
    exact of_decide_eq_true fits
  · cases h

theorem advance_act [Transport τ] {a : Audience} {s s' : Session τ} (h : Act a s s') :
    Advance s s' := by
  cases h with
  | takeIn h =>
    rw [afterTakeIn_eq]
    exact .stays rfl rfl rfl
  | deed h =>
    cases h with
    | traffic h => exact .of_quiet h.quiet
    | start h =>
      obtain ⟨created, rfl⟩ := start_cases h
      exact .starts created rfl rfl rfl
    | beginHandshake now h =>
      obtain ⟨initialized, rfl⟩ | ⟨-, -, rfl⟩ := beginHandshake_cases h
      · exact .begins now initialized rfl rfl rfl fun due => representable_of_beginHandshake initialized h
      · exact .stays rfl rfl rfl
    | handshakeComplete =>
      rw [handshakeComplete_eq]
      exact .completes rfl rfl rfl
    | receiveGoaway => exact advance_receiveGoaway a s
    | conclude reason =>
      by_cases closed : s.state = .closed
      · rw [conclude_of_closed a closed]
        exact .stays rfl rfl rfl
      · rw [conclude_eq a closed]
        exact .closes rfl rfl rfl
    | setVisitor v =>
      rw [setVisitor_eq]
      exact .stays rfl rfl rfl
    | credit dir =>
      rw [afterCredit_eq]
      exact .stays rfl rfl rfl
    | openStream gate h => exact .stays rfl rfl rfl
    | noCredit gate h => exact .stays rfl rfl rfl
    | drop h spent => exact .stays rfl rfl rfl
    | setRespectGoaway respect => exact .stays rfl rfl rfl
    | takeSignals => exact .stays rfl rfl rfl
    | rebase now => exact .stays rfl rfl rfl

/-- An invariant of the handshake has to survive the six ways to advance. -/
theorem Kept.of_advance [Transport τ] {P : Session τ → Prop}
    (keeps : ∀ {s s' : Session τ}, SameSession s s' → Advance s s' → P s → P s') : Kept P where
  act h hs := keeps (sameSession_act _ h) (advance_act h) hs
  transport s _ hs := keeps (s := s) ⟨rfl, rfl, rfl, rfl⟩ (.stays rfl rfl rfl) hs
  collect s hs := keeps (s := s) ⟨rfl, rfl, rfl, rfl⟩ (.stays rfl rfl rfl) hs

/-- The stages after the handshake are encrypted, and a closed session awaits no handshake. -/
structure Composed (s : Session τ) : Prop where
  secured : s.state = .active ∨ s.state = .draining → s.encrypted = true
  rested : s.state = .closed → s.handshakeDeadline = none

theorem composed_new [Transport τ] (id : SessionId) (handle : ConnectionHandle) (t : τ)
    (options : SessionOptions) (now : Instant) : Composed (Session.new id handle t options now) := by
  refine ⟨fun stage => ?_, fun _ => rfl⟩
  obtain stage | stage := stage <;> cases stage

theorem kept_composed [Transport τ] : Kept (Composed (τ := τ)) := by
  refine .of_advance fun _ advance composed => ?_
  cases advance with
  | stays state encrypted deadline =>
    constructor
    · rw [state, encrypted]
      exact composed.secured
    · rw [state, deadline]
      exact composed.rested
  | starts was state encrypted deadline => constructor <;> simp [state]
  | begins now was state encrypted deadline => constructor <;> simp [state]
  | completes state encrypted deadline => exact ⟨fun _ => encrypted, fun _ => deadline⟩
  | drains was state encrypted deadline =>
    constructor
    · exact fun _ => encrypted.trans (composed.secured (.inl was))
    · simp [state]
  | closes state encrypted deadline =>
    constructor
    · simp [state]
    · exact fun _ => deadline

theorem Composed.inTime {s : Session τ} (composed : Composed s)
    (stage : s.state = .active ∨ s.state = .draining) (now : Instant) : s.late now = false := by
  rw [late, composed.secured stage, Bool.not_true, Bool.and_false]

theorem Composed.open_of_late {s : Session τ} {now : Instant} (composed : Composed s)
    (late : s.late now = true) : s.state ≠ .closed := by
  intro closed
  rw [Session.late, composed.rested closed] at late
  cases late

/-! ## The end of a handshake -/

/-- The session is open, and its handshake is not over. -/
def Pending (s : Session τ) : Prop := s.state ≠ .closed ∧ s.encrypted = false

/-- A handshake that has to be over by `due`: the session waits for that instant as long as the
handshake is pending, and never for another. -/
structure Hurried (due : Instant) (s : Session τ) : Prop where
  begun : SessionState.handshakeInProgress.rank ≤ s.state.rank
  awaited : s.Pending → s.state = .handshakeInProgress ∧ s.handshakeDeadline = some due
  only : ∀ t, s.handshakeDeadline = some t → t = due
  rested : s.state = .closed → s.handshakeDeadline = none

theorem Hurried.secured {due : Instant} {s : Session τ} (hurried : Hurried due s)
    (active : s.state = .active) : s.encrypted = true := by
  cases plain : s.encrypted with
  | true => rfl
  | false =>
    have open_ : s.state ≠ .closed := by simp [active]
    have waits := (hurried.awaited ⟨open_, plain⟩).1
    rw [active] at waits
    cases waits

theorem kept_hurried [Transport τ] (due : Instant) : Kept (Hurried (τ := τ) due) := by
  refine .of_advance fun _ advance hurried => ?_
  cases advance with
  | stays state encrypted deadline =>
    constructor
    · rw [state]
      exact hurried.begun
    · unfold Pending
      rw [state, encrypted, deadline]
      exact hurried.awaited
    · rw [deadline]
      exact hurried.only
    · rw [state, deadline]
      exact hurried.rested
  | starts was state encrypted deadline =>
    exact absurd (was ▸ hurried.begun) (by decide)
  | begins now was state encrypted deadline =>
    exact absurd (was ▸ hurried.begun) (by decide)
  | completes state encrypted deadline =>
    constructor
    · rw [state]
      exact Nat.le_trans hurried.begun (rank_afterHandshake _)
    · simp [Pending, encrypted]
    · simp [deadline]
    · exact fun _ => deadline
  | drains was state encrypted deadline =>
    constructor
    · rw [state]
      decide
    · simp [Pending, encrypted, hurried.secured was]
    · rw [deadline]
      exact hurried.only
    · simp [state]
  | closes state encrypted deadline =>
    constructor
    · rw [state]
      decide
    · simp [Pending, state]
    · simp [deadline]
    · exact fun _ => deadline

theorem kept_unhurried [Transport τ] :
    Kept fun s : Session τ => s.side = .server ∧ s.handshakeDeadline = none := by
  refine .of_advance fun same advance ⟨server, unhurried⟩ => ⟨same.side.trans server, ?_⟩
  cases advance with
  | stays state encrypted deadline => exact deadline.trans unhurried
  | starts was state encrypted deadline => exact deadline.trans unhurried
  | begins now was state encrypted deadline => simpa [server, Side.isClient] using deadline
  | completes state encrypted deadline => exact deadline
  | drains was state encrypted deadline => exact deadline.trans unhurried
  | closes state encrypted deadline => exact deadline

namespace Hurried

variable {due now : Instant} {s : Session τ}

theorem of_beginHandshake {s' : Session τ} {d : Duration} (client : s.side = .client)
    (within : s.options.handshakeTimeout = some d) (initialized : s.state = .initialized)
    (h : s.beginHandshake now = .ok s') : Hurried (now + d.toNanos) s' := by
  obtain ⟨-, rfl⟩ | ⟨-, other, -⟩ := beginHandshake_cases h
  · have deadline : (if s.side.isClient then s.options.handshakeTimeout.map fun d => now + d.toNanos
        else none) = some (now + d.toNanos) := by
      rw [client, within]
      rfl
    rw [deadline]
    refine ⟨Nat.le_refl _, fun _ => ⟨rfl, rfl⟩, fun t h => (Option.some.inj h).symm, fun closed => ?_⟩
    cases closed
  · exact absurd initialized other

theorem late_iff (hurried : Hurried due s) : s.late now = true ↔ s.Pending ∧ due ≤ now := by
  rw [late, Bool.and_eq_true, reached_iff, Bool.not_eq_true']
  constructor
  · rintro ⟨⟨t, h, le⟩, plain⟩
    refine ⟨⟨fun closed => ?_, plain⟩, hurried.only t h ▸ le⟩
    rw [hurried.rested closed] at h
    cases h
  · rintro ⟨pending, le⟩
    exact ⟨⟨due, (hurried.awaited pending).2, le⟩, pending.2⟩

theorem reached_deadline [Transport τ] (hurried : Hurried due s) (pending : s.Pending) :
    reached s.deadline due = true := by
  have handshake : reached s.handshakeDeadline due = true :=
    reached_iff.2 ⟨due, (hurried.awaited pending).2, Nat.le_refl due⟩
  rw [Session.reached_deadline, handshake, Bool.or_true, Bool.or_true]

end Hurried

/-- A client's handshake that is still pending when its time is up ends with a timeout; until then, and
once it is over, no timeout closes the session. A server never waits for the end of a handshake. -/
theorem handshake_ends_in_time [Transport τ] (id : SessionId) (handle : ConnectionHandle) (t : τ)
    (options : SessionOptions) (made : Instant) (before : List (Step τ)) :
    let start := (Session.new id handle t options made).run before
    (∀ (d : Duration) (begun : Instant) (s₀ : Session τ), Transport.side t = .client →
      options.handshakeTimeout = some d → start.state = .initialized →
      start.beginHandshake begun = .ok s₀ →
      ∀ (steps : List (Step τ)) (a : Audience) (now : Instant),
        let s := s₀.run steps
        let s' := s.timeout a now
        let due := begun + d.toNanos
        (s.Pending → ∃ soon, s.deadline = some soon ∧ soon ≤ due) ∧
        (s.Pending → due ≤ now → s'.state = .closed ∧ s'.handshakeDeadline = none ∧
          s'.signals = s.signals ++ [.closed .timeout true]) ∧
        (now < due ∨ ¬ s.Pending → s'.state = s.state ∧ s'.signals = s.signals ∧
          s'.posted = s.posted)) ∧
    (Transport.side t = .server → start.handshakeDeadline = none) := by
  intro start
  have named : Named (Session.new id handle t options made) := named_empty rfl
  have same : SameSession _ start := sameSession_run named before
  constructor
  · intro d begun s₀ client within initialized started steps a now s s' due
    have named₀ : Named s₀ :=
      named_act a (.deed (.beginHandshake begun started)) (named_run named before)
    have hurried : Hurried due s := by
      refine (kept_hurried due).run named₀ ?_ steps
      refine .of_beginHandshake (same.side.trans client) ?_ initialized started
      rw [same.options]
      exact within
    refine ⟨fun pending => reached_iff.1 (hurried.reached_deadline pending), fun pending up => ?_,
      fun spared => ?_⟩
    · have late : s.late now = true := hurried.late_iff.2 ⟨pending, up⟩
      have open_ : s.state ≠ .closed := pending.1
      rw [show s' = _ from timeout_of_late a late, conclude_eq a (by exact open_)]
      refine ⟨rfl, rfl, ?_⟩
      show s.signals ++ [.closed .timeout (!s.encrypted)] = _
      rw [pending.2, Bool.not_false]
    · have inTime : s.late now = false := by
        rw [Bool.eq_false_iff, ne_eq, hurried.late_iff]
        rintro ⟨pending, up⟩
        obtain early | settled := spared
        · exact Nat.not_lt.2 up early
        · exact settled pending
      obtain ⟨t', base, told⟩ := timeout_in_time a inTime
      rw [show s' = _ from told]
      exact ⟨rfl, rfl, rfl⟩
  · intro server
    exact ((kept_unhurried (τ := τ)).run named ⟨server, rfl⟩ before).2

/-- A client that gave its handshake ten seconds, told the time before they are up and after. -/
theorem handshake_ends_in_time_client :
    let options := { SessionOptions.standard with handshakeTimeout := some (.ofSeconds 10) }
    let start := (Session.new ⟨1⟩ ⟨0⟩ Scenario.unmadeConnection options 0).run
      [.operate .silent 0 .start]
    ∃ s₀, start.beginHandshake 5 = .ok s₀ ∧
      (s₀.timeout .silent (millis 9999)).state = .handshakeInProgress ∧
      (s₀.timeout .silent (millis 10000 + 5)).state = .closed ∧
      (s₀.timeout .silent (millis 10000 + 5)).signals = [.closed .timeout true] := by
  intro options start
  obtain ⟨s₀, begun⟩ : ∃ s₀, start.beginHandshake 5 = .ok s₀ := ⟨_, rfl⟩
  have initialized : start.state = .initialized := rfl
  obtain ⟨-, rfl⟩ | ⟨-, other, -⟩ := beginHandshake_cases begun
  · have ends := (handshake_ends_in_time ⟨1⟩ ⟨0⟩ Scenario.unmadeConnection options 0
      [.operate .silent 0 .start]).1 (.ofSeconds 10) 5 _ rfl rfl rfl begun [] .silent
    have late := (ends (millis 10000 + 5)).2.1 ⟨by decide, rfl⟩ (by decide)
    exact ⟨_, begun, ((ends (millis 9999)).2.2 (.inl (by decide))).1, late.1, late.2.2⟩
  · exact absurd initialized other

/-! ## What a timeout leaves -/

/-- The next keep-alive is due at once, and so is the one after it: nothing lies between them. -/
structure Restless (now : Instant) (s : Session τ) : Prop where
  interval : s.options.keepAlive = some .zero
  active : s.state = .active
  used : s.inUse = true
  base : s.lastKeepAlive ≤ now

/-- The handshake is over and its deadline, which has come, still stands. -/
structure Stale (now : Instant) (s : Session τ) : Prop where
  encrypted : s.encrypted = true
  reached : Session.reached s.handshakeDeadline now = true

section Loop

variable {now : Instant} {s : Session τ}

theorem Restless.keepAliveDeadline (restless : s.Restless now) :
    s.keepAliveDeadline = some s.lastKeepAlive :=
  keepAliveDeadline_eq_some_iff.2 ⟨restless.active, restless.used, .zero, restless.interval, rfl⟩

theorem Restless.not_ahead (restless : s.Restless now) : ¬ s.Ahead now := fun ahead =>
  Nat.not_lt.2 restless.base (ahead.keepAlive _ restless.keepAliveDeadline)

theorem Stale.not_ahead (stale : s.Stale now) : ¬ s.Ahead now := by
  intro ahead
  obtain ⟨t, h, le⟩ := reached_iff.1 stale.reached
  exact Nat.not_lt.2 le (ahead.handshake t h)

variable [Transport τ] (a : Audience)

theorem Restless.timeout (composed : Composed s) (restless : s.Restless now) :
    (s.timeout a now).Restless now := by
  rw [timeout_of_due a (composed.inTime (.inl restless.active) now) restless.keepAliveDeadline
    restless.base]
  exact ⟨restless.interval, restless.active, restless.used, Nat.le_refl now⟩

theorem Stale.timeout (stale : s.Stale now) : (s.timeout a now).Stale now := by
  have inTime : s.late now = false := by
    rw [late, stale.encrypted, Bool.not_true, Bool.and_false]
  obtain ⟨t, base, told⟩ := timeout_in_time a inTime
  rw [told]
  exact ⟨stale.encrypted, stale.reached⟩

/-- After a timeout the next keep-alive lies ahead, unless nothing lies between two of them. -/
theorem keepAlive_ahead (inTime : s.late now = false) (rested : ¬ s.Restless now) (t : Instant)
    (h : (s.timeout a now).keepAliveDeadline = some t) : now < t := by
  cases k : s.keepAliveDeadline with
  | none =>
    rw [timeout_of_idle a inTime k] at h
    obtain ⟨active, used, d, every, -⟩ := keepAliveDeadline_eq_some_iff.1 h
    have next : s.keepAliveDeadline = some (s.lastKeepAlive + d.toNanos) :=
      keepAliveDeadline_eq_some_iff.2 ⟨active, used, d, every, rfl⟩
    rw [k] at next
    cases next
  | some u =>
    by_cases due : u ≤ now
    · rw [timeout_of_due a inTime k due] at h
      obtain ⟨active, used, d, every, rfl⟩ := keepAliveDeadline_eq_some_iff.1 h
      obtain ⟨-, -, d', every', rfl⟩ := keepAliveDeadline_eq_some_iff.1 k
      have positive : d.toNanos ≠ 0 := by
        intro nothing
        rw [Duration.toNanos_eq_zero_iff.1 nothing] at every
        exact rested ⟨every, active, used, Nat.le_trans (Nat.le_add_right ..) due⟩
      exact Nat.lt_add_of_pos_right (Nat.pos_of_ne_zero positive)
    · have early : now < u := Nat.not_le.1 due
      rw [timeout_of_early a inTime k early] at h
      rw [← Option.some.inj (k.symm.trans h)]
      exact early

/-- What is still to come after a timeout is everything, but for the two ways to be due again. -/
theorem ahead_timeout_iff (composed : Composed s) :
    (s.timeout a now).Ahead now ↔ ¬ s.Restless now ∧ ¬ s.Stale now := by
  constructor
  · exact fun ahead => ⟨fun restless => (restless.timeout a composed).not_ahead ahead,
      fun stale => (stale.timeout a).not_ahead ahead⟩
  · rintro ⟨rested, fresh⟩
    cases h : s.late now with
    | true =>
      have open_ := composed.open_of_late h
      rw [timeout_of_late a h, conclude_eq a (by exact open_)]
      constructor
      · intro t k
        cases (keepAliveDeadline_eq_some_iff.1 k).1
      · intro t k
        cases k
    | false =>
      refine ⟨keepAlive_ahead a h rested, fun t waits => ?_⟩
      obtain ⟨t', base, told⟩ := timeout_in_time a h
      rw [told] at waits
      by_contra up
      have come : reached s.handshakeDeadline now = true :=
        reached_iff.2 ⟨t, waits, Nat.not_lt.1 up⟩
      refine fresh ⟨?_, come⟩
      simpa [late, come] using h

end Loop

/-- Once a handshake has begun, a deadline stands only as long as the handshake is not over. -/
theorem kept_fresh [Transport τ] : Kept fun s : Session τ =>
    SessionState.handshakeInProgress.rank ≤ s.state.rank ∧
      (s.handshakeDeadline.isSome = true → s.encrypted = false) := by
  refine .of_advance fun _ advance ⟨begun, fresh⟩ => ?_
  cases advance with
  | stays state encrypted deadline => exact ⟨state ▸ begun, deadline ▸ encrypted ▸ fresh⟩
  | starts was state encrypted deadline => exact absurd (was ▸ begun) (by decide)
  | begins now was state encrypted deadline => exact absurd (was ▸ begun) (by decide)
  | completes state encrypted deadline =>
    exact ⟨state ▸ Nat.le_trans begun (rank_afterHandshake _), by simp [deadline]⟩
  | drains was state encrypted deadline => exact ⟨by simp [state]; decide, deadline ▸ encrypted ▸ fresh⟩
  | closes state encrypted deadline => exact ⟨state ▸ rank_le_closed _, by simp [deadline]⟩

/-- A session that is due again after a timeout stays due, however often the timeout is repeated. -/
theorem due_again [Transport τ] (a : Audience) {now : Instant} {s : Session τ} (composed : Composed s)
    (again : ¬ (s.timeout a now).Ahead now) (n : Nat) :
    reached ((Session.timeout a now)^[n] (s.timeout a now)).deadline now = true := by
  have stuck : ∀ n, let s' := (Session.timeout a now)^[n] (s.timeout a now)
      Composed s' ∧ (s'.Restless now ∨ s'.Stale now) := by
    intro n
    induction n with
    | zero =>
      refine ⟨kept_composed.acts (deeds_timeout a now s).acts composed, ?_⟩
      rw [ahead_timeout_iff a composed, not_and_or, not_not, not_not] at again
      exact again.imp (fun restless => restless.timeout a composed) fun stale => stale.timeout a
    | succ n ih =>
      rw [Function.iterate_succ_apply']
      obtain ⟨composed', again'⟩ := ih
      refine ⟨kept_composed.acts (deeds_timeout a now _).acts composed', ?_⟩
      exact again'.imp (fun restless => restless.timeout a composed') fun stale => stale.timeout a
  rw [reached_deadline]
  obtain restless | stale := (stuck n).2
  · rw [reached_iff.2 ⟨_, restless.keepAliveDeadline, restless.base⟩, Bool.true_or, Bool.or_true]
  · rw [stale.reached, Bool.or_true, Bool.or_true]

/-- After a timeout everything that a session itself waits for lies ahead, so only its transport can
make it due again at the same instant. The exceptions are an interval of zero between its keep-alives,
which every check of a configuration lets pass, and a handshake that was reported over before it was
begun: there the session is due again after each timeout, for ever. -/
theorem timeout_leaves_deadlines_ahead [Transport τ] (id : SessionId) (handle : ConnectionHandle)
    (t : τ) {options : SessionOptions} (made : Instant) (checked : options.Checked)
    (steps : List (Step τ)) (a : Audience) (now : Instant) :
    let s := (Session.new id handle t options made).run steps
    let s' := s.timeout a now
    (s'.Ahead now ↔ ¬ s.Restless now ∧ ¬ s.Stale now) ∧
    (s'.Ahead now → reached s'.deadline now = reached (Transport.deadline s'.transport) now) ∧
    (¬ s'.Ahead now → ∀ n, reached ((Session.timeout a now)^[n] s').deadline now = true) ∧
    (∀ interval, SessionOptions.Checked { options with keepAlive := interval }) ∧
    (∀ before after, steps = before ++ after →
      let earlier := (Session.new id handle t options made).run before
      SessionState.handshakeInProgress.rank ≤ earlier.state.rank → earlier.encrypted = false →
        ¬ s.Stale now) := by
  intro s s'
  have named : Named (Session.new id handle t options made) := named_empty rfl
  have composed : Composed s := kept_composed.run named (composed_new id handle t options made) steps
  refine ⟨ahead_timeout_iff a composed, fun ahead => ahead.reached_deadline,
    fun again => due_again a composed again, checked.withKeepAlive, ?_⟩
  rintro before after rfl earlier begun plain stale
  have fresh := kept_fresh.run (named_run named before) ⟨begun, fun _ => plain⟩ after
  rw [← run_append] at fresh
  obtain ⟨t, waits, -⟩ := reached_iff.1 stale.reached
  have still := fresh.2 (by rw [show _ = some t from waits]; rfl)
  exact absurd (still.symm.trans stale.encrypted) (by decide)

/-- The steps that make a client's session active, with one stream of its peer. -/
def activation : List (Step τ) :=
  [.operate .silent 0 .start, .operate .silent 0 .beginHandshake, .report .silent 0 .connected,
    .operate .silent 0 (.createIncoming (.of .server .bi 0))]

/-- An active session of a client with one stream, made with an interval between keep-alives. -/
def pinging (interval : Duration) : Session Wire.Connection :=
  (Session.new ⟨1⟩ ⟨0⟩ Scenario.unmadeConnection
    (Client.options (ClientConfig.default.withKeepAliveInterval (some interval))) 0).run activation

/-- With an interval of a second, the keep-alive that goes out after two is followed by one after
three. -/
theorem timeout_leaves_deadlines_ahead_second :
    (ClientConfig.default.withKeepAliveInterval (some (.ofSeconds 1))).validate = .ok () ∧
      ((pinging (.ofSeconds 1)).timeout .silent (millis 2000)).Ahead (millis 2000) ∧
      ((pinging (.ofSeconds 1)).timeout .silent (millis 2000)).keepAliveDeadline =
        some (millis 3000) := by
  have valid : (ClientConfig.default.withKeepAliveInterval (some (.ofSeconds 1))).validate = .ok () := by
    decide +kernel
  obtain ⟨ahead, -, -, -, fresh⟩ := timeout_leaves_deadlines_ahead ⟨1⟩ ⟨0⟩ Scenario.unmadeConnection 0
    (.client valid) activation .silent (millis 2000)
  refine ⟨valid, ahead.2 ⟨fun restless => ?_, ?_⟩, by decide +kernel⟩
  · exact absurd restless.interval (by decide)
  · exact fresh (activation.take 2) (activation.drop 2) rfl (by decide) rfl

/-- With an interval of zero, which passes the check, the keep-alive that goes out is followed by
another one at the same instant. -/
theorem zero_interval_due_at_once :
    (ClientConfig.default.withKeepAliveInterval (some .zero)).validate = .ok () ∧
      ((pinging .zero).timeout .silent (millis 2000)).keepAliveDeadline = some (millis 2000) := by
  decide +kernel

end Session

end QuicSessions
