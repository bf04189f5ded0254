import QuicSessions.Proofs.Sessions.Intervals
import QuicSessions.Proofs.Sessions.Retention

/-!
# Pings

A pulse is a transport around another one that counts the pings it is asked for. A session asks for
one only when it is told the time, and then counts the time to the next from there. So what there is to
know of its pings is known from its timeouts: when one goes out, and that none comes too early.
-/

set_option autoImplicit false

namespace QuicSessions

/-- A transport with the number of pings that it was asked for. -/
structure Pulse (τ : Type) where
  inner : τ
  pings : Nat

namespace Pulse

variable {τ : Type}

def moved (p : Pulse τ) (t : τ) : Pulse τ := { p with inner := t }

instance [Transport τ] : Transport (Pulse τ) where
  side p := Transport.side p.inner
  remote p := Transport.remote p.inner
  counters p := Transport.counters p.inner
  isClosed p := Transport.isClosed p.inner
  isDrained p := Transport.isDrained p.inner
  openStream dir p := (Transport.openStream dir p.inner).map fun x => (x.1, p.moved x.2)
  acceptStream dir p := (Transport.acceptStream dir p.inner).map fun x => (x.1, p.moved x.2)
  write id data p :=
    let x := Transport.write id data p.inner
    (x.1, p.moved x.2)
  finish id p :=
    let x := Transport.finish id p.inner
    (x.1, p.moved x.2)
  reset id code p := p.moved (Transport.reset id code p.inner)
  stop id code p := p.moved (Transport.stop id code p.inner)
  beginRead id p := (Transport.beginRead id p.inner).map p.moved
  nextRegion id limit p :=
    let x := Transport.nextRegion id limit p.inner
    (x.1, p.moved x.2)
  endRead id p := p.moved (Transport.endRead id p.inner)
  poll p := (Transport.poll p.inner).map fun x => (x.1, p.moved x.2)
  receiveDatagram p := (Transport.receiveDatagram p.inner).map fun x => (x.1, p.moved x.2)
  sendDatagram data p :=
    let x := Transport.sendDatagram data p.inner
    (x.1, p.moved x.2)
  ping p := ⟨Transport.ping p.inner, p.pings + 1⟩
  close now code reason p := p.moved (Transport.close now code reason p.inner)
  deadline p := Transport.deadline p.inner
  timeout now p := p.moved (Transport.timeout now p.inner)
  backlog p := Transport.backlog p.inner

/-- What comes with an answer of the inner transport is that transport, moved. -/
theorem pings_of_map {α : Type} {p p' : Pulse τ} {x : Option (α × τ)} {r : α}
    (h : (x.map fun x => (x.1, p.moved x.2)) = some (r, p')) : p'.pings = p.pings := by
  obtain ⟨x, -, e⟩ := Option.map_eq_some_iff.1 h
  cases e
  rfl

theorem reacting_retains [Transport τ] (n : Nat) : Transport.ReactingRetains fun p : Pulse τ => p.pings = n where
  write h same := by
    cases h
    exact same
  finish h same := by
    cases h
    exact same
  beginRead h same := by
    obtain ⟨t, -, rfl⟩ := Option.map_eq_some_iff.1 h
    exact same
  nextRegion h same := by
    cases h
    exact same
  endRead same := same
  acceptStream h same := (pings_of_map h).trans same
  reset same := same
  stop same := same
  receiveDatagram h same := (pings_of_map h).trans same
  close same := same

end Pulse

namespace Session

variable {τ : Type}

/-! ## Steps without a ping -/

/-- No ping goes out, and the time to the next is counted from where it was. -/
structure Hushed (s s' : Session (Pulse τ)) : Prop where
  pings : s'.transport.pings = s.transport.pings
  base : s'.lastKeepAlive = s.lastKeepAlive

namespace Hushed

variable {a : Audience} {now : Instant} {s s' s'' : Session (Pulse τ)}

theorem refl (s : Session (Pulse τ)) : Hushed s s := ⟨rfl, rfl⟩

theorem trans (h : Hushed s s') (h' : Hushed s' s'') : Hushed s s'' :=
  ⟨h'.pings.trans h.pings, h'.base.trans h.base⟩

theorem of_quiet (quiet : Quiet s s') (pings : s'.transport.pings = s.transport.pings) :
    Hushed s s' := ⟨pings, base_of_quiet quiet⟩

theorem goodbye (s : Session (Pulse τ)) : Hushed s (s.receiveGoaway a) :=
  ⟨congrArg Pulse.pings (transport_receiveGoaway s), base_receiveGoaway s⟩

theorem conclude (reason : CloseReason) (s : Session (Pulse τ)) : Hushed s (s.conclude a reason) :=
  ⟨congrArg Pulse.pings (transport_conclude reason s), base_conclude reason s⟩

variable [Transport τ]

theorem closeConnection (code : UInt32) (reason : String) (s : Session (Pulse τ)) :
    Hushed s (s.closeConnection a now code reason) :=
  ⟨retains_closeConnection (Pulse.reacting_retains _) code reason rfl, base_closeConnection code reason s⟩

theorem openStream {dir : Dir} {r : Option StreamHandle} (h : s.openStream a dir = .ok (r, s')) :
    Hushed s s' := by
  refine ⟨?_, base_openStream h⟩
  obtain ⟨-, rfl⟩ | ⟨-, -, -, rfl⟩ | ⟨id, t, -, -, opened, rfl⟩ := openStream_forms a h
  · rfl
  · rfl
  · exact Pulse.pings_of_map opened

theorem screen {id : StreamId} {r : Option Refusal} (h : s.screen a now id = .ok (r, s')) :
    Hushed s s' := by
  obtain ⟨-, rfl⟩ | ⟨-, -, -, rfl⟩ | ⟨-, -, -, rfl⟩ | ⟨-, -, rfl⟩ := screen_cases a now h
  · exact .refl _
  · exact .closeConnection _ _ _
  · exact .refl _
  · exact .refl _

theorem createIncoming {id : StreamId} {r : Option StreamHandle}
    (h : s.createIncoming a now id = .ok (r, s')) : Hushed s s' :=
  ⟨retains_createIncoming (Pulse.reacting_retains _) h rfl, base_createIncoming h⟩

theorem acceptPending {dir : Dir} (h : s.acceptPending a now dir = .ok s') : Hushed s s' :=
  ⟨retains_acceptPending (Pulse.reacting_retains _) h rfl, base_acceptPending h⟩

theorem react {e : Event} (h : s.react a now e = .ok s') : Hushed s s' :=
  ⟨retains_react (Pulse.reacting_retains _) h rfl, base_react h⟩

theorem process (h : s.process a now = .ok s') : Hushed s s' := by
  have polled {s : Session (Pulse τ)} {e : Event} {t : Pulse τ}
      (waits : Transport.poll s.transport = some (e, t)) : Hushed s { s with transport := t } :=
    ⟨Pulse.pings_of_map waits, rfl⟩
  fun_induction Session.process a now s with
  | case1 s none_waits => exact Except.ok.inj h ▸ .refl s
  | case2 s e t waits fault failed => cases h
  | case3 s e t waits s₁ reacted less ih => exact ((polled waits).trans (.react reacted)).trans (ih h)
  | case4 s e t waits s₁ reacted full => exact Except.ok.inj h ▸ (polled waits).trans (.react reacted)

end Hushed

/-! ## Times that are told -/

/-- When a step tells the session the time. -/
def Step.instant? : Step τ → Option Instant
  | .operate _ now (.timeout after) => some (now + after)
  | _ => none

theorem eq_timeout_of_instant? {x : Step τ} {now : Instant} (told : x.instant? = some now) :
    ∃ a began after, now = began + after ∧ x = .operate a began (.timeout after) := by
  unfold Step.instant? at told
  split at told
  · exact ⟨_, _, _, (Option.some.inj told).symm, rfl⟩
  · cases told

/-- No step tells an earlier time than a step before it. -/
def Timely (steps : List (Step τ)) : Prop := (steps.filterMap Step.instant?).Pairwise (· ≤ ·)

theorem Timely.tail {x : Step τ} {steps : List (Step τ)} (timely : Timely (x :: steps)) :
    Timely steps := by
  unfold Timely at timely ⊢
  rw [List.filterMap_cons] at timely
  split at timely
  · exact timely
  · exact (List.pairwise_cons.1 timely).2

/-- What a step tells is not later than what a step after it tells. -/
theorem Timely.head_le {x : Step τ} {steps : List (Step τ)} (timely : Timely (x :: steps))
    {now t : Instant} (told : x.instant? = some now) (later : t ∈ steps.filterMap Step.instant?) :
    now ≤ t := by
  unfold Timely at timely
  rw [List.filterMap_cons_some told] at timely
  exact (List.pairwise_cons.1 timely).1 t later

/-- A keep-alive is due at `now`, and the handshake is not late. -/
structure Due (now : Instant) (s : Session τ) : Prop where
  inTime : s.late now = false
  come : ∃ t, s.keepAliveDeadline = some t ∧ t ≤ now

theorem due_iff {s : Session τ} {d : Duration} {now : Instant} (composed : Composed s)
    (every : s.options.keepAlive = some d) :
    s.Due now ↔ s.state = .active ∧ s.inUse = true ∧ s.lastKeepAlive + d.toNanos ≤ now := by
  constructor
  · rintro ⟨-, t, k, le⟩
    obtain ⟨active, used, d', every', rfl⟩ := keepAliveDeadline_eq_some_iff.1 k
    obtain rfl : d = d' := Option.some.inj (every.symm.trans every')
    exact ⟨active, used, le⟩
  · rintro ⟨active, used, le⟩
    exact ⟨composed.inTime (.inl active) now, _,
      keepAliveDeadline_eq_some_iff.2 ⟨active, used, d, every, rfl⟩, le⟩

variable [Transport τ]

/-! ## Timeouts -/

theorem hushed_operate {a : Audience} {now : Instant} {s s' : Session (Pulse τ)} {op : Operation}
    {r : Answer} (untimed : (Step.operate (τ := Pulse τ) a now op).instant? = none)
    (h : op.run a now s = .ok (r, s')) : Hushed s s' := by
  have retains := Pulse.reacting_retains (τ := τ) s.transport.pings
  cases operated_of_run a now h with
  | timeout after => cases untimed
  | asks => exact .refl s
  | opens opened => exact .openStream opened
  | start started =>
    rw [(start_cases started).2]
    exact ⟨rfl, rfl⟩
  | beginHandshake begun =>
    obtain ⟨-, rfl⟩ | ⟨-, -, rfl⟩ := beginHandshake_cases begun
    · exact ⟨rfl, rfl⟩
    · exact .refl _
  | screen screened => exact .screen screened
  | createIncoming created => exact .createIncoming created
  | acceptPending accepted => exact .acceptPending accepted
  | process processed => exact .process processed
  | write id data fin =>
    exact .of_quiet (quiet_streamWrite id data fin s)
      (retains_streamWrite retains.toSendingRetains id data fin rfl)
  | read id limit =>
    exact .of_quiet (quiet_streamRead a id limit s)
      (retains_streamRead retains.toReadingRetains id limit rfl)
  | closeStream id =>
    exact .of_quiet (quiet_streamClose id s) (retains_streamClose retains.toSendingRetains id rfl)
  | setStreamVisitor id v =>
    exact .of_quiet (quiet_setStreamVisitor a id v s)
      (retains_setStreamVisitor retains.toReadingRetains id v rfl)
  | setVisitor v =>
    rw [setVisitor_eq]
    exact ⟨rfl, rfl⟩
  | reclaim =>
    obtain ⟨streams, unannounced, posted, e⟩ := reclaim_eq a s
    rw [e]
    exact ⟨rfl, rfl⟩
  | receiveGoaway => exact .goodbye s
  | close code reason => exact .closeConnection code reason s
  | setRespectGoaway respect => exact ⟨rfl, rfl⟩
  | sendGoaway => exact ⟨rfl, rfl⟩
  | takeSignals => exact ⟨rfl, rfl⟩

/-- When a keep-alive is due a single ping goes out, and the next counts from there. -/
theorem pings_timeout_of_due (a : Audience) {now : Instant} {s : Session (Pulse τ)} (due : s.Due now) :
    (s.timeout a now).transport.pings = s.transport.pings + 1 ∧
      (s.timeout a now).lastKeepAlive = now := by
  obtain ⟨inTime, t, k, le⟩ := due
  rw [timeout_of_due a inTime k le]
  exact ⟨rfl, rfl⟩

theorem pings_timeout_of_not_due (a : Audience) {now : Instant} {s : Session (Pulse τ)}
    (other : ¬ s.Due now) :
    (s.timeout a now).transport.pings = s.transport.pings ∧
      ((s.timeout a now).lastKeepAlive = s.lastKeepAlive ∨
        (s.timeout a now).lastKeepAlive = now) := by
  cases inTime : s.late now with
  | true =>
    rw [timeout_of_late a inTime]
    have hushed := Hushed.conclude (a := a) .timeout { s with
      transport := Transport.close now AppCode.handshakeTimeout.value.toNat
        (Utf8.encode "handshake timeout") (Transport.timeout now s.transport) }
    exact ⟨hushed.pings, .inl hushed.base⟩
  | false =>
    cases k : s.keepAliveDeadline with
    | none =>
      rw [timeout_of_idle a inTime k]
      exact ⟨rfl, .inr rfl⟩
    | some t =>
      have early : now < t := Nat.not_le.1 fun come => other ⟨inTime, t, k, come⟩
      rw [timeout_of_early a inTime k early]
      exact ⟨rfl, .inl rfl⟩

/-! ## The pings of a run -/

/-- The pings that a step sends. When the transport is moved from outside, the session sends none. -/
def Step.pings (s : Session (Pulse τ)) : Step (Pulse τ) → Nat
  | .transport _ => 0
  | x => (s.step x).transport.pings - s.transport.pings

/-- The pings of a run, each with the time that the session was told, if it was told the time. -/
def pingTimes (s : Session (Pulse τ)) : List (Step (Pulse τ)) → List (Option Instant)
  | [] => []
  | x :: steps => List.replicate (x.pings s) x.instant? ++ pingTimes (s.step x) steps

/-- A step that does not tell the time sends no ping. -/
theorem ping_step_untimed {s : Session (Pulse τ)} {x : Step (Pulse τ)} (untimed : x.instant? = none) :
    x.pings s = 0 ∧ (s.step x).lastKeepAlive = s.lastKeepAlive := by
  cases x with
  | transport t => exact ⟨rfl, rfl⟩
  | collect => exact ⟨Nat.sub_self _, rfl⟩
  | operate a now op =>
    have hushed : Hushed s (s.step (.operate a now op)) := by
      unfold step
      dsimp only
      split
      · rename_i done
        exact hushed_operate untimed done
      · exact .refl s
    exact ⟨Nat.sub_eq_zero_of_le hushed.pings.le, hushed.base⟩
  | report a now e =>
    have hushed : Hushed s (s.step (.report a now e)) := by
      unfold step
      dsimp only
      split
      · rename_i done
        exact .react done
      · exact .refl s
    exact ⟨Nat.sub_eq_zero_of_le hushed.pings.le, hushed.base⟩

/-- A session that is told the time takes it in, or it cannot look at its next keep-alive. -/
theorem step_timeout (a : Audience) (now : Instant) (after : Nat) (s : Session (Pulse τ)) :
    s.step (.operate a now (.timeout after)) = s ∨
      s.step (.operate a now (.timeout after)) = s.timeout a (now + after) := by
  cases ran : (Operation.timeout after).run a now s with
  | error fault => exact .inl (step_of_fault ran)
  | ok result => exact .inr ((step_of_run ran).trans (eq_of_timeout_run a ran))

/-- What a step does about keep-alives: it sends no ping and counts the next from where it was or from
the time that it tells, or it tells a time at which one is due and sends it. -/
theorem ping_step {s : Session (Pulse τ)} {d : Duration} (every : s.options.keepAlive = some d)
    (x : Step (Pulse τ)) :
    (x.pings s = 0 ∧ ((s.step x).lastKeepAlive = s.lastKeepAlive ∨
      x.instant? = some (s.step x).lastKeepAlive)) ∨
    (x.pings s = 1 ∧ x.instant? = some (s.step x).lastKeepAlive ∧
      s.lastKeepAlive + d.toNanos ≤ (s.step x).lastKeepAlive) := by
  cases told : x.instant? with
  | none =>
    obtain ⟨none_sent, base⟩ := ping_step_untimed (s := s) told
    exact .inl ⟨none_sent, .inl base⟩
  | some now =>
    obtain ⟨a, began, after, rfl, rfl⟩ := eq_timeout_of_instant? told
    have sent : Step.pings s (.operate a began (.timeout after)) =
      (s.step (.operate a began (.timeout after))).transport.pings - s.transport.pings := rfl
    obtain unable | step := step_timeout a began after s
    · rw [sent, unable, Nat.sub_self]
      exact .inl ⟨rfl, .inl rfl⟩
    rw [sent, step]
    by_cases due : s.Due (began + after)
    · obtain ⟨pings, base⟩ := pings_timeout_of_due a due
      obtain ⟨t, k, le⟩ := due.come
      obtain ⟨-, -, d', every', rfl⟩ := keepAliveDeadline_eq_some_iff.1 k
      obtain rfl : d = d' := Option.some.inj (every.symm.trans every')
      rw [pings, base, Nat.add_sub_cancel_left]
      exact .inr ⟨rfl, rfl, le⟩
    · obtain ⟨pings, base⟩ := pings_timeout_of_not_due a due
      rw [pings, Nat.sub_self]
      exact .inl ⟨rfl, base.imp_right fun base => congrArg some base.symm⟩

/-- No ping comes before the interval is over, counted from where the next keep-alive counts from. -/
theorem pings_after_base {s : Session (Pulse τ)} {d : Duration} {m : Instant}
    (named : Named s) (every : s.options.keepAlive = some d) (steps : List (Step (Pulse τ)))
    (timely : Timely steps) (base : m ≤ s.lastKeepAlive)
    (ahead : ∀ t ∈ steps.filterMap Step.instant?, m ≤ t) :
    ∀ p ∈ s.pingTimes steps, ∃ t, p = some t ∧ m + d.toNanos ≤ t := by
  induction steps generalizing s with
  | nil => simp [pingTimes]
  | cons x steps ih =>
    have every' : (s.step x).options.keepAlive = some d :=
      ((sameSession_run named [x]).options ▸ every :)
    have named' : Named (s.step x) := named_run named [x]
    have later : ∀ t ∈ steps.filterMap Step.instant?, m ≤ t := fun t mem =>
      ahead t ((List.sublist_cons_self x steps).filterMap _ |>.subset mem)
    have told : ∀ t, x.instant? = some t → m ≤ t := fun t told =>
      ahead t (List.mem_filterMap.2 ⟨x, List.mem_cons_self .., told⟩)
    intro p mem
    obtain mem | mem := List.mem_append.1 mem
    · obtain ⟨sent, e⟩ := List.mem_replicate.1 mem
      obtain ⟨none_sent, -⟩ | ⟨-, instant, le⟩ := ping_step every x
      · exact absurd none_sent sent
      · exact ⟨_, e.trans instant, Nat.le_trans (Nat.add_le_add_right base _) le⟩
    · have base' : m ≤ (s.step x).lastKeepAlive := by
        obtain ⟨-, same | instant⟩ | ⟨-, instant, -⟩ := ping_step every x
        · rw [same]
          exact base
        · exact told _ instant
        · exact told _ instant
      exact ih named' every' timely.tail base' later p mem

/-- Pings are sent only when the session is told the time, and never two within the interval. -/
theorem pings_apart {s : Session (Pulse τ)} {d : Duration} (named : Named s)
    (every : s.options.keepAlive = some d) (steps : List (Step (Pulse τ))) (timely : Timely steps) :
    (s.pingTimes steps).Pairwise fun p q => ∃ t u, p = some t ∧ q = some u ∧ t + d.toNanos ≤ u := by
  induction steps generalizing s with
  | nil => exact .nil
  | cons x steps ih =>
    have every' : (s.step x).options.keepAlive = some d :=
      ((sameSession_run named [x]).options ▸ every :)
    have named' : Named (s.step x) := named_run named [x]
    have rest := ih named' every' timely.tail
    obtain ⟨none_sent, -⟩ | ⟨sent, instant, -⟩ := ping_step every x
    · unfold pingTimes
      rw [none_sent]
      exact rest
    · unfold pingTimes
      rw [sent]
      refine List.pairwise_cons.2 ⟨fun q mem => ?_, rest⟩
      obtain ⟨u, e, le⟩ := pings_after_base named' every' steps timely.tail (Nat.le_refl _)
        (fun t later => timely.head_le instant later) q mem
      exact ⟨_, u, instant, e, le⟩

/-- A session with open streams is kept alive as long as it is active: it wants to be told when the
interval is over, and then a single ping goes out. Once the peer said goodbye it is not, though its
streams stay open. No other ping is ever sent, and between two of them lies the interval. -/
theorem kept_alive_while_active (id : SessionId) (handle : ConnectionHandle) (t : Pulse τ)
    {options : SessionOptions} (made : Instant) {d : Duration} (every : options.keepAlive = some d)
    (steps : List (Step (Pulse τ))) :
    let s := (Session.new id handle t options made).run steps
    (s.state = .active ∨ s.state = .draining → s.inUse = true →
      (((∃ soon, s.deadline = some soon ∧ soon ≤ s.lastKeepAlive + d.toNanos) ∧
        ∀ a now, s.lastKeepAlive + d.toNanos ≤ now →
          (s.timeout a now).transport.pings = s.transport.pings + 1 ∧
            (s.timeout a now).lastKeepAlive = now) ↔ s.state = .active)) ∧
    (∀ a now, (s.timeout a now).transport.pings = s.transport.pings +
      if s.state = .active ∧ s.inUse = true ∧ s.lastKeepAlive + d.toNanos ≤ now then 1 else 0) ∧
    (∀ more, Timely more → (∀ p ∈ s.pingTimes more, p.isSome = true) ∧
      (s.pingTimes more).Pairwise fun p q => ∃ t u, p = some t ∧ q = some u ∧ t + d.toNanos ≤ u) := by
  intro s
  have fresh : Named (Session.new id handle t options made) := named_empty rfl
  have named : Named s := named_run fresh steps
  have composed : Composed s := kept_composed.run fresh (composed_new id handle t options made) steps
  have every' : s.options.keepAlive = some d := by
    rw [(sameSession_run fresh steps).options]
    exact every
  have sent : ∀ a now, (s.timeout a now).transport.pings = s.transport.pings +
      if s.state = .active ∧ s.inUse = true ∧ s.lastKeepAlive + d.toNanos ≤ now then 1 else 0 := by
    intro a now
    split
    · rename_i h
      exact (pings_timeout_of_due a ((due_iff composed every').2 h)).1
    · rename_i h
      exact (pings_timeout_of_not_due a fun due => h ((due_iff composed every').1 due)).1
  refine ⟨fun _ used => ⟨fun alive => ?_, fun active => ⟨?_, fun a now le => ?_⟩⟩, sent,
    fun more timely => ⟨fun p mem => ?_, pings_apart named every' more timely⟩⟩
  · by_contra passive
    have one := (alive.2 .silent _ (Nat.le_refl _)).1
    rw [sent, if_neg fun h => passive h.1] at one
    omega
  · have next := keepAliveDeadline_eq_some_iff.2 ⟨active, used, d, every', rfl⟩
    rw [← reached_iff, reached_deadline, reached_iff.2 ⟨_, next, Nat.le_refl _⟩, Bool.true_or,
      Bool.or_true]
  · exact pings_timeout_of_due a ((due_iff composed every').2 ⟨active, used, le⟩)
  · obtain ⟨t, rfl, -⟩ := pings_after_base named every' more timely (Nat.zero_le _)
      (fun t _ => Nat.zero_le t) p mem
    rfl

/-- A client's transport that nothing was sent on, and options that ask for a ping every ten seconds. -/
def unpinged : Pulse Wire.Connection := ⟨Scenario.unmadeConnection, 0⟩

def everyTen : SessionOptions := { SessionOptions.standard with keepAlive := some (.ofSeconds 10) }

/-- Told the time every five seconds, it pings every ten. -/
theorem kept_alive_while_active_ten :
    let s := (Session.new ⟨1⟩ ⟨0⟩ unpinged everyTen 0).run activation
    let told : List (Step (Pulse Wire.Connection)) :=
      [5000, 10000, 15000, 20000].map fun ms => .operate .silent 0 (.timeout (millis ms))
    (s.timeout .silent (millis 10000)).lastKeepAlive = millis 10000 ∧
      s.pingTimes told = [some (millis 10000), some (millis 20000)] ∧
      ∀ p ∈ s.pingTimes told, p.isSome = true := by
  intro s told
  have every : everyTen.keepAlive = some (.ofSeconds 10) := rfl
  obtain ⟨alive, -, apart⟩ := kept_alive_while_active ⟨1⟩ ⟨0⟩ unpinged 0 every activation
  have active : s.state = .active := by decide +kernel
  have due := (alive (.inl active) (by decide +kernel)).2 active
  have first := (due.2 .silent (millis 10000) (by decide +kernel)).2
  refine ⟨first, by decide +kernel, (apart told ?_).1⟩
  simp [Timely, told, Step.instant?, millis]

/-- After the peer's goodbye the stream is still open, and a minute later no ping has gone out. -/
theorem goodbye_ends_keep_alive :
    let s := ((Session.new ⟨1⟩ ⟨0⟩ unpinged everyTen 0).run activation).step
      (.operate .silent 0 .receiveGoaway)
    s.state = .draining ∧ s.inUse = true ∧ s.keepAliveDeadline = none ∧
      (s.timeout .silent (millis 60000)).transport.pings = 0 := by
  decide +kernel

end Session

end QuicSessions
