import QuicSessions.Proofs.Sessions.Signals
import QuicSessions.Proofs.Transports.Grants

/-!
# Credit for streams

The peer says how many streams it allows, and the transport keeps the count. A session does not ask how
much is left before it opens a stream: it remembers that the last attempt found no credit, and forgets
it when the transport reports that there is more. So an attempt can pass the gate and still find no
credit. From then on the gate refuses, until such a report was handled.
-/

set_option autoImplicit false

namespace QuicSessions.Session

open Transport (Calls retaining_calls)

variable {τ : Type} [Transport τ]

/-! ## Steps that leave the memory of credit alone -/

/-- The session remembers of its credit what it did, and its transport was moved by calls. -/
structure Unspent (s s' : Session τ) : Prop where
  blocked : s'.blocked = s.blocked
  calls : Calls s.transport s'.transport

namespace Unspent

variable {a : Audience} {now : Instant} {s s' s'' : Session τ}

theorem of_eq (blocked : s'.blocked = s.blocked) (transport : s'.transport = s.transport) :
    Unspent s s' := ⟨blocked, transport ▸ .refl _⟩

theorem refl (s : Session τ) : Unspent s s := of_eq rfl rfl

theorem trans (h : Unspent s s') (h' : Unspent s' s'') : Unspent s s'' :=
  ⟨h'.blocked.trans h.blocked, h.calls.trans h'.calls⟩

theorem of_quiet (quiet : Quiet s s') (calls : Calls s.transport s'.transport) : Unspent s s' := by
  refine ⟨?_, calls⟩
  rw [quiet.eq]

theorem called {t : τ} (call : Transport.Call s.transport t) : Unspent s { s with transport := t } :=
  ⟨rfl, .one call⟩

theorem deliver (id : StreamId) (s : Session τ) : Unspent s (s.deliver a id) :=
  of_quiet (quiet_deliver a id s)
    (retains_deliver (retaining_calls s.transport).toReadingRetains id (.refl _))

theorem conclude (reason : CloseReason) (s : Session τ) : Unspent s (s.conclude a reason) := by
  by_cases closed : s.state = .closed
  · rw [conclude_of_closed a closed]
    exact .refl s
  · rw [conclude_eq a closed]
    exact .of_eq rfl rfl

theorem closeConnection (code : UInt32) (reason : String) (s : Session τ) :
    Unspent s (s.closeConnection a now code reason) := by
  unfold Session.closeConnection
  split
  · exact .refl s
  · exact (Unspent.called (.close now code.toNat (Utf8.encode reason) _)).trans (.conclude _ _)

theorem goodbye (s : Session τ) : Unspent s (s.receiveGoaway a) := by
  unfold Session.receiveGoaway
  split <;> exact .of_eq rfl rfl

theorem screen {id : StreamId} {r : Option Refusal} (h : s.screen a now id = .ok (r, s')) :
    Unspent s s' := by
  obtain ⟨-, rfl⟩ | ⟨-, -, -, rfl⟩ | ⟨-, -, -, rfl⟩ | ⟨-, -, rfl⟩ := screen_cases a now h
  · exact .refl _
  · exact .closeConnection _ _ _
  · exact .refl _
  · exact .refl _

theorem createIncoming {id : StreamId} {r : Option StreamHandle}
    (h : s.createIncoming a now id = .ok (r, s')) : Unspent s s' := by
  refine ⟨?_, retains_createIncoming (retaining_calls s.transport) h (.refl _)⟩
  obtain ⟨-, rfl | ⟨code, rfl⟩⟩ | ⟨-, -, -, -, rfl⟩ | ⟨-, -, rfl⟩ := createIncoming_forms a now h
  · rfl
  · rfl
  · exact (Unspent.closeConnection _ _ s).blocked
  · rw [(quiet_deliver a id (s.afterTakeIn a id)).eq, afterTakeIn_eq]

theorem acceptPending {dir : Dir} (h : s.acceptPending a now dir = .ok s') : Unspent s s' := by
  fun_induction Session.acceptPending a now dir s with
  | case1 s none_waits => exact Except.ok.inj h ▸ .refl s
  | case2 s id t waits fault failed => cases h
  | case3 s id t waits r s₁ taken closed =>
    exact Except.ok.inj h ▸ (Unspent.called (.acceptStream waits)).trans (.createIncoming taken)
  | case4 s id t waits r s₁ taken opened less ih =>
    exact ((Unspent.called (.acceptStream waits)).trans (.createIncoming taken)).trans (ih h)
  | case5 s id t waits r s₁ taken opened full =>
    exact Except.ok.inj h ▸ (Unspent.called (.acceptStream waits)).trans (.createIncoming taken)

theorem drainDatagrams (s : Session τ) : Unspent s (s.drainDatagrams a) := by
  refine ⟨?_, retains_drainDatagrams (retaining_calls s.transport) (.refl _)⟩
  obtain ⟨t, e | e⟩ := drainDatagrams_cases a s
  · rw [e]
  · rw [e]
    exact (Unspent.goodbye { s with transport := t }).blocked

theorem timeout (s : Session τ) : Unspent s (s.timeout a now) := by
  have told : Unspent s { s with transport := Transport.timeout now s.transport } :=
    .called (.timeout now _)
  unfold Session.timeout
  dsimp only
  split
  · exact (told.trans (.called (.close now _ _ _))).trans (.conclude _ _)
  · split
    · split
      · exact told.trans ⟨rfl, .one (.ping _)⟩
      · exact told
    · exact told.trans (.of_eq rfl rfl)

end Unspent

/-! ## What a step does with credit -/

namespace Step

/-- The direction in which a step reports that the peer allows more streams. -/
def grants : Step τ → Option Dir
  | .report _ _ (.available dir) => some dir
  | _ => none

/-- Whether a step takes every report that waits. -/
def polls : Step τ → Bool
  | .operate _ _ .process => true
  | _ => false

end Step

/-- What a step does with the credit of a session: it is told that there is more, it opens a stream or
finds that there is none left, its transport is moved, or nothing. -/
inductive Spending (s : Session τ) : Step τ → Session τ → Prop where
  | granted (a : Audience) (now : Instant) (dir : Dir) :
      Spending s (.report a now (.available dir)) (s.afterCredit a dir)
  | exhausted {x : Step τ} {dir : Dir} (other : x.grants = none) (gate : s.refusal? dir = none)
      (h : Transport.openStream dir s.transport = none) :
      Spending s x { s with blocked := s.blocked.set dir true }
  | moved (t : τ) : Spending s (.transport t) { s with transport := t }
  | unspent {x : Step τ} {s' : Session τ} (other : x.grants = none) (h : Unspent s s') : Spending s x s'

section Steps

variable {a : Audience} {now : Instant} {s s' : Session τ}

theorem spending_openStream {x : Step τ} {dir : Dir} {r : Option StreamHandle} (other : x.grants = none)
    (h : s.openStream a dir = .ok (r, s')) : Spending s x s' := by
  obtain ⟨-, rfl⟩ | ⟨-, gate, exhausted, rfl⟩ | ⟨id, t, -, -, opened, rfl⟩ := openStream_forms a h
  · exact .unspent other (.refl _)
  · exact .exhausted other gate exhausted
  · exact .unspent other ⟨rfl, .one (.openStream opened)⟩

theorem spending_operate {op : Operation} {r : Answer}
    (leaves : (Step.operate (τ := τ) a now op).polls = false) (h : op.run a now s = .ok (r, s')) :
    Spending s (.operate a now op) s' := by
  have sending := (retaining_calls s.transport).toSendingRetains
  have reading := (retaining_calls s.transport).toReadingRetains
  cases operated_of_run a now h with
  | process processed => cases leaves
  | opens opened => exact spending_openStream rfl opened
  | asks => exact .unspent rfl (.refl s)
  | start started =>
    rw [(start_cases started).2]
    exact .unspent rfl (.of_eq rfl rfl)
  | beginHandshake begun =>
    obtain ⟨-, rfl⟩ | ⟨-, -, rfl⟩ := beginHandshake_cases begun
    · exact .unspent rfl (.of_eq rfl rfl)
    · exact .unspent rfl (.refl _)
  | screen screened => exact .unspent rfl (.screen screened)
  | createIncoming created => exact .unspent rfl (.createIncoming created)
  | acceptPending accepted => exact .unspent rfl (.acceptPending accepted)
  | write id data fin =>
    exact .unspent rfl (.of_quiet (quiet_streamWrite id data fin s)
      (retains_streamWrite sending id data fin (.refl _)))
  | read id limit =>
    exact .unspent rfl (.of_quiet (quiet_streamRead a id limit s)
      (retains_streamRead reading id limit (.refl _)))
  | closeStream id =>
    exact .unspent rfl (.of_quiet (quiet_streamClose id s) (retains_streamClose sending id (.refl _)))
  | setStreamVisitor id v =>
    exact .unspent rfl (.of_quiet (quiet_setStreamVisitor a id v s)
      (retains_setStreamVisitor reading id v (.refl _)))
  | setVisitor v =>
    rw [setVisitor_eq]
    exact .unspent rfl (.of_eq rfl rfl)
  | reclaim =>
    obtain ⟨streams, unannounced, posted, e⟩ := reclaim_eq a s
    rw [e]
    exact .unspent rfl (.of_eq rfl rfl)
  | setRespectGoaway respect => exact .unspent rfl (.of_eq rfl rfl)
  | sendGoaway => exact .unspent rfl (.called (.sendDatagram _ _))
  | receiveGoaway => exact .unspent rfl (.goodbye s)
  | close code reason => exact .unspent rfl (.closeConnection code reason s)
  | takeSignals => exact .unspent rfl (.of_eq rfl rfl)
  | timeout after => exact .unspent rfl (.timeout s)

/-- Only the report that there is more credit touches what the session remembers of it. -/
theorem spending_react {e : Event} (h : s.react a now e = .ok s') : Spending s (.report a now e) s' := by
  cases e with
  | available dir =>
    have credited : s.afterCredit a dir = s' := Except.ok.inj h
    exact credited ▸ .granted a now dir
  | handshakeData => cases h; exact .unspent rfl (.refl s)
  | connected =>
    cases h
    rw [handshakeComplete_eq]
    exact .unspent rfl (.of_eq rfl rfl)
  | lost cause => cases h; exact .unspent rfl (.conclude _ s)
  | opened dir => exact .unspent rfl (.acceptPending h)
  | readable id => cases h; exact .unspent rfl (.deliver id s)
  | writable id =>
    cases h
    exact .unspent rfl (.of_quiet (quiet_streamWritable a id s)
      (retains_streamWritable (retaining_calls s.transport).toSendingRetains id (.refl _)))
  | finished id => cases h; exact .unspent rfl (.of_eq rfl rfl)
  | stopped id code => cases h; exact .unspent rfl (.of_eq rfl rfl)
  | datagram => cases h; exact .unspent rfl (.drainDatagrams s)
  | datagramsUnblocked => cases h; exact .unspent rfl (.refl s)

theorem spending_step {x : Step τ} (leaves : x.polls = false) : Spending s x (s.step x) := by
  cases x with
  | operate a now op =>
    unfold step
    dsimp only
    split
    · rename_i done
      exact spending_operate leaves done
    · exact .unspent rfl (.refl s)
  | report a now e =>
    unfold step
    dsimp only
    split
    · rename_i done
      exact spending_react done
    · rename_i fault failed
      cases e with
      | available dir => cases failed
      | _ => exact .unspent rfl (.refl s)
  | transport t => exact .moved t
  | collect => exact .unspent rfl (.of_eq rfl rfl)

end Steps

/-! ## The gate and the credit -/

section Gate

variable {a : Audience} {dir : Dir} {s : Session τ}

theorem gate_of_begun (begun : s.state ≠ .created) : s.gate dir = .ok (s.refusal? dir) := if_neg begun

theorem shouldOpen_of_begun (begun : s.state ≠ .created) :
    s.shouldOpen = .ok (s.refusal? .bi).isNone := by
  unfold shouldOpen
  rw [gate_of_begun begun]
  rfl

/-- Of the transport, the gate looks only at whether it is closed. -/
theorem shouldOpen_of_transport (s : Session τ) {t' : τ}
    (same : Transport.isClosed t' = Transport.isClosed s.transport) :
    shouldOpen { s with transport := t' } = s.shouldOpen := by
  have connected : connected { s with transport := t' } = s.connected :=
    congrArg (fun closed => s.state.live && !closed) same
  unfold shouldOpen gate refusal?
  rw [connected]
  rfl

theorem shouldOpen_of_refused (begun : s.state ≠ .created) (refused : s.refusal? .bi ≠ none) :
    s.shouldOpen = .ok false := by
  rw [shouldOpen_of_begun begun, Option.isNone_eq_false_iff.2 (Option.ne_none_iff_isSome.1 refused)]

theorem openStream_of_refused (begun : s.state ≠ .created) (refused : s.refusal? dir ≠ none) :
    s.openStream a dir = .ok (none, s) := by
  obtain ⟨refusal, gate⟩ := Option.ne_none_iff_exists'.1 refused
  unfold openStream
  rw [gate_of_begun begun, gate]
  rfl

theorem openStream_of_exhausted (begun : s.state ≠ .created) (gate : s.refusal? dir = none)
    (exhausted : Transport.openStream dir s.transport = none) :
    s.openStream a dir = .ok (none, { s with blocked := s.blocked.set dir true }) := by
  unfold openStream
  rw [gate_of_begun begun, gate]
  simp only [exhausted]
  rfl

theorem openStream_of_credit {id : StreamId} {t : τ} (begun : s.state ≠ .created)
    (gate : s.refusal? dir = none) (opened : Transport.openStream dir s.transport = some (id, t)) :
    s.openStream a dir = .ok (some (s.streamHandle id), s.afterOpen a dir id t) := by
  unfold openStream
  rw [gate_of_begun begun, gate]
  simp only [opened]
  rfl

theorem refused_of_blocked (blocked : s.blocked.get dir = true) : s.refusal? dir ≠ none := by
  unfold refusal?
  rw [blocked, Bool.true_or]
  split
  · exact nofun
  split
  · exact nofun
  split
  · exact nofun
  · exact nofun

theorem blocked_step {x : Step τ} (leaves : x.polls = false) (silent : x.grants ≠ some dir)
    (blocked : s.blocked.get dir = true) : (s.step x).blocked.get dir = true := by
  have spending := spending_step (s := s) leaves
  generalize s.step x = s' at spending
  cases spending with
  | granted a now other =>
    rw [afterCredit_eq]
    dsimp only
    rw [PerDir.get_set, if_neg fun same => silent (congrArg some same.symm)]
    exact blocked
  | exhausted other gate exhausted =>
    dsimp only
    rw [PerDir.get_set]
    split
    · rfl
    · exact blocked
  | moved t => exact blocked
  | unspent other unspent => exact unspent.blocked ▸ blocked

theorem blocked_run {steps : List (Step τ)} (leaves : ∀ x ∈ steps, x.polls = false)
    (silent : ∀ x ∈ steps, x.grants ≠ some dir) (blocked : s.blocked.get dir = true) :
    (s.run steps).blocked.get dir = true :=
  List.foldlRecOn (motive := fun s => s.blocked.get dir = true) steps step blocked fun _ blocked x mem =>
    blocked_step (leaves x mem) (silent x mem) blocked

end Gate

omit [Transport τ] in
theorem leaves_of_single {x : Step τ} (single : x.single = true) : x.polls = false := by
  unfold Step.polls
  split
  · cases single
  · rfl

/-- Once there was no credit, no stream passes the gate before a report that there is more was
handled. -/
theorem refused_until_granted (s : Session τ) (dir : Dir) {later : List (Step τ)}
    (blocked : s.blocked.get dir = true) (silent : ∀ x ∈ s.rounds later, x.grants ≠ some dir) :
    (s.run later).refusal? dir ≠ none := by
  have stays : (s.run (s.rounds later)).blocked.get dir = true :=
    blocked_run (fun x mem => leaves_of_single (single_rounds s later x mem)) silent blocked
  rw [run_rounds] at stays
  exact refused_of_blocked stays

/-- A bidirectional stream is opened at once if the gate lets it pass and the transport has credit, and
only then. The gate answers as it would with any other transport that is as open. If none is opened, nothing changes but what is remembered of the credit. A stream that passed
the gate and found no credit is the last to pass before there is more. -/
theorem openBidirectional_iff_gate_and_credit (id : SessionId) (handle : ConnectionHandle) (t : τ)
    (options : SessionOptions) (now : Instant) (steps : List (Step τ)) (a : Audience)
    (begun : ((new id handle t options now).run steps).state ≠ .created) :
    let s := (new id handle t options now).run steps
    ∃ should r s', s.shouldOpen = .ok should ∧ s.openBidirectional a = .ok (r, s') ∧
      r.isSome = (should && (Transport.openStream .bi s.transport).isSome) ∧
      (∀ t' : τ, Transport.isClosed t' = Transport.isClosed s.transport →
        shouldOpen { s with transport := t' } = .ok should) ∧
      (should = false → s' = s) ∧
      (r = none → s' = s ∨ s' = { s with blocked := s.blocked.set .bi true }) ∧
      (should = true → r = none → ∀ later : List (Step τ),
        (∀ x ∈ s'.rounds later, x.grants ≠ some .bi) → ∀ a' : Audience,
          (s'.run later).shouldOpen = .ok false ∧
          (s'.run later).openBidirectional a' = .ok (none, s'.run later)) := by
  intro s
  have blind (should : Bool) (asked : s.shouldOpen = .ok should) (t' : τ)
      (same : Transport.isClosed t' = Transport.isClosed s.transport) :
      shouldOpen { s with transport := t' } = .ok should := (shouldOpen_of_transport s same).trans asked
  by_cases gate : s.refusal? .bi = none
  · have passes : s.shouldOpen = .ok true := by rw [shouldOpen_of_begun begun, gate]; rfl
    cases credit : Transport.openStream .bi s.transport with
    | some opened =>
      obtain ⟨stream, t'⟩ := opened
      exact ⟨true, _, _, passes, openStream_of_credit begun gate credit, rfl, blind true passes, nofun, nofun,
        fun _ => nofun⟩
    | none =>
      refine ⟨true, _, _, passes, openStream_of_exhausted begun gate credit, rfl, blind true passes, nofun,
        fun _ => .inr rfl, fun _ _ later silent a' => ?_⟩
      -- the attempt is remembered, and so the gate is shut
      have named : Named s := named_run (named_empty rfl) steps
      have refused := refused_until_granted { s with blocked := s.blocked.set .bi true } .bi rfl silent
      have still : (run { s with blocked := s.blocked.set .bi true } later).state ≠ .created :=
        kept_begun.run (s := { s with blocked := s.blocked.set .bi true }) named begun later
      exact ⟨shouldOpen_of_refused still refused, openStream_of_refused still refused⟩
  · have shut : s.shouldOpen = .ok false := shouldOpen_of_refused begun gate
    exact ⟨false, _, _, shut, openStream_of_refused begun gate, rfl, blind false shut, fun _ => rfl,
      fun _ => .inl rfl, nofun⟩

/-! ## The last stream that the peer allows -/

/-- The client end of a connection whose server has answered and allows one stream. -/
def scantConnection : Wire.Connection :=
  Scenario.unmadeConnection.receive 0 ⟨0, 0, [.welcome ⟨1, 0⟩ Scenario.commonSettings.idle]⟩

/-- A client whose handshake is over and that opens the stream. -/
def scantSteps : List (Step Wire.Connection) :=
  [.operate .silent 0 .start, .operate .silent 0 .beginHandshake, .operate .silent 0 .process,
    .operate .silent 0 (.openStream .bi)]

/-- The gate answers for a stream that is then not opened. -/
theorem gate_passes_without_credit :
    let s := (new ⟨1⟩ ⟨0⟩ scantConnection .standard 0).run scantSteps
    s.state = .active ∧
      ¬ (s.shouldOpen = .ok true ↔ ∃ h s', s.openBidirectional .silent = .ok (some h, s')) := by
  intro s
  have active : s.state = .active := by decide +kernel
  have begun : s.state ≠ .created := by rw [active]; exact nofun
  have gate : s.refusal? .bi = none := by decide +kernel
  have exhausted : Transport.openStream .bi s.transport = none :=
    Option.isNone_iff_eq_none.1 (by decide +kernel)
  refine ⟨active, fun iff => ?_⟩
  obtain ⟨h, s', opened⟩ := iff.1 (by rw [shouldOpen_of_begun begun, gate]; rfl)
  have nothing := openStream_of_exhausted (a := .silent) begun gate exhausted
  cases nothing.symm.trans opened

/-- The second attempt of that client passes the gate, as it would with credit for one more, and finds none;
the third does not pass. -/
theorem openBidirectional_iff_gate_and_credit_scant :
    let s := (new ⟨1⟩ ⟨0⟩ scantConnection .standard 0).run scantSteps
    s.state ≠ .created ∧ (Transport.openStream .bi scantConnection).isSome = true ∧
      shouldOpen { s with transport := scantConnection } = .ok true ∧
      ∃ s', s.shouldOpen = .ok true ∧ s.openBidirectional .silent = .ok (none, s') ∧
      s' = { s with blocked := s.blocked.set .bi true } ∧ s'.shouldOpen = .ok false := by
  intro s
  have begun : s.state ≠ .created := by decide +kernel
  have gate : s.refusal? .bi = none := by decide +kernel
  have exhausted : (Transport.openStream .bi s.transport).isSome = false := by decide +kernel
  have asked : s.shouldOpen = .ok true := by rw [shouldOpen_of_begun begun, gate]; rfl
  obtain ⟨should, r, s', passes, opened, both, blind, -, changed, shut⟩ :=
    openBidirectional_iff_gate_and_credit ⟨1⟩ ⟨0⟩ scantConnection .standard 0 scantSteps .silent begun
  obtain rfl : true = should := Except.ok.inj (asked.symm.trans passes)
  obtain rfl : r = none := by
    rw [exhausted, Bool.and_false] at both
    exact Option.not_isSome_iff_eq_none.1 (Bool.eq_false_iff.1 both)
  have refused : s'.shouldOpen = .ok false := (shut rfl rfl [] (fun x mem => by cases mem) .silent).1
  obtain same | blocked := changed rfl
  · rw [same] at refused
    cases asked.symm.trans refused
  · exact ⟨begun, by decide +kernel, blind scantConnection (by decide +kernel), s', asked, opened, blocked,
      refused⟩

end QuicSessions.Session
