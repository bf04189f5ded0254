import QuicSessions.Proofs.Dispatchers.Partings
import QuicSessions.Scenario.Bare
import QuicSessions.Wire.Station

/-!
# What becomes of a client's connections

A client's visitor waits for one of two things to be told of a connection that it began: that it is
connected, or that it failed. What it is told follows from the signals that its dispatcher takes from the
session, and these from the reports of the transport and the causes to close. By the time that the session is
gone the visitor was told one of the two, and once.
-/

set_option autoImplicit false

namespace QuicSessions.Dispatcher

open Session (Named)

variable {ε τ π : Type}

/-! ## Well-behaved owners -/

/-- A client visitor is installed, and notices are taken. -/
def Controls.Attentive (c : Controls) : Prop := c.clientVisitor.isSome = true ∧ c.audience.taken = true

/-- A move that keeps a client visitor installed, and leaves the signals of the sessions to the dispatcher. -/
def Move.Courteous : Move π → Prop
  | .adjust c => c.Attentive
  | .operate _ _ ops => .takeSignals ∉ ops
  | .touch _ _ ops => .takeSignals ∉ ops
  | _ => True

/-- A stroke that does so. -/
def Stroke.Courteous : Stroke ε τ π → Prop
  | .adjust c => c.Attentive
  | .request _ _ ops => ∀ a s, .takeSignals ∉ ops a s
  | _ => True

theorem courteous_of_from {x : Move π} {y : Stroke ε τ π} (stems : y.From x) (courteous : x.Courteous) :
    y.Courteous := by
  cases y with
  | adjust c =>
    obtain rfl : x = .adjust c := stems
    exact courteous
  | request now id ops =>
    obtain leaves | ⟨now, asked, rfl | rfl, rfl⟩ := stems
    · exact leaves
    · exact fun _ _ => courteous
    · exact fun _ _ => courteous
  | _ => exact trivial

variable [Transport τ] [Endpoint ε τ π]

theorem attended_apply {d d' : Dispatcher ε τ π} {y : Stroke ε τ π} (attended : Attended d)
    (courteous : y.Courteous) (h : d.apply y = .ok d') : Attended d' := by
  refine kept_of_fixed (Q := Controls.Attentive) Fixed.attended (fun holds sets => ⟨holds.1, sets⟩) attended
    (fun c e => ?_) h
  subst e
  exact courteous

/-! ## The signals that are taken -/

section Taken

variable {d : Dispatcher ε τ π} {s : Session τ} {n : SessionId}

omit [Endpoint ε τ π] in
theorem takenOf_append (s : Session τ) (before after : List (Session.Step τ)) :
    s.takenOf (before ++ after) = s.takenOf before ++ (s.run before).takenOf after :=
  Session.along_append _ s before after

omit [Endpoint ε τ π] in
theorem takenOf_of_leaves {steps : List (Session.Step τ)} (leaves : ∀ x ∈ steps, x.takes = false)
    (s : Session τ) : s.takenOf steps = [] := by
  induction steps generalizing s with
  | nil => rfl
  | cons x steps ih =>
    have rest := ih (fun y mem => leaves y (List.mem_cons_of_mem x mem)) (s.step x)
    show (if x.takes then s.signals else []) ++ (s.step x).takenOf steps = []
    rw [leaves x (List.mem_cons_self ..), rest]
    rfl

omit [Transport τ] [Endpoint ε τ π] in
theorem reacting_leaves (now : Instant) (d : Dispatcher ε τ π) (signals : List Signal) :
    ∀ x ∈ d.reacting (τ := τ) now signals, x.takes = false := by
  intro x mem
  obtain ⟨signal, -, mem⟩ := List.mem_flatMap.1 mem
  cases signal with
  | closed reason during => cases mem
  | connected =>
    dsimp only at mem
    split at mem
    · simp only [List.mem_cons, List.not_mem_nil, or_false] at mem
      obtain rfl | rfl := mem <;> rfl
    · cases mem

/-- The dispatcher takes the signals of a session, and nobody else does. -/
theorem taken_eq {y : Stroke ε τ π} (courteous : y.Courteous) (found : d.sessions.get? n = some s) :
    d.taken n y = s.takenOf (d.life n y) := by
  by_cases subject : y.subject? = some n
  · cases y with
    | deliver now id packet =>
      cases subject
      unfold taken life
      rw [found]
      dsimp only
      rw [if_pos rfl]
      rfl
    | request now id ops =>
      cases subject
      unfold taken life
      rw [found]
      dsimp only
      rw [if_pos rfl]
      refine (takenOf_of_leaves (fun x mem => ?_) s).symm
      obtain mem | mem := List.mem_append.1 mem
      · obtain ⟨op, asked, rfl⟩ := List.mem_map.1 mem
        cases op with
        | takeSignals => exact absurd asked (courteous _ _)
        | _ => rfl
      · obtain rfl := List.mem_singleton.1 mem
        rfl
    | drive now id =>
      cases subject
      have left : s.takenOf (d.driving now s) = [] :=
        takenOf_of_leaves (fun x mem => (driving_leaves now d s x mem).1) s
      have took (s : Session τ) : s.takenOf (taking now d.audience) = s.signals :=
        (List.append_nil _)
      rw [life_drive found, takenOf_append, takenOf_append, left, took,
        takenOf_of_leaves (reacting_leaves now d _), List.append_nil]
      unfold taken
      rw [found]
      exact if_pos rfl
    | _ => cases subject
  · obtain ⟨idle, untaken⟩ := idle_of_subject subject d
    rw [idle, untaken]
    rfl

end Taken

/-! ## What the visitor is told -/

/-- What the client visitor is told in work on a session is what the signals say that are taken from it. -/
theorem clientNews_of_life {d d' : Dispatcher ε τ π} {strokes : List (Stroke ε τ π)} {n : SessionId}
    {s : Session τ} (inOrder : InOrder d) (vacant : d.Throughout Vacant strokes)
    (always : d.Throughout (fun d y => Attended d ∧ y.Courteous) strokes) (h : d.perform strokes = .ok d')
    (found : d.sessions.get? n = some s) (unborn : Unborn n d strokes) :
    (d.gather (saidOf (some n)) strokes).filterMap Notice.clientNews? =
      (s.takenOf (d.gather (life n) strokes)).filterMap (newsOf s.sessionHandle) := by
  have told : ∃ last, d.gather (fun d y => (d.saidOf (some n) y).filterMap Notice.clientNews?) strokes =
      (s.takenOf (d.gather (life n) strokes)).filterMap (newsOf s.sessionHandle) ++ last ∧
        if d'.sessions.get? n = none then ∃ e x, Leaves n d strokes e x ∧ last = [] else last = [] := by
    refine gather_of_life (g := fun s' steps => (s'.takenOf steps).filterMap (newsOf s.sessionHandle))
      (fun _ => rfl) (fun s before after => ?_) ?_ ?_ inOrder vacant always h found rfl unborn
    · rw [takenOf_append, List.filterMap_append]
    · intro d d' y inOrder _ applied absent _
      rw [saidOf_of_absent inOrder applied absent]
      rfl
    · intro d d' y s' inOrder holds applied found same _
      refine ⟨[], ?_, by split <;> rfl⟩
      rw [clientNews_saidOf inOrder holds.1 applied found, taken_eq holds.2 found, same, List.append_nil]
  obtain ⟨last, told, outcome⟩ := told
  have nothing : last = [] := by
    split at outcome
    · obtain ⟨e, x, -, nothing⟩ := outcome
      exact nothing
    · exact outcome
  rw [map_gather List.filterMap_nil fun _ _ => List.filterMap_append, told, nothing, List.append_nil]

theorem clientNews_of_nobody {d d' : Dispatcher ε τ π} {strokes : List (Stroke ε τ π)} (inOrder : InOrder d)
    (vacant : d.Throughout Vacant strokes) (h : d.perform strokes = .ok d') :
    (d.gather (saidOf none) strokes).filterMap Notice.clientNews? = [] := by
  rw [map_gather List.filterMap_nil fun _ _ => List.filterMap_append]
  induction strokes generalizing d with
  | nil => rfl
  | cons y strokes ih =>
    obtain ⟨first, rest⟩ := perform_cons_cases h
    rw [gather_cons, clientNews_saidOf_none inOrder first, ih (inOrder.apply vacant.1 first) vacant.2 rest]
    rfl

omit [Transport τ] [Endpoint ε τ π] in
theorem newsOf_signals (h : SessionHandle) (completed : Bool) (cause : Option CloseReason) :
    ((if completed then [Signal.connected] else []) ++
        cause.toList.map fun reason => Signal.closed reason (!(false || completed))).filterMap (newsOf h) =
      if completed then [.connected h] else cause.toList.map ClientNews.connectionFailed := by
  cases completed <;> cases cause <;> rfl

/-- In a run of a client with a visitor, in which no connection gets a handle or a number that is in use
and none is removed by hand before its session is over: by the time that a session is gone it had a
cause to close, and its visitor was told one thing about it, once. If the transport reported the end of the
handshake, which it does before any cause to close and no more than once, the visitor was told that the
session is connected; if it did not, that the connection failed, for the first cause. The visitor
is told nothing else. -/
theorem client_told_one_outcome (endpoint : ε) (address : SocketAddress) (options : SessionOptions)
    (c : Controls) (moves : List (Move π)) :
    let d₀ : Dispatcher ε τ π := (new .client endpoint address options).adjust c
    let course := d₀.strokes moves
    c.Attentive → (∀ x ∈ moves, x.Courteous) →
    (∀ before handle after, moves = before ++ .connectionClosed handle :: after →
      Parted Over (d₀.run before) (.remove handle)) →
    d₀.Throughout Vacant course →
      (d₀.gather (saidOf none) course).filterMap Notice.clientNews? = [] ∧
      ∀ b ∈ d₀.births course, b.Single → b.session.Candid b.rounds → b.session.ClosesForCause b.life →
        (d₀.run moves).sessions.get? b.session.id = none →
          (b.session.run b.life).state = .closed ∧ ∃ reason, b.session.firstCause b.rounds = some reason ∧
            (b.later.gather (saidOf (some b.session.id)) b.after).filterMap Notice.clientNews? =
              if b.rounds.any Session.Step.completes then [.connected b.session.sessionHandle]
              else [.connectionFailed reason] := by
  intro d₀ course attentive courteous byHand vacant
  have inOrder : InOrder d₀ := (InOrder.new .client endpoint address options).of_same rfl rfl
  have performed : d₀.perform course = .ok (d₀.run moves) := perform_strokes d₀ moves
  have attended : Attended d₀ := ⟨rfl, attentive.1, attentive.2⟩
  have always : d₀.Throughout (fun d y => Attended d ∧ y.Courteous) course := by
    refine (throughout_of_kept attended_apply attended (fun y mem => ?_) performed).1
    obtain ⟨x, made, stems⟩ := from_strokes mem
    exact courteous_of_from stems (courteous x made)
  have parted : d₀.Throughout (Parted Over) course := parted_strokes (fun _ shut => shut) inOrder vacant byHand
  refine ⟨clientNews_of_nobody inOrder vacant performed, ?_⟩
  intro b mem once candid forCause gone
  obtain ⟨inOrder', rest, found, named, state, unencrypted, unsignalled⟩ :=
    begins_of_births mem performed inOrder vacant
  have vacant' := throughout_births mem performed vacant
  have open_ : b.session.state ≠ .closed := by
    rw [state]
    exact nofun
  have single : ∀ x ∈ b.rounds, x.single = true := Session.single_rounds b.session b.life
  have parted' := throughout_births mem performed parted
  have cause := cause_of_removed (fun _ shut => shut.1) inOrder' vacant' parted' rest found open_ once
    forCause gone
  have taken := signals_of_removed (fun _ shut => shut.2) inOrder' vacant' parted' rest found once gone
  -- everything that was signalled was taken
  have signals : b.session.takenOf b.life = b.session.signalsOf b.rounds := by
    have all := Session.taken_signals named b.life
    have taken : (b.session.run b.life).signals = [] := taken
    rwa [taken, unsignalled, List.append_nil, List.nil_append] at all
  have signalled := Session.signalsOf_candid named single open_ candid fun encrypted => by
    rw [unencrypted] at encrypted
    cases encrypted
  have told := clientNews_of_life inOrder' vacant' (throughout_births mem performed always) rest found once
  obtain ⟨reason, first⟩ : ∃ reason, b.session.firstCause b.rounds = some reason :=
    Option.isSome_iff_exists.1 cause
  refine ⟨?_, reason, first, ?_⟩
  · rw [← Session.run_rounds]
    exact (Session.closed_run named single).2 (.inr cause)
  · rw [told]
    show (b.session.takenOf b.life).filterMap _ = _
    rw [signals, signalled, unencrypted, newsOf_signals, first]
    split <;> rfl

/-- A client with a visitor. -/
def caller : Controls :=
  ⟨some Scenario.commonSettings, .silent, none, some default, false, 2, 32, false⟩

/-- It begins two connections. The server answers on the first of them only, so that the other is closed
after ten seconds, and is gone when the client is shut down. -/
def twoCalls : List (Move Wire.Payload) :=
  [.connect 0 Scenario.serverAddress "localhost", .connect 0 Scenario.serverAddress "localhost",
    .receive 0 Scenario.serverAddress
      (.packet ⟨0, 0, [.welcome Scenario.commonSettings.streams Scenario.commonSettings.idle]⟩),
    .timeout (millis 10000), .timeout (millis 14000), .shutdown (millis 14000)]

/-- How long it waits. -/
def patient : SessionOptions := { SessionOptions.standard with handshakeTimeout := some (.ofSeconds 10) }

/-- The first connection was connected when it closed; the second was not. -/
theorem client_told_one_outcome_two :
    let d₀ : Dispatcher Wire.Station Wire.Connection Wire.Payload :=
      (new .client .client Scenario.clientAddress patient).adjust caller
    let births := d₀.births (d₀.strokes twoCalls)
    (∀ b ∈ births, ∃ reason, b.session.firstCause b.rounds = some reason ∧
      (b.later.gather (saidOf (some b.session.id)) b.after).filterMap Notice.clientNews? =
        if b.rounds.any Session.Step.completes then [.connected b.session.sessionHandle]
        else [.connectionFailed reason]) ∧
    (births.map fun b => (b.later.gather (saidOf (some b.session.id)) b.after).filterMap Notice.clientNews?) =
      [[.connected ⟨⟨1⟩, ⟨0⟩, .client⟩], [.connectionFailed .timeout]] := by
  intro d₀ births
  have vacant : d₀.Throughout Vacant (d₀.strokes twoCalls) := by decide +kernel
  have byHand : ∀ before handle after, twoCalls = before ++ .connectionClosed handle :: after →
      Parted Over (d₀.run before) (.remove handle) := by
    intro before handle after split
    have mem : .connectionClosed handle ∈ twoCalls := by simp [split]
    simp [twoCalls] at mem
  have courteous : ∀ x ∈ twoCalls, x.Courteous := by simp [twoCalls, Move.Courteous]
  have conditions : ∀ b ∈ births, b.Single ∧ b.session.Candid b.rounds ∧
      b.session.ClosesForCause b.life ∧ (d₀.run twoCalls).sessions.get? b.session.id = none := by decide +kernel
  refine ⟨fun b mem => ?_, by decide +kernel⟩
  obtain ⟨once, candid, forCause, gone⟩ := conditions b mem
  have outcome := client_told_one_outcome Wire.Station.client Scenario.clientAddress patient caller twoCalls
    ⟨rfl, rfl⟩ courteous byHand vacant
  exact (outcome.2 b mem once candid forCause gone).2

end QuicSessions.Dispatcher
