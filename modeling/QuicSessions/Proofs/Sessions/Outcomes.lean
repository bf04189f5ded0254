import QuicSessions.Proofs.Sessions.Namespaces
import QuicSessions.Proofs.Sessions.Postings
import QuicSessions.Proofs.Sessions.Rounds

/-!
# What a single step can do

Every step of a session that goes without a loop has one of few outcomes. Which of them it has, with
the reason for which it closes the session, if it does, and the streams that it puts into the table, is
said once here; what is proved of every step is then a short case analysis.
-/

set_option autoImplicit false

namespace QuicSessions.Session

variable {τ : Type} [Transport τ]

/-- The stream that an operation opened, with the direction that was asked for. -/
def Operation.opened (op : Operation) (s : Session τ) (answer : Answer) : List (Dir × StreamId) :=
  match op, answer with
  | .openStream dir, .stream (some id) => [(dir, id)]
  | .getOrOpen wanted, .stream (some id) => if s.streams.contains wanted then [] else [(wanted.dir, id)]
  | _, _ => []

/-- The reason given to a peer that used an identifier of this side. -/
def foreignIdClose (side : Side) : CloseReason :=
  .ofLocalClose AppCode.invalidStreamId.value (foreignIdReason side)

namespace Step

/-- Who hears of a step. -/
def audience : Step τ → Audience
  | .operate a _ _ => a
  | .report a _ _ => a
  | _ => .silent

/-- The reason for which a single step closes a session that is not closed yet: the session is closed
from here, the peer uses an identifier of this side, the handshake is late, or the connection is lost. -/
def cause (s : Session τ) : Step τ → Option CloseReason
  | .operate _ _ (.close code reason) => some (.ofLocalClose code reason)
  | .operate _ _ (.screen id) =>
    if s.connected = true ∧ id.initiator = s.side then some (foreignIdClose s.side) else none
  | .operate _ _ (.createIncoming id) =>
    if s.streams.contains id = false ∧ s.connected = true ∧ id.initiator = s.side then
      some (foreignIdClose s.side)
    else none
  | .operate _ now (.timeout after) =>
    if s.late (now + after) then some .timeout else none
  | .report _ _ (.lost cause) => some (.ofConnectionError cause)
  | _ => none

/-- The streams that a step opens, each with the direction that was asked for. -/
def opened (s : Session τ) : Step τ → List (Dir × StreamId)
  | .operate a now op =>
    match op.run a now s with
    | .ok (answer, _) => op.opened s answer
    | .error _ => []
  | _ => []

/-- The streams of the peer that a step takes in. -/
def received (s : Session τ) : Step τ → List StreamId
  | .operate a now op =>
    match op.run a now s with
    | .ok (answer, _) => op.tookIn answer
    | .error _ => []
  | _ => []

end Step

/-- Nothing is told, no stream comes or goes, and nobody but the owner could tell the difference. -/
structure Unsaid (s s' : Session τ) : Prop where
  same : SameSession s s'
  stage : s'.state = .closed ↔ s.state = .closed
  goaway : s'.goawayReceived = s.goawayReceived
  visitor : s'.visitor = s.visitor
  streams : s'.streams = s.streams
  unannounced : s'.unannounced = s.unannounced
  opened : s'.opened = s.opened
  posted : s'.posted = s.posted ∨ s'.posted = []
  signals : s'.signals = s.signals ∨ s'.signals = []

/-- What a single step can do: the reason for which it may close the session, the streams it opens, those
it takes in, and what the session is afterwards. -/
inductive Outcome (a : Audience) (s : Session τ) :
    Option CloseReason → List (Dir × StreamId) → List StreamId → Session τ → Prop where
  | traffic {s' : Session τ} (h : Relation.ReflTransGen (Traffic a) s s') : Outcome a s none [] [] s'
  | unsaid {s' : Session τ} (h : Unsaid s s') : Outcome a s none [] [] s'
  | credit (dir : Dir) : Outcome a s none [] [] (s.afterCredit a dir)
  | completes : Outcome a s none [] [] (s.handshakeComplete a)
  | goodbye (t : τ) : Outcome a s none [] [] ({ s with transport := t }.receiveGoaway a)
  | visited (v : SessionVisitor) : Outcome a s none [] [] (s.setVisitor a v)
  | reclaims : Outcome a s none [] [] (s.reclaim a)
  | opens {dir : Dir} {id : StreamId} {t : τ} (gate : s.refusal? dir = none)
      (h : Transport.openStream dir s.transport = some (id, t)) :
      Outcome a s none [(dir, id)] [] (s.afterOpen a dir id t)
  | receives {id : StreamId} (h : s.Welcome id) :
      Outcome a s none [] [id] ((s.afterTakeIn a id).deliver a id)
  | ends (t : τ) (reason : CloseReason) :
      Outcome a s (some reason) [] [] ({ s with transport := t }.conclude a reason)

namespace Outcome

variable {a : Audience} {s : Session τ}

theorem idle : Outcome a s none [] [] s := .traffic .refl

theorem one {s' : Session τ} (h : Traffic a s s') : Outcome a s none [] [] s' := .traffic (.single h)

theorem moved (t : τ) : Outcome a s none [] [] { s with transport := t } :=
  .unsaid ⟨⟨rfl, rfl, rfl, rfl⟩, .rfl, rfl, rfl, rfl, rfl, rfl, .inl rfl, .inl rfl⟩

/-- Closing from here ends a session, even if it is closed already. -/
theorem closeConnection (now : Instant) (code : UInt32) (reason : String) :
    Outcome a s (some (.ofLocalClose code reason)) [] [] (s.closeConnection a now code reason) := by
  by_cases closed : s.state = .closed
  · have same : s.closeConnection a now code reason =
        { s with transport := s.transport }.conclude a (.ofLocalClose code reason) := by
      unfold Session.closeConnection Session.conclude
      rw [if_pos closed, if_pos closed]
    rw [same]
    exact .ends s.transport _
  · have same : s.closeConnection a now code reason =
        { s with transport := Transport.close now code.toNat (Utf8.encode reason) s.transport }.conclude a
          (.ofLocalClose code reason) := if_neg closed
    rw [same]
    exact .ends _ _

end Outcome

/-! ## Operations -/

section Operations

variable {a : Audience} {now : Instant} {s s' : Session τ}

theorem outcome_start (h : s.start = .ok s') : Outcome a s none [] [] s' := by
  obtain ⟨created, rfl⟩ := start_cases h
  refine .unsaid ⟨⟨rfl, rfl, rfl, rfl⟩, ?_, rfl, rfl, rfl, rfl, rfl, .inl rfl, .inl rfl⟩
  rw [created]
  exact ⟨nofun, nofun⟩

theorem outcome_beginHandshake (h : s.beginHandshake now = .ok s') : Outcome a s none [] [] s' := by
  obtain ⟨initialized, rfl⟩ | ⟨-, -, rfl⟩ := beginHandshake_cases h
  · refine .unsaid ⟨⟨rfl, rfl, rfl, rfl⟩, ?_, rfl, rfl, rfl, rfl, rfl, .inl rfl, .inl rfl⟩
    rw [initialized]
    exact ⟨nofun, nofun⟩
  · exact .idle

theorem outcome_openStream {dir : Dir} {r : Option StreamHandle} (h : s.openStream a dir = .ok (r, s')) :
    Outcome a s none ((r.map StreamHandle.stream).toList.map (dir, ·)) [] s' := by
  obtain ⟨rfl, rfl⟩ | ⟨rfl, -, -, rfl⟩ | ⟨id, t, rfl, gate, opened, rfl⟩ := openStream_forms a h
  · exact .idle
  · exact .unsaid ⟨⟨rfl, rfl, rfl, rfl⟩, .rfl, rfl, rfl, rfl, rfl, rfl, .inl rfl, .inl rfl⟩
  · exact .opens gate opened

theorem outcome_openUnidirectional {r : Option StreamHandle}
    (h : s.openUnidirectional a = .ok (r, s')) :
    Outcome a s none ((r.map StreamHandle.stream).toList.map (Dir.uni, ·)) [] s' := by
  unfold openUnidirectional at h
  split at h
  · exact outcome_openStream h
  · cases h

theorem outcome_getOrOpen {id : StreamId} {r : Option StreamId} (h : s.getOrOpen a id = .ok (r, s')) :
    Outcome a s none ((Operation.getOrOpen id).opened s (.stream r)) [] s' := by
  unfold getOrOpen at h
  by_cases known : s.streams.contains id = true
  · rw [if_pos known] at h
    cases h
    have nothing : (Operation.getOrOpen id).opened s (.stream (some id)) = [] := if_pos known
    rw [nothing]
    exact .idle
  · rw [if_neg known] at h
    have here : (Operation.getOrOpen id).opened s (.stream r) = r.toList.map (id.dir, ·) := by
      cases r with
      | none => rfl
      | some i => exact if_neg known
    rw [here]
    split at h
    · cases h
      exact .idle
    split at h
    · cases h
      exact .idle
    split at h
    · cases h
      exact .idle
    · obtain ⟨⟨stream, s₁⟩, opened, h⟩ := ok_of_bind h
      cases h
      exact outcome_openStream opened

theorem outcome_screen {id : StreamId} {r : Option Refusal} (h : s.screen a now id = .ok (r, s')) :
    Outcome a s ((Step.operate a now (.screen id)).cause s) [] [] s' := by
  have cause : (Step.operate a now (.screen id)).cause s =
      if s.connected = true ∧ id.initiator = s.side then some (foreignIdClose s.side) else none := rfl
  by_cases own : s.connected = true ∧ id.initiator = s.side
  · rw [cause, if_pos own]
    rw [screen_of_own a now own.1 own.2] at h
    cases h
    exact .closeConnection now _ _
  · rw [cause, if_neg own]
    obtain ⟨-, rfl⟩ | ⟨-, connected, theirs, -⟩ | ⟨-, -, -, rfl⟩ | ⟨-, -, rfl⟩ := screen_cases a now h
    · exact .idle
    · exact absurd ⟨connected, theirs⟩ own
    · exact .idle
    · exact .idle

theorem outcome_createIncoming {id : StreamId} {r : Option StreamHandle}
    (h : s.createIncoming a now id = .ok (r, s')) :
    Outcome a s ((Step.operate a now (.createIncoming id)).cause s) []
      ((Operation.createIncoming id).tookIn (.stream (r.map StreamHandle.stream))) s' := by
  have cause : (Step.operate a now (.createIncoming id)).cause s =
      if s.streams.contains id = false ∧ s.connected = true ∧ id.initiator = s.side then
        some (foreignIdClose s.side) else none := rfl
  by_cases own : s.streams.contains id = false ∧ s.connected = true ∧ id.initiator = s.side
  · rw [cause, if_pos own]
    rw [createIncoming_of_own a now own.2.1 own.2.2 own.1] at h
    cases h
    exact .closeConnection now _ _
  · rw [cause, if_neg own]
    obtain ⟨rfl, rfl | ⟨code, rfl⟩⟩ | ⟨-, violation⟩ | ⟨rfl, welcome, rfl⟩ := createIncoming_forms a now h
    · exact .idle
    · exact .moved _
    · exact absurd ⟨violation.1, violation.2.1, violation.2.2.1⟩ own
    · exact .receives welcome

theorem outcome_timeout (after : Nat) :
    Outcome a s ((Step.operate a now (.timeout after)).cause s) [] [] (s.timeout a (now + after)) := by
  have cause : (Step.operate a now (.timeout after)).cause s =
      if s.late (now + after) then some .timeout else none := rfl
  rw [cause]
  unfold timeout
  dsimp only
  by_cases late : s.late (now + after) = true
  · rw [if_pos late, if_pos (by exact late)]
    exact .ends _ _
  · rw [if_neg late, if_neg (by exact late)]
    split
    · split
      · exact .unsaid ⟨⟨rfl, rfl, rfl, rfl⟩, .rfl, rfl, rfl, rfl, rfl, rfl, .inl rfl, .inl rfl⟩
      · exact .moved _
    · exact .unsaid ⟨⟨rfl, rfl, rfl, rfl⟩, .rfl, rfl, rfl, rfl, rfl, rfl, .inl rfl, .inl rfl⟩

end Operations

/-! ## Goodbyes -/

omit [Transport τ] in
theorem receiveGoaway_moved (a : Audience) (s : Session τ) (t : τ) :
    { s.receiveGoaway a with transport := t } = { s with transport := t }.receiveGoaway a := by
  unfold receiveGoaway
  split <;> rfl

omit [Transport τ] in
theorem receiveGoaway_twice (a : Audience) (s : Session τ) :
    (s.receiveGoaway a).receiveGoaway a = s.receiveGoaway a := by
  cases received : s.goawayReceived with
  | true =>
    have first : s.receiveGoaway a = s := receiveGoaway_of_received a received
    rw [first, first]
  | false =>
    refine receiveGoaway_of_received a ?_
    rw [receiveGoaway_eq a received]

/-- However many datagrams are taken, it comes to one goodbye or to none. -/
theorem drainDatagrams_cases (a : Audience) (s : Session τ) :
    ∃ t, s.drainDatagrams a = { s with transport := t } ∨
      s.drainDatagrams a = { s with transport := t }.receiveGoaway a := by
  fun_induction drainDatagrams a s with
  | case1 s none_waits => exact ⟨s.transport, .inl rfl⟩
  | case2 s data t waits s₁ s₂ less ih =>
    obtain ⟨t', rest⟩ := ih
    refine ⟨t', ?_⟩
    dsimp only [s₂] at rest ⊢
    split at rest
    · rename_i goodbye
      rw [dif_pos goodbye]
      refine .inr ?_
      obtain rest | rest := rest
      · rw [rest, receiveGoaway_moved]
      · rw [rest, receiveGoaway_moved, receiveGoaway_twice]
    · rename_i other
      rw [dif_neg other]
      exact rest
  | case3 s data t waits s₁ s₂ full =>
    refine ⟨t, ?_⟩
    dsimp only [s₂]
    split
    · exact .inr rfl
    · exact .inl rfl

/-! ## Every single step -/

variable {a : Audience} {now : Instant}

theorem outcome_operate {op : Operation} {s s' : Session τ} {r : Answer}
    (single : (Step.operate (τ := τ) a now op).single = true) (h : op.run a now s = .ok (r, s')) :
    Outcome a s ((Step.operate a now op).cause s) (op.opened s r) (op.tookIn r) s' := by
  cases op with
  | process => cases single
  | acceptPending dir => cases single
  | start =>
    obtain ⟨s₁, started, h⟩ := ok_of_bind h
    cases h
    exact outcome_start started
  | beginHandshake =>
    obtain ⟨s₁, begun, h⟩ := ok_of_bind h
    cases h
    exact outcome_beginHandshake begun
  | gate dir =>
    obtain ⟨refusal, -, h⟩ := ok_of_bind h
    cases h
    exact .idle
  | shouldOpen =>
    obtain ⟨b, -, h⟩ := ok_of_bind h
    cases h
    exact .idle
  | openStream dir =>
    cases dir with
    | bi =>
      obtain ⟨⟨stream, s₁⟩, opened, h⟩ := ok_of_bind h
      cases h
      cases stream <;> exact outcome_openStream opened
    | uni =>
      obtain ⟨⟨stream, s₁⟩, opened, h⟩ := ok_of_bind h
      cases h
      cases stream <;> exact outcome_openUnidirectional opened
  | screen id =>
    obtain ⟨⟨refusal, s₁⟩, screened, h⟩ := ok_of_bind h
    cases h
    exact outcome_screen screened
  | createIncoming id =>
    obtain ⟨⟨stream, s₁⟩, created, h⟩ := ok_of_bind h
    cases h
    exact outcome_createIncoming created
  | getOrOpen id =>
    obtain ⟨⟨found, s₁⟩, opened, h⟩ := ok_of_bind h
    cases h
    exact outcome_getOrOpen opened
  | write id data fin => cases h; exact .one (.write id data fin)
  | read id limit => cases h; exact .one (.read id limit)
  | closeStream id => cases h; exact .one (.closeStream id)
  | setVisitor v => cases h; exact .visited v
  | setStreamVisitor id v => cases h; exact .one (.setStreamVisitor id v)
  | setRespectGoaway respect =>
    cases h
    exact .unsaid ⟨⟨rfl, rfl, rfl, rfl⟩, .rfl, rfl, rfl, rfl, rfl, rfl, .inl rfl, .inl rfl⟩
  | sendGoaway => cases h; exact .moved _
  | receiveGoaway => cases h; exact .goodbye s.transport
  | close code reason => cases h; exact .closeConnection now code reason
  | reclaim => cases h; exact .reclaims
  | takeSignals =>
    cases h
    exact .unsaid ⟨⟨rfl, rfl, rfl, rfl⟩, .rfl, rfl, rfl, rfl, rfl, rfl, .inl rfl, .inr rfl⟩
  | timeout after =>
    rw [eq_of_timeout_run a h]
    exact outcome_timeout after
  | standing => cases h; exact .idle
  | nextId dir => cases h; exact .idle
  | hasStream id => cases h; exact .idle
  | canWrite id => cases h; exact .idle
  | buffered id => cases h; exact .idle
  | inUse => cases h; exact .idle
  | hasTimer =>
    rw [eq_of_hasTimer_run a h]
    exact .idle
  | stats => cases h; exact .idle
  | names => cases h; exact .idle

/-- A mistake is no cause: what would close the session goes through. -/
theorem cause_of_fault {op : Operation} {s : Session τ} {fault : Fault}
    (h : op.run a now s = .error fault) : (Step.operate a now op).cause s = none := by
  have unstarted (e : s.state = .created) : s.connected = false := by
    unfold connected
    rw [e]
    rfl
  cases op with
  | close code reason => cases h
  | timeout after =>
    refine if_neg fun late => ?_
    have ran : (Operation.timeout after).run a now s =
      s.handleTimeout a (now + after) >>= fun s => .ok (.done, s) := rfl
    rw [ran, handleTimeout_of_late a late] at h
    cases h
  | screen id =>
    refine if_neg fun own => ?_
    have screened := screen_of_own a now own.1 own.2
    have ran : (Operation.screen id).run a now s =
      s.screen a now id >>= fun screened => .ok (.refusal screened.1, screened.2) := rfl
    rw [ran, screened] at h
    cases h
  | createIncoming id =>
    refine if_neg fun own => ?_
    have created := createIncoming_of_own a now own.2.1 own.2.2 own.1
    have ran : (Operation.createIncoming id).run a now s =
      s.createIncoming a now id >>= fun made => .ok (.stream (made.1.map StreamHandle.stream), made.2) := rfl
    rw [ran, created] at h
    cases h
  | _ => rfl

theorem outcome_report {e : Event} {s s' : Session τ}
    (single : (Step.report (τ := τ) a now e).single = true) (h : s.react a now e = .ok s') :
    Outcome a s ((Step.report a now e).cause s) [] [] s' := by
  cases e with
  | opened dir => cases single
  | handshakeData => cases h; exact .idle
  | connected => cases h; exact .completes
  | lost cause => cases h; exact .ends s.transport _
  | readable id => cases h; exact .one (.deliver id)
  | writable id => cases h; exact .one (.writable id)
  | finished id => cases h; exact .one (.acknowledged id)
  | stopped id code => cases h; exact .one (.stopped id)
  | available dir => cases h; exact .credit dir
  | datagram =>
    cases h
    obtain ⟨t, e | e⟩ := drainDatagrams_cases a s
    · rw [e]
      exact .moved t
    · rw [e]
      exact .goodbye t
  | datagramsUnblocked => cases h; exact .idle

/-- Every single step has one of the outcomes. -/
theorem outcome_step (s : Session τ) {x : Step τ} (single : x.single = true) :
    Outcome x.audience s (x.cause s) (x.opened s) (x.received s) (s.step x) := by
  cases x with
  | operate a now op =>
    unfold Step.opened Step.received Session.step
    dsimp only
    cases done : op.run a now s with
    | ok result =>
      obtain ⟨answer, s'⟩ := result
      exact outcome_operate single done
    | error fault =>
      rw [cause_of_fault done]
      exact .idle
  | report a now e =>
    unfold Session.step
    dsimp only
    cases done : s.react a now e with
    | ok s' => exact outcome_report single done
    | error fault =>
      have none : (Step.report a now e).cause s = none := by
        cases e <;> first | rfl | cases done
      rw [none]
      exact .idle
  | transport t => exact .moved t
  | collect =>
    exact .unsaid ⟨⟨rfl, rfl, rfl, rfl⟩, .rfl, rfl, rfl, rfl, rfl, rfl, .inr rfl, .inl rfl⟩

/-! ## What a step adds -/

omit [Transport τ]

/-- What was posted on the way from one state of a session to another. -/
def told (s s' : Session τ) : List Notice := s'.posted.drop s.posted.length

/-- The signals that were produced on the way. -/
def signalled (s s' : Session τ) : List Signal := s'.signals.drop s.signals.length

section Added

variable {s s' : Session τ}

theorem told_of_append {notices : List Notice} (h : s'.posted = s.posted ++ notices) :
    told s s' = notices := by
  unfold told
  rw [h, List.drop_left]

theorem told_of_same (h : s'.posted = s.posted) : told s s' = [] :=
  told_of_append (h.trans (List.append_nil _).symm)

theorem signalled_of_append {signals : List Signal} (h : s'.signals = s.signals ++ signals) :
    signalled s s' = signals := by
  unfold signalled
  rw [h, List.drop_left]

theorem signalled_of_same (h : s'.signals = s.signals) : signalled s s' = [] :=
  signalled_of_append (h.trans (List.append_nil _).symm)

theorem Unsaid.told (h : Unsaid s s') : told s s' = [] := by
  obtain same | collected := h.posted
  · exact told_of_same same
  · unfold Session.told
    rw [collected]
    exact List.drop_nil

theorem Unsaid.signalled (h : Unsaid s s') : signalled s s' = [] := by
  obtain same | taken := h.signals
  · exact signalled_of_same same
  · unfold Session.signalled
    rw [taken]
    exact List.drop_nil

end Added

/-- Traffic is quiet, and what it posts is routine. -/
theorem traffic_routine [Transport τ] {s s' : Session τ} (h : Relation.ReflTransGen (Traffic a) s s') :
    Quiet s s' ∧ signalled s s' = [] ∧ ∀ n ∈ told s s', n.Routine := by
  have along : Quiet s s' ∧ ∃ notices, s'.posted = s.posted ++ notices ∧ ∀ n ∈ notices, n.Routine := by
    induction h with
    | refl => exact ⟨.refl s, [], (List.append_nil _).symm, fun n mem => by cases mem⟩
    | tail _ last ih =>
      obtain ⟨quiet, notices, posted, routine⟩ := ih
      obtain ⟨more, posted', routine'⟩ := routine_traffic a last
      refine ⟨quiet.trans last.quiet, notices ++ more, by rw [posted', posted, List.append_assoc], ?_⟩
      intro n mem
      obtain mem | mem := List.mem_append.1 mem
      · exact routine n mem
      · exact routine' n mem
  obtain ⟨quiet, notices, posted, routine⟩ := along
  refine ⟨quiet, signalled_of_same (by rw [quiet.eq]), fun n mem => routine n ?_⟩
  rwa [told_of_append posted] at mem

end QuicSessions.Session
