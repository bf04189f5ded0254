import QuicSessions.Proofs.Dispatchers.Openings
import QuicSessions.Proofs.Dispatchers.Requests

/-!
# What may go wrong in a dispatcher

A dispatcher starts each of its sessions once, before anything else is asked of it, and no session is asked to
start again. So nothing that is done to a dispatcher, by its host, its peers or the holders of handles, uses a
session too early or starts it twice. One request is a mistake by itself: that a client opens a stream that
only it writes. And a deadline may lie beyond what the clock can hold.
-/

set_option autoImplicit false

namespace QuicSessions

open Scenario (SessionRequest StreamRequest Reply)

/-- Either there is a result, or the clock cannot hold a deadline. -/
def InTime {α : Type} (result : Except Fault α) : Prop :=
  (∃ x, result = .ok x) ∨ result = .error .clockOverflow

namespace InTime

variable {α β : Type} {x : Except Fault α}

theorem bind {f : α → Except Fault β} (first : InTime x) (rest : ∀ y, x = .ok y → InTime (f y)) :
    InTime (x >>= f) := by
  obtain ⟨y, done⟩ | late := first
  · rw [done]
    exact rest y done
  · rw [late]
    exact .inr rfl

theorem checked {c : Prop} [Decidable c] {y : α} :
    InTime (if c then .error .clockOverflow else .ok y : Except Fault α) := by
  split
  · exact .inr rfl
  · exact .inl ⟨y, rfl⟩

theorem map (f : α → β) (first : InTime x) : InTime (x.map f) := by
  obtain ⟨y, rfl⟩ | rfl := first
  · exact .inl ⟨f y, rfl⟩
  · exact .inr rfl

end InTime

namespace Session

variable {τ : Type} [Transport τ] {s : Session τ} (a : Audience) (now : Instant)

/-! ## Operations on a session that is begun -/

/-- Whether an operation may be asked of any session that is begun. -/
def Operation.proper : Operation → Bool
  | .start => false
  | .beginHandshake => false
  | .openStream .uni => false
  | _ => true

theorem Operation.proper_of_routine {op : Operation} (routine : op.routine = true) : op.proper = true := by
  cases op with
  | timeout | getOrOpen | write | close => rfl
  | _ => cases routine

theorem getOrOpen_of_begun (begun : s.state ≠ .created) (id : StreamId) :
    ∃ r s', s.getOrOpen a id = .ok (r, s') := by
  unfold getOrOpen
  split
  · exact ⟨_, _, rfl⟩
  split
  · exact ⟨_, _, rfl⟩
  split
  · exact ⟨_, _, rfl⟩
  split
  · exact ⟨_, _, rfl⟩
  · obtain ⟨r, s', opened⟩ := openStream_of_begun a begun id.dir
    rw [opened]
    exact ⟨_, _, rfl⟩

omit [Transport τ] in
theorem ok_bind {α β : Type} {x : Except Fault α} {f : α → Except Fault β} (first : ∃ y, x = .ok y)
    (rest : ∀ y, ∃ z, f y = .ok z) : ∃ z, (x >>= f) = .ok z := by
  obtain ⟨y, done⟩ := first
  obtain ⟨z, then_⟩ := rest y
  exact ⟨z, by rw [done]; exact then_⟩

/-- Only the two operations that look at the clock may fail. -/
theorem run_of_begun (begun : s.state ≠ .created) {op : Operation} (proper : op.proper = true) :
    InTime (op.run a now s) := by
  have gate (dir : Dir) : s.gate dir = .ok (s.refusal? dir) := if_neg begun
  cases op with
  | start | beginHandshake => cases proper
  | timeout after =>
    have told : InTime (s.handleTimeout a (now + after)) := InTime.checked
    exact told.bind fun _ _ => .inl ⟨_, rfl⟩
  | hasTimer =>
    have asked : InTime s.pollTimeout := InTime.checked
    exact asked.bind fun _ _ => .inl ⟨_, rfl⟩
  | gate dir => exact .inl (ok_bind ⟨_, gate dir⟩ fun _ => ⟨_, rfl⟩)
  | shouldOpen =>
    have asked : ∃ flag, s.shouldOpen = .ok flag := ok_bind ⟨_, gate .bi⟩ fun _ => ⟨_, rfl⟩
    exact .inl (ok_bind asked fun _ => ⟨_, rfl⟩)
  | openStream dir =>
    cases dir with
    | uni => cases proper
    | bi =>
      obtain ⟨r, s', opened⟩ := openStream_of_begun a begun .bi
      exact .inl (ok_bind ⟨(r, s'), opened⟩ fun _ => ⟨_, rfl⟩)
  | screen id =>
    obtain ⟨r, s', screened⟩ := screen_of_begun a now begun id
    exact .inl (ok_bind ⟨(r, s'), screened⟩ fun _ => ⟨_, rfl⟩)
  | createIncoming id =>
    obtain ⟨r, s', created⟩ := createIncoming_of_begun a now begun id
    exact .inl (ok_bind ⟨(r, s'), created⟩ fun _ => ⟨_, rfl⟩)
  | getOrOpen id =>
    obtain ⟨r, s', found⟩ := getOrOpen_of_begun a begun id
    exact .inl (ok_bind ⟨(r, s'), found⟩ fun _ => ⟨_, rfl⟩)
  | acceptPending dir => exact .inl (ok_bind (acceptPending_of_begun a now begun dir) fun _ => ⟨_, rfl⟩)
  | process => exact .inl (ok_bind (process_of_begun a now begun) fun _ => ⟨_, rfl⟩)
  | _ => exact .inl ⟨_, rfl⟩

/-- A server's session may be asked for a stream that only it writes. -/
theorem run_openUnidirectional_of_begun (begun : s.state ≠ .created) (server : s.side = .server) :
    ∃ result, (Operation.openStream .uni).run a now s = .ok result := by
  obtain ⟨r, s', opened⟩ := openStream_of_begun a begun .uni
  have allowed : s.openUnidirectional a = .ok (r, s') := by
    unfold openUnidirectional
    rw [server]
    exact opened
  exact ok_bind ⟨(r, s'), allowed⟩ fun _ => ⟨_, rfl⟩

theorem operate_one {op : Operation} (able : InTime (op.run a now s)) : InTime (s.operate a now [op]) :=
  able.bind fun _ _ => .inl ⟨_, rfl⟩

theorem operate_of_begun {ops : List Operation} (named : Named s) (begun : s.state ≠ .created)
    (proper : ∀ op ∈ ops, op.proper = true) : InTime (s.operate a now ops) := by
  induction ops generalizing s with
  | nil => exact .inl ⟨s, rfl⟩
  | cons op ops ih =>
    refine (run_of_begun a now begun (proper op (List.mem_cons_self ..))).bind fun ⟨r, s₁⟩ done => ?_
    have acts : Acts a s s₁ := acts_run a now named done
    exact ih (kept_named.acts acts named) (kept_begun.acts acts begun)
      fun op' mem => proper op' (List.mem_cons_of_mem op mem)

end Session

namespace Dispatcher

variable {ε τ π : Type} [Transport τ] [Endpoint ε τ π]

/-! ## Strokes without mistakes -/

/-- A stroke that asks of a session only what may be asked of any. -/
def Stroke.Proper : Stroke ε τ π → Prop
  | .request now _ ops => ∀ a (s : Session τ), s.Named → s.state ≠ .created →
      InTime (s.operate a now (ops a s))
  | _ => True

section Strokes

variable {d : Dispatcher ε τ π}

theorem request_of_found {now : Instant} {id : SessionId}
    {ops : Audience → Session τ → List Session.Operation}
    (able : ∀ s, d.sessions.get? id = some s → InTime (s.operate d.audience now (ops d.audience s))) :
    InTime (d.apply (.request now id ops : Stroke ε τ π)) := by
  refine InTime.map Prod.snd ?_
  unfold onSession
  cases found : d.sessions.get? id with
  | none => exact .inl ⟨_, rfl⟩
  | some s =>
    have answered := (able s found).bind fun s' _ => .inl ⟨((), s'), rfl⟩
    exact answered.bind fun _ _ => .inl ⟨_, rfl⟩

theorem apply_of_housed (housed : Housed d) {x : Stroke ε τ π} (proper : x.Proper) :
    InTime (d.apply x) := by
  cases x with
  | register now handle t =>
    obtain ⟨-, late⟩ | ⟨-, id, d', made⟩ := createSession_made_or_late d now handle t
    · exact .inr (congrArg (Except.map Prod.snd) late)
    · exact .inl ⟨d', congrArg (Except.map Prod.snd) made⟩
  | request now id ops =>
    exact request_of_found fun s found =>
      proper d.audience s (housed.filed id s found).2 (housed.begun id s found)
  | poll =>
    have asked : InTime d.pollTimeout := InTime.checked
    exact asked.map fun _ => d
  | drive now id => exact .inl (drive_of_housed housed now id)
  | _ => exact .inl ⟨_, rfl⟩

theorem perform_of_housed (housed : Housed d) {strokes : List (Stroke ε τ π)}
    (proper : ∀ x ∈ strokes, x.Proper) : InTime (d.perform strokes) := by
  induction strokes generalizing d with
  | nil => exact .inl ⟨d, rfl⟩
  | cons x strokes ih =>
    rw [perform_cons]
    obtain ⟨d₁, first⟩ | late := apply_of_housed housed (proper x (List.mem_cons_self ..))
    · rw [first]
      exact ih (housed.apply first) fun y mem => proper y (List.mem_cons_of_mem x mem)
    · rw [late]
      exact .inr rfl

end Strokes

/-! ## Moves without mistakes -/

/-- Whether the host asks of sessions only what may be asked of any. -/
def Move.proper : Move π → Bool
  | .operate _ _ ops => ops.all Session.Operation.proper
  | .touch _ _ ops => ops.all Session.Operation.proper
  | _ => true

omit [Endpoint ε τ π] in
theorem proper_request (now : Instant) (id : SessionId) {ops : List Session.Operation}
    (proper : ∀ op ∈ ops, op.proper = true) :
    (Stroke.request now id fun _ _ => ops : Stroke ε τ π).Proper :=
  fun a _ named begun => Session.operate_of_begun a now named begun proper

omit [Endpoint ε τ π] in
theorem proper_exchange (now : Instant) (id : SessionId) {ops : List Session.Operation}
    (proper : ∀ op ∈ ops, op.proper = true) :
    ∀ x ∈ (Stroke.exchange now (fun _ _ => ops) id : List (Stroke ε τ π)), x.Proper := by
  intro x mem
  simp only [Stroke.exchange, List.mem_cons, List.not_mem_nil, or_false] at mem
  obtain rfl | rfl := mem
  · exact proper_request now id proper
  · exact trivial

/-- A stroke asks by itself only what may be asked of any session, and else what the host asks. -/
theorem proper_course (d : Dispatcher ε τ π) {x : Move π} (proper : x.proper = true) {y : Stroke ε τ π}
    (mem : y ∈ d.course x) : y.Proper := by
  have source : y.Of x := of_course mem
  -- Only requests reach the operations of a session.
  cases y with
  | request now id ops =>
    obtain byItself | ⟨then_, asked, told, rfl⟩ := source
    · exact fun a s named begun =>
        Session.operate_of_begun a now named begun fun op mem => Session.Operation.proper_of_routine (byItself a s op mem)
    · refine proper_request now id ?_
      obtain rfl | rfl := told <;> exact List.all_eq_true.1 proper
  | _ => exact trivial

end Dispatcher

/-! ## Requests as operations -/

/-- The operation that a request asks of its session. -/
def Scenario.SessionRequest.op : SessionRequest → Session.Operation
  | .openStream dir => .openStream dir
  | .setVisitor v => .setVisitor v
  | .setRespectGoaway respect => .setRespectGoaway respect
  | .goAway => .sendGoaway
  | .close => .close AppCode.noError.value "closed by application"
  | .closeWithError code reason => .close code reason
  | .state => .standing
  | .ready => .standing
  | .shouldOpen => .shouldOpen
  | .stats => .stats

def Scenario.StreamRequest.op (id : StreamId) : StreamRequest → Session.Operation
  | .write data fin => .write id data fin
  | .read limit => .read id limit
  | .canWrite => .canWrite id
  | .close => .closeStream id
  | .setVisitor v => .setStreamVisitor id v

theorem Scenario.StreamRequest.proper_op (id : StreamId) (r : StreamRequest) : (r.op id).proper = true := by
  cases r <;> rfl

theorem Scenario.SessionRequest.proper_op {r : SessionRequest} (other : r ≠ .openStream .uni) :
    r.op.proper = true := by
  cases r with
  | openStream dir =>
    cases dir with
    | bi => rfl
    | uni => exact absurd rfl other
  | _ => rfl

namespace Dispatcher

variable {ε τ π : Type} [Transport τ] [Endpoint ε τ π]

/-- What an answer leaves installed. -/
def installed {α : Type} (d : Dispatcher ε τ π) (result : Except Fault (α × Option (Dispatcher ε τ π))) :
    Except Fault (Dispatcher ε τ π) := result.map fun r => r.2.getD d

section Requests

variable {d : Dispatcher ε τ π} {now : Instant} {id : SessionId}

theorem installed_invoke {α : Type} (op : Audience → Session τ → Except Fault (α × Session τ))
    (asked : Session.Operation)
    (same : ∀ a s, (op a s).map Prod.snd = (asked.run a now s).map Prod.snd) :
    d.installed (SessionHandle.invoke now id op (some d)) =
      d.perform (Stroke.exchange now (fun _ _ => [asked]) id) := by
  have moved (a : Audience) (s : Session τ) : (op a s).map Prod.snd = s.operate a now [asked] := by
    rw [same]
    show _ = asked.run a now s >>= _
    cases asked.run a now s <;> rfl
  rw [← sessionOp_snd d moved]
  show Except.map _ (d.sessionOp now id op >>= _) = _
  cases d.sessionOp now id op <;> rfl

theorem installed_tell {β : Type} (reply : β) (op : Audience → Session τ → Session τ)
    (asked : Session.Operation) (same : ∀ a s, (asked.run a now s).map Prod.snd = .ok (op a s)) :
    d.installed (SessionHandle.tell now id op (some d) >>= fun i => .ok (reply, i)) =
      d.perform (Stroke.exchange now (fun _ _ => [asked]) id) := by
  rw [← installed_invoke (fun a s => .ok ((), op a s)) asked fun a s => (same a s).symm]
  unfold SessionHandle.tell
  cases SessionHandle.invoke now id (fun a s => .ok ((), op a s)) (some d) <;> rfl

theorem installed_ask {α β : Type} (inert : α) (reply : α → β) (f : Session τ → Except Fault α)
    (asked : Session.Operation)
    (same : ∀ a s, (asked.run a now s).map Prod.snd = (f s).map fun _ => s) :
    d.installed (SessionHandle.ask now id f inert (some d) >>= fun r => .ok (reply r.1, r.2)) =
      d.perform (Stroke.exchange now (fun _ _ => [asked]) id) := by
  have looked (a : Audience) (s : Session τ) :
      ((f s >>= fun x => .ok (x, s)).map Prod.snd : Except Fault (Session τ)) =
        (asked.run a now s).map Prod.snd := by
    rw [same]
    cases f s <;> rfl
  rw [← installed_invoke (fun _ s => f s >>= fun x => .ok (x, s)) asked looked]
  show d.installed ((SessionHandle.invoke now id (fun _ s => f s >>= fun x => .ok (x, s)) (some d) >>= _) >>= _) = _
  cases SessionHandle.invoke now id (fun _ s => f s >>= fun x => .ok (x, s)) (some d) <;> rfl

theorem installed_answer {α β : Type} (reply : Option α → β)
    (op : Audience → Session τ → Except Fault (α × Session τ)) (asked : Session.Operation)
    (same : ∀ a s, (op a s).map Prod.snd = (asked.run a now s).map Prod.snd) :
    d.installed (SessionHandle.invoke now id op (some d) >>= fun r => .ok (reply r.1, r.2)) =
      d.perform (Stroke.exchange now (fun _ _ => [asked]) id) := by
  rw [← installed_invoke op asked same]
  cases SessionHandle.invoke now id op (some d) <;> rfl

theorem opening_asked (a : Audience) (s : Session τ) (dir : Dir) :
    (match dir with
      | .bi => s.openBidirectional a
      | .uni => s.openUnidirectional a).map Prod.snd =
      ((Session.Operation.openStream dir).run a now s).map Prod.snd := by
  cases dir with
  | bi =>
    show _ = (s.openBidirectional a >>= _).map _
    cases s.openBidirectional a <;> rfl
  | uni =>
    show _ = (s.openUnidirectional a >>= _).map _
    cases s.openUnidirectional a <;> rfl

theorem installed_openStream (d : Dispatcher ε τ π) (now : Instant) (h : SessionHandle) (dir : Dir)
    (allowed : dir = .uni → h.side.isServer = true) :
    d.installed ((SessionRequest.openStream dir).run now h (some d)) =
      d.perform (Stroke.exchange now (fun _ _ => [.openStream dir]) h.id) := by
  rw [← installed_invoke _ _ fun a s => opening_asked a s dir]
  cases dir with
  | bi =>
    unfold SessionRequest.run SessionHandle.openBidirectional
    dsimp only
    cases SessionHandle.invoke now h.id (fun a s => s.openBidirectional a) (some d) <;> rfl
  | uni =>
    unfold SessionRequest.run SessionHandle.openUnidirectional
    dsimp only
    rw [if_pos (allowed rfl)]
    cases SessionHandle.invoke now h.id (fun a s => s.openUnidirectional a) (some d) <;> rfl

/-- A request is an exchange with its session. -/
theorem installed_session (d : Dispatcher ε τ π) (now : Instant) (h : SessionHandle) {r : SessionRequest}
    (allowed : r = .openStream .uni → h.side.isServer = true) :
    d.installed (r.run now h (some d)) = d.perform (Stroke.exchange now (fun _ _ => [r.op]) h.id) := by
  cases r with
  | openStream dir => exact installed_openStream d now h dir fun uni => allowed (by rw [uni])
  | setVisitor v => exact installed_tell Reply.done (fun a s => s.setVisitor a v) _ fun _ _ => rfl
  | setRespectGoaway respect =>
    exact installed_tell Reply.done (fun _ s => { s with respectGoaway := respect }) _ fun _ _ => rfl
  | goAway => exact installed_tell Reply.done (fun _ s => s.sendGoaway.2) _ fun _ _ => rfl
  | close =>
    exact installed_tell Reply.done
      (fun a s => s.closeConnection a now AppCode.noError.value "closed by application") _ fun _ _ => rfl
  | closeWithError code reason =>
    exact installed_tell Reply.done (fun a s => s.closeConnection a now code reason) _ fun _ _ => rfl
  | state => exact installed_ask SessionState.closed Reply.state (fun s => .ok s.state) _ fun _ _ => rfl
  | ready => exact installed_ask false Reply.flag (fun s => .ok s.ready) _ fun _ _ => rfl
  | shouldOpen =>
    refine installed_ask false Reply.flag Session.shouldOpen _ fun a s => ?_
    show (s.shouldOpen >>= _).map _ = _
    cases s.shouldOpen <;> rfl
  | stats => exact installed_answer Reply.stats (fun _ s => .ok (s.stats, s)) _ fun _ _ => rfl

theorem installed_stream (d : Dispatcher ε τ π) (now : Instant) (h : StreamHandle) (r : StreamRequest) :
    d.installed (r.run now h (some d)) =
      d.perform (Stroke.exchange now (fun _ _ => [r.op h.stream]) h.session) := by
  cases r with
  | write data fin =>
    rw [← installed_invoke (fun _ s => .ok (s.streamWrite h.stream data fin)) _ fun _ _ => rfl]
    unfold StreamRequest.run StreamHandle.write
    dsimp only
    cases SessionHandle.invoke now h.session (fun _ s => .ok (s.streamWrite h.stream data fin)) (some d) <;> rfl
  | read limit =>
    rw [← installed_invoke (fun a s => .ok (s.streamRead a h.stream limit)) _ fun _ _ => rfl]
    unfold StreamRequest.run StreamHandle.read
    dsimp only
    cases SessionHandle.invoke now h.session (fun a s => .ok (s.streamRead a h.stream limit)) (some d) <;> rfl
  | canWrite => exact installed_ask false Reply.flag (fun s => .ok (s.streamCanWrite h.stream)) _ fun _ _ => rfl
  | close => exact installed_tell Reply.done (fun _ s => s.streamClose h.stream) _ fun _ _ => rfl
  | setVisitor v =>
    exact installed_tell Reply.done (fun a s => s.setStreamVisitor a h.stream v) _ fun _ _ => rfl

end Requests

end Dispatcher

end QuicSessions
