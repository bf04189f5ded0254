import QuicSessions.Proofs.Dispatchers.Numbering
import QuicSessions.Scenario.Request

/-!
# Requests through handles

A request makes no session, whatever it is. If no session is registered under the number of its
handle, it changes nothing at all, and its reply is the one of a session that is over.
-/

set_option autoImplicit false

namespace QuicSessions

open Scenario (SessionRequest StreamRequest Reply)

/-- Whether a session is registered under a number with what is installed. -/
def Registered {ε τ π : Type} (id : SessionId) (installed : Option (Dispatcher ε τ π)) : Prop :=
  ∃ d, installed = some d ∧ id ∈ d.sessions.keys

instance {ε τ π : Type} (id : SessionId) :
    (installed : Option (Dispatcher ε τ π)) → Decidable (Registered id installed)
  | none => .isFalse fun ⟨_, installed, _⟩ => by cases installed
  | some d =>
    decidable_of_iff (id ∈ d.sessions.keys)
      ⟨fun mem => ⟨d, rfl, mem⟩, fun ⟨_, installed, mem⟩ => Option.some.inj installed ▸ mem⟩

/-- The reply that says that the session is over. -/
def Scenario.SessionRequest.inert : SessionRequest → Reply
  | .openStream _ => .opened none
  | .setVisitor _ => .done
  | .setRespectGoaway _ => .done
  | .goAway => .done
  | .close => .done
  | .closeWithError _ _ => .done
  | .state => .state .closed
  | .ready => .flag false
  | .shouldOpen => .flag false
  | .stats => .stats none

def Scenario.StreamRequest.inert : StreamRequest → Reply
  | .write _ _ => .count 0
  | .read _ => .bytes []
  | .canWrite => .flag false
  | .close => .done
  | .setVisitor _ => .done

variable {ε τ π : Type} [Transport τ] [Endpoint ε τ π]

/-! ## Numbers under which nothing is registered -/

theorem Dispatcher.sessionOp_of_absent {α : Type} {now : Instant} {id : SessionId}
    {op : Audience → Session τ → Except Fault (α × Session τ)} {d : Dispatcher ε τ π}
    (absent : d.sessions.get? id = none) : d.sessionOp now id op = .ok (none, d) := by
  unfold sessionOp onSession
  rw [absent]
  rfl

namespace SessionHandle

variable {α : Type} {now : Instant} {id : SessionId} {installed : Option (Dispatcher ε τ π)}

theorem invoke_of_unregistered {op : Audience → Session τ → Except Fault (α × Session τ)}
    (gone : ¬ Registered id installed) : invoke now id op installed = .ok (none, installed) := by
  cases installed with
  | none => rfl
  | some d =>
    have absent : d.sessions.get? id = none := by
      rw [Table.get?_eq_none_iff]
      exact fun mem => gone ⟨d, rfl, mem⟩
    show d.sessionOp now id op >>= _ = _
    rw [Dispatcher.sessionOp_of_absent absent]
    rfl

theorem tell_of_unregistered {op : Audience → Session τ → Session τ}
    (gone : ¬ Registered id installed) : tell now id op installed = .ok installed := by
  unfold tell
  rw [invoke_of_unregistered gone]
  rfl

theorem ask_of_unregistered {f : Session τ → Except Fault α} {inert : α}
    (gone : ¬ Registered id installed) : ask now id f inert installed = .ok (inert, installed) := by
  unfold ask
  rw [invoke_of_unregistered gone]
  rfl

end SessionHandle

namespace Scenario

/-- A request on a session that is gone. A client's handle must not be asked for a stream that only
its side writes, whether the session is there or not. -/
theorem SessionRequest.run_of_unregistered {r : SessionRequest} {now : Instant} {h : SessionHandle}
    {installed : Option (Dispatcher ε τ π)} (gone : ¬ Registered h.id installed)
    (allowed : r = .openStream .uni → h.side.isServer = true) :
    r.run now h installed = .ok (r.inert, installed) := by
  cases r with
  | openStream dir =>
    cases dir with
    | bi =>
      simp only [run, SessionHandle.openBidirectional, SessionHandle.invoke_of_unregistered gone]
      rfl
    | uni =>
      simp only [run, SessionHandle.openUnidirectional, SessionHandle.invoke_of_unregistered gone,
        allowed rfl]
      rfl
  | setVisitor v =>
    simp only [run, SessionHandle.setVisitor, SessionHandle.tell_of_unregistered gone]
    rfl
  | setRespectGoaway respect =>
    simp only [run, SessionHandle.setRespectGoaway, SessionHandle.tell_of_unregistered gone]
    rfl
  | goAway =>
    simp only [run, SessionHandle.goAway, SessionHandle.tell_of_unregistered gone]
    rfl
  | close =>
    simp only [run, SessionHandle.close, SessionHandle.closeWithError,
      SessionHandle.tell_of_unregistered gone]
    rfl
  | closeWithError code reason =>
    simp only [run, SessionHandle.closeWithError, SessionHandle.tell_of_unregistered gone]
    rfl
  | state =>
    simp only [run, SessionHandle.state, SessionHandle.ask_of_unregistered gone]
    rfl
  | ready =>
    simp only [run, SessionHandle.ready, SessionHandle.ask_of_unregistered gone]
    rfl
  | shouldOpen =>
    simp only [run, SessionHandle.shouldOpen, SessionHandle.ask_of_unregistered gone]
    rfl
  | stats =>
    simp only [run, SessionHandle.stats, SessionHandle.invoke_of_unregistered gone]
    rfl

theorem StreamRequest.run_of_unregistered {r : StreamRequest} {now : Instant} {h : StreamHandle}
    {installed : Option (Dispatcher ε τ π)} (gone : ¬ Registered h.session installed) :
    r.run now h installed = .ok (r.inert, installed) := by
  cases r with
  | write data fin =>
    simp only [run, StreamHandle.write, SessionHandle.invoke_of_unregistered gone]
    rfl
  | read limit =>
    simp only [run, StreamHandle.read, SessionHandle.invoke_of_unregistered gone]
    rfl
  | canWrite =>
    simp only [run, StreamHandle.canWrite, SessionHandle.ask_of_unregistered gone]
    rfl
  | close =>
    simp only [run, StreamHandle.close, SessionHandle.tell_of_unregistered gone]
    rfl
  | setVisitor v =>
    simp only [run, StreamHandle.setVisitor, SessionHandle.tell_of_unregistered gone]
    rfl

end Scenario

/-! ## Numbers under which a session is registered -/

/-- An operation reaches the session that is registered under its number. -/
theorem SessionHandle.invoke_of_registered {α : Type} {now : Instant} {id : SessionId}
    {op : Audience → Session τ → Except Fault (α × Session τ)}
    {installed installed' : Option (Dispatcher ε τ π)} (there : Registered id installed)
    {r : Option α} (h : invoke now id op installed = .ok (r, installed')) :
    ∃ a s x s', op a s = .ok (x, s') ∧ r = some x := by
  obtain ⟨d, rfl, mem⟩ := there
  obtain ⟨s, found⟩ := Table.mem_keys_iff.1 mem
  obtain ⟨⟨r', d₁⟩, done, h⟩ := ok_of_bind h
  cases h
  obtain ⟨⟨r', d₂⟩, done, h⟩ := ok_of_bind done
  unfold Dispatcher.onSession at done
  rw [found] at done
  obtain ⟨⟨x, s'⟩, made, done⟩ := ok_of_bind done
  cases done
  obtain ⟨d₃, -, h⟩ := ok_of_bind h
  cases h
  exact ⟨d.audience, s, x, s', made, rfl⟩

/-- A session that is there has figures. -/
theorem Scenario.SessionRequest.stats_of_registered {now : Instant} {h : SessionHandle}
    {installed installed' : Option (Dispatcher ε τ π)} (there : Registered h.id installed) :
    SessionRequest.stats.run now h installed ≠ .ok (SessionRequest.stats.inert, installed') := by
  intro answered
  obtain ⟨⟨r, rest⟩, invoked, answered⟩ := ok_of_bind answered
  obtain ⟨a, s, x, s', -, rfl⟩ := SessionHandle.invoke_of_registered there invoked
  cases answered

/-- Requests through handles of the number `id` change nothing, and their replies say that the session
is over. -/
structure Inert (id : SessionId) (installed : Option (Dispatcher ε τ π)) : Prop where
  session : ∀ (now : Instant) (h : SessionHandle) (r : SessionRequest), h.id = id →
    (r = .openStream .uni → h.side.isServer = true) → r.run now h installed = .ok (r.inert, installed)
  stream : ∀ (now : Instant) (h : StreamHandle) (r : StreamRequest), h.session = id →
    r.run now h installed = .ok (r.inert, installed)

theorem inert_iff {id : SessionId} {installed : Option (Dispatcher ε τ π)} :
    Inert id installed ↔ ¬ Registered id installed := by
  constructor
  · intro inert there
    have answered := inert.session 0 ⟨id, ⟨0⟩, .client⟩ .stats rfl (fun h => by cases h)
    exact SessionRequest.stats_of_registered there answered
  · intro gone
    refine ⟨fun now h r same allowed => ?_, fun now h r same => ?_⟩
    · subst same
      exact SessionRequest.run_of_unregistered gone allowed
    · subst same
      exact StreamRequest.run_of_unregistered gone

/-! ## No request makes a session -/

section Tallied

variable {α : Type} {now : Instant} {id : SessionId}
  {installed installed' : Option (Dispatcher (Tally ε) τ π)}

theorem SessionHandle.keeps_invoke {op : Audience → Session τ → Except Fault (α × Session τ)}
    {r : Option α} (h : invoke now id op installed = .ok (r, installed')) :
    Option.Rel Dispatcher.Keeps installed installed' := by
  cases installed with
  | none =>
    cases h
    exact .none
  | some d =>
    obtain ⟨⟨r', d'⟩, done, h⟩ := ok_of_bind h
    cases h
    exact .some (Dispatcher.spanning_keeps.sessionOp Dispatcher.keeps_onSession done)

theorem SessionHandle.keeps_tell {op : Audience → Session τ → Session τ}
    (h : tell now id op installed = .ok installed') :
    Option.Rel Dispatcher.Keeps installed installed' := by
  obtain ⟨⟨_, rest⟩, invoked, h⟩ := ok_of_bind h
  cases h
  exact keeps_invoke invoked

theorem SessionHandle.keeps_ask {f : Session τ → Except Fault α} {inert x : α}
    (h : ask now id f inert installed = .ok (x, installed')) :
    Option.Rel Dispatcher.Keeps installed installed' := by
  obtain ⟨⟨_, rest⟩, invoked, h⟩ := ok_of_bind h
  cases h
  exact keeps_invoke invoked

namespace Scenario

theorem SessionRequest.keeps_run {r : SessionRequest} {h : SessionHandle} {reply : Reply}
    (done : r.run now h installed = .ok (reply, installed')) :
    Option.Rel Dispatcher.Keeps installed installed' := by
  cases r with
  | openStream dir =>
    cases dir with
    | bi =>
      obtain ⟨⟨_, rest⟩, opened, done⟩ := ok_of_bind done
      obtain ⟨⟨_, rest'⟩, invoked, opened⟩ := ok_of_bind opened
      cases opened
      cases done
      exact SessionHandle.keeps_invoke invoked
    | uni =>
      obtain ⟨⟨_, rest⟩, opened, done⟩ := ok_of_bind done
      cases done
      unfold SessionHandle.openUnidirectional at opened
      split at opened
      · obtain ⟨⟨_, rest'⟩, invoked, opened⟩ := ok_of_bind opened
        cases opened
        exact SessionHandle.keeps_invoke invoked
      · cases opened
  | setVisitor v =>
    obtain ⟨rest, told, done⟩ := ok_of_bind done
    cases done
    exact SessionHandle.keeps_tell told
  | setRespectGoaway respect =>
    obtain ⟨rest, told, done⟩ := ok_of_bind done
    cases done
    exact SessionHandle.keeps_tell told
  | goAway =>
    obtain ⟨rest, told, done⟩ := ok_of_bind done
    cases done
    exact SessionHandle.keeps_tell told
  | close =>
    obtain ⟨rest, told, done⟩ := ok_of_bind done
    cases done
    exact SessionHandle.keeps_tell told
  | closeWithError code reason =>
    obtain ⟨rest, told, done⟩ := ok_of_bind done
    cases done
    exact SessionHandle.keeps_tell told
  | state =>
    obtain ⟨⟨_, rest⟩, asked, done⟩ := ok_of_bind done
    cases done
    exact SessionHandle.keeps_ask asked
  | ready =>
    obtain ⟨⟨_, rest⟩, asked, done⟩ := ok_of_bind done
    cases done
    exact SessionHandle.keeps_ask asked
  | shouldOpen =>
    obtain ⟨⟨_, rest⟩, asked, done⟩ := ok_of_bind done
    cases done
    exact SessionHandle.keeps_ask asked
  | stats =>
    obtain ⟨⟨_, rest⟩, invoked, done⟩ := ok_of_bind done
    cases done
    exact SessionHandle.keeps_invoke invoked

theorem StreamRequest.keeps_run {r : StreamRequest} {h : StreamHandle} {reply : Reply}
    (done : r.run now h installed = .ok (reply, installed')) :
    Option.Rel Dispatcher.Keeps installed installed' := by
  cases r with
  | write data fin =>
    obtain ⟨⟨_, rest⟩, written, done⟩ := ok_of_bind done
    obtain ⟨⟨_, rest'⟩, invoked, written⟩ := ok_of_bind written
    cases written
    cases done
    exact SessionHandle.keeps_invoke invoked
  | read limit =>
    obtain ⟨⟨_, rest⟩, read, done⟩ := ok_of_bind done
    obtain ⟨⟨_, rest'⟩, invoked, read⟩ := ok_of_bind read
    cases read
    cases done
    exact SessionHandle.keeps_invoke invoked
  | canWrite =>
    obtain ⟨⟨_, rest⟩, asked, done⟩ := ok_of_bind done
    cases done
    exact SessionHandle.keeps_ask asked
  | close =>
    obtain ⟨rest, told, done⟩ := ok_of_bind done
    cases done
    exact SessionHandle.keeps_tell told
  | setVisitor v =>
    obtain ⟨rest, told, done⟩ := ok_of_bind done
    cases done
    exact SessionHandle.keeps_tell told

end Scenario

end Tallied

end QuicSessions
