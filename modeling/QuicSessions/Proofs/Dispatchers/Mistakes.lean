import QuicSessions.Proofs.Dispatchers.Calls
import QuicSessions.Scenario.Bare
import QuicSessions.Wire.Station

/-!
# Calls of a dispatcher

The host, the peers, the clock and the holders of handles call a dispatcher in any order. Whatever was called
before, a call is a mistake only if it asks a client for a stream that only the client would write, or if the
clock cannot hold a deadline. A handle that the dispatcher gave out says truly whose side its session is on,
so with it the caller knows beforehand. Only a number that comes back after all others were given out may belong to a
session on the other side.
-/

set_option autoImplicit false

namespace QuicSessions.Dispatcher

open Scenario (SessionRequest StreamRequest)

variable {ε τ π : Type}

/-- Something that is done to a dispatcher. -/
inductive Call (π : Type) where
  | move (x : Move π) (proper : x.proper = true)
  /-- A request by the holder of a session's handle. -/
  | session (now : Instant) (h : SessionHandle) (r : SessionRequest)
  | stream (now : Instant) (h : StreamHandle) (r : StreamRequest)

/-- The call asks for a stream that only a client would write: the handle is a client's, or the session
under its number is. -/
def Unfit (d : Dispatcher ε τ π) : Call π → Prop
  | .session _ h r => r = .openStream .uni ∧
      (h.side = .client ∨ ∃ s, d.sessions.get? h.id = some s ∧ s.side = .client)
  | _ => False

variable [Transport τ] [Endpoint ε τ π]

/-- What a call makes of a dispatcher, if it is no mistake. -/
def call (d : Dispatcher ε τ π) : Call π → Except Fault (Dispatcher ε τ π)
  | .move x _ => d.attempt x
  | .session now h r => d.installed (r.run now h (some d))
  | .stream now h r => d.installed (r.run now h (some d))

/-- The strokes that a call consists of. -/
def tour (d : Dispatcher ε τ π) : Call π → List (Stroke ε τ π)
  | .move x _ => d.course x
  | .session now h r => Stroke.exchange now (fun _ _ => [r.op]) h.id
  | .stream now h r => Stroke.exchange now (fun _ _ => [r.op h.stream]) h.session

/-- The strokes that were made in a call: a mistake leaves the dispatcher as it was. -/
def toured (d : Dispatcher ε τ π) (c : Call π) : List (Stroke ε τ π) :=
  match d.call c with
  | .ok _ => d.tour c
  | .error _ => []

/-- The dispatcher after a call. -/
def answer (d : Dispatcher ε τ π) (c : Call π) : Dispatcher ε τ π :=
  match d.call c with
  | .ok d' => d'
  | .error _ => d

/-- The dispatcher after calls in turn. -/
def serve (d : Dispatcher ε τ π) (calls : List (Call π)) : Dispatcher ε τ π := calls.foldl answer d

/-- The strokes of the calls that were no mistakes. -/
def history (d : Dispatcher ε τ π) : List (Call π) → List (Stroke ε τ π)
  | [] => []
  | c :: calls => d.toured c ++ (d.answer c).history calls

section Single

variable {d : Dispatcher ε τ π}

theorem call_session_of_client (now : Instant) {h : SessionHandle} (client : h.side = .client) :
    d.call (.session now h (.openStream .uni)) = .error (.clientUnidirectional h.id) := by
  have refused : h.openUnidirectional now (some d) = .error (.clientUnidirectional h.id) := by
    unfold SessionHandle.openUnidirectional
    rw [client]
    rfl
  show d.installed (h.openUnidirectional now (some d) >>= _) = _
  rw [refused]
  rfl

theorem call_eq (c : Call π)
    (allowed : ∀ now h, c = .session now h (.openStream .uni) → h.side = .server) :
    d.call c = d.perform (d.tour c) := by
  cases c with
  | move x proper => exact attempt_eq d x
  | stream now h r => exact installed_stream d now h r
  | session now h r =>
    refine installed_session d now h fun uni => ?_
    rw [allowed now h (by rw [uni])]
    rfl

theorem perform_toured (d : Dispatcher ε τ π) (c : Call π) : d.perform (d.toured c) = .ok (d.answer c) := by
  unfold toured answer
  cases done : d.call c with
  | error fault => rfl
  | ok d' =>
    dsimp only
    rw [← done]
    refine (call_eq c fun now h same => ?_).symm
    cases side : h.side with
    | server => rfl
    | client =>
      rw [same, call_session_of_client now side] at done
      cases done

theorem perform_history (d : Dispatcher ε τ π) (calls : List (Call π)) :
    d.perform (d.history calls) = .ok (d.serve calls) := by
  induction calls generalizing d with
  | nil => rfl
  | cons c calls ih =>
    unfold history
    rw [perform_append, perform_toured]
    exact ih (d.answer c)

/-! ## What may go wrong in one call -/

theorem proper_openUnidirectional (housed : Housed d) (now : Instant) {id : SessionId}
    (servers : ∀ s, d.sessions.get? id = some s → s.side = .server) :
    InTime (d.perform (Stroke.exchange now (fun _ _ => [.openStream .uni]) id)) := by
  have asked : InTime (d.apply (.request now id fun _ _ => [.openStream .uni])) :=
    request_of_found fun s found =>
      Session.operate_one d.audience now
        (.inl (Session.run_openUnidirectional_of_begun d.audience now (housed.begun id s found) (servers s found)))
  unfold Stroke.exchange
  rw [perform_cons]
  exact asked.bind fun d' done =>
    perform_of_housed (housed.apply done) fun x mem => List.mem_singleton.1 mem ▸ trivial

theorem call_of_unfit {c : Call π} (unfit : d.Unfit c) :
    ∃ id, d.call c = .error (.clientUnidirectional id) := by
  cases c with
  | move | stream => exact unfit.elim
  | session now h r =>
    obtain ⟨rfl, wrong⟩ := unfit
    cases side : h.side with
    | client => exact ⟨h.id, call_session_of_client now side⟩
    | server =>
      obtain wrong | ⟨s, found, client⟩ := wrong
      · cases side.symm.trans wrong
      have refused : s.openUnidirectional d.audience = .error (.clientUnidirectional s.id) := by
        unfold Session.openUnidirectional
        rw [client]
        rfl
      have asked : d.apply (.request now h.id fun _ _ => [.openStream .uni]) =
          .error (.clientUnidirectional s.id) := by
        show Except.map _ (d.onSession h.id _) = _
        unfold onSession
        rw [found]
        show Except.map _ ((((s.openUnidirectional d.audience >>= _) >>= _) >>= _) >>= _) = _
        rw [refused]
        rfl
      refine ⟨s.id, ?_⟩
      rw [call_eq _ fun _ _ same => by cases same; exact side]
      show d.perform (.request now h.id (fun _ _ => [.openStream .uni]) :: _) = _
      rw [perform_cons, asked]
      rfl

theorem call_of_housed (housed : Housed d) (c : Call π) : InTime (d.call c) ∨ d.Unfit c := by
  cases c with
  | move x proper =>
    refine .inl ?_
    show InTime (d.attempt x)
    rw [attempt_eq]
    exact perform_of_housed housed fun _ mem => proper_course d proper mem
  | stream now h r =>
    refine .inl ?_
    rw [call_eq _ fun _ _ same => by cases same]
    refine perform_of_housed housed (proper_exchange now h.session fun op mem => ?_)
    exact List.mem_singleton.1 mem ▸ StreamRequest.proper_op h.stream r
  | session now h r =>
    by_cases unfit : d.Unfit (.session now h r)
    · exact .inr unfit
    refine .inl ?_
    by_cases uni : r = .openStream .uni
    · subst uni
      have server : h.side = .server := by
        cases side : h.side with
        | server => rfl
        | client => exact absurd ⟨rfl, .inl side⟩ unfit
      rw [call_eq _ fun _ _ same => by cases same; exact server]
      refine proper_openUnidirectional housed now fun s found => ?_
      cases side : s.side with
      | server => rfl
      | client => exact absurd ⟨rfl, .inr ⟨s, found, side⟩⟩ unfit
    · rw [call_eq _ fun _ _ same => by cases same; exact absurd rfl uni]
      refine perform_of_housed housed (proper_exchange now h.id fun op mem => ?_)
      exact List.mem_singleton.1 mem ▸ SessionRequest.proper_op uni

end Single

/-! ## Sessions stem from those that were begun -/

/-- The sessions of a dispatcher are those that were begun, as far as their handles tell, and these were
numbered in order. -/
structure Stems (born : List (Session τ)) (d : Dispatcher ε τ π) : Prop where
  next : d.nextSession = .nth born.length
  numbers : born.map Session.id = (List.range born.length).map SessionId.nth
  table : ∀ id s, d.sessions.get? id = some s → ∃ b ∈ born, b.sessionHandle = s.sessionHandle

namespace Stems

variable {born : List (Session τ)} {d d' : Dispatcher ε τ π} {x : Stroke ε τ π}

omit [Transport τ] [Endpoint ε τ π] in
theorem of_same (stems : Stems born d) (next : d'.nextSession = d.nextSession)
    (table : ∀ id s', d'.sessions.get? id = some s' →
      ∃ s, d.sessions.get? id = some s ∧ s'.sessionHandle = s.sessionHandle) : Stems born d' where
  next := next.trans stems.next
  numbers := stems.numbers
  table id s' found := by
    obtain ⟨s, there, same⟩ := table id s' found
    obtain ⟨b, mem, handle⟩ := stems.table id s there
    exact ⟨b, mem, handle.trans same.symm⟩

omit [Endpoint ε τ π] in
theorem registered (stems : Stems born d) {now : Instant} {handle : ConnectionHandle} {t : τ} {id : SessionId}
    (h : d.createSession now handle t = .ok (id, d')) :
    Stems (born ++ [.begun d.nextSession handle t d.options now]) d' := by
  obtain ⟨rfl, e⟩ := createSession_eq h
  refine ⟨?_, ?_, fun n s found => ?_⟩
  · rw [e, List.length_append]
    show d.nextSession.next = _
    rw [stems.next, SessionId.next_nth]
    rfl
  · rw [List.length_append, List.map_append, stems.numbers]
    show _ = (List.range (born.length + 1)).map SessionId.nth
    rw [List.range_succ, List.map_append]
    exact congrArg (_ ++ [·]) stems.next
  · rw [e] at found
    have found := (Table.get?_insert ..).symm.trans found
    split at found
    · exact ⟨s, List.mem_append_right _ (List.mem_singleton.2 (Option.some.inj found).symm), rfl⟩
    · obtain ⟨b, mem, same⟩ := stems.table n s found
      exact ⟨b, List.mem_append_left _ mem, same⟩

theorem apply (stems : Stems born d) (housed : Housed d) (h : d.apply x = .ok d') :
    Stems (born ++ d.begun x) d' := by
  by_cases ordinary : x.ordinary = true
  · -- No session begins, and each that is left was there with the same handle.
    have plain : x.works = true ∧ d.begun x = [] := by cases x <;> first | exact ⟨rfl, rfl⟩ | cases ordinary
    have next : d'.nextSession = d.nextSession := by rw [works_apply h plain.1]
    rw [plain.2, List.append_nil]
    refine stems.of_same next fun n s' found => ?_
    obtain ⟨id, notices, d₁, parts, -⟩ := parts_apply ordinary housed.residents h
    rw [parts.result] at found
    have found : d₁.sessions.get? n = some s' := by
      cases handle : d.removed? x with
      | none =>
        rw [handle] at found
        exact found
      | some handle' =>
        rw [handle] at found
        exact get?_connectionClosed found
    obtain ⟨s, there, ⟨rfl, -⟩ | rfl⟩ := parts.lived.origin found
    · exact ⟨s, there, sessionHandle_run (housed.filed n s there).2 _⟩
    · exact ⟨s', there, rfl⟩
  · cases x with
    | register now handle t =>
      obtain ⟨⟨id, d₁⟩, registered, rfl⟩ := ok_of_map h
      exact stems.registered registered
    | ended =>
      cases h
      rw [tellServer_eq]
      exact (List.append_nil born).symm ▸ stems.of_same rfl fun _ s found => ⟨s, found, rfl⟩
    | shut | adjust | collect =>
      cases h
      exact (List.append_nil born).symm ▸ stems.of_same rfl fun _ s found => ⟨s, found, rfl⟩
    | _ => exact absurd rfl ordinary

theorem perform {strokes : List (Stroke ε τ π)} (stems : Stems born d) (housed : Housed d)
    (h : d.perform strokes = .ok d') : Stems (born ++ d.gather begun strokes) d' := by
  induction strokes generalizing d born with
  | nil =>
    cases h
    exact (List.append_nil born).symm ▸ stems
  | cons x strokes ih =>
    obtain ⟨first, rest⟩ := perform_cons_cases h
    rw [gather_cons, ← List.append_assoc]
    exact ih (stems.apply housed first) (housed.apply first) rest

omit [Transport τ] [Endpoint ε τ π] in
/-- As long as no number came back, two sessions of one number are the same. -/
theorem unique (stems : Stems born d) (few : born.length ≤ UInt32.size) {b b' : Session τ} (mem : b ∈ born)
    (mem' : b' ∈ born) (same : b.id = b'.id) : b = b' := by
  obtain ⟨i, lt, rfl⟩ := List.getElem_of_mem mem
  obtain ⟨j, lt', rfl⟩ := List.getElem_of_mem mem'
  have number (k : Nat) (lt : k < born.length) : born[k].id = .nth k := by
    have at_k : (born.map Session.id)[k]? = ((List.range born.length).map SessionId.nth)[k]? := by
      rw [stems.numbers]
    simpa [lt] using at_k
  rw [number i lt, number j lt'] at same
  -- Numbers come back only after a whole round of them.
  obtain less | rfl | more := Nat.lt_trichotomy i j
  · have round := SessionId.round_of_nth_eq less same
    omega
  · rfl
  · have round := SessionId.round_of_nth_eq more same.symm
    omega

omit [Transport τ] [Endpoint ε τ π] in
/-- A handle that was given out says whose side the session under its number is on, if all are on one side or
no number came back. -/
theorem side (stems : Stems born d)
    (clear : born.length ≤ UInt32.size ∨ ∃ side, ∀ b ∈ born, b.side = side) {b s : Session τ} (mem : b ∈ born)
    (found : d.sessions.get? b.id = some s) (key : s.id = b.id) : s.side = b.side := by
  obtain ⟨b', mem', same⟩ := stems.table _ s found
  have number : b'.id = s.id := congrArg SessionHandle.id same
  have truly : b'.side = s.side := congrArg SessionHandle.side same
  obtain few | ⟨side, one⟩ := clear
  · rw [← truly, stems.unique few mem' mem (number.trans key)]
  · rw [← truly, one b' mem', one b mem]

end Stems

/-! ## What may go wrong in any call -/

omit [Transport τ] [Endpoint ε τ π] in
theorem stems_new (role : Side) (endpoint : ε) (address : SocketAddress) (options : SessionOptions) :
    Stems [] (new role endpoint address options : Dispatcher ε τ π) where
  next := rfl
  numbers := rfl
  table _ _ found := by cases found

/-- Whatever a new dispatcher was called with, the next call is carried out, or the clock cannot hold a
deadline, or it is an unfit call and its caller is told so: no session is started twice or used before it is
started. Of the calls through handles that the dispatcher gave out, those are unfit that ask for a stream that
only a client would write, through the handle of a client. -/
theorem only_unfit_calls_are_mistakes (role : Side) (endpoint : ε) (address : SocketAddress)
    (options : SessionOptions) (before : List (Call π)) (c : Call π) :
    let d₀ : Dispatcher ε τ π := new role endpoint address options
    let d := d₀.serve before
    let born := d₀.gather begun (d₀.history before)
    ((∃ d', d.call c = .ok d') ∨ d.call c = .error .clockOverflow ∨
      d.Unfit c ∧ ∃ id, d.call c = .error (.clientUnidirectional id)) ∧
    (born.length ≤ UInt32.size ∨ (∃ side, ∀ b ∈ born, b.side = side) →
      ∀ b ∈ born, ∀ now r, d.Unfit (.session now b.sessionHandle r) ↔
        r = .openStream .uni ∧ b.side = .client) := by
  intro d₀ d born
  have new : Housed d₀ := (InOrder.new role endpoint address options).housed
  have lasting : d₀.perform (d₀.history before) = .ok d := perform_history d₀ before
  have housed : Housed d := new.perform lasting
  have stems : Stems born d := (stems_new role endpoint address options).perform new lasting
  refine ⟨?_, fun clear b mem now r => ⟨fun ⟨uni, wrong⟩ => ⟨uni, ?_⟩, fun ⟨uni, client⟩ => ⟨uni, .inl client⟩⟩⟩
  · obtain (done | late) | unfit := call_of_housed housed c
    · exact .inl done
    · exact .inr (.inl late)
    · exact .inr (.inr ⟨unfit, call_of_unfit unfit⟩)
  · obtain client | ⟨s, found, client⟩ := wrong
    · exact client
    · exact (stems.side clear mem found (housed.filed _ s found).1).symm.trans client

/-- A client begins two connections, and writes to a stream of the first that nobody opened. -/
def begunTwice : List (Call Wire.Payload) :=
  [.move (.adjust ⟨some Scenario.commonSettings, .silent, none, some default, false, 2, 32, false⟩) rfl,
    .move (.connect 0 Scenario.serverAddress "localhost") rfl,
    .move (.connect 0 Scenario.serverAddress "localhost") rfl,
    .move (.send 0 ⟨1⟩ 4294967295 [1]) rfl]

/-- The handle of its second session is good for any request but one for a stream that only it would write. -/
theorem only_unfit_calls_are_mistakes_twice :
    let d₀ : Dispatcher Wire.Station Wire.Connection Wire.Payload :=
      new .client .client Scenario.clientAddress .standard
    let d := d₀.serve begunTwice
    let handle : SessionHandle := ⟨⟨2⟩, ⟨1⟩, .client⟩
    (d₀.gather begun (d₀.history begunTwice)).map Session.sessionHandle = [⟨⟨1⟩, ⟨0⟩, .client⟩, handle] ∧
      (∃ d', d.call (.session 0 handle .close) = .ok d') ∧
      ∀ r, d.Unfit (.session 0 handle r) ↔ r = .openStream .uni := by
  intro d₀ d handle
  have given : (d₀.gather begun (d₀.history begunTwice)).map Session.sessionHandle =
      [⟨⟨1⟩, ⟨0⟩, .client⟩, handle] := by decide +kernel
  have few : (d₀.gather begun (d₀.history begunTwice)).length ≤ UInt32.size := by
    rw [← List.length_map Session.sessionHandle, given]
    decide
  obtain ⟨closed, fit⟩ := only_unfit_calls_are_mistakes .client Wire.Station.client Scenario.clientAddress
    .standard begunTwice (.session 0 handle .close)
  have second : handle ∈ (d₀.gather begun (d₀.history begunTwice)).map Session.sessionHandle := by
    rw [given]
    exact .tail _ (.head _)
  obtain ⟨b, mem, same⟩ := List.mem_map.1 second
  have client : b.side = .client := congrArg SessionHandle.side same
  refine ⟨given, ?_, fun r => ?_⟩
  · obtain done | late | ⟨⟨other, -⟩, -⟩ := closed
    · exact done
    · have served : (d.call (.session 0 handle .close)).isOk = true := by decide +kernel
      rw [late] at served
      cases served
    · cases other
  · rw [← same, fit (.inl few) b mem 0 r]
    exact ⟨And.left, fun uni => ⟨uni, client⟩⟩

end QuicSessions.Dispatcher
