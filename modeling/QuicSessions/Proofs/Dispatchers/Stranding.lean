import QuicSessions.Proofs.Dispatchers.Resting
import QuicSessions.Scenario.Bare
import QuicSessions.Wire.Station

/-!
# What installing a listener leaves unread

A dispatcher hands out what arrives as soon as there is somebody to take it: between its moves nothing
is left to read on a stream with a visitor, and nothing on any stream if the listener was there when it
arrived. But a listener that comes later is not told what waits already. A stream on which something
waited then is left as it is until more arrives on it or somebody reads from it.
-/

set_option autoImplicit false

namespace QuicSessions.Dispatcher

variable {ε τ π : Type} [Transport τ] [Endpoint ε τ π] {aside : SessionId → StreamId → Prop}

/-! ## What is left unread -/

/-- Whether something is left to read on a live stream, on a transport that kept its word. -/
def waits (n : SessionId) (id : StreamId) (d : Dispatcher (Watched ε) (Monitor τ) π) : Bool :=
  match d.sessions.get? n with
  | none => false
  | some s =>
    match s.streams.get? id with
    | none => false
    | some x =>
      s.transport.honest && x.directionality.readable && Transport.unread id s.transport.inner

omit [Endpoint ε τ π] in
theorem waits_iff {n : SessionId} {id : StreamId} {d : Dispatcher (Watched ε) (Monitor τ) π} :
    d.waits n id = true ↔ ∃ s x, d.sessions.get? n = some s ∧ s.streams.get? id = some x ∧
      s.transport.honest = true ∧ x.directionality.readable = true ∧
      Transport.unread id s.transport.inner = true := by
  unfold waits
  constructor
  · intro h
    split at h
    · cases h
    · rename_i s found
      split at h
      · cases h
      · rename_i x held
        rw [Bool.and_eq_true, Bool.and_eq_true] at h
        exact ⟨s, x, found, held, h.1.1, h.1.2, h.2⟩
  · rintro ⟨s, x, found, held, honest, readable, more⟩
    rw [found]
    dsimp only
    rw [held]
    dsimp only
    rw [honest, readable, more]
    rfl

section
variable {d : Dispatcher (Watched ε) (Monitor τ) π} {n : SessionId} {id : StreamId}

omit [Endpoint ε τ π] in
/-- Nothing waits on a stream with a visitor. -/
theorem Rests.visited (rests : Rests false aside (fun _ _ => False) d) (here : ¬ aside n id)
    {s : Session (Monitor τ)} {x : LiveStream} (found : d.sessions.get? n = some s)
    (held : s.streams.get? id = some x) (honest : s.transport.honest = true)
    (readable : x.directionality.readable = true) (visited : x.visitor.isSome = true) :
    Transport.unread id s.transport.inner = false := by
  have rested := rests.rested n s found
  have settled := rested.settled honest id x held here
  obtain rfl := rested.named id x held
  cases more : Transport.unread x.id s.transport.inner with
  | false => rfl
  | true => exact (settled.left readable more visited).elim

/-- While there is a listener, a stream on which something waits is one on which something waited. -/
theorem waits_of_step {x : Move π} (rests : Rests false aside (fun _ _ => False) d)
    (apart : ∀ n id, x.TakesIn n id → aside n id) (other : ∀ c, x ≠ .adjust c)
    (here : ¬ aside n id) (hears : d.audience.listener.isSome = true)
    (waits : (d.step x).waits n id = true) : d.waits n id = true := by
  have before : Rests true aside (fun n id => d.waits n id = true) d := by
    refine ⟨fun _ => hears, rests.number, fun n s found => ?_⟩
    have rested := rests.rested n s found
    refine ⟨⟨rested.named, fun honest id y held here => ?_⟩, rested.due⟩
    have settled := rested.settled honest id y held here
    refine ⟨settled.known, settled.closed, fun readable more _ => ?_⟩
    obtain rfl := rested.named id y held
    exact waits_iff.2 ⟨s, y, found, held, honest, readable, more⟩
  obtain ⟨-, after⟩ := restful_step apart other before
  obtain ⟨s, y, found, held, honest, readable, more⟩ := waits_iff.1 waits
  have rested := after.rested n s found
  have settled := rested.settled honest id y held here
  obtain rfl := rested.named id y held
  exact settled.left readable more rfl

/-- What waits while there is a listener has waited since one came. -/
theorem waits_since (rests : Rests false aside (fun _ _ => False) d) (silent : d.audience.listener = none)
    {moves : List (Move π)} (apart : ∀ x ∈ moves, ∀ n id, x.TakesIn n id → aside n id)
    (here : ¬ aside n id) (hears : (d.run moves).audience.listener.isSome = true)
    (waits : (d.run moves).waits n id = true) :
    ∃ before c after, moves = before ++ .adjust c :: after ∧
      (d.run before).audience.listener = none ∧ c.audience.listener.isSome = true ∧
      ∀ ms, ms <+: .adjust c :: after → (d.run (before ++ ms)).waits n id = true := by
  induction moves using List.reverseRecOn with
  | nil =>
    have hears : d.audience.listener.isSome = true := hears
    rw [silent] at hears
    cases hears
  | append_singleton sofar x ih =>
    have apart' : ∀ y ∈ sofar, ∀ n id, y.TakesIn n id → aside n id :=
      fun y mem => apart y (List.mem_append_left _ mem)
    have last : ∀ n id, x.TakesIn n id → aside n id :=
      apart x (List.mem_append_right _ (List.mem_singleton.2 rfl))
    have rests' := rests_run apart' rests
    have run : d.run (sofar ++ [x]) = (d.run sofar).step x := run_append d sofar [x]
    rw [run] at hears waits
    have stood (listens : (d.run sofar).audience.listener.isSome = true) :
        (d.run sofar).waits n id = true := by
      by_cases adjusts : ∃ c, x = .adjust c
      · obtain ⟨c, rfl⟩ := adjusts
        exact waits
      · exact waits_of_step rests' last (not_exists.1 adjusts) here listens waits
    cases listener : (d.run sofar).audience.listener with
    | none =>
      obtain ⟨c, rfl⟩ : ∃ c, x = .adjust c := by
        by_contra adjusts
        have same := (restful_step last (not_exists.1 adjusts) rests').1
        rw [same, listener] at hears
        cases hears
      refine ⟨sofar, c, [], rfl, listener, hears, fun ms part => ?_⟩
      have part : ms <+: [] ++ [.adjust c] := part
      obtain e | part := List.prefix_concat_iff.1 part
      · rw [e, List.nil_append, run]
        exact waits
      · rw [List.prefix_nil.1 part, List.append_nil]
        exact waits
    | some l =>
      have listens : (d.run sofar).audience.listener.isSome = true := by
        rw [listener]
        rfl
      obtain ⟨before, c, after, e, silent', heard, since⟩ := ih apart' listens (stood listens)
      refine ⟨before, c, after ++ [x], by rw [e, List.append_assoc, List.cons_append], silent', heard,
        fun ms part => ?_⟩
      have part : ms <+: (.adjust c :: after) ++ [x] := part
      obtain whole | part := List.prefix_concat_iff.1 part
      · rw [whole, ← List.append_assoc, ← e, run]
        exact waits
      · exact since ms part

end

section
variable (role : Side) (endpoint : ε) (address : SocketAddress) (options : SessionOptions)

omit [Transport τ] [Endpoint ε τ π] in
/-- A dispatcher without sessions, whose connections will be monitored. -/
def watching : Dispatcher (Watched ε) (Monitor τ) π := .new role ⟨endpoint⟩ address options

/-- Between the moves of a run, nothing is left to read on a stream with a visitor. If there is a
listener, something is left to read only on streams where something waited when a listener came, and at
every point since; for a listener that comes leaves what waits. Streams that the application took in by
their identifiers are left out. -/
theorem unread_only_since_listener (moves : List (Move π)) (n : SessionId) (id : StreamId)
    (accepted : ∀ x ∈ moves, ¬ x.TakesIn n id) :
    let d : Dispatcher (Watched ε) (Monitor τ) π := (watching role endpoint address options).run moves
    (∀ s x, d.sessions.get? n = some s → s.streams.get? id = some x → s.transport.honest = true →
        x.directionality.readable = true → x.visitor.isSome = true →
        Transport.unread id s.transport.inner = false) ∧
      (d.audience.listener.isSome = true → d.waits n id = true →
        ∃ before c after, moves = before ++ .adjust c :: after ∧
          ((watching role endpoint address options).run before :
            Dispatcher (Watched ε) (Monitor τ) π).audience.listener = none ∧
          c.audience.listener.isSome = true ∧
          ∀ ms, ms <+: .adjust c :: after →
            ((watching role endpoint address options).run (before ++ ms) :
              Dispatcher (Watched ε) (Monitor τ) π).waits n id = true) ∧
      ∀ c, (d.step (.adjust c)).waits n id = d.waits n id := by
  -- the identifiers that the application asks for in this run
  let aside (n : SessionId) (id : StreamId) : Prop := ∃ x ∈ moves, x.TakesIn n id
  have here : ¬ aside n id := fun ⟨x, mem, asked⟩ => accepted x mem asked
  have start : Rests false aside (fun _ _ => False)
      (watching role endpoint address options : Dispatcher (Watched ε) (Monitor τ) π) :=
    ⟨nofun, fun _ _ found => (by cases found), fun _ _ found => (by cases found)⟩
  have rests := rests_run (fun x mem n id asked => ⟨x, mem, asked⟩) start
  intro d
  refine ⟨fun s x found held honest readable visited => ?_, fun hears waits => ?_, fun c => rfl⟩
  · exact rests.visited here found held honest readable visited
  · exact waits_since start rfl (fun x mem n id asked => ⟨x, mem, asked⟩) here hears waits

end

/-! ## A listener that comes late -/

/-- The first stream of a client. -/
def greeted : StreamId := .of .client .bi 0

/-- A client connects to a server and greets; then a listener is installed at the server. -/
def lateListener : List (Move Wire.Payload) :=
  [.receive 0 Scenario.clientAddress (.packet ⟨0, 0, [.hello ⟨100, 100⟩ (millis 30000)]⟩),
    .receive 1 Scenario.clientAddress (.packet ⟨0, 1, [.complete]⟩),
    .receive 2 Scenario.clientAddress (.packet ⟨0, 2, [.stream greeted 0 (Utf8.encode "hello") false]⟩),
    .adjust ⟨none, ⟨some ⟨"listener", "L"⟩, true⟩, none, none, false, 1, 32, false⟩]

def server : Dispatcher (Watched Wire.Station) (Monitor Wire.Connection) Wire.Payload :=
  watching .server (.server Scenario.commonSettings) Scenario.serverAddress .standard

theorem unread_only_since_listener_late :
    (server.run lateListener).audience.listener.isSome = true ∧
      (server.run lateListener).waits ⟨1⟩ greeted = true ∧
      ∃ before c after, lateListener = before ++ .adjust c :: after ∧
        (server.run before).audience.listener = none ∧ c.audience.listener.isSome = true ∧
        ∀ ms, ms <+: .adjust c :: after → (server.run (before ++ ms)).waits ⟨1⟩ greeted = true := by
  have hears : (server.run lateListener).audience.listener.isSome = true := by decide +kernel
  have waits : (server.run lateListener).waits ⟨1⟩ greeted = true := by decide +kernel
  have accepted : ∀ x ∈ lateListener, ¬ x.TakesIn ⟨1⟩ greeted := by
    intro x mem asked
    simp only [lateListener, List.mem_cons, List.not_mem_nil, or_false] at mem
    obtain rfl | rfl | rfl | rfl := mem <;> exact asked
  have h := unread_only_since_listener .server (Wire.Station.server Scenario.commonSettings)
    Scenario.serverAddress .standard lateListener ⟨1⟩ greeted accepted
  exact ⟨hears, waits, h.2.1 hears waits⟩

/-- The greeting is left unread although there is a listener. -/
theorem greeting_unread_with_listener :
    (server.run lateListener).audience.listener = some ⟨"listener", "L"⟩ ∧
      ∃ s x, (server.run lateListener).sessions.get? ⟨1⟩ = some s ∧ s.streams.get? greeted = some x ∧
        s.transport.honest = true ∧ x.directionality.readable = true ∧
        Transport.unread greeted s.transport.inner = true := by
  have waits : (server.run lateListener).waits ⟨1⟩ greeted = true := by decide +kernel
  exact ⟨by decide +kernel, waits_iff.1 waits⟩

end QuicSessions.Dispatcher
