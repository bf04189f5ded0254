import QuicSessions.Proofs.Dispatchers.Shutdowns
import QuicSessions.Proofs.Dispatchers.Stranding
import QuicSessions.Proofs.Sessions.Terminations

/-!
# What driving a session leaves in its table

Driving a session ends with dropping its spent streams, and what the dispatcher does about its signals opens
new ones at most. So a session that was driven is in use exactly if a side of one of its streams is unfinished.
And a session that stays open drops a stream only after both sides of it have come to an end, of one kind or
another.
-/

set_option autoImplicit false

namespace QuicSessions

namespace LiveStream

/-- One side of the stream is not over, or the end of its read side was not reported. -/
def Unfinished (x : LiveStream) : Prop := x.writeDone = false ∨ x.readClosed = false ∨ x.finReported = false

theorem unfinished_iff {x : LiveStream} : x.Unfinished ↔ x.spent = false := by
  unfold Unfinished spent
  rw [Bool.and_eq_false_iff, Bool.and_eq_false_iff, or_assoc]

/-- A stream has a side, and it is not over from the start. -/
theorem spent_new (id : StreamId) (d : Directionality) (limit : Nat) : (new id d limit).spent = false := by
  cases d <;> rfl

/-- What may end the write side of a stream did: the peer has all of it, or wants no more, or the transport has
nothing to send it on. -/
def WriteEnded (x : LiveStream) (log : List Mark) : Prop :=
  x.directionality.writable = false ∨ .acknowledged ∈ log ∨ .stopped ∈ log ∨ .unknown ∈ log

/-- What may end the read side did: it was read to its end, or the peer gave it up, or the transport has nothing
to read it from; and the end was reported. -/
def ReadEnded (x : LiveStream) (log : List Mark) : Prop :=
  (x.directionality.readable = false ∨ .readOut ∈ log ∨ .givenUp ∈ log ∨ .unreadable ∈ log) ∧
    x.finReported = true

end LiveStream

namespace Session

variable {τ : Type} {s s' : Session τ} {a : Audience}

/-- No stream in the table is spent. -/
def Swept (s : Session τ) : Prop := ∀ id x, s.streams.get? id = some x → x.spent = false

theorem swept_reclaim (a : Audience) (named : Named s) : Swept (s.reclaim a) := by
  intro id x found
  rw [← Bool.not_eq_true]
  intro spent
  have there : x ∈ s.streams.values.filter LiveStream.spent :=
    List.mem_filter.2 ⟨List.mem_map_of_mem (Table.mem_of_get?_eq_some (get?_of_reclaim a found)), spent⟩
  have left : id ∈ (s.reclaim a).streams.keys := Table.mem_keys_iff.2 ⟨x, found⟩
  rw [keys_reclaim, List.mem_filter, Bool.not_eq_true', ← Bool.not_eq_true, List.contains_iff_mem] at left
  exact left.2 (List.mem_map.2 ⟨x, there, named id x (get?_of_reclaim a found)⟩)

theorem inUse_iff : s.inUse = true ↔ ∃ x, x ∈ s.streams.values := by
  unfold inUse Table.isEmpty Table.values
  rw [Bool.not_eq_true', List.isEmpty_eq_false_iff_exists_mem]
  refine ⟨fun ⟨e, mem⟩ => ⟨e.2, List.mem_map_of_mem mem⟩, fun ⟨x, mem⟩ => ?_⟩
  exact (List.mem_map.1 mem).imp fun _ => And.left

/-- A session without spent streams is in use exactly if a side of a stream is unfinished. -/
theorem Swept.inUse_iff (swept : Swept s) (named : Named s) :
    s.inUse = true ↔ ∃ x ∈ s.streams.values, x.Unfinished := by
  rw [Session.inUse_iff]
  refine exists_congr fun x => ⟨fun mem => ⟨mem, ?_⟩, And.left⟩
  exact LiveStream.unfinished_iff.2 (swept x.id x (named.get?_of_mem_values mem))

variable [Transport τ] {now : Instant} {dir : Dir}

/-- What the session opens is not spent. -/
theorem Swept.openStream {r : Option StreamHandle} (swept : Swept s)
    (h : s.openStream a dir = .ok (r, s')) : Swept s' := by
  obtain ⟨-, rfl⟩ | ⟨-, -, -, rfl⟩ | ⟨id, t, -, -, -, rfl⟩ := openStream_forms a h
  · exact swept
  · exact swept
  · intro k x found
    have found := (Table.get?_insert ..).symm.trans found
    split at found
    · rw [← Option.some.inj found]
      exact LiveStream.spent_new ..
    · exact swept k x found

theorem Swept.step_openStream (swept : Swept s) :
    Swept (s.step (.operate a now (.openStream .bi))) := by
  unfold step
  dsimp only
  split
  · rename_i done
    obtain ⟨⟨r, s₁⟩, opened, h⟩ := ok_of_bind done
    cases h
    exact swept.openStream opened
  · exact swept

end Session

namespace Dispatcher

open Session (Swept)

variable {ε τ π : Type} [Transport τ] {d d' : Dispatcher ε τ π} {s s' : Session τ}

/-! ## The reaction to signals -/

theorem swept_reacting (now : Instant) (d : Dispatcher ε τ π) (signals : List Signal)
    (swept : Swept s) : Swept (s.run (d.reacting now signals)) := by
  induction signals generalizing s with
  | nil => exact swept
  | cons x signals ih =>
    rw [reacting_cons, Session.run_append]
    refine ih ?_
    unfold reacting
    rw [List.flatMap_cons, List.flatMap_nil, List.append_nil]
    cases x with
    | closed reason during => exact swept
    | connected =>
      dsimp only
      split
      · exact swept.step_openStream
      · exact swept

/-! ## Driving -/

variable [Endpoint ε τ π] {now : Instant} {id : SessionId}

/-- A session that was driven and is still registered has no spent stream left. -/
theorem swept_drive (housed : Housed d) (driven : d.drive now id = .ok d')
    (found : d'.sessions.get? id = some s') : Swept s' := by
  cases there : d.sessions.get? id with
  | none =>
    rw [drive_of_absent there] at driven
    rw [← Except.ok.inj driven, there] at found
    cases found
  | some s =>
    obtain ⟨rfl, resident⟩ := housed.residents id s there
    obtain ⟨d₁, d₂, lived, reacted, result⟩ := drive_parts resident driven
    have dropped : Swept (s.run (d.driving now s)) :=
      Session.swept_reclaim d.audience (Session.named_run resident.named ((d.driving now s).take 4))
    have took := run_driven s now d
    have here : Resident d₁ (s.run (d.driving now s ++ taking now d.audience)) :=
      lived.resident resident (by rw [took])
    have same := (Session.sameSession_run resident.named (d.driving now s ++ taking now d.audience)).id
    rw [← same] at reacted
    obtain ⟨notices, lived', -, -⟩ := lived_reactions now here reacted
    have left : d₂.sessions.get? s.id = some s' := by
      rw [result] at found
      split at found
      · exact get?_connectionClosed found
      · exact found
    have run := lived'.found here.found
    rw [same, left] at run
    obtain rfl := Option.some.inj run
    refine swept_reacting now d₁ _ ?_
    rw [took]
    exact dropped

/-! ## What is dropped, and what is left -/

section Dropping

variable (role : Side) (endpoint : ε) (address : SocketAddress) (options : SessionOptions)

/-- Whatever happened to a dispatcher, it can drive a session, and if the session is still registered then, no
stream of it is spent; so it is in use exactly if a side of a stream is unfinished. And whatever happened to a
session, each stream that it drops in a round after which it is not closed has come to an end on both sides. -/
theorem drive_drops_exactly_ended_streams (moves : List (Move π)) (now : Instant) (id number : SessionId)
    (connection : ConnectionHandle) (t : τ) (made : Instant) (steps : List (Session.Step (Journal τ))) :
    (let d : Dispatcher ε τ π := (Dispatcher.new role endpoint address options).run moves
      ∃ d', d.drive now id = .ok d' ∧ ∀ s, d'.sessions.get? id = some s →
        (∀ x ∈ s.streams.values, x.spent = false) ∧
          (s.inUse = true ↔ ∃ x ∈ s.streams.values, x.Unfinished)) ∧
    (let start : Session (Journal τ) := .new number connection ⟨t, []⟩ options made
      ∀ before y after, start.rounds steps = before ++ y :: after →
        let s := start.run before
        (s.step y).state ≠ .closed → ∀ x ∈ Session.departed s (s.step y),
          let log := start.memoir x.id [] before
          x.WriteEnded log ∧ x.ReadEnded log) := by
  refine ⟨?_, ?_⟩
  · intro d
    have housed : Housed d :=
      (InOrder.new role endpoint address options).housed.perform (perform_strokes _ moves)
    obtain ⟨d', driven⟩ := drive_of_housed housed now id
    refine ⟨d', driven, fun s found => ?_⟩
    have named : s.Named := ((housed.apply (x := .drive now id) driven).filed id s found).2
    have swept := swept_drive housed driven found
    exact ⟨fun x mem => swept x.id x (named.get?_of_mem_values mem), swept.inUse_iff named⟩
  · intro start before y after split s open_ x left log
    have named : start.Named := Session.named_empty rfl
    have named' : s.Named := Session.named_run named before
    have single : ∀ z ∈ before ++ y :: after, z.single = true := split ▸ Session.single_rounds start steps
    have warranted : Session.Warranted x log :=
      Session.warranted_run named (fun z mem => single z (List.mem_append_left _ mem))
        (fun z there => by cases there) (Session.live_of_departed named' left)
    have spent := Session.spent_of_departed named'
      (single y (List.mem_append_right _ (List.mem_cons_self ..))) open_ left
    unfold LiveStream.spent at spent
    rw [Bool.and_eq_true, Bool.and_eq_true] at spent
    exact ⟨warranted.done spent.1.1, warranted.read spent.1.2, spent.2⟩

end Dropping

/-- A server whose client greeted it. -/
def greetedServer : Dispatcher Wire.Station Wire.Connection Wire.Payload :=
  (Dispatcher.new .server (.server Scenario.commonSettings) Scenario.serverAddress .standard).run lateListener

/-- The session with the client stays in use when it is driven; a stream that was ended on both sides is
dropped. -/
theorem drive_drops_exactly_ended_streams_greeted :
    let before := Session.markedSession.rounds Session.finishedRun
    let y : Session.Step (Journal Wire.Connection) := .operate .silent 0 .reclaim
    let s := Session.markedSession.run before
    let log := Session.markedSession.memoir Session.firstStream [] before
    (∃ d' s, greetedServer.drive 3 ⟨1⟩ = .ok d' ∧ d'.sessions.get? ⟨1⟩ = some s ∧ s.inUse = true ∧
      ∃ x ∈ s.streams.values, x.Unfinished) ∧
    Session.markedSession.rounds (Session.finishedRun ++ [y]) = before ++ [y] ∧ (s.step y).state ≠ .closed ∧
      ∃ x ∈ Session.departed s (s.step y), x.id = Session.firstStream ∧ x.WriteEnded log ∧ x.ReadEnded log := by
  intro before y s log
  obtain ⟨⟨d', driven, left⟩, dropped⟩ := drive_drops_exactly_ended_streams .server
    (Wire.Station.server Scenario.commonSettings) Scenario.serverAddress .standard lateListener 3 ⟨1⟩ ⟨1⟩ ⟨0⟩
    Scenario.unmadeConnection 0 (Session.finishedRun ++ [y])
  have inUse : ((greetedServer.step (.drive 3 ⟨1⟩)).sessions.get? ⟨1⟩).map Session.inUse = some true := by
    decide +kernel
  have stepped : greetedServer.step (.drive 3 ⟨1⟩) = d' := by
    unfold step
    rw [show greetedServer.attempt (.drive 3 ⟨1⟩) = .ok d' from driven]
  rw [stepped] at inUse
  obtain ⟨s', found, used⟩ := Option.map_eq_some_iff.1 inUse
  have rounds : Session.markedSession.rounds (Session.finishedRun ++ [y]) = before ++ [y] :=
    Session.rounds_append ..
  have open_ : (s.step y).state ≠ .closed := by decide +kernel
  have only : (Session.departed s (s.step y)).map LiveStream.id = [Session.firstStream] := by decide +kernel
  obtain ⟨x, left', own⟩ := List.map_eq_singleton_iff.1 only
  have mem : x ∈ Session.departed s (s.step y) := left' ▸ List.mem_singleton_self x
  have ended := dropped before y [] rounds open_ x mem
  rw [own] at ended
  exact ⟨⟨d', s', driven, found, used, (left s' found).2.1 used⟩, rounds, open_, x, mem, own, ended⟩

end Dispatcher

end QuicSessions
