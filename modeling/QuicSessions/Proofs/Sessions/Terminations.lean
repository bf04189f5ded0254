import QuicSessions.Proofs.Sessions.Memoirs

/-!
# Send halves that are left behind

A session that drops a stream should have ended the send half of the stream with its transport, or have given
it up there: the transport keeps a half, and the peer's credit for the stream, until then. It has, with one
exception: when the peer stops a stream before its end went out, the session counts the write side as over and
asks its transport for nothing.
-/

set_option autoImplicit false

namespace QuicSessions.Session

/-- The transport took the end of the stream, or the stream was given up from here. -/
def Terminated (log : List Mark) : Prop := .ended ∈ log ∨ .reset ∈ log

instance (log : List Mark) : Decidable (Terminated log) := inferInstanceAs (Decidable (_ ∨ _))

/-- A write side that is over was ended or given up, unless the peer stopped it before its end went out. -/
theorem Warranted.terminated_iff {x : LiveStream} {log : List Mark} (h : Warranted x log)
    (writable : x.directionality.writable = true) (done : x.writeDone = true) (known : .unknown ∉ log)
    (honest : .acknowledged ∈ log → .ended ∈ log) : Terminated log ↔ ¬StoppedFirst log := by
  have ended_iff : Terminated log ↔ .ended ∈ log := or_iff_left h.kept
  rw [ended_iff]
  refine ⟨h.ended, fun unstopped => ?_⟩
  obtain mute | acknowledged | stopped | unknown := h.done done
  · rw [writable] at mute
    cases mute
  · exact honest acknowledged
  · obtain ⟨before, after, split⟩ := List.append_of_mem stopped
    by_contra unended
    refine unstopped ⟨before, after, split, fun early => unended ?_⟩
    exact split ▸ List.mem_append_left _ early
  · exact absurd unknown known

variable {τ : Type} [Transport τ]

/-- Whatever happened to a session, take a stream that is reclaimed and has a write side that its transport
knows. If the transport reports nothing as acknowledged whose end it did not take, then the session terminated
the send half, except exactly if the peer stopped the stream before its end went out. -/
theorem reclaimed_stream_terminated_iff (number : SessionId) (connection : ConnectionHandle) (t : τ)
    (options : SessionOptions) (made : Instant) (steps : List (Step (Journal τ))) (a : Audience) :
    let start : Session (Journal τ) := .new number connection ⟨t, []⟩ options made
    let s := start.run steps
    ∀ x ∈ departed s (s.reclaim a), x.directionality.writable = true →
      let log := start.memoir x.id [] (start.rounds steps)
      .unknown ∉ log → (.acknowledged ∈ log → .ended ∈ log) → (Terminated log ↔ ¬StoppedFirst log) := by
  intro start s x left writable log known honest
  have named : Named start := named_empty rfl
  have named' : Named s := named_run named steps
  have live : (start.run (start.rounds steps)).streams.get? x.id = some x := by
    rw [run_rounds]
    exact live_of_departed named' left
  have warranted : Warranted x log :=
    warranted_run named (single_rounds start steps) (fun y there => by cases there) live
  have spent : x.spent = true := by
    rw [departed_reclaim a named'] at left
    exact (List.mem_filter.1 left).2
  have done : x.writeDone = true := by
    unfold LiveStream.spent at spent
    rw [Bool.and_eq_true, Bool.and_eq_true] at spent
    exact spent.1.1
  exact warranted.terminated_iff writable done known honest

/-! ## Two streams -/

/-- A client whose transport is marked. -/
def markedSession : Session (Journal Wire.Connection) :=
  .new ⟨1⟩ ⟨0⟩ ⟨Scenario.unmadeConnection, []⟩ .standard 0

/-- The first stream of a client. -/
def firstStream : StreamId := .of .client .bi 0

/-- It opens a stream and writes to it, with or without the end. -/
def greetingRun (fin : Bool) : List (Step (Journal Wire.Connection)) :=
  [.operate .silent 0 .start, .operate .silent 0 .beginHandshake, .transport ⟨answeredConnection, []⟩,
    .operate .silent 0 .process, .operate .silent 0 (.openStream .bi),
    .operate .silent 0 (.write firstStream [104, 105] fin)]

/-- What it wrote is sent, the peer answers, and the client reads the stream. -/
def answeredRun (fin : Bool) (answer : List Wire.Frame) : List (Step (Journal Wire.Connection)) :=
  let j := (markedSession.run (greetingRun fin)).transport
  greetingRun fin ++ [.transport (j.moved ((j.inner.transmit 0).2.receive 0 ⟨0, 1, answer⟩)),
    .operate .silent 0 .process, .operate .silent 0 (.read firstStream 9)]

/-- The client ends its stream; the peer acknowledges that and ends its side too. -/
def finishedRun : List (Step (Journal Wire.Connection)) :=
  answeredRun true [.ack [0], .stream firstStream 0 [] true]

/-- The client's stream is stopped while it could still be written to. -/
def stoppedRun : List (Step (Journal Wire.Connection)) :=
  answeredRun false [.stop firstStream 5, .stream firstStream 0 [] true]

/-- The streams that a session would reclaim, each with whether it has a write side. -/
def reclaimable {τ : Type} (s : Session τ) : List (StreamId × Bool) :=
  (departed s (s.reclaim .silent)).map fun x => (x.id, x.directionality.writable)

/-- The send half of the stream that was ended is gone when the stream is reclaimed. -/
theorem reclaimed_stream_terminated_iff_finished :
    let s := markedSession.run finishedRun
    let log := markedSession.memoir firstStream [] (markedSession.rounds finishedRun)
    s.reclaimable = [(firstStream, true)] ∧ .unknown ∉ log ∧ (.acknowledged ∈ log → .ended ∈ log) ∧
      (Terminated log ↔ ¬StoppedFirst log) ∧ log = [.ended, .acknowledged, .readOut] ∧
      s.transport.inner.streams.sendHalf? firstStream = none := by
  intro s log
  have only : s.reclaimable = [(firstStream, true)] := by decide +kernel
  have memoir : log = [.ended, .acknowledged, .readOut] := by decide +kernel
  have known : .unknown ∉ log := by rw [memoir]; decide
  have honest : .acknowledged ∈ log → .ended ∈ log := by rw [memoir]; decide
  have gone : s.transport.inner.streams.sendHalf? firstStream = none :=
    Option.isNone_iff_eq_none.1 (by decide +kernel)
  obtain ⟨x, left, e⟩ := List.map_eq_singleton_iff.1 only
  obtain ⟨own, writable⟩ := Prod.mk.inj e
  have told := reclaimed_stream_terminated_iff ⟨1⟩ ⟨0⟩ Scenario.unmadeConnection .standard 0 finishedRun .silent
    x (left ▸ List.mem_singleton_self x) writable
  rw [own] at told
  exact ⟨only, known, honest, told known honest, memoir, gone⟩

/-- A stream that the peer stopped is reclaimed in an open session that neither ended its send half nor gave it
up, and the transport holds the half. -/
theorem stopped_stream_left_behind :
    let s := markedSession.run stoppedRun
    let log := markedSession.memoir firstStream [] (markedSession.rounds stoppedRun)
    s.state = .active ∧ s.reclaimable = [(firstStream, true)] ∧
      log = [.stopped, .readOut] ∧ ¬Terminated log ∧
      ((s.reclaim .silent).transport.inner.streams.sendHalf? firstStream).isSome = true := by
  decide +kernel

end QuicSessions.Session
