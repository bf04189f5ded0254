import QuicSessions.Proofs.Streams.Sending
import QuicSessions.Scenario.Bare

/-!
# Full buffers

What waits on a stream is counted, and the count never passes the limit. A write that asks for the end
is refused while as much waits as may wait, even if it brings no bytes. Its answer does not tell: no
byte was accepted, and none was offered. In every other case an answer that counts all the bytes means
that the end was asked for, and then it goes out as soon as nothing waits before it.
-/

set_option autoImplicit false

namespace QuicSessions

namespace LiveStream

variable {τ : Type}

/-- The end of the write side was asked for, or the write side is over. -/
def EndAsked (s : LiveStream) : Prop := s.writeClosed = true ∨ s.finAsked = true

/-- As many bytes wait as may wait, and the end was not asked for. -/
def Full (s : LiveStream) : Prop := ¬ s.EndAsked ∧ s.pending.flatten.length = s.limit

theorem canWrite_of_enqueue {s s' : LiveStream} {data : Bytes} {fin : Bool}
    (h : s.enqueue? data fin = some s') : s.canWrite = true := by
  unfold enqueue? at h
  split at h
  · cases h
  · rename_i able
    simpa using able

/-- What waits is counted, and not more than may wait. -/
structure Stocked (s : LiveStream) : Prop where
  counted : s.buffered = s.pending.flatten.length
  within : s.buffered ≤ s.limit

namespace Stocked

variable {s s' : LiveStream}

theorem new (id : StreamId) (directionality : Directionality) (limit : Nat) :
    Stocked (LiveStream.new id directionality limit) := ⟨rfl, Nat.zero_le limit⟩

theorem abandonWrites (s : LiveStream) : Stocked s.abandonWrites := ⟨rfl, Nat.zero_le s.limit⟩

theorem enqueue {data : Bytes} {fin : Bool} (stocked : Stocked s)
    (h : s.enqueue? data fin = some s') : Stocked s' := by
  have counted := stocked.counted
  have within := stocked.within
  unfold enqueue? at h
  split at h
  · cases h
  · split at h
    · cases h
    · rename_i fits
      cases h
      cases data with
      | nil => cases fin <;> exact ⟨counted, within⟩
      | cons byte data =>
        constructor
        · cases fin <;> simp [counted, List.flatten_append]
        · cases fin <;> exact Nat.not_lt.1 fits

/-- Until the end is asked for, a stream takes bytes exactly when it is not full. -/
theorem canWrite_iff (stocked : Stocked s) (unasked : ¬ s.EndAsked) :
    s.canWrite = true ↔ ¬ s.Full := by
  have within := stocked.within
  have counted := stocked.counted
  have open_ : s.writeClosed = false ∧ s.finAsked = false := by simpa [EndAsked] using unasked
  simp only [canWrite, open_, Full, unasked, not_false_eq_true, true_and, Bool.not_false,
    Bool.true_and, decide_eq_true_eq]
  omega

variable [Transport τ]

theorem pour (id : StreamId) (pending : List Bytes) (buffered : Nat) (t : τ)
    (counted : buffered = pending.flatten.length) :
    let p := LiveStream.pour id pending buffered t
    p.buffered = p.pending.flatten.length ∧ p.buffered ≤ buffered := by
  fun_induction LiveStream.pour id pending buffered t with
  | case1 buffered t => exact ⟨counted, Nat.le_refl _⟩
  | case2 chunk rest buffered t t' pos le written ih =>
    simp only [List.flatten_cons, List.length_append] at counted
    obtain ⟨counted', le'⟩ := ih (by omega)
    exact ⟨counted', by omega⟩
  | case3 chunk rest buffered t taken pos le t' written part ih =>
    simp only [List.flatten_cons, List.length_append, List.length_drop] at counted ih
    obtain ⟨counted', le'⟩ := ih (by omega)
    exact ⟨counted', by omega⟩
  | case4 chunk rest buffered t t' written => exact ⟨counted, Nat.le_refl _⟩
  | case5 chunk rest buffered t code t' written => exact ⟨counted, Nat.le_refl _⟩
  | case6 chunk rest buffered t t' written => exact ⟨counted, Nat.le_refl _⟩

theorem sendFin (stocked : Stocked s) (t : τ) : Stocked (s.sendFin t).1 := by
  unfold LiveStream.sendFin
  dsimp only
  split
  · exact ⟨stocked.counted, stocked.within⟩
  · exact .abandonWrites _
  · exact ⟨stocked.counted, stocked.within⟩

theorem flush (stocked : Stocked s) (t : τ) : Stocked (s.flush t).2.1 := by
  obtain ⟨counted, le⟩ := pour s.id s.pending s.buffered t stocked.counted
  have within := stocked.within
  have poured : Stocked { s with
      pending := (LiveStream.pour s.id s.pending s.buffered t).pending
      buffered := (LiveStream.pour s.id s.pending s.buffered t).buffered } :=
    ⟨counted, Nat.le_trans le within⟩
  unfold LiveStream.flush
  split
  · exact stocked
  · dsimp only
    split
    · exact .abandonWrites _
    · split
      · exact poured.sendFin _
      · exact poured

end Stocked

/-- After a flush an end that was asked for has gone out, unless something waits before it. -/
theorem closed_flush [Transport τ] {s : LiveStream} {t : τ} (asked : (s.flush t).2.1.finAsked = true)
    (nothing : (s.flush t).2.1.pending = []) : (s.flush t).2.1.writeClosed = true := by
  unfold flush at asked nothing ⊢
  split at asked
  · rename_i closed
    simp [closed]
  · rename_i open_
    rw [if_neg open_] at nothing ⊢
    dsimp only at asked nothing ⊢
    split
    · rfl
    · rename_i whole
      rw [if_neg whole] at asked nothing
      split
      · exact writeClosed_sendFin _ _
      · rename_i waits
        rw [if_neg waits] at asked nothing
        dsimp only at asked nothing
        exact absurd (by simp [asked, nothing]) waits

/-- A transport that takes nothing leaves a stream as it was. -/
theorem flush_of_blocked [Transport τ] {s : LiveStream} {t t' : τ} {chunk : Bytes} {rest : List Bytes}
    (open_ : s.writeClosed = false) (waits : s.pending = chunk :: rest)
    (blocked : Transport.write s.id chunk t = (.blocked, t')) : s.flush t = (false, s, t') := by
  have poured : pour s.id s.pending s.buffered t = ⟨s.pending, s.buffered, false, t'⟩ := by
    rw [waits, pour, blocked]
  have some_wait : s.pending.isEmpty = false := by rw [waits]; rfl
  unfold flush
  rw [if_neg (by simp [open_]), poured]
  simp [some_wait]

end LiveStream

namespace Outbox

variable {τ : Type} {id : StreamId} {o : Outbox τ}

/-- The end of the stream went out, in one of the calls. -/
def FinSent (id : StreamId) (o : Outbox τ) : Prop := ∃ answer, Call.finish id answer ∈ o.transport.calls

/-- What waits fits, a write side that is over was stopped or its end went out, and an end that was
asked for does not wait for nothing. -/
structure Prompt (id : StreamId) (o : Outbox τ) : Prop where
  stocked : o.stream.Stocked
  settled : o.stream.writeClosed = true → o.stopped = true ∨ FinSent id o
  due : o.stream.finAsked = true → o.stream.pending = [] → o.stream.writeClosed = true

theorem prompt_new {directionality : Directionality} (writable : directionality.writable = true)
    (id : StreamId) (limit : Nat) (t : τ) : Prompt id (new id directionality limit t) where
  stocked := .new id directionality limit
  settled closed := by
    simp [new, LiveStream.new, writable] at closed
  due asked := by cases asked

/-- The end goes out, or the stream was stopped, once nothing waits any more. -/
theorem Prompt.finSent (prompt : Prompt id o) (asked : o.stream.EndAsked)
    (nothing : o.stream.pending = []) : o.stopped = true ∨ FinSent id o := by
  obtain closed | asked := asked
  · exact prompt.settled closed
  · exact prompt.settled (prompt.due asked nothing)

variable [Transport τ]

/-- If a flush closes the write side, the stream was stopped or its end went out. -/
theorem settled_flush (named : o.stream.id = id) (chunks : ∀ chunk ∈ o.stream.pending, chunk ≠ [])
    (open_ : o.stream.writeClosed = false) (closed : o.flush.stream.writeClosed = true) :
    o.flush.stopped = true ∨ FinSent id o.flush := by
  obtain ⟨p, made, poured, ways⟩ := LiveStream.flush_cases o.transport open_ chunks
  have flushed : o.flush = { o with
    stream := (o.stream.flush o.transport).2.1
    transport := (o.stream.flush o.transport).2.2 } := rfl
  rw [flushed] at closed ⊢
  obtain ⟨broken, eq⟩ | ⟨-, -, -, eq⟩ | ⟨-, eq⟩ := ways
  · rw [eq]
    refine .inl ?_
    show (o.told || p.transport.calls.any Call.stops) = true
    rw [poured.calls, List.any_append, ← poured.broken, broken, Bool.or_true, Bool.or_true]
  · obtain ⟨answer, calls⟩ := LiveStream.calls_sendFin
      { o.stream with pending := p.pending, buffered := p.buffered } p.transport
    rw [eq]
    refine .inr ⟨answer, ?_⟩
    show _ ∈ (LiveStream.sendFin _ p.transport).2.calls
    rw [calls, named]
    exact List.mem_append_right _ (List.mem_singleton_self _)
  · rw [eq] at closed
    exact absurd (open_.symm.trans closed) Bool.false_ne_true

/-- A flush makes up for an end that was asked for while nothing waited. -/
theorem prompt_flush (h : Balanced id o) (stocked : o.stream.Stocked)
    (settled : o.stream.writeClosed = true → o.stopped = true ∨ FinSent id o) : Prompt id o.flush := by
  refine ⟨stocked.flush o.transport, fun closed => ?_, LiveStream.closed_flush⟩
  cases open_ : o.stream.writeClosed with
  | true =>
    rw [flush_of_closed open_]
    exact settled open_
  | false => exact settled_flush h.named h.chunks open_ closed

theorem Prompt.step (h : Balanced id o) (prompt : Prompt id o) (x : Sending τ) :
    Prompt id (o.step x) := by
  cases x with
  | write data fin =>
    cases taken : o.stream.enqueue? data fin with
    | none =>
      rw [step_write_of_none taken]
      exact prompt
    | some s =>
      rw [step_write_of_some taken]
      have open_ := (LiveStream.enqueue_cases taken).2.2.1
      refine prompt_flush (h.accept taken) (prompt.stocked.enqueue taken) fun closed => ?_
      exact absurd (open_.symm.trans closed) Bool.false_ne_true
  | flush => exact prompt_flush h prompt.stocked prompt.settled
  | close =>
    unfold Outbox.step LiveStream.close
    dsimp only
    split
    · exact ⟨prompt.stocked, prompt.settled, prompt.due⟩
    · rename_i unasked
      have open_ : o.stream.writeClosed = false := by
        rw [Bool.or_eq_true, not_or, Bool.not_eq_true] at unasked
        exact unasked.1
      refine prompt_flush (h.ask open_) ⟨prompt.stocked.counted, prompt.stocked.within⟩ fun closed => ?_
      exact absurd (open_.symm.trans closed) Bool.false_ne_true
  | stopped => exact ⟨.abandonWrites _, fun _ => .inl rfl, fun _ _ => rfl⟩
  | acknowledged => exact ⟨⟨prompt.stocked.counted, prompt.stocked.within⟩, prompt.settled, prompt.due⟩
  | transport t => exact ⟨prompt.stocked, prompt.settled, prompt.due⟩

theorem Prompt.run (h : Balanced id o) (prompt : Prompt id o) (happened : List (Sending τ)) :
    Prompt id (o.run happened) := by
  induction happened generalizing o with
  | nil => exact prompt
  | cons x happened ih => exact ih (h.step x) (prompt.step h x)

/-- A write with the end is refused, although its answer counts all its bytes, if it has none and the
buffer is full; otherwise such an answer means that the end was asked for. From then on it stays asked
for, and once nothing waits it went out or the stream was stopped. -/
theorem end_asked_unless_full {directionality : Directionality}
    (writable : directionality.writable = true) (id : StreamId) (limit : Nat) (t : τ)
    (before : List (Sending τ)) (data : Bytes) :
    let o := (new id directionality limit t).run before
    let o' := o.step (.write data true)
    (o.stream.write data true o.transport).1 = data.length →
      (o'.stream.EndAsked ↔ ¬ (data = [] ∧ o.stream.Full)) ∧
      (o'.stream.EndAsked → ∀ after, (o'.run after).stream.EndAsked ∧
        ((o'.run after).stream.pending = [] →
          (o'.run after).stopped = true ∨ FinSent id (o'.run after))) := by
  intro o o' whole
  have balanced : Balanced id o := (balanced_new id directionality limit t).run before
  have prompt : Prompt id o := (prompt_new writable id limit t).run (balanced_new ..) before
  constructor
  · cases taken : o.stream.enqueue? data true with
    | some s =>
      have asked := (LiveStream.enqueue_cases taken).2.2.2.1
      have ended : o'.stream.EndAsked := by
        rw [show o' = _ from step_write_of_some taken]
        exact LiveStream.barred_flush (.inr asked) o.transport
      refine ⟨fun _ full => ?_, fun _ => ended⟩
      have able := LiveStream.canWrite_of_enqueue taken
      exact (prompt.stocked.canWrite_iff full.2.1).1 able full.2
    | none =>
      have nothing : data = [] := by
        unfold LiveStream.write at whole
        rw [taken] at whole
        exact List.eq_nil_of_length_eq_zero whole.symm
      rw [show o' = o from step_write_of_none taken]
      refine ⟨fun asked full => full.2.1 asked, fun other => Classical.byContradiction fun unasked => ?_⟩
      have able := (prompt.stocked.canWrite_iff unasked).2 fun full => other ⟨nothing, full⟩
      have within := prompt.stocked.within
      rw [nothing] at taken
      simp [LiveStream.enqueue?, able] at taken
      omega
  · intro asked after
    have asked' := (barred_run asked after).2
    exact ⟨asked', ((prompt.step balanced _).run (balanced.step _) after).finSent asked'⟩

/-- A single byte, written where there is room for it. -/
theorem end_asked_unless_full_single :
    let o := new (.of .server .bi 0) .bidirectional 4 Scenario.unmadeConnection
    (o.stream.write [3] true o.transport).1 = 1 ∧ (o.step (.write [3] true)).stream.EndAsked := by
  intro o
  have whole : (o.stream.write [3] true o.transport).1 = 1 := rfl
  have writable : Directionality.bidirectional.writable = true := rfl
  have asked := (end_asked_unless_full writable (.of .server .bi 0) 4 Scenario.unmadeConnection
    [] [3] whole).1
  exact ⟨whole, asked.2 fun full => by cases full.1⟩

/-- With four bytes waiting where four may wait, a write of nothing counts all its bytes and does not
ask for the end. Closing the stream would ask for it. -/
theorem full_buffer_drops_end :
    let o := (new (.of .server .bi 0) .bidirectional 4 Scenario.unmadeConnection).run
      [.write [1, 2, 3, 4] false]
    (o.stream.write [] true o.transport).1 = ([] : Bytes).length ∧
      ¬ (o.step (.write [] true)).stream.EndAsked ∧ (o.step .close).stream.EndAsked := by
  intro o
  have filled : o.stream = { LiveStream.new (.of .server .bi 0) .bidirectional 4 with
      pending := [[1, 2, 3, 4]], buffered := 4 } := by
    show (LiveStream.flush _ _).2.1 = _
    rw [LiveStream.flush_of_blocked rfl rfl rfl]
    rfl
  have refused : o.stream.enqueue? [] true = none := by
    rw [filled]
    rfl
  have unasked : ¬ o.stream.EndAsked := by
    rw [filled]
    simp [LiveStream.EndAsked, LiveStream.new, Directionality.writable]
  refine ⟨?_, ?_, ?_⟩
  · unfold LiveStream.write
    rw [refused]
    rfl
  · rw [step_write_of_none refused]
    exact unasked
  · have closing : (o.step .close).stream = ({ o.stream with finAsked := true }.flush o.transport).2.1 := by
      show (o.stream.close o.transport).1 = _
      unfold LiveStream.close
      rw [filled]
      rfl
    rw [closing]
    exact LiveStream.barred_flush (.inr rfl) _

end Outbox

end QuicSessions
