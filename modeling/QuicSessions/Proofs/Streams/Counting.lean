import QuicSessions.Proofs.Streams.Buffering

/-!
# The count of waiting bytes

The bytes that wait on a stream are counted apart from the chunks that hold them. A write is measured by
the count, and what the transport takes is subtracted from it. The count agrees with the chunks in every
state that a stream comes to, so a subtraction never falls short.
-/

set_option autoImplicit false

namespace QuicSessions

namespace LiveStream

variable {τ : Type}

/-! ## Subtracting what was taken -/

/-- `pour` with a count that cannot go below zero: there is no result if more bytes are taken than are
counted. -/
def pour? [Transport τ] (id : StreamId) : (pending : List Bytes) → (buffered : Nat) → τ → Option (Pour τ)
  | [], buffered, t => some ⟨[], buffered, false, t⟩
  | chunk :: rest, buffered, t =>
    match Transport.write id chunk t with
    | (.accepted taken _ _, t') =>
      if buffered < taken then none
      else if taken = chunk.length then pour? id rest (buffered - taken) t'
      else pour? id (chunk.drop taken :: rest) (buffered - taken) t'
    | (.blocked, t') => some ⟨chunk :: rest, buffered, false, t'⟩
    | (.stopped _, t') => some ⟨chunk :: rest, buffered, true, t'⟩
    | (.unknown, t') => some ⟨chunk :: rest, buffered, true, t'⟩
termination_by pending => pending.flatten.length
decreasing_by
  · simp only [List.flatten_cons, List.length_append]; omega
  · simp only [List.flatten_cons, List.length_append, List.length_drop]; omega

theorem pour?_of_counted [Transport τ] (id : StreamId) (pending : List Bytes) (buffered : Nat) (t : τ)
    (counted : buffered = pending.flatten.length) :
    pour? id pending buffered t = some (pour id pending buffered t) := by
  fun_induction pour id pending buffered t with
  | case1 buffered t => rw [pour?]
  | case2 chunk rest buffered t t' pos le written ih =>
    have enough : chunk.length ≤ buffered := by simp [counted]
    have counted' : buffered - chunk.length = rest.flatten.length := by simp [counted]
    rw [pour?, written]
    dsimp only
    rw [if_neg (by omega), if_pos rfl]
    exact ih counted'
  | case3 chunk rest buffered t taken pos le t' written part ih =>
    have whole : buffered = chunk.length + rest.flatten.length := by simp [counted]
    have counted' : buffered - taken = (chunk.drop taken :: rest).flatten.length := by
      simp only [List.flatten_cons, List.length_append, List.length_drop]
      omega
    rw [pour?, written]
    dsimp only
    rw [if_neg (by omega), if_neg part]
    exact ih counted'
  | case4 chunk rest buffered t t' written => rw [pour?, written]
  | case5 chunk rest buffered t code t' written => rw [pour?, written]
  | case6 chunk rest buffered t t' written => rw [pour?, written]

/-! ## Write sides that are over -/

/-- Nothing waits on a write side that is over. -/
def Cleared (s : LiveStream) : Prop := s.writeClosed = true → s.pending = []

theorem cleared_new (id : StreamId) (directionality : Directionality) (limit : Nat) :
    (new id directionality limit).Cleared := fun _ => rfl

theorem cleared_flush [Transport τ] {s : LiveStream} (cleared : s.Cleared) (t : τ) :
    (s.flush t).2.1.Cleared := by
  unfold flush
  split
  · exact cleared
  · rename_i open_
    dsimp only
    split
    · intro _
      rfl
    · split
      · rename_i ending
        have nothing := (Bool.and_eq_true_iff.1 ending).1
        intro _
        exact pending_sendFin _ _ (List.isEmpty_iff.1 nothing)
      · intro closed
        exact absurd closed open_

theorem write_of_enqueued [Transport τ] {s s' : LiveStream} {data : Bytes} {fin : Bool}
    (taken : s.enqueue? data fin = some s') (t : τ) :
    s.write data fin t = (data.length, (s'.flush t).2) := by
  unfold write
  rw [taken]

theorem write_of_refused [Transport τ] {s : LiveStream} {data : Bytes} {fin : Bool}
    (refused : s.enqueue? data fin = none) (t : τ) : s.write data fin t = (0, s, t) := by
  unfold write
  rw [refused]

theorem enqueue_isSome_iff (s : LiveStream) (data : Bytes) (fin : Bool) :
    (s.enqueue? data fin).isSome = true ↔
      s.canWrite = true ∧ s.buffered + data.length ≤ s.limit := by
  unfold enqueue?
  cases s.canWrite with
  | false => simp
  | true =>
    by_cases large : s.limit < s.buffered + data.length
    · simp [large]
    · simp [large, Nat.not_lt.1 large]

/-- The stream that a request for its end hands over; none if the request comes too late. -/
def closing? (s : LiveStream) : Option LiveStream :=
  if s.writeClosed || s.finAsked then none else some { s with finAsked := true }

theorem closing_eq {s s' : LiveStream} (asked : s.closing? = some s') :
    s' = { s with finAsked := true } := by
  unfold closing? at asked
  split at asked
  · cases asked
  · exact (Option.some.inj asked).symm

theorem open_of_closing {s s' : LiveStream} (asked : s.closing? = some s') : s.writeClosed = false := by
  unfold closing? at asked
  split at asked
  · cases asked
  · rename_i timely
    rw [Bool.or_eq_true, not_or, Bool.not_eq_true] at timely
    exact timely.1

theorem close_of_closing [Transport τ] {s s' : LiveStream} (asked : s.closing? = some s') (t : τ) :
    s.close t = (s'.flush t).2 := by
  unfold closing? at asked
  split at asked
  · cases asked
  · rename_i timely
    cases asked
    unfold close
    rw [if_neg timely]

theorem close_of_late [Transport τ] {s : LiveStream} (late : s.closing? = none) (t : τ) :
    s.close t = (s, t) := by
  unfold closing? at late
  split at late
  · rename_i finished
    unfold close
    rw [if_pos finished]
  · cases late

/-! ## Streams with a limit -/

structure Kept (limit : Nat) (s : LiveStream) : Prop where
  stocked : s.Stocked
  cleared : s.Cleared
  limit : s.limit = limit

namespace Kept

variable {s s' : LiveStream} {limit : Nat}

theorem new (id : StreamId) (directionality : Directionality) (limit : Nat) :
    (LiveStream.new id directionality limit).Kept limit :=
  ⟨.new id directionality limit, cleared_new id directionality limit, rfl⟩

theorem acknowledged (kept : s.Kept limit) : s.acknowledged.Kept limit :=
  ⟨⟨kept.stocked.counted, kept.stocked.within⟩, kept.cleared, kept.limit⟩

theorem abandonWrites (kept : s.Kept limit) : s.abandonWrites.Kept limit :=
  ⟨.abandonWrites s, fun _ => rfl, kept.limit⟩

theorem enqueue {data : Bytes} {fin : Bool} (kept : s.Kept limit)
    (taken : s.enqueue? data fin = some s') : s'.Kept limit := by
  have open_ := (enqueue_cases taken).2.2.1
  refine ⟨kept.stocked.enqueue taken, ?_, ?_⟩
  · intro closed
    rw [open_] at closed
    cases closed
  · rw [(sendingOnly_enqueue taken).limit, kept.limit]

theorem closing (kept : s.Kept limit) (asked : s.closing? = some s') : s'.Kept limit := by
  obtain rfl := closing_eq asked
  exact ⟨⟨kept.stocked.counted, kept.stocked.within⟩, kept.cleared, kept.limit⟩

theorem flush [Transport τ] (kept : s.Kept limit) (t : τ) : (s.flush t).2.1.Kept limit := by
  refine ⟨kept.stocked.flush t, cleared_flush kept.cleared t, ?_⟩
  rw [(sendingOnly_flush s t).limit, kept.limit]

end Kept

end LiveStream

namespace Outbox

variable {τ : Type} {o : Outbox τ}

/-! ## Every handing over -/

/-- The stream whose chunks are handed over when `x` happens; none if `x` hands nothing over. -/
def handing? (o : Outbox τ) (x : Sending τ) : Option LiveStream :=
  match x with
  | .write data fin => o.stream.enqueue? data fin
  | .flush => some o.stream
  | .close => o.stream.closing?
  | .stopped | .acknowledged | .transport _ => none

theorem kept_handing {limit : Nat} {x : Sending τ} {s : LiveStream} (kept : o.stream.Kept limit)
    (handed : o.handing? x = some s) : s.Kept limit := by
  cases x with
  | write data fin => exact kept.enqueue handed
  | flush =>
    obtain rfl : o.stream = s := Option.some.inj handed
    exact kept
  | close => exact kept.closing handed
  | stopped | acknowledged | transport => cases handed

variable [Transport τ]

theorem step_close_of_late (late : o.stream.closing? = none) : o.step .close = { o with ended := true } := by
  unfold step
  rw [LiveStream.close_of_late late]

theorem step_close_of_closing {s : LiveStream} (asked : o.stream.closing? = some s) :
    o.step .close = { o with stream := s, ended := true }.flush := by
  unfold step flush
  rw [LiveStream.close_of_closing asked]

theorem step_of_handing {x : Sending τ} {s : LiveStream} (handed : o.handing? x = some s) :
    ((o.step x).stream, (o.step x).transport) = (s.flush o.transport).2 := by
  cases x with
  | write data fin =>
    have taken : o.stream.enqueue? data fin = some s := handed
    rw [step_write_of_some taken]
    rfl
  | flush =>
    obtain rfl : o.stream = s := Option.some.inj handed
    rfl
  | close =>
    rw [step_close_of_closing handed]
    rfl
  | stopped | acknowledged | transport => cases handed

theorem calls_of_not_handing {x : Sending τ} (idle : o.handing? x = none) :
    (o.step x).transport.calls = o.transport.calls := by
  cases x with
  | write data fin => rw [step_write_of_none idle]
  | flush => cases idle
  | close => rw [step_close_of_late idle]
  | stopped | acknowledged | transport => rfl

/-! ## Runs -/

theorem kept_step {limit : Nat} (kept : o.stream.Kept limit) (x : Sending τ) :
    (o.step x).stream.Kept limit := by
  cases handed : o.handing? x with
  | some s =>
    -- Whoever hands over, it is the flush of a stream that kept its account.
    have flushed := (kept_handing kept handed).flush o.transport
    rw [← step_of_handing handed] at flushed
    exact flushed
  | none =>
    cases x with
    | write data fin =>
      rw [step_write_of_none handed]
      exact kept
    | flush => cases handed
    | close =>
      rw [step_close_of_late handed]
      exact kept
    | stopped => exact kept.abandonWrites
    | acknowledged => exact kept.acknowledged
    | transport => exact kept

theorem kept_run {limit : Nat} (happened : List (Sending τ)) :
    ∀ {o : Outbox τ}, o.stream.Kept limit → (o.run happened).stream.Kept limit := by
  induction happened with
  | nil => exact id
  | cons x happened ih =>
    intro o kept
    exact ih (kept_step kept x)

/-- After any run the count is the length of all chunks together, which have bytes, and not more than may wait.
Nothing waits once the write side is over. Whatever hands chunks over next subtracts no more than is
counted, and whatever does not makes no call. A write counts all of its bytes, or it is refused and
leaves stream and transport as they were. -/
theorem count_agrees_with_chunks (id : StreamId) (directionality : Directionality) (limit : Nat) (t : τ)
    (before : List (Sending τ)) :
    let o := (new id directionality limit t).run before
    (o.stream.buffered = o.stream.pending.flatten.length ∧
      (∀ chunk ∈ o.stream.pending, chunk ≠ []) ∧
      o.stream.limit = limit ∧ o.stream.buffered ≤ limit ∧
      (o.stream.writeClosed = true → o.stream.pending = [])) ∧
    (∀ x s, o.handing? x = some s →
      ((o.step x).stream, (o.step x).transport) = (s.flush o.transport).2 ∧
        LiveStream.pour? s.id s.pending s.buffered o.transport =
          some (LiveStream.pour s.id s.pending s.buffered o.transport)) ∧
    (∀ x, o.handing? x = none → (o.step x).transport.calls = o.transport.calls) ∧
    ∀ data fin,
      (o.stream.canWrite = true ∧ o.stream.buffered + data.length ≤ limit →
        (o.stream.write data fin o.transport).1 = data.length) ∧
      (¬ (o.stream.canWrite = true ∧ o.stream.buffered + data.length ≤ limit) →
        o.stream.write data fin o.transport = (0, o.stream, o.transport)) := by
  intro o
  have balanced : Balanced id o := (balanced_new id directionality limit t).run before
  have kept : o.stream.Kept limit := kept_run before (.new id directionality limit)
  refine ⟨⟨kept.stocked.counted, balanced.chunks, kept.limit, ?_, kept.cleared⟩, ?_,
    fun x idle => calls_of_not_handing idle, ?_⟩
  · rw [← kept.limit]
    exact kept.stocked.within
  · intro x s handed
    have counted := (kept_handing kept handed).stocked.counted
    exact ⟨step_of_handing handed, LiveStream.pour?_of_counted _ _ _ _ counted⟩
  · intro data fin
    have taken_iff := LiveStream.enqueue_isSome_iff o.stream data fin
    rw [kept.limit] at taken_iff
    rw [← taken_iff]
    constructor
    · intro taken
      obtain ⟨s, taken⟩ := Option.isSome_iff_exists.1 taken
      rw [LiveStream.write_of_enqueued taken]
    · intro refused
      exact LiveStream.write_of_refused (Option.not_isSome_iff_eq_none.1 refused) _

end Outbox

end QuicSessions
