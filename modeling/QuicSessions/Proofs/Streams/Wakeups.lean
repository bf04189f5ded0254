import QuicSessions.Proofs.Streams.Counting
import QuicSessions.Proofs.Streams.Endings
import QuicSessions.Proofs.Streams.Receiving

/-!
# Who wakes a stream that waits

Nothing waits on a stream without a reason that goes away by itself. Bytes wait because the last write found no
room, and then the transport reports when there is some; the end waits behind bytes; and whoever was refused
room for bytes that fit in the buffer was refused because of bytes that wait. This holds whatever is done with
the stream, reading included, and whatever the transport answers.
-/

set_option autoImplicit false

namespace QuicSessions

variable {τ : Type}

/-! ## The last write -/

/-- Whether bytes were offered in the call. -/
def Call.isWrite : Call → Bool
  | .offered .. => true
  | .refused .. => true
  | _ => false

def lastWrite? (calls : List Call) : Option Call := (calls.filter Call.isWrite).getLast?

theorem lastWrite?_concat (calls : List Call) {c : Call} (writes : c.isWrite = true) :
    lastWrite? (calls ++ [c]) = some c := by
  unfold lastWrite?
  rw [List.filter_append, List.filter_cons_of_pos writes, List.filter_nil, List.getLast?_concat]

theorem lastWrite?_append (calls : List Call) {more : List Call}
    (silent : ∀ c ∈ more, c.isWrite = false) : lastWrite? (calls ++ more) = lastWrite? calls := by
  have none_ : more.filter Call.isWrite = [] :=
    List.filter_eq_nil_iff.2 fun c mem writes => Bool.false_ne_true ((silent c mem).symm.trans writes)
  unfold lastWrite?
  rw [List.filter_append, none_, List.append_nil]

namespace LiveStream

/-- If bytes wait, the last write offered the first of them and found no room. -/
def Owed (s : LiveStream) (r : Recorder τ) : Prop :=
  ∀ chunk rest, s.pending = chunk :: rest → lastWrite? r.calls = some (.offered s.id chunk 0)

theorem owed_of_nothing {s : LiveStream} (nothing : s.pending = []) (r : Recorder τ) : s.Owed r := by
  intro chunk rest waits
  cases nothing.symm.trans waits

variable [Transport τ]

/-- Handing over ends before the last chunk only if there is no room for the next one. -/
theorem blocked_pour (id : StreamId) (pending : List Bytes) (buffered : Nat) (t : τ) {chunk : Bytes}
    {rest : List Bytes} (whole : (pour id pending buffered t).broken = false)
    (left : (pour id pending buffered t).pending = chunk :: rest) :
    ∃ t', Transport.write id chunk t' = (.blocked, (pour id pending buffered t).transport) := by
  fun_induction pour id pending buffered t with
  | case1 buffered t => cases left
  | case2 first others buffered t t' pos le written ih => exact ih whole left
  | case3 first others buffered t taken pos le t' written part ih => exact ih whole left
  | case4 first others buffered t t' written =>
    obtain ⟨rfl, rfl⟩ := List.cons.inj left
    exact ⟨t, written⟩
  | case5 first others buffered t code t' written => cases whole
  | case6 first others buffered t t' written => cases whole

/-- What a flush leaves behind is left because the transport had no room for it. -/
theorem blocked_flush {s : LiveStream} (cleared : s.Cleared) (t : τ) {chunk : Bytes} {rest : List Bytes}
    (left : (s.flush t).2.1.pending = chunk :: rest) :
    ∃ t', Transport.write s.id chunk t' = (.blocked, (s.flush t).2.2) := by
  unfold flush at left ⊢
  split at left
  · rename_i closed
    cases (cleared closed).symm.trans left
  · rename_i open_
    rw [if_neg open_]
    dsimp only at left ⊢
    split at left
    · cases left
    · rename_i whole
      rw [if_neg whole]
      split at left
      · rename_i ending
        have nothing := List.isEmpty_iff.1 (Bool.and_eq_true_iff.1 ending).1
        cases (pending_sendFin _ _ nothing).symm.trans left
      · rename_i unended
        rw [if_neg unended]
        exact blocked_pour _ _ _ t (by simpa using whole) left

/-- No chunk that waits is empty, before a flush and after it. -/
theorem chunks_flush {s : LiveStream} (r : Recorder τ) (chunks : ∀ chunk ∈ s.pending, chunk ≠ []) :
    ∀ chunk ∈ (s.flush r).2.1.pending, chunk ≠ [] := by
  cases open_ : s.writeClosed with
  | true =>
    unfold flush
    rw [if_pos open_]
    exact chunks
  | false =>
    obtain ⟨p, made, poured, ways⟩ := flush_cases r open_ chunks
    obtain ⟨-, eq⟩ | ⟨-, nothing, -, eq⟩ | ⟨-, eq⟩ := ways
    · rw [eq]
      exact List.forall_mem_nil _
    · rw [eq, pending_sendFin _ _ nothing]
      exact List.forall_mem_nil _
    · rw [eq]
      exact poured.chunks

theorem owed_flush {s : LiveStream} (cleared : s.Cleared) (r : Recorder τ) :
    (s.flush r).2.1.Owed (s.flush r).2.2 := by
  intro chunk rest left
  obtain ⟨r', blocked⟩ := blocked_flush cleared r left
  rw [Recorder.calls_write blocked, (sendingOnly_flush s r).id]
  exact lastWrite?_concat r'.calls rfl

/-! ## What reading leaves alone -/

omit [Transport τ] in
/-- Two states of one stream: no more than its read side and its visitor differ. -/
structure SendsAlike (s s' : LiveStream) : Prop where
  id : s'.id = s.id
  limit : s'.limit = s.limit
  pending : s'.pending = s.pending
  buffered : s'.buffered = s.buffered
  finAsked : s'.finAsked = s.finAsked
  writeClosed : s'.writeClosed = s.writeClosed

theorem sendsAlike_readUpTo (s : LiveStream) (limit : Nat) (t : τ) :
    SendsAlike s (s.readUpTo limit t).2.1 := by
  unfold readUpTo
  split
  · exact ⟨rfl, rfl, rfl, rfl, rfl, rfl⟩
  · split <;> exact ⟨rfl, rfl, rfl, rfl, rfl, rfl⟩

omit [Transport τ] in
theorem sendsAlike_takeFin (s : LiveStream) : SendsAlike s s.takeFin.2 := by
  unfold takeFin
  split <;> exact ⟨rfl, rfl, rfl, rfl, rfl, rfl⟩

omit [Transport τ] in
theorem Kept.alike {s s' : LiveStream} {limit : Nat} (kept : s.Kept limit) (alike : SendsAlike s s') :
    s'.Kept limit where
  stocked := ⟨by rw [alike.buffered, alike.pending, kept.stocked.counted],
    by rw [alike.buffered, alike.limit]; exact kept.stocked.within⟩
  cleared closed := alike.pending.trans (kept.cleared (alike.writeClosed.symm.trans closed))
  limit := alike.limit.trans kept.limit

/-- A stream that does not take a payload which fits in its buffer is at its end, or bytes wait on it. -/
theorem Kept.waits_of_refused {s : LiveStream} {limit : Nat} (kept : s.Kept limit) {data : Bytes}
    {fin : Bool} {t : τ} (fits : data.length ≤ limit) (refused : (s.write data fin t).1 ≠ data.length) :
    s.EndAsked ∨ s.pending ≠ [] := by
  refine Classical.or_iff_not_imp_left.2 fun unasked nothing => refused ?_
  cases taken : s.enqueue? data fin with
  | some s' => rw [write_of_enqueued taken]
  | none =>
    rw [write_of_refused taken]
    refine (Nat.eq_zero_of_not_pos fun some_ => ?_).symm
    -- with nothing waiting there is room for all of the payload
    have none_counted : s.buffered = 0 := by rw [kept.stocked.counted, nothing]; rfl
    have same := kept.limit
    have able : s.canWrite = true := by
      rw [kept.stocked.canWrite_iff unasked]
      rintro ⟨-, full⟩
      rw [← kept.stocked.counted] at full
      omega
    have room := (enqueue_isSome_iff s data fin).2 ⟨able, by omega⟩
    rw [taken] at room
    cases room

end LiveStream

/-! ## Streams in use -/

namespace Outbox

variable [Transport τ] {id : StreamId} {limit : Nat} {o : Outbox τ}

/-- The outbox after anything that happens to its stream. -/
def handle (o : Outbox τ) : Handling τ → Outbox τ
  | .read limit =>
    let r := o.stream.readUpTo limit o.transport
    { o with stream := r.2.1, transport := r.2.2 }
  | .takeFin => { o with stream := o.stream.takeFin.2 }
  | .visit v => { o with stream := { o.stream with visitor := some v } }
  | .write data fin => o.step (.write data fin)
  | .flush => o.step .flush
  | .close => o.step .close
  | .stopped => o.step .stopped
  | .acknowledged => o.step .acknowledged
  | .transport t => o.step (.transport t)

def handleAll (o : Outbox τ) (happened : List (Handling τ)) : Outbox τ := happened.foldl handle o

omit [Transport τ] in
/-- Whatever waits is waited for: bytes by the transport, and an end that was asked for by bytes. An end that
no longer waits went out, unless the stream was stopped. -/
structure Attended (id : StreamId) (limit : Nat) (o : Outbox τ) : Prop where
  named : o.stream.id = id
  kept : o.stream.Kept limit
  chunks : ∀ chunk ∈ o.stream.pending, chunk ≠ []
  owed : o.stream.Owed o.transport
  due : o.stream.finAsked = true → o.stream.pending = [] → o.stream.writeClosed = true
  settled : o.stream.finAsked = true → o.stream.writeClosed = true → o.stopped = true ∨ FinSent id o

omit [Transport τ] in
theorem attended_new (id : StreamId) (directionality : Directionality) (limit : Nat) (t : τ) :
    Attended id limit (new id directionality limit t) where
  named := rfl
  kept := .new id directionality limit
  chunks := List.forall_mem_nil _
  owed := LiveStream.owed_of_nothing rfl _
  due asked := by cases asked
  settled asked := by cases asked

/-- A flush of an open stream hands over what waits, and then the end if it was asked for. -/
theorem attended_flush (named : o.stream.id = id) (kept : o.stream.Kept limit)
    (chunks : ∀ chunk ∈ o.stream.pending, chunk ≠ []) (open_ : o.stream.writeClosed = false) :
    Attended id limit o.flush where
  named := (LiveStream.sendingOnly_flush o.stream o.transport).id.trans named
  kept := kept.flush o.transport
  chunks := LiveStream.chunks_flush o.transport chunks
  owed := LiveStream.owed_flush kept.cleared o.transport
  due := LiveStream.closed_flush
  settled _ closed := settled_flush named chunks open_ closed

namespace Attended

theorem flush (h : Attended id limit o) : Attended id limit o.flush := by
  cases closed : o.stream.writeClosed with
  | true =>
    rw [flush_of_closed closed]
    exact h
  | false => exact attended_flush h.named h.kept h.chunks closed

theorem step (h : Attended id limit o) (x : Sending τ) : Attended id limit (o.step x) := by
  cases x with
  | write data fin =>
    cases taken : o.stream.enqueue? data fin with
    | none =>
      rw [step_write_of_none taken]
      exact h
    | some s =>
      obtain ⟨-, -, open_, -, chunks, -⟩ := LiveStream.enqueue_cases taken
      rw [step_write_of_some taken]
      exact attended_flush ((LiveStream.sendingOnly_enqueue taken).id.trans h.named)
        (h.kept.enqueue taken) (fun chunk mem => (chunks chunk mem).elim (h.chunks chunk) fun ne => ne) open_
  | flush => exact h.flush
  | close =>
    cases asked : o.stream.closing? with
    | none =>
      rw [step_close_of_late asked]
      exact ⟨h.named, h.kept, h.chunks, h.owed, h.due, h.settled⟩
    | some s =>
      have open_ := LiveStream.open_of_closing asked
      have kept := h.kept.closing asked
      rw [step_close_of_closing asked]
      obtain rfl := LiveStream.closing_eq asked
      exact attended_flush h.named kept h.chunks open_
  | stopped =>
    exact ⟨h.named, h.kept.abandonWrites, List.forall_mem_nil _, LiveStream.owed_of_nothing rfl _,
      fun _ _ => rfl, fun _ _ => .inl rfl⟩
  | acknowledged =>
    exact ⟨h.named, h.kept.acknowledged, h.chunks, h.owed, h.due, h.settled⟩
  | transport t => exact ⟨h.named, h.kept, h.chunks, h.owed, h.due, h.settled⟩

omit [Transport τ] in
/-- What reads, or changes the visitor, makes no write and leaves the write side alone. -/
theorem alike (h : Attended id limit o) {s : LiveStream} {r : Recorder τ}
    (alike : LiveStream.SendsAlike o.stream s) {more : List Call} (calls : r.calls = o.transport.calls ++ more)
    (silent : ∀ c ∈ more, c.isWrite = false) :
    Attended id limit { o with stream := s, transport := r } where
  named := alike.id.trans h.named
  kept := h.kept.alike alike
  chunks := by rw [alike.pending]; exact h.chunks
  owed chunk rest waits := by
    rw [calls, lastWrite?_append _ silent, alike.id]
    exact h.owed chunk rest (alike.pending.symm.trans waits)
  due asked nothing := alike.writeClosed.trans
    (h.due (alike.finAsked.symm.trans asked) (alike.pending.symm.trans nothing))
  settled asked closed := by
    obtain stopped | ⟨answer, sent⟩ :=
      h.settled (alike.finAsked.symm.trans asked) (alike.writeClosed.symm.trans closed)
    · refine .inl ?_
      obtain told | stops := Bool.or_eq_true_iff.1 stopped
      · exact Bool.or_eq_true_iff.2 (.inl told)
      · refine Bool.or_eq_true_iff.2 (.inr ?_)
        rw [calls, List.any_append, stops, Bool.true_or]
    · exact .inr ⟨answer, by rw [calls]; exact List.mem_append_left _ sent⟩

theorem handle (h : Attended id limit o) (x : Handling τ) : Attended id limit (o.handle x) := by
  cases x with
  | read n =>
    refine h.alike (LiveStream.sendsAlike_readUpTo o.stream n o.transport)
      (LiveStream.calls_readUpTo o.stream n o.transport) fun c mem => ?_
    obtain ⟨bytes, -, rfl⟩ := List.mem_map.1 mem
    rfl
  | takeFin =>
    exact h.alike (LiveStream.sendsAlike_takeFin o.stream) (List.append_nil _).symm (List.forall_mem_nil _)
  | visit v =>
    exact h.alike ⟨rfl, rfl, rfl, rfl, rfl, rfl⟩ (List.append_nil _).symm (List.forall_mem_nil _)
  | write data fin => exact h.step (.write data fin)
  | flush => exact h.step .flush
  | close => exact h.step .close
  | stopped => exact h.step .stopped
  | acknowledged => exact h.step .acknowledged
  | transport t => exact h.step (.transport t)

theorem handleAll (happened : List (Handling τ)) {o : Outbox τ} (h : Attended id limit o) :
    Attended id limit (o.handleAll happened) := by
  induction happened generalizing o with
  | nil => exact h
  | cons x happened ih => exact ih (h.handle x)

end Attended

end Outbox

end QuicSessions
