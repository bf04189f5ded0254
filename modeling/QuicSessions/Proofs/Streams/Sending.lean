import QuicSessions.Proofs.Streams.Identity
import QuicSessions.Proofs.Streams.Recorder

/-!
# What becomes of the bytes that a stream accepts

A payload is accepted whole or not at all. Whatever the transport answers, the accepted payloads are,
in order, what the transport took and then what still waits, until the stream is stopped. The end
goes out once and after everything else, and nothing is accepted after it was asked for.
-/

set_option autoImplicit false

namespace QuicSessions

namespace LiveStream

variable {τ : Type}

/-! ## Accepting a payload -/

theorem enqueue_cases {s s' : LiveStream} {data : Bytes} {fin : Bool}
    (h : s.enqueue? data fin = some s') :
    s.writeClosed = false ∧ s.finAsked = false ∧ s'.writeClosed = false ∧ s'.finAsked = fin ∧
      (∀ chunk ∈ s'.pending, chunk ∈ s.pending ∨ chunk ≠ []) ∧
      s'.pending.flatten = s.pending.flatten ++ data := by
  unfold enqueue? at h
  split at h
  · cases h
  · rename_i able
    split at h
    · cases h
    · have open_ : (s.writeClosed = false ∧ s.finAsked = false) ∧ s.buffered < s.limit := by
        simpa [canWrite] using able
      cases h
      cases data with
      | nil => cases fin <;> simp +contextual [open_.1]
      | cons byte data =>
        cases fin <;> simp +contextual [open_.1, or_imp]

theorem enqueue_of_barred {s : LiveStream} (barred : s.writeClosed = true ∨ s.finAsked = true)
    (data : Bytes) (fin : Bool) : s.enqueue? data fin = none := by
  have unable : s.canWrite = false := by
    obtain barred | barred := barred <;> simp [canWrite, barred]
  simp [enqueue?, unable]

/-! ## Handing over the waiting chunks -/

/-- An offer of at least one byte of the stream `id`. -/
def Offers (id : StreamId) (c : Call) : Prop :=
  ∃ data, data ≠ [] ∧ ((∃ taken, c = .offered id data taken) ∨ c = .refused id data)

theorem offers_ofWrite (id : StreamId) {data : Bytes} (some_ : data ≠ [])
    (answer : WriteAnswer data.length) : Offers id (.ofWrite id data answer) := by
  refine ⟨data, some_, ?_⟩
  cases answer with
  | accepted taken pos le => exact .inl ⟨taken, rfl⟩
  | blocked => exact .inl ⟨0, rfl⟩
  | stopped code => exact .inr rfl
  | unknown => exact .inr rfl

/-- What handing over chunks did, in the calls it made. -/
structure Poured (id : StreamId) (pending : List Bytes) (r : Recorder τ) (p : Pour (Recorder τ))
    (made : List Call) : Prop where
  calls : p.transport.calls = r.calls ++ made
  offers : ∀ c ∈ made, Offers id c
  bytes : sent made ++ p.pending.flatten = pending.flatten
  chunks : ∀ chunk ∈ p.pending, chunk ≠ []
  broken : p.broken = made.any Call.stops

namespace Poured

variable {id : StreamId} {pending : List Bytes} {r r' : Recorder τ} {c : Call}

/-- A call that took nothing was the last one. -/
theorem last (buffered : Nat) (chunks : ∀ chunk ∈ pending, chunk ≠ [])
    (calls : r'.calls = r.calls ++ [c]) (offers : Offers id c) (nothing : c.taken = []) :
    Poured id pending r ⟨pending, buffered, c.stops, r'⟩ [c] where
  calls := calls
  offers := by simpa using offers
  bytes := by simp [sent, nothing]
  chunks := chunks
  broken := by simp

/-- A call that took something, and then the rest. -/
theorem cons {rest : List Bytes} {p : Pour (Recorder τ)} {made : List Call}
    (calls : r'.calls = r.calls ++ [c]) (offers : Offers id c)
    (bytes : c.taken ++ rest.flatten = pending.flatten) (open_ : c.stops = false)
    (h : Poured id rest r' p made) : Poured id pending r p (c :: made) where
  calls := by rw [h.calls, calls, List.append_assoc, List.singleton_append]
  offers := by
    intro x hx
    obtain rfl | hx := List.mem_cons.1 hx
    · exact offers
    · exact h.offers x hx
  bytes := by
    rw [← bytes, ← h.bytes, ← List.append_assoc]
    rfl
  chunks := h.chunks
  broken := by rw [h.broken, List.any_cons, open_, Bool.false_or]

end Poured

variable [Transport τ]

theorem poured (id : StreamId) (pending : List Bytes) (buffered : Nat) (r : Recorder τ)
    (chunks : ∀ chunk ∈ pending, chunk ≠ []) :
    ∃ made, Poured id pending r (pour id pending buffered r) made := by
  fun_induction pour id pending buffered r with
  | case1 buffered r => exact ⟨[], by simp, by simp, rfl, chunks, rfl⟩
  | case2 chunk rest buffered r t pos le h ih =>
    obtain ⟨chunk_ne, rest_ne⟩ := List.forall_mem_cons.1 chunks
    obtain ⟨made, h'⟩ := ih rest_ne
    refine ⟨_, .cons (Recorder.calls_write h) (offers_ofWrite id chunk_ne _) ?_ rfl h'⟩
    show chunk.take chunk.length ++ rest.flatten = (chunk :: rest).flatten
    rw [List.take_length, List.flatten_cons]
  | case3 chunk rest buffered r taken pos le t h part ih =>
    obtain ⟨chunk_ne, rest_ne⟩ := List.forall_mem_cons.1 chunks
    have left_ne : chunk.drop taken ≠ [] := by
      rw [Ne, List.drop_eq_nil_iff]
      omega
    obtain ⟨made, h'⟩ := ih (List.forall_mem_cons.2 ⟨left_ne, rest_ne⟩)
    refine ⟨_, .cons (Recorder.calls_write h) (offers_ofWrite id chunk_ne _) ?_ rfl h'⟩
    show chunk.take taken ++ (chunk.drop taken :: rest).flatten = (chunk :: rest).flatten
    rw [List.flatten_cons, ← List.append_assoc, List.take_append_drop, List.flatten_cons]
  | case4 chunk rest buffered r t h =>
    have chunk_ne := (List.forall_mem_cons.1 chunks).1
    exact ⟨_, .last buffered chunks (Recorder.calls_write h) (offers_ofWrite id chunk_ne _) rfl⟩
  | case5 chunk rest buffered r code t h =>
    have chunk_ne := (List.forall_mem_cons.1 chunks).1
    exact ⟨_, .last buffered chunks (Recorder.calls_write h) (offers_ofWrite id chunk_ne _) rfl⟩
  | case6 chunk rest buffered r t h =>
    have chunk_ne := (List.forall_mem_cons.1 chunks).1
    exact ⟨_, .last buffered chunks (Recorder.calls_write h) (offers_ofWrite id chunk_ne _) rfl⟩

/-- What a flush of an open stream did: handing over broke off because nothing more can be sent, or it
was followed by the end of the stream, or it was not. -/
theorem flush_cases {s : LiveStream} (r : Recorder τ) (open_ : s.writeClosed = false)
    (chunks : ∀ chunk ∈ s.pending, chunk ≠ []) :
    ∃ p made, Poured s.id s.pending r p made ∧
      ((p.broken = true ∧
          (s.flush r).2 = ({ s with pending := p.pending, buffered := p.buffered }.abandonWrites,
            p.transport)) ∨
        (p.broken = false ∧ p.pending = [] ∧ s.finAsked = true ∧
          (s.flush r).2 = { s with pending := p.pending, buffered := p.buffered }.sendFin p.transport) ∨
        (p.broken = false ∧
          (s.flush r).2 = ({ s with pending := p.pending, buffered := p.buffered }, p.transport))) := by
  obtain ⟨made, h⟩ := poured s.id s.pending s.buffered r chunks
  refine ⟨_, made, h, ?_⟩
  unfold flush
  rw [if_neg (by simp [open_])]
  dsimp only
  split
  · rename_i broken
    exact .inl ⟨broken, rfl⟩
  · rename_i whole
    have whole : (pour s.id s.pending s.buffered r).broken = false := by simpa using whole
    split
    · rename_i ending
      rw [Bool.and_eq_true, List.isEmpty_iff] at ending
      exact .inr (.inl ⟨whole, ending.1, ending.2, rfl⟩)
    · exact .inr (.inr ⟨whole, rfl⟩)

/-! ## The end of the stream -/

theorem calls_sendFin (s : LiveStream) (r : Recorder τ) :
    ∃ answer, (s.sendFin r).2.calls = r.calls ++ [.finish s.id answer] := by
  refine ⟨(Transport.finish s.id r).1, ?_⟩
  unfold sendFin
  dsimp only
  split <;> rename_i h <;> rw [Recorder.calls_finish h, h]

theorem pending_sendFin (s : LiveStream) (t : τ) (nothing : s.pending = []) :
    (s.sendFin t).1.pending = [] := by
  unfold sendFin
  dsimp only
  split
  · exact nothing
  · rfl
  · exact nothing

theorem writeClosed_sendFin (s : LiveStream) (t : τ) : (s.sendFin t).1.writeClosed = true := by
  unfold sendFin
  dsimp only
  split <;> rfl

theorem barred_flush {s : LiveStream} (barred : s.writeClosed = true ∨ s.finAsked = true) (t : τ) :
    (s.flush t).2.1.writeClosed = true ∨ (s.flush t).2.1.finAsked = true := by
  unfold flush
  split
  · exact barred
  · dsimp only
    split
    · exact .inl rfl
    · split
      · exact .inl (writeClosed_sendFin _ _)
      · exact barred

end LiveStream

/-! ## Outboxes -/

/-- What happens to the write side of a stream. -/
inductive Sending (τ : Type) where
  | write (data : Bytes) (fin : Bool)
  | flush
  | close
  | stopped
  | acknowledged
  /-- The transport moves by itself. -/
  | transport (t : τ)

/-- The write side of a stream with its history: the payloads it accepted, whether its end was asked
for, and whether it was told that the peer stopped it. -/
structure Outbox (τ : Type) where
  stream : LiveStream
  transport : Recorder τ
  accepted : List Bytes
  ended : Bool
  told : Bool

namespace Outbox

variable {τ : Type}

/-- A new stream on a transport that it has not used yet. -/
def new (id : StreamId) (directionality : Directionality) (limit : Nat) (t : τ) : Outbox τ where
  stream := .new id directionality limit
  transport := ⟨t, []⟩
  accepted := []
  ended := false
  told := false

/-- The stream was stopped, by a report or by an answer of the transport. -/
def stopped (o : Outbox τ) : Bool := o.told || o.transport.calls.any Call.stops

/-! ## The balance of an outbox -/

/-- The calls end with the end of the stream, which came after everything that was accepted. -/
structure Ended (id : StreamId) (o : Outbox τ) (before : List Call) : Prop where
  calls : ∃ answer, o.transport.calls = before ++ [.finish id answer]
  first : ∀ c ∈ before, c.isFinish = false
  bytes : sent before = o.accepted.flatten
  asked : o.ended = true
  closed : o.stream.writeClosed = true

structure Balanced (id : StreamId) (o : Outbox τ) : Prop where
  named : o.stream.id = id
  chunks : ∀ chunk ∈ o.stream.pending, chunk ≠ []
  calls : ∀ c ∈ o.transport.calls, LiveStream.Offers id c ∨ ∃ answer, c = .finish id answer
  barred : o.ended = true ∨ o.stopped = true → o.stream.writeClosed = true ∨ o.stream.finAsked = true
  asked : o.stream.finAsked = true → o.ended = true
  open_ : o.stream.writeClosed = false → o.stopped = false
  conserved : o.stopped = false → o.accepted.flatten = sent o.transport.calls ++ o.stream.pending.flatten
  delivered : sent o.transport.calls <+: o.accepted.flatten
  finish : (∀ c ∈ o.transport.calls, c.isFinish = false) ∨ ∃ before, Ended id o before

namespace Balanced

variable {id : StreamId} {o : Outbox τ}

theorem unfinished (h : Balanced id o) (open_ : o.stream.writeClosed = false) :
    ∀ c ∈ o.transport.calls, c.isFinish = false := by
  obtain none_ | ⟨before, ended⟩ := h.finish
  · exact none_
  · exact absurd open_ (by simp [ended.closed])

/-- An open stream after offers were made. -/
theorem offered (h : Balanced id o) (open_ : o.stream.writeClosed = false)
    {p : LiveStream.Pour (Recorder τ)} {made : List Call}
    (poured : LiveStream.Poured o.stream.id o.stream.pending o.transport p made) :
    (∀ c ∈ p.transport.calls, LiveStream.Offers id c ∨ ∃ answer, c = .finish id answer) ∧
      (∀ c ∈ p.transport.calls, c.isFinish = false) ∧
      p.transport.calls.any Call.stops = p.broken ∧
      o.accepted.flatten = sent p.transport.calls ++ p.pending.flatten := by
  have waiting := h.conserved (h.open_ open_)
  have quiet := h.open_ open_
  rw [stopped, Bool.or_eq_false_iff] at quiet
  refine ⟨fun c hc => ?_, fun c hc => ?_, ?_, ?_⟩
  · rw [poured.calls, List.mem_append] at hc
    obtain hc | hc := hc
    · exact h.calls c hc
    · exact .inl (h.named ▸ poured.offers c hc)
  · rw [poured.calls, List.mem_append] at hc
    obtain hc | hc := hc
    · exact h.unfinished open_ c hc
    · obtain ⟨data, -, ⟨taken, rfl⟩ | rfl⟩ := poured.offers c hc <;> rfl
  · rw [poured.calls, List.any_append, quiet.2, Bool.false_or, poured.broken]
  · rw [waiting, poured.calls, sent_append, List.append_assoc, poured.bytes]

theorem countP_isFinish (h : Balanced id o) : o.transport.calls.countP Call.isFinish ≤ 1 := by
  obtain none_ | ⟨before, ended⟩ := h.finish
  · rw [List.countP_eq_zero.2 fun c hc => by simp [none_ c hc]]
    exact Nat.zero_le 1
  · obtain ⟨answer, calls⟩ := ended.calls
    rw [calls, List.countP_append, List.countP_eq_zero.2 fun c hc => by simp [ended.first c hc]]
    exact Nat.le_refl 1

/-- Where the end of the stream stands among the calls. -/
theorem of_split (h : Balanced id o) {sofar later : List Call} {answer : FinishAnswer}
    (split : o.transport.calls = sofar ++ .finish id answer :: later) :
    later = [] ∧ sent sofar = o.accepted.flatten ∧ o.ended = true := by
  obtain none_ | ⟨before, ended⟩ := h.finish
  · have mem : Call.finish id answer ∈ o.transport.calls := by simp [split]
    cases none_ _ mem
  · obtain ⟨answer', calls⟩ := ended.calls
    obtain rfl | ⟨others, last, rfl⟩ := List.eq_nil_or_concat later
    · have same := List.append_inj_left' (calls.symm.trans split) rfl
      exact ⟨rfl, same ▸ ended.bytes, ended.asked⟩
    -- if more followed, this end would stand before the last one
    · rw [calls, List.concat_eq_append, ← List.cons_append, ← List.append_assoc] at split
      have same := List.append_inj_left' split rfl
      have mem : Call.finish id answer ∈ before := by simp [same]
      cases ended.first _ mem

theorem accept (h : Balanced id o) {s : LiveStream} {data : Bytes} {fin : Bool}
    (taken : o.stream.enqueue? data fin = some s) :
    Balanced id { o with
      stream := s
      accepted := o.accepted ++ [data]
      ended := o.ended || fin } := by
  obtain ⟨closed, unasked, closed', asked, chunks, bytes⟩ := LiveStream.enqueue_cases taken
  have ongoing : o.ended = false := by
    cases ended : o.ended with
    | false => rfl
    | true =>
      obtain barred | barred := h.barred (.inl ended)
      · rw [closed] at barred
        cases barred
      · rw [unasked] at barred
        cases barred
  have going : o.stopped = false := h.open_ closed
  exact {
    named := (LiveStream.sendingOnly_enqueue taken).id.trans h.named
    chunks := by
      intro chunk mem
      obtain mem | ne := chunks chunk mem
      · exact h.chunks chunk mem
      · exact ne
    calls := h.calls
    barred := by
      rintro (barred | barred)
      · rw [asked]
        simpa [ongoing] using Or.inr barred
      · rw [show o.stopped = true from barred] at going
        cases going
    asked := by
      intro fin'
      rw [asked] at fin'
      simp [fin']
    open_ := fun _ => going
    conserved := by
      intro _
      rw [List.flatten_append, h.conserved going, bytes, List.append_assoc, List.flatten_singleton]
    delivered := by
      rw [List.flatten_append]
      exact h.delivered.trans (List.prefix_append _ _)
    finish := .inl (h.unfinished closed) }

/-- The end is asked for. -/
theorem ask (h : Balanced id o) (closed : o.stream.writeClosed = false) :
    Balanced id { o with stream := { o.stream with finAsked := true }, ended := true } where
  named := h.named
  chunks := h.chunks
  calls := h.calls
  barred _ := .inr rfl
  asked _ := rfl
  open_ := h.open_
  conserved := h.conserved
  delivered := h.delivered
  finish := .inl (h.unfinished closed)

/-- The end is asked for again. -/
theorem askAgain (h : Balanced id o)
    (barred : o.stream.writeClosed = true ∨ o.stream.finAsked = true) :
    Balanced id { o with ended := true } where
  named := h.named
  chunks := h.chunks
  calls := h.calls
  barred _ := barred
  asked _ := rfl
  open_ := h.open_
  conserved := h.conserved
  delivered := h.delivered
  finish := h.finish.imp_right fun ⟨before, e⟩ => ⟨before, e.calls, e.first, e.bytes, rfl, e.closed⟩

theorem tell (h : Balanced id o) :
    Balanced id { o with stream := o.stream.abandonWrites, told := true } where
  named := h.named
  chunks := by simp [LiveStream.abandonWrites]
  calls := h.calls
  barred _ := .inl rfl
  asked := h.asked
  open_ still := by cases still
  conserved going := by cases going
  delivered := h.delivered
  finish := h.finish.imp_right fun ⟨before, e⟩ => ⟨before, e.calls, e.first, e.bytes, e.asked, rfl⟩

end Balanced

theorem balanced_new (id : StreamId) (directionality : Directionality) (limit : Nat) (t : τ) :
    Balanced id (new id directionality limit t) where
  named := rfl
  chunks := by simp [new, LiveStream.new]
  calls := by simp [new]
  barred := by simp [new, stopped]
  asked := by simp [new, LiveStream.new]
  open_ _ := rfl
  conserved _ := rfl
  delivered := List.prefix_refl _
  finish := .inl (by simp [new])

/-! ## Steps -/

variable [Transport τ]

def flush (o : Outbox τ) : Outbox τ :=
  let r := o.stream.flush o.transport
  { o with stream := r.2.1, transport := r.2.2 }

def step (o : Outbox τ) : Sending τ → Outbox τ
  | .write data fin =>
    let taken := (o.stream.enqueue? data fin).isSome
    let r := o.stream.write data fin o.transport
    { o with
      stream := r.2.1
      transport := r.2.2
      accepted := if taken then o.accepted ++ [data] else o.accepted
      ended := o.ended || (taken && fin) }
  | .flush => o.flush
  | .close =>
    let r := o.stream.close o.transport
    { o with stream := r.1, transport := r.2, ended := true }
  | .stopped => { o with stream := o.stream.abandonWrites, told := true }
  | .acknowledged => { o with stream := o.stream.acknowledged }
  | .transport t => { o with transport := o.transport.moved t }

def run (o : Outbox τ) (happened : List (Sending τ)) : Outbox τ := happened.foldl step o

theorem flush_of_closed {o : Outbox τ} (closed : o.stream.writeClosed = true) : o.flush = o := by
  unfold flush LiveStream.flush
  rw [if_pos closed]

namespace Balanced

variable {id : StreamId} {o : Outbox τ}

/-- Once nothing waits, the end may go out. -/
theorem sendFin {s : LiveStream} {r : Recorder τ}
    (named : s.id = id) (nothing : s.pending = [])
    (asked : o.ended = true) (calls : ∀ c ∈ r.calls, LiveStream.Offers id c ∨ ∃ answer, c = .finish id answer)
    (unfinished : ∀ c ∈ r.calls, c.isFinish = false)
    (bytes : o.accepted.flatten = sent r.calls) :
    Balanced id { o with stream := (s.sendFin r).1, transport := (s.sendFin r).2 } := by
  have same := LiveStream.sendingOnly_sendFin s r
  obtain ⟨answer, made⟩ := LiveStream.calls_sendFin s r
  rw [named] at made
  have sent_eq : sent (s.sendFin r).2.calls = sent r.calls := by
    rw [made, sent_append]
    exact List.append_nil _
  exact {
    named := same.id.trans named
    chunks := by simp [LiveStream.pending_sendFin s r nothing]
    calls := by
      intro c hc
      rw [made, List.mem_append, List.mem_singleton] at hc
      obtain hc | rfl := hc
      · exact calls c hc
      · exact .inr ⟨answer, rfl⟩
    barred := fun _ => .inl (LiveStream.writeClosed_sendFin s r)
    asked := fun _ => asked
    open_ := fun still => absurd (still.symm.trans (LiveStream.writeClosed_sendFin s r))
      Bool.false_ne_true
    conserved := fun _ => by
      rw [LiveStream.pending_sendFin s r nothing, sent_eq, bytes]
      exact (List.append_nil _).symm
    delivered := ⟨[], by rw [List.append_nil, sent_eq, bytes]⟩
    finish := .inr ⟨r.calls, ⟨answer, made⟩, unfinished, bytes.symm, asked,
      LiveStream.writeClosed_sendFin s r⟩ }

theorem flush (h : Balanced id o) : Balanced id o.flush := by
  cases closed : o.stream.writeClosed with
  | true =>
    rw [flush_of_closed closed]
    exact h
  | false =>
    obtain ⟨p, made, poured, broken⟩ := LiveStream.flush_cases o.transport closed h.chunks
    obtain ⟨calls, unfinished, stops, bytes⟩ := h.offered closed poured
    -- an open stream was not stopped before, so only an answer in this flush can stop it
    have told : o.told = false := (Bool.or_eq_false_iff.1 (h.open_ closed)).1
    unfold Outbox.flush
    dsimp only
    obtain ⟨broken, eq⟩ | ⟨whole, nothing, asked, eq⟩ | ⟨whole, eq⟩ := broken
    · have stopped : (o.told || p.transport.calls.any Call.stops) = true := by
        rw [stops, broken, Bool.or_true]
      rw [eq]
      exact {
        named := h.named
        chunks := by simp [LiveStream.abandonWrites]
        calls := calls
        barred := fun _ => .inl rfl
        asked := h.asked
        open_ := fun still => by cases still
        conserved := fun going => absurd (going.symm.trans stopped) Bool.false_ne_true
        delivered := ⟨_, bytes.symm⟩
        finish := .inl unfinished }
    · have all : o.accepted.flatten = sent p.transport.calls := by
        rw [bytes, nothing, List.flatten_nil, List.append_nil]
      rw [eq]
      exact sendFin h.named nothing (h.asked asked) calls unfinished all
    · have going : (o.told || p.transport.calls.any Call.stops) = false := by
        rw [told, stops, whole, Bool.or_false]
      rw [eq]
      exact {
        named := h.named
        chunks := poured.chunks
        calls := calls
        barred := fun barred => h.barred (barred.imp_right fun stopped =>
          absurd (going.symm.trans stopped) Bool.false_ne_true)
        asked := h.asked
        open_ := fun _ => going
        conserved := fun _ => bytes
        delivered := ⟨_, bytes.symm⟩
        finish := .inl unfinished }

end Balanced

/-- A write that is not accepted is as if it had not been. -/
theorem step_write_of_none {o : Outbox τ} {data : Bytes} {fin : Bool}
    (refused : o.stream.enqueue? data fin = none) : o.step (.write data fin) = o := by
  simp [step, LiveStream.write, refused]

theorem step_write_of_some {o : Outbox τ} {data : Bytes} {fin : Bool} {s : LiveStream}
    (taken : o.stream.enqueue? data fin = some s) :
    o.step (.write data fin) = { o with
      stream := s
      accepted := o.accepted ++ [data]
      ended := o.ended || fin }.flush := by
  simp [step, LiveStream.write, taken, flush]

namespace Balanced

variable {id : StreamId} {o : Outbox τ}

theorem step (h : Balanced id o) (x : Sending τ) : Balanced id (o.step x) := by
  cases x with
  | write data fin =>
    cases taken : o.stream.enqueue? data fin with
    | none =>
      rw [step_write_of_none taken]
      exact h
    | some s =>
      rw [step_write_of_some taken]
      exact (h.accept taken).flush
  | flush => exact h.flush
  | close =>
    unfold Outbox.step LiveStream.close
    dsimp only
    split
    · rename_i barred
      exact h.askAgain (by simpa using barred)
    · rename_i open_
      have closed : o.stream.writeClosed = false := by
        rw [Bool.or_eq_true, not_or, Bool.not_eq_true] at open_
        exact open_.1
      exact (h.ask closed).flush
  | stopped => exact h.tell
  | acknowledged =>
    exact ⟨h.named, h.chunks, h.calls, h.barred, h.asked, h.open_, h.conserved, h.delivered,
      h.finish.imp_right fun ⟨before, e⟩ => ⟨before, e.calls, e.first, e.bytes, e.asked, e.closed⟩⟩
  | transport t =>
    exact ⟨h.named, h.chunks, h.calls, h.barred, h.asked, h.open_, h.conserved, h.delivered,
      h.finish.imp_right fun ⟨before, e⟩ => ⟨before, e.calls, e.first, e.bytes, e.asked, e.closed⟩⟩

theorem run (h : Balanced id o) (happened : List (Sending τ)) : Balanced id (o.run happened) := by
  induction happened generalizing o with
  | nil => exact h
  | cons x happened ih => exact ih (h.step x)

end Balanced

/-! ## After the end -/

theorem barred_step {o : Outbox τ} (barred : o.stream.writeClosed = true ∨ o.stream.finAsked = true)
    (x : Sending τ) : (o.step x).accepted = o.accepted ∧
      ((o.step x).stream.writeClosed = true ∨ (o.step x).stream.finAsked = true) := by
  cases x with
  | write data fin =>
    rw [step_write_of_none (LiveStream.enqueue_of_barred barred data fin)]
    exact ⟨rfl, barred⟩
  | flush => exact ⟨rfl, LiveStream.barred_flush barred o.transport⟩
  | close =>
    refine ⟨rfl, ?_⟩
    show (o.stream.close o.transport).1.writeClosed = true ∨ (o.stream.close o.transport).1.finAsked = true
    unfold LiveStream.close
    rw [if_pos (by simpa using barred)]
    exact barred
  | stopped => exact ⟨rfl, .inl rfl⟩
  | acknowledged => exact ⟨rfl, barred⟩
  | transport t => exact ⟨rfl, barred⟩

theorem barred_run {o : Outbox τ} (barred : o.stream.writeClosed = true ∨ o.stream.finAsked = true)
    (happened : List (Sending τ)) : (o.run happened).accepted = o.accepted ∧
      ((o.run happened).stream.writeClosed = true ∨ (o.run happened).stream.finAsked = true) := by
  induction happened generalizing o with
  | nil => exact ⟨rfl, barred⟩
  | cons x happened ih =>
    obtain ⟨accepted, barred'⟩ := barred_step barred x
    obtain ⟨accepted', barred''⟩ := ih barred'
    exact ⟨accepted'.trans accepted, barred''⟩

/-- Whatever happens to a new stream, in whatever order: until it is stopped, what it accepted is what
the transport took and then what waits; its end goes out at most once, after all of that and only if
it was asked for; and once it was asked for, or the stream was stopped, a write does nothing. -/
theorem run_accounts_for_accepted (id : StreamId) (directionality : Directionality) (limit : Nat)
    (t : τ) (before after : List (Sending τ)) :
    let o := (new id directionality limit t).run before
    let o' := o.run after
    (∀ c ∈ o.transport.calls, LiveStream.Offers id c ∨ ∃ answer, c = .finish id answer) ∧
      (o.stopped = false →
        o.accepted.flatten = sent o.transport.calls ++ o.stream.pending.flatten) ∧
      o.transport.calls.countP Call.isFinish ≤ 1 ∧
      (∀ sofar answer later, o.transport.calls = sofar ++ .finish id answer :: later →
        later = [] ∧ sent sofar = o.accepted.flatten ∧ o.ended = true) ∧
      (o.ended = true ∨ o.stopped = true →
        (∀ data fin, o'.stream.write data fin o'.transport = (0, o'.stream, o'.transport)) ∧
          o'.accepted = o.accepted ∧ sent o'.transport.calls <+: o.accepted.flatten) := by
  intro o o'
  have h : Balanced id o := (balanced_new id directionality limit t).run before
  refine ⟨h.calls, h.conserved, h.countP_isFinish, fun sofar answer later split => ?_, fun barred => ?_⟩
  · exact h.of_split split
  · obtain ⟨accepted, barred'⟩ := barred_run (h.barred barred) after
    have refused := LiveStream.enqueue_of_barred barred'
    refine ⟨fun data fin => ?_, accepted, ?_⟩
    · unfold LiveStream.write
      rw [refused data fin]
    · rw [← accepted]
      exact (h.run after).delivered

end Outbox

end QuicSessions
