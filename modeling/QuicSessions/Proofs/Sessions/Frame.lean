import QuicSessions.Proofs.Streams.Identity
import QuicSessions.Session.Operation

/-!
# What the operations on one stream leave alone

Posting changes nothing but what was posted. Reading, writing and handing out change one stream, the
transport and what was posted: the session stays at its stage, and the table keeps its keys.
-/

set_option autoImplicit false

namespace QuicSessions

/-- What comes of two steps comes of the second, on what came of the first. -/
theorem ok_of_bind {ε α β : Type} {x : Except ε α} {f : α → Except ε β} {r : β}
    (h : x >>= f = .ok r) : ∃ y, x = .ok y ∧ f y = .ok r := by
  cases x with
  | error fault => cases h
  | ok y => exact ⟨y, rfl, h⟩

/-- What each round of a loop keeps, a loop that gets to its end keeps. -/
theorem foldlM_ok {ε α σ : Type} {R : σ → σ → Prop} (refl : ∀ s, R s s)
    (trans : ∀ {s s' s'' : σ}, R s s' → R s' s'' → R s s'') {f : σ → α → Except ε σ}
    (step : ∀ {s s' : σ} {x : α}, f s x = .ok s' → R s s') {xs : List α} {s s' : σ}
    (h : xs.foldlM f s = .ok s') : R s s' := by
  induction xs generalizing s with
  | nil => exact Except.ok.inj h ▸ refl s
  | cons x xs ih =>
    rw [List.foldlM_cons] at h
    obtain ⟨t, first, rest⟩ := ok_of_bind h
    exact trans (step first) (ih rest)

namespace Session

open LiveStream (SameStream)

variable {τ : Type} (a : Audience)

/-! ## Posting -/

theorem tellVisitor_eq (s : Session τ) (news : SessionNews) :
    s.tellVisitor a news = { s with posted := s.posted ++ a.heard (s.visitorNotice news) } := rfl

/-- Telling what may be opened changes nothing but what was posted. -/
theorem tellCanCreate_eq (s : Session τ) :
    s.tellCanCreate a = { s with posted := (s.tellCanCreate a).posted } := by
  unfold tellCanCreate
  dsimp only
  split <;> rfl

theorem foldl_tellStreamClosed_eq (gone : List LiveStream) (s : Session τ) :
    gone.foldl (fun s stream => s.tellStreamClosed a stream) s =
      { s with posted := (gone.foldl (fun s stream => s.tellStreamClosed a stream) s).posted } := by
  induction gone generalizing s with
  | nil => rfl
  | cons stream gone ih =>
    rw [List.foldl_cons, ih]
    rfl

/-! ## Sessions that differ in one stream -/

/-- Every stream is in the table under its own identifier. -/
def Named (s : Session τ) : Prop := ∀ id stream, s.streams.get? id = some stream → stream.id = id

namespace Named

variable {s : Session τ}

theorem get?_of_mem_values (named : Named s) {x : LiveStream} (mem : x ∈ s.streams.values) :
    s.streams.get? x.id = some x := by
  obtain ⟨e, he, rfl⟩ := List.mem_map.1 mem
  have found : s.streams.get? e.1 = some e.2 := Table.get?_eq_some_of_mem he
  rw [named _ _ found]
  exact found

theorem map_id_values (named : Named s) : s.streams.values.map LiveStream.id = s.streams.keys := by
  unfold Table.values Table.keys
  rw [List.map_map]
  refine List.map_congr_left fun e he => ?_
  exact named _ _ (Table.get?_eq_some_of_mem he)

/-- The table holds each stream under its own name, so no name comes twice among the values. -/
theorem nodup_ids (named : Named s) : (s.streams.values.map LiveStream.id).Nodup :=
  named.map_id_values ▸ s.streams.keys_nodup

end Named

/-- Nothing but the transport, the contents of live streams and what was posted differs. -/
structure Quiet (s s' : Session τ) : Prop where
  eq : s' = { s with transport := s'.transport, streams := s'.streams, posted := s'.posted }
  keys : s'.streams.keys = s.streams.keys
  named : Named s → Named s'

namespace Quiet

variable {s s' s'' : Session τ}

theorem refl (s : Session τ) : Quiet s s := ⟨rfl, rfl, fun named => named⟩

theorem trans (h : Quiet s s') (h' : Quiet s' s'') : Quiet s s'' := by
  refine ⟨?_, h'.keys.trans h.keys, fun named => h'.named (h.named named)⟩
  rw [h'.eq, h.eq]

theorem state (h : Quiet s s') : s'.state = s.state := by rw [h.eq]

/-- A change of what one stream holds. -/
theorem update {id : StreamId} {stream stream' : LiveStream} (found : s.streams.get? id = some stream)
    (same : stream'.id = stream.id) (t : τ) (posted : List Notice) :
    Quiet s { s with
      transport := t
      streams := s.streams.update id fun _ => stream'
      posted := posted } := by
  refine ⟨rfl, Table.keys_update .., fun named j x h => ?_⟩
  rw [Table.get?_update] at h
  split at h
  · rename_i e
    subst e
    rw [found] at h
    simp only [Option.map_some, Option.some.injEq] at h
    rw [← h, same]
    exact named j stream found
  · exact named j x h

/-- A change of one stream that keeps its identifier. -/
theorem updateWith (s : Session τ) (id : StreamId) (f : LiveStream → LiveStream)
    (keep : ∀ x, (f x).id = x.id) : Quiet s { s with streams := s.streams.update id f } := by
  refine ⟨rfl, Table.keys_update .., fun named j x h => ?_⟩
  rw [Table.get?_update] at h
  split at h
  · simp only [Option.map_eq_some_iff] at h
    obtain ⟨y, found, rfl⟩ := h
    rw [keep]
    exact named j y found
  · exact named j x h

/-- A stream gets a visitor, before anything is delivered to it. -/
theorem visit (s : Session τ) (id : StreamId) (v : StreamVisitor) :
    Quiet s { s with streams := s.streams.update id fun x => { x with visitor := some v } } :=
  .updateWith s id _ fun _ => rfl

end Quiet

/-! ## Operations on one stream -/

variable [Transport τ]

variable {a} in
theorem deliver_of_heard {s : Session τ} {id : StreamId} {stream : LiveStream}
    (found : s.streams.get? id = some stream)
    (heard : (stream.visitor.isNone && a.listener.isNone) = false) :
    s.deliver a id = { s with
      transport := (stream.drain s.transport).2.2
      streams := s.streams.update id fun _ => (stream.drain s.transport).2.1.takeFin.2
      posted := s.posted ++ a.heard (s.passNotices a (stream.drain s.transport).2.1.takeFin.2
        (stream.drain s.transport).1 (stream.drain s.transport).2.1.takeFin.1) } := by
  unfold deliver
  rw [found]
  dsimp only
  rw [if_neg (by simp [heard])]
  rfl

variable {a} in
theorem deliver_of_unheard {s : Session τ} {id : StreamId}
    (unheard : ∀ stream, s.streams.get? id = some stream →
      stream.visitor = none ∧ a.listener = none) : s.deliver a id = s := by
  unfold deliver
  split
  · rfl
  · rename_i stream found
    obtain ⟨visited, listens⟩ := unheard stream found
    rw [if_pos (by simp [visited, listens])]

omit [Transport τ] in
/-- Nobody hears of the stream `id`, or it is live and somebody does. -/
theorem unheard_or_heard (s : Session τ) (id : StreamId) :
    (∀ stream, s.streams.get? id = some stream → stream.visitor = none ∧ a.listener = none) ∨
      ∃ stream, s.streams.get? id = some stream ∧
        (stream.visitor.isNone && a.listener.isNone) = false := by
  cases found : s.streams.get? id with
  | none => exact .inl fun _ there => by cases there
  | some stream =>
    cases heard : stream.visitor.isNone && a.listener.isNone with
    | true =>
      refine .inl fun other there => ?_
      obtain rfl := Option.some.inj there
      simpa using heard
    | false => exact .inr ⟨stream, rfl, heard⟩

variable {a} in
theorem streamRead_of_absent {s : Session τ} {id : StreamId} (absent : s.streams.get? id = none)
    (limit : Nat) : (s.streamRead a id limit).2 = s := by
  unfold streamRead
  rw [absent]

variable {a} in
theorem streamRead_eq {s : Session τ} {id : StreamId} {stream : LiveStream}
    (found : s.streams.get? id = some stream) (limit : Nat) :
    (s.streamRead a id limit).2 = { s with
      transport := (stream.readUpTo limit s.transport).2.2
      streams := s.streams.update id fun _ => (stream.readUpTo limit s.transport).2.1.takeFin.2
      posted := s.posted ++ a.heard (s.passNotices a (stream.readUpTo limit s.transport).2.1.takeFin.2
        .nothing (stream.readUpTo limit s.transport).2.1.takeFin.1) } := by
  unfold streamRead
  rw [found]
  rfl

variable {a} in
theorem streamWritable_of_absent {s : Session τ} {id : StreamId} (absent : s.streams.get? id = none) :
    s.streamWritable a id = s := by
  unfold streamWritable
  rw [absent]

omit [Transport τ] in
/-- The news for a visitor, if there is one, that there is room on the stream `id` again. -/
def roomNotices (s : Session τ) (id : StreamId) (visitor : Option StreamVisitor) : List Notice :=
  visitor.toList.map fun v => .stream v (s.streamHandle id) .canWrite

variable {a} in
theorem streamWritable_eq {s : Session τ} {id : StreamId} {stream : LiveStream}
    (found : s.streams.get? id = some stream) :
    s.streamWritable a id = { s with
      transport := (stream.flush s.transport).2.2
      streams := s.streams.update id fun _ => (stream.flush s.transport).2.1
      posted := s.posted ++
        if (stream.flush s.transport).1 && (stream.flush s.transport).2.1.canWrite then
          a.heard (s.roomNotices id stream.visitor)
        else [] } := by
  have visited := (LiveStream.sendingOnly_flush stream s.transport).visitor
  unfold streamWritable roomNotices
  rw [found]
  dsimp only
  cases told : stream.visitor with
  | some v =>
    rw [visited, told]
    dsimp only
    split
    · rfl
    · rw [List.append_nil]
  | none =>
    rw [visited, told]
    unfold Audience.heard
    simp

variable {a} in
/-- The transport has room again: a visitor is told of it, or nobody is. -/
theorem streamWritable_cases {s : Session τ} {id : StreamId} {stream : LiveStream}
    (found : s.streams.get? id = some stream) :
    ∃ notices, (notices = [] ∨ ∃ v, notices = a.heard [.stream v (s.streamHandle id) .canWrite]) ∧
      s.streamWritable a id = { s with
        transport := (stream.flush s.transport).2.2
        streams := s.streams.update id fun _ => (stream.flush s.transport).2.1
        posted := s.posted ++ notices } := by
  refine ⟨_, ?_, streamWritable_eq found⟩
  split
  · cases stream.visitor with
    | some v => exact .inr ⟨v, rfl⟩
    | none => exact .inl (ite_self [])
  · exact .inl rfl

theorem quiet_deliver (id : StreamId) (s : Session τ) : Quiet s (s.deliver a id) := by
  unfold deliver
  split
  · exact .refl s
  · rename_i stream found
    split
    · exact .refl s
    · exact .update found (LiveStream.sameStream_readUpTo_takeFin stream _ _).id _ _

theorem quiet_setStreamVisitor (id : StreamId) (v : StreamVisitor) (s : Session τ) :
    Quiet s (s.setStreamVisitor a id v) := by
  unfold setStreamVisitor
  split
  · exact (Quiet.visit s id v).trans
      (quiet_deliver a id _)
  · exact .refl s

theorem quiet_streamRead (id : StreamId) (limit : Nat) (s : Session τ) :
    Quiet s (s.streamRead a id limit).2 := by
  unfold streamRead
  split
  · exact .refl s
  · rename_i stream found
    exact .update found (LiveStream.sameStream_readUpTo_takeFin stream _ _).id _ _

theorem quiet_streamWrite (id : StreamId) (data : Bytes) (fin : Bool) (s : Session τ) :
    Quiet s (s.streamWrite id data fin).2 := by
  unfold streamWrite
  split
  · exact .refl s
  · rename_i stream found
    exact .update found (LiveStream.sendingOnly_write stream data fin _).id _ _

theorem quiet_streamClose (id : StreamId) (s : Session τ) : Quiet s (s.streamClose id) := by
  unfold streamClose
  split
  · exact .refl s
  · rename_i stream found
    exact .update found (LiveStream.sendingOnly_close stream _).id _ _

theorem quiet_streamWritable (id : StreamId) (s : Session τ) : Quiet s (s.streamWritable a id) := by
  cases found : s.streams.get? id with
  | none =>
    rw [streamWritable_of_absent found]
    exact .refl s
  | some stream =>
    rw [streamWritable_eq found]
    exact .update found (LiveStream.sendingOnly_flush stream s.transport).id _ _

/-! ## Time -/

section Time

variable {now : Instant} {s s' : Session τ} {r : Answer}

theorem eq_of_handleTimeout (h : s.handleTimeout a now = .ok s') : s' = s.timeout a now := by
  unfold handleTimeout at h
  split at h
  · cases h
  · exact (Except.ok.inj h).symm

theorem handleTimeout_of_late (late : s.late now = true) : s.handleTimeout a now = .ok (s.timeout a now) := by
  unfold handleTimeout
  rw [late]
  rfl

theorem handleTimeout_of_fits (fits : s.overflows = false) : s.handleTimeout a now = .ok (s.timeout a now) := by
  unfold handleTimeout
  rw [fits, Bool.and_false]
  rfl

theorem eq_of_timeout_run {after : Nat} (h : (Operation.timeout after).run a now s = .ok (r, s')) :
    s' = s.timeout a (now + after) := by
  obtain ⟨s₁, handled, h⟩ := ok_of_bind h
  cases h
  exact eq_of_handleTimeout a handled

theorem eq_of_hasTimer_run (h : Operation.hasTimer.run a now s = .ok (r, s')) : s' = s := by
  obtain ⟨deadline, -, h⟩ := ok_of_bind h
  cases h
  rfl

end Time

end Session

end QuicSessions
