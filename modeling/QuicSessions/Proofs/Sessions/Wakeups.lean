import QuicSessions.Proofs.Sessions.Namespaces
import QuicSessions.Proofs.Sessions.Runs
import QuicSessions.Proofs.Streams.Wakeups
import QuicSessions.Scenario.Bare

/-!
# Who is told that there is room again

A session hands over what waits as soon as its transport reports room. If that empties the buffer and more may be
written, the visitor of the stream is told once; if it does not, the transport found no room again and reports
when there is some.
-/

set_option autoImplicit false

namespace QuicSessions

namespace LiveStream

variable {τ : Type} [Transport τ]

/-- What everything that a session does with a stream keeps. -/
structure Durable (τ : Type) [Transport τ] (P : LiveStream → Prop) : Prop where
  write : ∀ {x : LiveStream} (data : Bytes) (fin : Bool) (t : τ), P x → P (x.write data fin t).2.1
  close : ∀ {x : LiveStream} (t : τ), P x → P (x.close t).1
  flush : ∀ {x : LiveStream} (t : τ), P x → P (x.flush t).2.1
  read : ∀ {x : LiveStream} (limit : Nat) (t : τ), P x → P (x.readUpTo limit t).2.1.takeFin.2
  visit : ∀ {x : LiveStream} (v : StreamVisitor), P x → P { x with visitor := some v }
  acknowledged : ∀ {x : LiveStream}, P x → P x.acknowledged
  abandonWrites : ∀ {x : LiveStream}, P x → P x.abandonWrites

theorem Kept.write {limit : Nat} {x : LiveStream} (kept : x.Kept limit) (data : Bytes) (fin : Bool) (t : τ) :
    (x.write data fin t).2.1.Kept limit := by
  cases taken : x.enqueue? data fin with
  | none => rwa [write_of_refused taken]
  | some s =>
    rw [write_of_enqueued taken]
    exact (kept.enqueue taken).flush t

theorem Kept.close {limit : Nat} {x : LiveStream} (kept : x.Kept limit) (t : τ) :
    (x.close t).1.Kept limit := by
  cases asked : x.closing? with
  | none => rwa [close_of_late asked]
  | some s =>
    rw [close_of_closing asked]
    exact (kept.closing asked).flush t

theorem durable_kept (limit : Nat) : Durable τ (Kept limit) where
  write data fin t kept := kept.write data fin t
  close t kept := kept.close t
  flush t kept := kept.flush t
  read {x} n t kept := (kept.alike (sendsAlike_readUpTo x n t)).alike (sendsAlike_takeFin _)
  visit _ kept := kept.alike ⟨rfl, rfl, rfl, rfl, rfl, rfl⟩
  acknowledged kept := kept.acknowledged
  abandonWrites kept := kept.abandonWrites

/-- A flush says whether it left nothing behind. -/
theorem drained_flush (x : LiveStream) (t : τ) : (x.flush t).1 = (x.flush t).2.1.pending.isEmpty := by
  unfold flush
  split
  · rfl
  · dsimp only
    split
    · rfl
    · split <;> rfl

omit [Transport τ] in
/-- A stream on which nothing waits takes bytes unless it is at its end or has no room at all. -/
theorem Kept.canWrite_iff_of_nothing {limit : Nat} {x : LiveStream} (kept : x.Kept limit)
    (nothing : x.pending = []) : x.canWrite = true ↔ ¬ x.EndAsked ∧ 0 < limit := by
  have none_counted : x.buffered = 0 := by rw [kept.stocked.counted, nothing]; rfl
  simp only [canWrite, EndAsked, none_counted, kept.limit, Bool.and_eq_true, Bool.not_eq_true',
    decide_eq_true_eq, not_or, Bool.not_eq_true]

/-- A flush empties the buffer of a stream that takes more bytes then. -/
theorem Kept.drained_and_canWrite_iff {limit : Nat} {x : LiveStream} (kept : x.Kept limit) (t : τ) :
    ((x.flush t).1 && (x.flush t).2.1.canWrite) = true ↔
      (x.flush t).2.1.pending = [] ∧ ¬ (x.flush t).2.1.EndAsked ∧ 0 < limit := by
  rw [Bool.and_eq_true, drained_flush, List.isEmpty_iff]
  exact and_congr_right (kept.flush t).canWrite_iff_of_nothing

end LiveStream

namespace Session

variable {τ : Type} {a : Audience} {s s' : Session τ} {P : LiveStream → Prop}

open LiveStream (Durable)
open Scenario (unmadeConnection)

/-! ## What holds of all streams -/

/-- Every stream in the table has the property. -/
def Holds (P : LiveStream → Prop) (s : Session τ) : Prop := ∀ id x, s.streams.get? id = some x → P x

theorem Holds.insert (holds : s.Holds P) {id : StreamId} {x : LiveStream}
    (streams : s'.streams = s.streams.insert id x) (fresh : P x) : s'.Holds P := by
  intro j y live
  rw [streams, Table.get?_insert] at live
  split at live
  · exact Option.some.inj live ▸ fresh
  · exact holds j y live

theorem Holds.update (holds : s.Holds P) {id : StreamId} {f : LiveStream → LiveStream}
    (streams : s'.streams = s.streams.update id f)
    (keep : ∀ x, s.streams.get? id = some x → P x → P (f x)) : s'.Holds P := by
  intro j y live
  rw [streams, Table.get?_update] at live
  split at live
  · rename_i same
    subst same
    obtain ⟨x, there, rfl⟩ := Option.map_eq_some_iff.1 live
    exact keep x there (holds j x there)
  · exact holds j y live

/-- One stream is dealt with. -/
theorem Holds.replace (holds : s.Holds P) {id : StreamId} {x y : LiveStream}
    (found : s.streams.get? id = some x) (streams : s'.streams = s.streams.update id fun _ => y)
    (keep : P x → P y) : s'.Holds P :=
  holds.update streams fun _ _ _ => keep (holds id x found)

variable [Transport τ] (durable : Durable τ P)
include durable

theorem Holds.deliver (holds : s.Holds P) (id : StreamId) : (s.deliver a id).Holds P := by
  obtain unheard | ⟨x, found, heard⟩ := unheard_or_heard a s id
  · rw [deliver_of_unheard unheard]
    exact holds
  · rw [deliver_of_heard found heard]
    exact holds.replace found rfl (durable.read LiveStream.unlimited s.transport)

theorem Holds.traffic (holds : s.Holds P) (traffic : Traffic a s s') : s'.Holds P := by
  cases traffic with
  | ask asked => exact holds
  | deliver id => exact holds.deliver durable id
  | read id limit =>
    cases found : s.streams.get? id with
    | none =>
      rw [streamRead_of_absent found]
      exact holds
    | some x =>
      rw [streamRead_eq found]
      exact holds.replace found rfl (durable.read limit s.transport)
  | setStreamVisitor id v =>
    unfold setStreamVisitor
    split
    · refine Holds.deliver durable ?_ id
      exact holds.update (f := fun x => { x with visitor := some v }) rfl fun _ _ => durable.visit v
    · exact holds
  | write id data fin =>
    unfold streamWrite
    split
    · exact holds
    · exact holds.replace ‹_› rfl (durable.write data fin s.transport)
  | closeStream id =>
    unfold streamClose
    split
    · exact holds
    · exact holds.replace ‹_› rfl (durable.close s.transport)
  | writable id =>
    cases found : s.streams.get? id with
    | none =>
      rw [streamWritable_of_absent found]
      exact holds
    | some x =>
      rw [streamWritable_eq found]
      exact holds.replace found rfl (durable.flush s.transport)
  | acknowledged id => exact holds.update rfl fun _ _ => durable.acknowledged
  | stopped id => exact holds.update rfl fun _ _ => durable.abandonWrites

/-- What everything done with a stream keeps, and new streams have, all streams have after an act. -/
theorem Holds.act (holds : s.Holds P) (fresh : ∀ id, P (.new id (.of id s.side) s.options.buffer))
    (act : Act a s s') : s'.Holds P := by
  cases act with
  | @takeIn id welcome => exact holds.insert (by rw [afterTakeIn_eq]) (fresh id)
  | deed deed =>
    obtain traffic | steady | ⟨dir, id, t, -, -, rfl⟩ | ⟨x, -, -, rfl⟩ | ⟨reason, open_, rfl⟩ :=
      deed_cases a deed
    · exact holds.traffic durable traffic
    · exact fun j x live => holds j x (steady.streams ▸ live)
    · exact holds.insert rfl (fresh id)
    · intro j y live
      have live : (s.streams.erase x.id).get? j = some y := live
      rw [Table.get?_erase] at live
      split at live
      · cases live
      · exact holds j y live
    · intro j y live
      rw [conclude_eq a open_, Table.get?_empty] at live
      cases live

omit durable

/-- In every state of a session its streams keep their accounts. -/
theorem kept_holds : Kept fun s : Session τ => s.Holds (LiveStream.Kept s.options.buffer) where
  act {a s s'} act holds := by
    rw [(sameSession_act a act).options]
    exact holds.act (LiveStream.durable_kept _) (fun id => .new id _ _) act
  transport _ _ holds := holds
  collect _ holds := holds

/-! ## Room -/

/-- What comes of the report that the stream `id` has room again. -/
theorem react_writable {id : StreamId} {x : LiveStream} (holds : s.Holds (LiveStream.Kept s.options.buffer))
    (named : Named s) (live : s.streams.get? id = some x) (now : Instant) :
    ∃ s' y, s.react a now (.writable id) = .ok s' ∧ s'.streams.get? id = some y ∧ y.visitor = x.visitor ∧
      (∀ chunk rest, y.pending = chunk :: rest →
        ∃ t, Transport.write id chunk t = (.blocked, s'.transport)) ∧
      (y.pending = [] ∧ ¬ y.EndAsked ∧ 0 < s.options.buffer →
        s'.posted = s.posted ++ a.heard (s.roomNotices id x.visitor)) ∧
      (¬ (y.pending = [] ∧ ¬ y.EndAsked ∧ 0 < s.options.buffer) → s'.posted = s.posted) := by
  have kept := holds id x live
  have told := kept.drained_and_canWrite_iff s.transport
  refine ⟨_, (x.flush s.transport).2.1, congrArg Except.ok (streamWritable_eq live), ?_,
    (LiveStream.sendingOnly_flush x s.transport).visitor, fun chunk rest left => ?_, fun room => ?_,
    fun none_ => ?_⟩
  · rw [Table.get?_update, if_pos rfl, live]
    rfl
  · rw [← named id x live]
    exact LiveStream.blocked_flush kept.cleared s.transport left
  · dsimp only
    rw [if_pos (told.2 room)]
  · dsimp only
    rw [if_neg fun drained => none_ (told.1 drained), List.append_nil]

/-- Nothing waits for a wake-up that nobody sends. Whatever is done with a stream, and whatever its transport
answers: if bytes wait, the last write offered the first of them and found no room; an end that was asked for
goes out once no bytes wait before it, unless the stream was stopped; and a payload that fits in the buffer is
refused only at the end of the stream or while bytes wait. When the transport reports room, a session hands the
bytes over: either the transport finds no room again, or nothing waits any more, and then the visitor is told
once if more may be written. -/
theorem waiting_streams_are_woken :
    (∀ (id : StreamId) (directionality : Directionality) (limit : Nat) (t : τ)
        (happened : List (Handling τ)),
      let o := (Outbox.new id directionality limit t).handleAll happened
      (∀ chunk rest, o.stream.pending = chunk :: rest →
        lastWrite? o.transport.calls = some (.offered id chunk 0)) ∧
      (o.stream.finAsked = true → o.stream.pending = [] →
        o.stream.writeClosed = true ∧ (o.stopped = true ∨ Outbox.FinSent id o)) ∧
      (∀ data fin, data.length ≤ limit → (o.stream.write data fin o.transport).1 ≠ data.length →
        o.stream.EndAsked ∨ o.stream.pending ≠ [])) ∧
    (∀ (number : SessionId) (handle : ConnectionHandle) (t : τ) (options : SessionOptions) (made : Instant)
        (steps : List (Step τ)) (a : Audience) (s : Session τ),
      Acts a ((Session.new number handle t options made).run steps) s →
      ∀ (now : Instant) (id : StreamId) (x : LiveStream), s.streams.get? id = some x →
        ∃ s' y, s.react a now (.writable id) = .ok s' ∧ s'.streams.get? id = some y ∧
          y.visitor = x.visitor ∧
          (∀ chunk rest, y.pending = chunk :: rest →
            ∃ t, Transport.write id chunk t = (.blocked, s'.transport)) ∧
          (y.pending = [] ∧ ¬ y.EndAsked ∧ 0 < options.buffer →
            s'.posted = s.posted ++ a.heard (s.roomNotices id x.visitor)) ∧
          (¬ (y.pending = [] ∧ ¬ y.EndAsked ∧ 0 < options.buffer) → s'.posted = s.posted)) := by
  constructor
  · intro id directionality limit t happened o
    have attended : Outbox.Attended id limit o :=
      (Outbox.attended_new id directionality limit t).handleAll happened
    refine ⟨fun chunk rest waits => ?_, fun asked nothing => ?_, fun data fin fits refused => ?_⟩
    · rw [attended.owed chunk rest waits, attended.named]
    · have closed := attended.due asked nothing
      exact ⟨closed, attended.settled asked closed⟩
    · exact attended.kept.waits_of_refused fits refused
  · intro number handle t options made steps a s reached now id x live
    have start : Named (Session.new number handle t options made) := named_empty rfl
    have named : Named s := kept_named.acts reached (named_run start steps)
    have holds := kept_holds.acts reached (kept_holds.run start (fun j y there => by cases there) steps)
    have same : s.options = options :=
      ((sameSession_run start steps).trans (sameSession_acts a reached)).options
    rw [← same]
    exact react_writable holds named live now

/-! ## A stream with a visitor -/

/-- A client's session that took in the first stream of its peer and got a visitor for it, and then went on. -/
def visiting (buffer : Nat) (more : List (Step Wire.Connection)) : Session Wire.Connection :=
  (Session.new ⟨1⟩ ⟨0⟩ unmadeConnection { SessionOptions.standard with buffer := buffer } 0).run
    ([.operate .silent 0 .start, .operate .silent 0 .beginHandshake,
      .operate .silent 0 (.createIncoming (.of .server .bi 0)),
      .operate .silent 0 (.setStreamVisitor (.of .server .bi 0) default)] ++ more)

/-- A stream that waits on a transport without room and one that was closed, a session that tells of room and
one whose transport has none. -/
theorem waiting_streams_are_woken_both :
    let id : StreamId := .of .server .bi 0
    let full := (Outbox.new id .bidirectional 4 unmadeConnection).handleAll [.write [1, 2, 3] false]
    let ended := (Outbox.new id .bidirectional 4 unmadeConnection).handleAll [.close]
    (lastWrite? full.transport.calls = some (.offered id [1, 2, 3] 0) ∧
      (full.stream.EndAsked ∨ full.stream.pending ≠ [])) ∧
    (ended.stream.writeClosed = true ∧ (ended.stopped = true ∨ Outbox.FinSent id ended)) ∧
    (∃ s' y, (visiting 4 []).react .silent 0 (.writable id) = .ok s' ∧ s'.streams.get? id = some y ∧
      y.pending = [] ∧ s'.posted = [.stream default ((visiting 4 []).streamHandle id) .canWrite]) ∧
    ∃ s' y, (visiting 4 [.operate .silent 0 (.write id [7] false)]).react .silent 0 (.writable id) = .ok s' ∧
      s'.streams.get? id = some y ∧ y.pending = [[7]] ∧
      (∃ t, Transport.write id [7] t = (.blocked, s'.transport)) ∧ s'.posted = [] := by
  intro id full ended
  obtain ⟨adapter, session⟩ := waiting_streams_are_woken (τ := Wire.Connection)
  have woken (more : List (Step Wire.Connection)) {x : LiveStream}
      (live : (visiting 4 more).streams.get? id = some x) :=
    session ⟨1⟩ ⟨0⟩ _ _ 0 _ .silent (visiting 4 more) (.refl _) 0 id x live
  refine ⟨⟨?_, ?_⟩, ?_, ?_, ?_⟩
  · exact (adapter id .bidirectional 4 unmadeConnection _).1 [1, 2, 3] [] (by decide +kernel)
  · exact (adapter id .bidirectional 4 unmadeConnection _).2.2 [4, 5] false (by decide) (by decide +kernel)
  · exact (adapter id .bidirectional 4 unmadeConnection _).2.1 (by decide +kernel) (by decide +kernel)
  · obtain ⟨x, live⟩ : ∃ x, (visiting 4 []).streams.get? id = some x :=
      Option.isSome_iff_exists.1 (by decide +kernel)
    obtain ⟨s', y, reacted, live', -, -, told, -⟩ := woken [] live
    have before : (visiting 4 []).posted = [] := by decide +kernel
    have visited : ((visiting 4 []).streams.get? id).map LiveStream.visitor = some (some default) := by
      decide +kernel
    have after : (((visiting 4 []).streamWritable .silent id).streams.get? id).map
        (fun y => (y.pending, y.writeClosed, y.finAsked)) = some ([], false, false) := by decide +kernel
    rw [live] at visited
    rw [Except.ok.inj reacted, live'] at after
    obtain ⟨nothing, open_, unasked⟩ : y.pending = [] ∧ y.writeClosed = false ∧ y.finAsked = false := by
      simpa using after
    refine ⟨s', y, reacted, live', nothing, ?_⟩
    rw [told ⟨nothing, by simp [LiveStream.EndAsked, open_, unasked], by decide⟩, before, roomNotices,
      Option.some.inj visited]
    rfl
  · let busy := visiting 4 [.operate .silent 0 (.write id [7] false)]
    obtain ⟨x, live⟩ : ∃ x, busy.streams.get? id = some x := Option.isSome_iff_exists.1 (by decide +kernel)
    obtain ⟨s', y, reacted, live', -, blocked, -, untold⟩ := woken _ live
    have before : busy.posted = [] := by decide +kernel
    have after : ((busy.streamWritable .silent id).streams.get? id).map LiveStream.pending = some [[7]] := by
      decide +kernel
    rw [Except.ok.inj reacted, live'] at after
    have waits : y.pending = [[7]] := Option.some.inj after
    refine ⟨s', y, reacted, live', waits, blocked [7] [] waits, (untold fun room => ?_).trans before⟩
    cases waits.symm.trans room.1

/-- An end that waits is abandoned with the bytes before it when the peer stops the stream: it never goes out.
And with a buffer that holds nothing, the visitor of an open stream is not told that nothing waits. -/
theorem stopped_end_unsent_and_room_untold :
    let id : StreamId := .of .server .bi 0
    let o := (Outbox.new id .bidirectional 4 unmadeConnection).handleAll [.write [1] true, .stopped]
    (o.stream.finAsked = true ∧ o.stream.pending = [] ∧ ¬ Outbox.FinSent id o) ∧
    ∃ s' y, (visiting 0 []).react .silent 0 (.writable id) = .ok s' ∧ s'.streams.get? id = some y ∧
      y.pending = [] ∧ ¬ y.EndAsked ∧ y.visitor = some default ∧ s'.posted = [] := by
  intro id o
  constructor
  · have calls : o.transport.calls = [.offered id [1] 0] := by decide +kernel
    refine ⟨by decide +kernel, rfl, ?_⟩
    rintro ⟨answer, sent⟩
    rw [calls] at sent
    cases List.mem_singleton.1 sent
  · let s' := (visiting 0 []).streamWritable .silent id
    obtain ⟨y, live⟩ : ∃ y, s'.streams.get? id = some y := Option.isSome_iff_exists.1 (by decide +kernel)
    have after : (s'.streams.get? id).map
        (fun y => (y.pending, y.writeClosed, y.finAsked, y.visitor)) = some ([], false, false, some default) := by
      decide +kernel
    rw [live] at after
    obtain ⟨nothing, open_, unasked, visited⟩ :
        y.pending = [] ∧ y.writeClosed = false ∧ y.finAsked = false ∧ y.visitor = some default := by
      simpa using after
    exact ⟨s', y, rfl, live, nothing, by simp [LiveStream.EndAsked, open_, unasked], visited, by decide +kernel⟩

end Session

end QuicSessions
