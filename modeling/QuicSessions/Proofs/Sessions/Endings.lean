import QuicSessions.Proofs.Sessions.Namespaces
import QuicSessions.Proofs.Sessions.Postings
import QuicSessions.Proofs.Streams.Endings

/-!
# Who is told that a stream ended

Only a pass over a stream leads to the news that its end was read. Between the acts of a session nothing is
left to report, so the news come from the very pass that closed the read side: it came to the end, or there was
nothing to read the stream from.
-/

set_option autoImplicit false

namespace QuicSessions

/-- The notice is the news that the end of a stream was read. -/
def Notice.isEnd : Notice → Bool
  | .stream _ _ .fin => true
  | .listener _ (.fin _ _) => true
  | _ => false

namespace Session

variable {τ : Type} {a : Audience}

/-- The news that the end of the stream `id` was read, for its visitor or for a listener. -/
def TellsEnd (s : Session τ) (id : StreamId) (n : Notice) : Prop :=
  (∃ v, n = .stream v (s.streamHandle id) .fin) ∨ ∃ l, n = .listener l (.fin s.id id.handle)

theorem mem_passNotices {s : Session τ} {x : LiveStream} {pass : ReadPass} {fin : Bool} {n : Notice}
    (mem : n ∈ s.passNotices a x pass fin) (end_ : n.isEnd = true) : fin = true ∧ s.TellsEnd x.id n := by
  unfold passNotices at mem
  split at mem
  · rename_i v _
    obtain region | mem := List.mem_append.1 mem
    · obtain ⟨bytes, -, rfl⟩ := List.mem_map.1 region
      cases end_
    · split at mem
      · exact ⟨‹_›, .inl ⟨v, List.mem_singleton.1 mem⟩⟩
      · cases mem
  · obtain region | mem := List.mem_append.1 mem
    · obtain ⟨bytes, -, told⟩ := List.mem_flatMap.1 region
      obtain ⟨l, rfl⟩ := mem_tellListener a told
      cases end_
    · split at mem
      · exact ⟨‹_›, .inr (mem_tellListener a mem)⟩
      · cases mem

/-- If somebody hears of the stream, its end is among the news of a pass that has it to report. -/
theorem exists_mem_passNotices {s : Session τ} {x : LiveStream}
    (heard : (x.visitor.isNone && a.listener.isNone) = false) (pass : ReadPass) :
    ∃ n ∈ s.passNotices a x pass true, n.isEnd = true := by
  unfold passNotices
  cases visited : x.visitor with
  | some v => exact ⟨_, List.mem_append_right _ (List.mem_singleton_self _), rfl⟩
  | none =>
    cases listens : a.listener with
    | none => simp [visited, listens] at heard
    | some l =>
      unfold Audience.tellListener
      rw [listens]
      exact ⟨_, List.mem_append_right _ (List.mem_singleton_self _), rfl⟩

variable [Transport τ]

/-- A pass of at most `limit` bytes over the live stream `id` finds it over, with its end or missing. -/
structure FindsOver (s : Session τ) (id : StreamId) (limit : Nat) (x : LiveStream) : Prop where
  live : s.streams.get? id = some x
  asks : x.Asks limit
  ended : (x.readUpTo limit s.transport).1.fin = true ∨ Transport.beginRead id s.transport = none

/-- The news are about a stream that a pass finds over. -/
def EndFound (s : Session τ) (n : Notice) : Prop :=
  ∃ id limit x, s.FindsOver id limit x ∧ s.TellsEnd id n

omit [Transport τ] in
/-- From `s` to `s'` no end is told. -/
def Endless (s s' : Session τ) : Prop :=
  ∃ notices, s'.posted = s.posted ++ notices ∧ ∀ n ∈ notices, n.isEnd = false

/-- From `s` to `s'` no end is told but of streams that a pass finds over in `s`. -/
def EndsFound (s s' : Session τ) : Prop :=
  ∃ notices, s'.posted = s.posted ++ notices ∧ ∀ n ∈ notices, n.isEnd = true → s.EndFound n

omit [Transport τ] in
theorem Endless.of_posted {s s' : Session τ} (posted : s'.posted = s.posted) : Endless s s' :=
  ⟨[], posted.trans (List.append_nil _).symm, List.forall_mem_nil _⟩

theorem Endless.found {s s' : Session τ} (h : Endless s s') : EndsFound s s' := by
  obtain ⟨notices, more, endless⟩ := h
  exact ⟨notices, more, fun n mem end_ => absurd (end_.symm.trans (endless n mem)) nofun⟩

theorem EndsFound.of_posted {s s' : Session τ} (posted : s'.posted = s.posted) : EndsFound s s' :=
  (Endless.of_posted posted).found

/-! ## What an act makes of the read sides -/

/-- The read side of a stream goes on: what is over stays over, and is reported if it was before. -/
structure Onward (x x' : LiveStream) : Prop where
  closed : x.readClosed = true → x'.readClosed = true
  level : x.Level → x'.Level

omit [Transport τ] in
theorem Onward.refl (x : LiveStream) : Onward x x := ⟨fun closed => closed, fun level => level⟩

omit [Transport τ] in
theorem Onward.of_sending {x x' : LiveStream} (sent : LiveStream.SendingOnly x x') : Onward x x' where
  closed closed := sent.readClosed.trans closed
  level level := sent.finReported.trans (level.trans sent.readClosed.symm)

theorem onward_readUpTo (x : LiveStream) (limit : Nat) (t : τ) :
    Onward x (x.readUpTo limit t).2.1.takeFin.2 where
  closed closed := by
    rw [LiveStream.takeFin_eq]
    exact LiveStream.readClosed_readUpTo closed limit t
  level level := LiveStream.level_readUpTo_takeFin level limit t

/-- From `s` to `s'` the read sides go on, streams that enter are new, and the ends that are told were found
in `s`. -/
structure Reads (s s' : Session τ) : Prop where
  streams : ∀ id x', s'.streams.get? id = some x' →
    x' = .new id (.of id s.side) s.options.buffer ∨ ∃ x, s.streams.get? id = some x ∧ Onward x x'
  posted : EndsFound s s'

namespace Reads

variable {s s' : Session τ}

/-- An act that tells no end, and leaves no stream but those that were there. -/
theorem of_fewer (streams : ∀ id x, s'.streams.get? id = some x → s.streams.get? id = some x)
    (posted : Endless s s') : Reads s s' where
  streams id x' live := .inr ⟨x', streams id x' live, .refl x'⟩
  posted := posted.found

theorem refl (s : Session τ) : Reads s s := of_fewer (fun _ _ live => live) (.of_posted rfl)

/-- A stream enters the table, and no end is told. -/
theorem of_insert {id : StreamId}
    (streams : s'.streams = s.streams.insert id (.new id (.of id s.side) s.options.buffer))
    (posted : Endless s s') : Reads s s' where
  streams j x' live := by
    rw [streams, Table.get?_insert] at live
    split at live
    · rename_i same
      subst same
      exact .inl (Option.some.inj live).symm
    · exact .inr ⟨x', live, .refl x'⟩
  posted := posted.found

/-- One stream is dealt with, and what is told of it is told of a pass. -/
theorem of_update {id : StreamId} {x y : LiveStream} (found : s.streams.get? id = some x)
    (streams : s'.streams = s.streams.update id fun _ => y) (onward : Onward x y)
    (posted : EndsFound s s') :
    Reads s s' where
  streams j x' live := by
    rw [streams, Table.get?_update] at live
    split at live
    · rename_i same
      subst same
      rw [found] at live
      cases live
      exact .inr ⟨x, found, onward⟩
    · exact .inr ⟨x', live, .refl x'⟩
  posted := posted

end Reads

/-- Nothing is left to report of any stream in the table. -/
def Level (s : Session τ) : Prop := ∀ id x, s.streams.get? id = some x → x.Level

section Traffic

variable {s : Session τ} (named : Named s) (level : s.Level)
include named level

/-- A pass over a live stream, and what is told of it. -/
theorem endFound_of_pass {id : StreamId} {x y : LiveStream} (found : s.streams.get? id = some x)
    (limit : Nat) (same : y.id = x.id) {told : ReadPass} {n : Notice}
    (mem : n ∈ a.heard (s.passNotices a y told (x.readUpTo limit s.transport).2.1.takeFin.1))
    (end_ : n.isEnd = true) : s.EndFound n := by
  obtain ⟨due, tells⟩ := mem_passNotices (mem_of_heard a mem) end_
  obtain ⟨asks, ended⟩ := (LiveStream.takeFin_readUpTo_iff (level id x found) limit s.transport).1 due
  rw [named id x found] at ended
  rw [same, named id x found] at tells
  exact ⟨id, limit, x, ⟨found, asks, ended⟩, tells⟩

theorem reads_streamRead (id : StreamId) (limit : Nat) : Reads s (s.streamRead a id limit).2 := by
  cases found : s.streams.get? id with
  | none =>
    rw [streamRead_of_absent found]
    exact .refl s
  | some x =>
    have same := LiveStream.sameStream_readUpTo_takeFin x limit s.transport
    rw [streamRead_eq found]
    exact .of_update found rfl (onward_readUpTo x limit s.transport)
      ⟨_, rfl, fun n mem => endFound_of_pass named level found limit same.id mem⟩

theorem reads_deliver (id : StreamId) : Reads s (s.deliver a id) := by
  obtain unheard | ⟨x, found, heard⟩ := unheard_or_heard a s id
  · rw [deliver_of_unheard unheard]
    exact .refl s
  · have same := LiveStream.sameStream_readUpTo_takeFin x LiveStream.unlimited s.transport
    rw [deliver_of_heard found heard]
    exact .of_update found rfl (onward_readUpTo x LiveStream.unlimited s.transport)
      ⟨_, rfl, fun n mem => endFound_of_pass named level found LiveStream.unlimited same.id mem⟩

theorem reads_setStreamVisitor (id : StreamId) (v : StreamVisitor) :
    Reads s (s.setStreamVisitor a id v) := by
  unfold setStreamVisitor
  split
  · have visited := (Quiet.visit s id v).named named
    -- whoever was live before is live with the visitor, and reads alike
    have before {j : StreamId} {y : LiveStream}
        (live : (s.streams.update id fun x => { x with visitor := some v }).get? j = some y) :
        ∃ x w, s.streams.get? j = some x ∧ y = { x with visitor := w } := by
      rw [Table.get?_update] at live
      split at live
      · obtain ⟨x, there, rfl⟩ := Option.map_eq_some_iff.1 live
        exact ⟨x, some v, there, rfl⟩
      · exact ⟨y, y.visitor, live, rfl⟩
    have delivered := reads_deliver (a := a) visited
      (fun j y live => by
        obtain ⟨x, w, there, rfl⟩ := before live
        exact level j x there) id
    constructor
    · intro j x' live
      obtain fresh | ⟨y, live, onward⟩ := delivered.streams j x' live
      · exact .inl fresh
      · obtain ⟨x, w, there, rfl⟩ := before live
        exact .inr ⟨x, there, onward.closed, onward.level⟩
    · obtain ⟨notices, posted, ends⟩ := delivered.posted
      refine ⟨notices, posted, fun n mem end_ => ?_⟩
      obtain ⟨j, limit, y, ⟨live, asks, ended⟩, tells⟩ := ends n mem end_
      obtain ⟨x, w, there, rfl⟩ := before live
      rw [LiveStream.readUpTo_of_visitor] at ended
      exact ⟨j, limit, x, ⟨there, asks, ended⟩, tells⟩
  · exact .refl s

end Traffic

section Acts

variable {s s' : Session τ}

/-- The peer acknowledged what was sent on a stream, or wants no more of it. -/
theorem reads_sending (id : StreamId) {f : LiveStream → LiveStream}
    (sent : ∀ x, LiveStream.SendingOnly x (f x)) :
    Reads s { s with streams := s.streams.update id f } := by
  refine ⟨fun j x' live => ?_, .of_posted rfl⟩
  have live : (s.streams.update id f).get? j = some x' := live
  rw [Table.get?_update] at live
  split at live
  · obtain ⟨x, there, rfl⟩ := Option.map_eq_some_iff.1 live
    exact .inr ⟨x, there, .of_sending (sent x)⟩
  · exact .inr ⟨x', live, .refl x'⟩

theorem reads_traffic (named : Named s) (level : s.Level) (h : Traffic a s s') : Reads s s' := by
  cases h with
  | ask asked => exact .of_fewer (fun _ _ live => live) (.of_posted rfl)
  | deliver id => exact reads_deliver named level id
  | read id limit => exact reads_streamRead named level id limit
  | setStreamVisitor id v => exact reads_setStreamVisitor named level id v
  | write id data fin =>
    unfold streamWrite
    split
    · exact .refl s
    · rename_i x found
      exact .of_update found rfl (.of_sending (LiveStream.sendingOnly_write x data fin s.transport))
        (.of_posted rfl)
  | closeStream id =>
    unfold streamClose
    split
    · exact .refl s
    · rename_i x found
      exact .of_update found rfl (.of_sending (LiveStream.sendingOnly_close x s.transport)) (.of_posted rfl)
  | writable id =>
    cases found : s.streams.get? id with
    | none =>
      rw [streamWritable_of_absent found]
      exact .refl s
    | some x =>
      obtain ⟨notices, told, e⟩ := streamWritable_cases (a := a) found
      rw [e]
      refine .of_update found rfl (.of_sending (LiveStream.sendingOnly_flush x s.transport))
        ⟨notices, rfl, fun n mem end_ => ?_⟩
      obtain rfl | ⟨v, rfl⟩ := told
      · cases mem
      · rw [List.mem_singleton.1 (mem_of_heard a mem)] at end_
        cases end_
  | acknowledged id => exact reads_sending id LiveStream.sendingOnly_acknowledged
  | stopped id => exact reads_sending id LiveStream.sendingOnly_abandonWrites

omit [Transport τ] in
theorem Aside.endless (h : Aside s s') : Endless s s' := by
  obtain ⟨notices, posted, to_visitor⟩ := h
  refine ⟨notices, posted, fun n mem => ?_⟩
  obtain ⟨v, h, news, rfl, -⟩ := to_visitor n mem
  rfl

omit [Transport τ] in
theorem endless_streamClosed (s : Session τ) (x : LiveStream) :
    ∀ n ∈ s.streamClosedNotices a x, n.isEnd = false := by
  intro n mem
  rw [streamClosedNotices_eq] at mem
  obtain ⟨v, -, rfl⟩ | ⟨v, -, rfl⟩ | ⟨l, -, rfl⟩ := (mem_lastNews a).1 mem <;> rfl

omit [Transport τ] in
theorem endless_ready (s : Session τ) (id : StreamId) :
    ∀ n ∈ a.heard (a.tellListener (.ready s.id id.handle)), n.isEnd = false := by
  intro n mem
  obtain ⟨l, rfl⟩ := mem_tellListener a (mem_of_heard a mem)
  rfl

/-- Whatever an act does, the ends it tells were found by a pass. -/
theorem reads_act (named : Named s) (level : s.Level) (h : Act a s s') : Reads s s' := by
  cases h with
  | @takeIn id welcome =>
    obtain ⟨notices, announced, endless⟩ := (aside_announce a (s.insertStream id) id).endless
    have posted := posted_afterTakeIn a s id
    rw [announced, List.append_assoc] at posted
    refine .of_insert (by rw [afterTakeIn_eq]) ⟨_, posted, fun n mem => ?_⟩
    obtain mem | mem := List.mem_append.1 mem
    · exact endless n mem
    · exact endless_ready s id n mem
  | deed h =>
    obtain traffic | steady | ⟨dir, id, t, -, -, rfl⟩ | ⟨x, -, -, rfl⟩ | ⟨reason, open_, rfl⟩ :=
      deed_cases a h
    · exact reads_traffic named level traffic
    · exact .of_fewer (fun _ _ live => steady.streams ▸ live) steady.aside.endless
    · exact .of_insert rfl ⟨_, rfl, endless_ready s id⟩
    · refine .of_fewer (fun j y live => ?_) ⟨_, rfl, fun n mem =>
        endless_streamClosed s x n (mem_of_heard a mem)⟩
      have live : (s.streams.erase x.id).get? j = some y := live
      rw [Table.get?_erase] at live
      split at live
      · cases live
      · exact live
    · refine .of_fewer (fun j y live => ?_) ⟨_, posted_conclude a open_ reason, fun n mem => ?_⟩
      · rw [conclude_eq a open_, Table.get?_empty] at live
        cases live
      · obtain mem | mem := List.mem_append.1 (mem_of_heard a mem)
        · obtain ⟨x, -, mem⟩ := List.mem_flatMap.1 mem
          exact endless_streamClosed s x n mem
        · obtain ⟨v, rfl⟩ := mem_visitorNotice s mem
          rfl

theorem Reads.level (h : Reads s s') (level : s.Level) : s'.Level := by
  intro id x' live
  obtain rfl | ⟨x, there, onward⟩ := h.streams id x' live
  · exact LiveStream.level_new id _ _
  · exact onward.level (level id x there)

end Acts

/-- Between acts nothing is left to report. -/
theorem kept_level : Kept fun s : Session τ => Named s ∧ s.Level where
  act h hs := ⟨named_act _ h hs.1, (reads_act hs.1 hs.2 h).level hs.2⟩
  transport _ _ hs := hs
  collect _ hs := hs

/-! ## Who is told, and when -/

omit [Transport τ] in
/-- The notices posted from `s` to `s'`. -/
def postedSince (s s' : Session τ) : List Notice := s'.posted.drop s.posted.length

/-- From `s` to `s'` somebody is told that the end of a stream was read. -/
def TellsOfEnd (s s' : Session τ) : Prop := ∃ n ∈ s.postedSince s', n.isEnd = true

section Passes

variable {s : Session τ} {id : StreamId} {x : LiveStream}

omit [Transport τ] in
theorem postedSince_of_append {s s' : Session τ} {notices : List Notice}
    (posted : s'.posted = s.posted ++ notices) : s.postedSince s' = notices := by
  unfold postedSince
  rw [posted, List.drop_left]

/-- A pass over a stream that somebody hears of tells its end exactly if it finds the stream over. -/
theorem tellsOfEnd_iff_of_pass (taken : a.taken = true) (named : Named s) (level : s.Level)
    (live : s.streams.get? id = some x) (heard : (x.visitor.isNone && a.listener.isNone) = false)
    (limit : Nat) {told : ReadPass} {s' : Session τ}
    (posted : s'.posted = s.posted ++ a.heard (s.passNotices a (x.readUpTo limit s.transport).2.1.takeFin.2
      told (x.readUpTo limit s.transport).2.1.takeFin.1)) :
    TellsOfEnd s s' ↔ s.FindsOver id limit x := by
  have due := LiveStream.takeFin_readUpTo_iff (level id x live) limit s.transport
  have same := LiveStream.sameStream_readUpTo_takeFin x limit s.transport
  rw [named id x live] at due
  unfold TellsOfEnd
  rw [postedSince_of_append posted]
  unfold Audience.heard
  rw [if_pos taken]
  constructor
  · rintro ⟨n, mem, end_⟩
    obtain ⟨asks, ended⟩ := due.1 (mem_passNotices mem end_).1
    exact ⟨live, asks, ended⟩
  · intro found
    rw [due.2 ⟨found.asks, found.ended⟩]
    refine exists_mem_passNotices ?_ told
    rw [same.visitor]
    exact heard

theorem tellsOfEnd_streamRead_iff (taken : a.taken = true) (named : Named s) (level : s.Level)
    (live : s.streams.get? id = some x) (heard : (x.visitor.isNone && a.listener.isNone) = false)
    (limit : Nat) : TellsOfEnd s (s.streamRead a id limit).2 ↔ s.FindsOver id limit x :=
  tellsOfEnd_iff_of_pass taken named level live heard limit (congrArg posted (streamRead_eq live limit))

theorem tellsOfEnd_deliver_iff (taken : a.taken = true) (named : Named s) (level : s.Level)
    (live : s.streams.get? id = some x) (heard : (x.visitor.isNone && a.listener.isNone) = false) :
    TellsOfEnd s (s.deliver a id) ↔ s.FindsOver id LiveStream.unlimited x :=
  tellsOfEnd_iff_of_pass taken named level live heard LiveStream.unlimited
    (congrArg posted (deliver_of_heard live heard))

end Passes

/-- The end of a stream is due for report at most once. It falls due when a pass came to the end, or when the
transport had nothing to read the stream from, and never for a stream that the peer gave up. In a session it is
told by the pass that finds the stream over in one of these two ways, by each such pass that somebody hears of,
and by nothing else. A read side that is over stays over as long as the stream is in the table. -/
theorem end_told_once_if_over :
    (∀ (id : StreamId) (directionality : Directionality) (limit : Nat) (t : τ)
        (happened : List (Handling τ)),
      let r := (Reader.new id directionality limit t).run happened
      r.told ≤ 1 ∧
      (r.stream.takeFin.1 = true ↔ (r.FoundEnd ∨ r.lost = true) ∧ r.told = 0) ∧
      (0 < r.told ∨ r.stream.takeFin.1 = true → (r.FoundEnd ↔ r.lost = false)) ∧
      (r.GivenUp → r.told = 0 ∧ r.stream.takeFin.1 = false)) ∧
    (∀ (id : SessionId) (handle : ConnectionHandle) (t : τ) (options : SessionOptions) (made : Instant)
        (steps : List (Step τ)) (a : Audience) (s : Session τ),
      Acts a ((Session.new id handle t options made).run steps) s →
      (∀ s', Act a s s' →
        (∀ n ∈ s.postedSince s', n.isEnd = true → s.EndFound n) ∧
        (∀ j x x', s.streams.get? j = some x → s'.streams.get? j = some x' → x.readClosed = true →
          x'.readClosed = true ∨ x' = .new j (.of j s.side) s.options.buffer)) ∧
      (a.taken = true → ∀ j x, s.streams.get? j = some x →
        (x.visitor.isNone && a.listener.isNone) = false →
        (TellsOfEnd s (s.deliver a j) ↔ s.FindsOver j LiveStream.unlimited x) ∧
        ∀ limit, TellsOfEnd s (s.streamRead a j limit).2 ↔ s.FindsOver j limit x)) := by
  constructor
  · intro id directionality limit t happened r
    exact ((Reader.Phase.new id directionality limit t).run happened).report_iff
  · intro id handle t options made steps a s reached
    have start : Named (Session.new id handle t options made) := named_empty rfl
    have level_start : Level (Session.new id handle t options made) := fun j x live => by
      cases live
    have sound := kept_level.run start ⟨start, level_start⟩ steps
    obtain ⟨named, level⟩ := kept_level.acts reached sound
    refine ⟨fun s' act => ?_, fun taken j x live heard => ?_⟩
    · obtain ⟨streams, notices, posted, ends⟩ := reads_act named level act
      rw [postedSince_of_append posted]
      refine ⟨ends, fun j x x' live live' closed => ?_⟩
      obtain fresh | ⟨y, there, onward⟩ := streams j x' live'
      · exact .inr fresh
      · obtain rfl : x = y := Option.some.inj (live.symm.trans there)
        exact .inl (onward.closed closed)
    · exact ⟨tellsOfEnd_deliver_iff taken named level live heard, fun limit =>
        tellsOfEnd_streamRead_iff taken named level live heard limit⟩

/-- Two bytes and the end arrived on the first stream of the server. -/
def endedConnection : Wire.Connection :=
  answeredConnection.receive 0 ⟨0, 1, [.stream (.of .server .bi 0) 0 [104, 105] true]⟩

/-- A client's session takes in a stream of its peer while nobody hears of it. -/
def takingIn (t : Wire.Connection) (id : StreamId) : List (Step Wire.Connection) :=
  [.operate .silent 0 .start, .operate .silent 0 .beginHandshake, .transport t,
    .operate .silent 0 (.createIncoming id)]

/-- A stream that the peer ended, read by itself and in a session whose listener came later. -/
theorem end_told_once_if_over_read :
    let r := (Reader.new (.of .server .bi 0) .bidirectional 1024 endedConnection).run [.read 1024]
    let s := (Session.new ⟨1⟩ ⟨0⟩ Scenario.unmadeConnection .standard 0).run
      (takingIn endedConnection (.of .server .bi 0))
    r.stream.takeFin.1 = true ∧ TellsOfEnd s (s.deliver ⟨some default, true⟩ (.of .server .bi 0)) := by
  intro r s
  obtain ⟨reader, session⟩ := end_told_once_if_over (τ := Wire.Connection)
  have due := (reader (.of .server .bi 0) .bidirectional 1024 endedConnection [.read 1024]).2.1
  have live : s.streams.get? (.of .server .bi 0) =
      some (.new (.of .server .bi 0) .bidirectional SessionOptions.standard.buffer) := by rfl
  have told := ((session ⟨1⟩ ⟨0⟩ Scenario.unmadeConnection .standard 0
    (takingIn endedConnection (.of .server .bi 0)) ⟨some default, true⟩ s (.refl s)).2 rfl _ _ live rfl).1
  refine ⟨due.2 ⟨.inl ?_, rfl⟩, told.2 ⟨live, by decide +kernel, .inl (by decide +kernel)⟩⟩
  unfold Reader.FoundEnd
  decide +kernel

/-- A stream that the transport does not know is due to be reported as ended although no pass came to an end,
and the listener of a session is told so as soon as the session takes the stream in. -/
theorem missing_stream_told_ended :
    let r := (Reader.new (.of .server .bi 100) .bidirectional 1024 Scenario.unmadeConnection).run [.read 1024]
    let s := (Session.new ⟨1⟩ ⟨0⟩ Scenario.unmadeConnection .standard 0).run
      [.operate .silent 0 .start, .operate .silent 0 .beginHandshake,
        .operate ⟨some default, true⟩ 0 (.createIncoming (.of .server .bi 100))]
    (¬ r.FoundEnd ∧ r.stream.takeFin.1 = true) ∧
      s.posted = [.listener default (.ready ⟨1⟩ 401), .listener default (.fin ⟨1⟩ 401)] := by
  unfold Reader.FoundEnd
  decide +kernel

end Session

end QuicSessions
