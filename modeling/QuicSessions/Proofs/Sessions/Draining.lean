import QuicSessions.Proofs.Sessions.Histories
import QuicSessions.Proofs.Streams.Monitor

/-!
# Nothing is left to read

A session drains a stream when something arrives on it, when it takes the stream in and when the stream
gets a visitor. So what can be read of its streams is read, as far as there is somebody to take it and
the transport keeps its word. Streams that somebody asked for by their identifier are left out: the
transport need not have accepted them.
-/

set_option autoImplicit false

namespace QuicSessions.Session

open LiveStream (Settled SendingOnly)
open Monitor (Later Answered announced outstanding)
open Transport (unread gone)

variable {τ : Type} [Transport τ]

/-- Every stream of the table is settled, those in `aside` left out. Those in `left` may have something
to read although there is somebody to take it. -/
structure Tidy (listens : Bool) (aside left : StreamId → Prop) (s : Session (Monitor τ)) : Prop where
  named : Named s
  settled : s.transport.honest = true → ∀ id x, s.streams.get? id = some x → ¬ aside id →
    Settled listens (left id) x s.transport

variable {listens : Bool} {aside left left' : StreamId → Prop} {a : Audience}
  {s s' : Session (Monitor τ)}

theorem Tidy.mono (h : Tidy listens aside left s)
    (weaker : s.transport.honest = true → ∀ id, left id → left' id) : Tidy listens aside left' s :=
  ⟨h.named, fun honest id x found here =>
    (h.settled honest id x found here).mono (weaker honest id)⟩

theorem tidy_of_empty (empty : s.streams = .empty) : Tidy listens aside left s := by
  refine ⟨named_empty empty, fun _ id x found => ?_⟩
  rw [empty] at found
  cases found

/-! ## Acts -/

theorem later_acts (acts : Acts a s s') (honest : s'.transport.honest = true) :
    Later s.transport s'.transport :=
  retains_acts (Monitor.retains_later s.transport) acts .refl honest

theorem later_act (act : Act a s s') (honest : s'.transport.honest = true) :
    Later s.transport s'.transport := later_acts (.one act) honest

theorem Tidy.later (h : Tidy listens aside left s) (named : Named s')
    (later : s'.transport.honest = true → Later s.transport s'.transport)
    (streams : ∀ id x, s'.streams.get? id = some x → s.streams.get? id = some x) :
    Tidy listens aside left s' := by
  refine ⟨named, fun honest id x found here => ?_⟩
  have moved := later honest
  exact (h.settled moved.honest id x (streams id x found) here).later (.refl x) moved

theorem Tidy.transport (h : Tidy listens aside left s) {m : Monitor τ}
    (later : m.honest = true → Later s.transport m) :
    Tidy listens aside left { s with transport := m } :=
  h.later h.named later fun _ _ found => found

theorem Tidy.update (h : Tidy listens aside left s) {id : StreamId} {f : LiveStream → LiveStream}
    (named : Named s') (streams : s'.streams = s.streams.update id f)
    (later : s'.transport.honest = true → Later s.transport s'.transport)
    (changed : s'.transport.honest = true → ∀ x, s.streams.get? id = some x →
      Settled listens (left id) x s.transport → Settled listens (left' id) (f x) s'.transport)
    (others : ∀ j, j ≠ id → left j → left' j) : Tidy listens aside left' s' := by
  refine ⟨named, fun honest j x found here => ?_⟩
  have moved := later honest
  rw [streams, Table.get?_update] at found
  split at found
  · rename_i e
    subst e
    obtain ⟨y, held, rfl⟩ : ∃ y, s.streams.get? j = some y ∧ f y = x :=
      Option.map_eq_some_iff.1 found
    exact changed honest y held (h.settled moved.honest j y held here)
  · rename_i other
    have before := h.settled moved.honest j x found here
    exact (before.later (.refl x) moved).mono (others j other)

/-- What is sent on a stream leaves what can be read of it alone. -/
theorem Tidy.sent (h : Tidy listens aside left s) {id : StreamId} {f : LiveStream → LiveStream}
    (quiet : Quiet s s') (streams : s'.streams = s.streams.update id f)
    (later : s'.transport.honest = true → Later s.transport s'.transport)
    (same : ∀ x, s.streams.get? id = some x → SendingOnly x (f x)) : Tidy listens aside left s' :=
  h.update (quiet.named h.named) streams later
    (fun honest x found before => before.later (same x found) (later honest)) fun _ _ still => still

section Traffic

variable (hears : listens = true → a.listener.isSome = true)
include hears

/-- After a delivery nothing is left to read on the stream, or there is nobody to take it. -/
theorem Tidy.deliver {id : StreamId} (h : Tidy listens aside (fun j => j = id ∨ left j) s) :
    Tidy listens aside left (s.deliver a id) := by
  have later := later_act (s := s) (a := a) (.deed (.traffic (.deliver id)))
  have named := (quiet_deliver a id s).named h.named
  obtain unheard | ⟨x, found, heard⟩ := unheard_or_heard a s id
  · rw [deliver_of_unheard unheard] at later named ⊢
    refine ⟨named, fun honest j y held here => ?_⟩
    have before := h.settled honest j y held here
    refine ⟨before.known, before.closed, fun readable more listening => ?_⟩
    refine (before.left readable more listening).resolve_left fun e => ?_
    -- nobody hears of this stream
    obtain ⟨unvisited, nobody⟩ := unheard y (e ▸ held)
    rw [unvisited, Option.isSome_none, Bool.or_false] at listening
    have listener := hears listening
    rw [nobody] at listener
    cases listener
  · rw [deliver_of_heard found heard] at later named ⊢
    refine h.update (f := fun _ => (x.drain s.transport).2.1.takeFin.2) named rfl later
      (fun honest y held before => ?_) fun j other or_left => or_left.resolve_left other
    rw [found] at held
    obtain rfl := Option.some.inj held
    refine LiveStream.settled_readUpTo before LiveStream.unlimited honest fun readable more => ?_
    have nothing := LiveStream.unread_drain before honest readable
    rw [LiveStream.drain, more] at nothing
    cases nothing

theorem Tidy.setStreamVisitor (h : Tidy listens aside left s) (id : StreamId) (v : StreamVisitor) :
    Tidy listens aside left (s.setStreamVisitor a id v) := by
  unfold Session.setStreamVisitor
  split
  · refine Tidy.deliver hears ?_
    exact h.update (f := fun x => { x with visitor := some v }) ((Quiet.visit s id v).named h.named) rfl .refl
      (fun honest x found before => ⟨before.known, before.closed, fun _ _ _ => .inl rfl⟩)
      fun j other still => .inr still
  · exact h

omit hears in
theorem Tidy.streamRead (h : Tidy listens aside left s) (id : StreamId) (limit : Nat) :
    Tidy listens aside left (s.streamRead a id limit).2 := by
  cases found : s.streams.get? id with
  | none =>
    rw [streamRead_of_absent found]
    exact h
  | some x =>
    have later := later_act (s := s) (a := a) (.deed (.traffic (.read id limit)))
    have named := (quiet_streamRead a id limit s).named h.named
    rw [streamRead_eq found] at later named ⊢
    refine h.update (f := fun _ => (x.readUpTo limit s.transport).2.1.takeFin.2) named rfl later
      (fun honest y held before => ?_) fun j other still => still
    rw [found] at held
    obtain rfl := Option.some.inj held
    exact LiveStream.settled_readUpTo before limit honest fun _ _ still => still

theorem Tidy.traffic (h : Tidy listens aside left s) (traffic : Traffic a s s') :
    Tidy listens aside left s' := by
  have quiet := traffic.quiet
  have later := later_act (a := a) (.deed (.traffic traffic))
  cases traffic with
  | ask asked => exact h.transport later
  | deliver id => exact (h.mono fun _ _ still => .inr still).deliver hears
  | setStreamVisitor id v => exact h.setStreamVisitor hears id v
  | read id limit => exact h.streamRead id limit
  | write id data fin =>
    unfold streamWrite at quiet later ⊢
    cases found : s.streams.get? id with
    | none => exact h
    | some x =>
      rw [found] at quiet later
      refine h.sent (f := fun _ => (x.write data fin s.transport).2.1) quiet rfl later fun y held => ?_
      rw [found] at held
      exact Option.some.inj held ▸ LiveStream.sendingOnly_write x data fin _
  | closeStream id =>
    unfold streamClose at quiet later ⊢
    cases found : s.streams.get? id with
    | none => exact h
    | some x =>
      rw [found] at quiet later
      refine h.sent (f := fun _ => (x.close s.transport).1) quiet rfl later fun y held => ?_
      rw [found] at held
      exact Option.some.inj held ▸ LiveStream.sendingOnly_close x _
  | writable id =>
    cases found : s.streams.get? id with
    | none =>
      rw [streamWritable_of_absent found]
      exact h
    | some x =>
      obtain ⟨notices, -, e⟩ := streamWritable_cases (a := a) found
      rw [e] at quiet later ⊢
      refine h.sent (f := fun _ => (x.flush s.transport).2.1) quiet rfl later fun y held => ?_
      rw [found] at held
      exact Option.some.inj held ▸ LiveStream.sendingOnly_flush x _
  | acknowledged id => exact h.sent quiet rfl later fun x _ => LiveStream.sendingOnly_acknowledged x
  | stopped id => exact h.sent quiet rfl later fun x _ => LiveStream.sendingOnly_abandonWrites x

end Traffic

/-! ## Every operation -/

theorem Tidy.insert (h : Tidy listens aside left s) {id : StreamId} {d : Directionality} {limit : Nat}
    (streams : s'.streams = s.streams.insert id (.new id d limit))
    (later : s'.transport.honest = true → Later s.transport s'.transport)
    (new : s'.transport.honest = true → ¬ aside id →
      id ∈ s'.transport.known ∧ (unread id s'.transport.inner = true → left' id))
    (others : ∀ j, left j → left' j) : Tidy listens aside left' s' := by
  refine ⟨named_insert streams h.named, fun honest j x found here => ?_⟩
  have moved := later honest
  rw [streams, Table.get?_insert] at found
  split at found
  · rename_i e
    subst e
    obtain rfl := Option.some.inj found
    obtain ⟨known, rest⟩ := new honest here
    refine ⟨known, fun readable closed => ?_, fun _ more _ => rest more⟩
    have readable : d.readable = true := readable
    have closed : (!d.readable) = true := closed
    rw [readable] at closed
    cases closed
  · have before := h.settled moved.honest j x found here
    exact (before.later (.refl x) moved).mono (others j)

section Acts

variable (hears : listens = true → a.listener.isSome = true)
include hears

theorem Tidy.deed (h : Tidy listens aside left s) (deed : Deed a s s') :
    Tidy listens aside left s' := by
  have named := named_act a (.deed deed) h.named
  have later := later_act (.deed deed)
  obtain traffic | steady | ⟨dir, id, t, -, opened, rfl⟩ | ⟨x, -, -, rfl⟩ | ⟨reason, open_, rfl⟩ :=
    deed_cases a deed
  · exact h.traffic hears traffic
  · exact h.later named later fun _ _ found => steady.streams ▸ found
  · refine h.insert rfl later (fun honest _ => ?_) fun _ still => still
    obtain ⟨-, known, nothing⟩ := Monitor.answered_openStream opened honest
    refine ⟨known, fun more => ?_⟩
    have more : unread id t.inner = true := more
    rw [nothing] at more
    cases more
  · refine h.later named later fun j y found => ?_
    have found : (s.streams.erase x.id).get? j = some y := found
    rw [Table.get?_erase] at found
    split at found
    · cases found
    · exact found
  · rw [conclude_eq a open_]
    exact tidy_of_empty rfl

theorem Tidy.deeds (h : Tidy listens aside left s) (deeds : Deeds a s s') :
    Tidy listens aside left s' := by
  induction deeds with
  | refl => exact h
  | tail _ last ih => exact ih.deed hears last

theorem Tidy.createIncoming (h : Tidy listens aside left s) {now : Instant} {id : StreamId}
    {r : Option StreamHandle}
    (given : s.transport.honest = true → ¬ aside id → id ∈ s.transport.known)
    (created : s.createIncoming a now id = .ok (r, s')) : Tidy listens aside left s' := by
  obtain ⟨-, deeds⟩ | ⟨-, welcome, rfl⟩ := createIncoming_cases a now created
  · exact h.deeds hears deeds
  · refine Tidy.deliver hears ?_
    have later := later_act (s := s) (a := a) (.takeIn welcome)
    rw [afterTakeIn_eq] at later ⊢
    refine h.insert rfl later (fun honest here => ?_) fun _ still => .inr still
    exact ⟨(later honest).known id (given (later honest).honest here), fun _ => .inl rfl⟩

theorem Tidy.course (h : Tidy listens aside left s) (course : Course a s s') :
    Tidy listens aside left s' := by
  induction course with
  | refl => exact h
  | tail _ last ih =>
    cases last with
    | deed deed => exact ih.deed hears deed
    | received accepted created =>
      have asked := ih.deed hears (.traffic (.ask (.accept accepted)))
      exact asked.createIncoming hears
        (fun honest _ => (Monitor.answered_acceptStream accepted honest).2) created

/-- Operations that are not asked for a stream by its identifier. -/
theorem Tidy.run (h : Tidy listens aside left s) {now : Instant} {op : Operation} {r : Answer}
    (apart : ∀ id, op = .createIncoming id → aside id) (done : op.run a now s = .ok (r, s')) :
    Tidy listens aside left s' := by
  obtain course | ⟨id, stream, asked, -, created⟩ := course_run a now h.named done
  · exact h.course hears course
  · exact h.createIncoming hears (fun _ here => absurd (apart id asked) here) created

theorem Tidy.operate (h : Tidy listens aside left s) {now : Instant} {ops : List Operation}
    (apart : ∀ id, .createIncoming id ∈ ops → aside id) (done : s.operate a now ops = .ok s') :
    Tidy listens aside left s' := by
  induction ops generalizing s with
  | nil => exact Except.ok.inj done ▸ h
  | cons op ops ih =>
    obtain ⟨⟨r, s₁⟩, first, rest⟩ := ok_of_bind done
    have after := h.run hears (fun id e => apart id (e ▸ List.mem_cons_self ..)) first
    exact ih after (fun id mem => apart id (List.mem_cons_of_mem _ mem)) rest

end Acts

/-! ## Reports -/

/-- Between operations: nothing is to be reported any more. -/
structure Rested (listens : Bool) (aside left : StreamId → Prop) (s : Session (Monitor τ)) : Prop
    extends Tidy listens aside left s where
  due : s.transport.honest = true → s.transport.due = []

/-- When something arrived: where there is something to read, that is still to be reported. -/
structure Roused (listens : Bool) (aside left : StreamId → Prop) (s : Session (Monitor τ)) : Prop where
  tidy : Tidy listens aside (fun id => id ∈ s.transport.due ∨ left id) s
  announced : s.transport.honest = true → announced s.transport.due s.transport.inner = true

theorem Rested.roused (h : Rested listens aside left s) : Roused listens aside left s := by
  refine ⟨h.toTidy.mono fun _ _ still => .inr still, fun honest => ?_⟩
  rw [h.due honest]
  rfl

theorem Rested.later (h : Rested listens aside left s) (tidy : Tidy listens aside left s')
    (later : s'.transport.honest = true → Later s.transport s'.transport) :
    Rested listens aside left s' := by
  refine ⟨tidy, fun honest => List.eq_nil_iff_forall_not_mem.2 fun id mem => ?_⟩
  have moved := later honest
  have before := moved.due id mem
  rw [h.due moved.honest] at before
  cases before

theorem Rested.transport (h : Rested listens aside left s) {m : Monitor τ}
    (later : m.honest = true → Later s.transport m) :
    Rested listens aside left { s with transport := m } := h.later (h.toTidy.transport later) later

theorem Rested.same (h : Rested listens aside left s) (transport : s'.transport = s.transport)
    (streams : s'.streams = s.streams) : Rested listens aside left s' := by
  refine ⟨⟨fun id x found => h.named id x (streams ▸ found), ?_⟩, transport ▸ h.due⟩
  rw [transport, streams]
  exact h.settled

theorem Rested.acts (h : Rested listens aside left s) (tidy : Tidy listens aside left s')
    (acts : Acts a s s') : Rested listens aside left s' := h.later tidy (later_acts acts)

/-- What arrives on a stream is to be reported, unless something waited there already. -/
theorem Rested.arrived (h : Rested listens aside left s) (t : τ) :
    Roused listens aside left { s with transport := s.transport.arrived t } := by
  have kept (honest : (s.transport.arrived t).honest = true) :
      s.transport.honest = true ∧ announced (s.transport.arrived t).due t = true ∧
        s.transport.known.all (fun id => !gone id s.transport.inner || gone id t) = true := by
    unfold Monitor.arrived at honest
    simp only [Bool.and_eq_true] at honest
    exact ⟨honest.1.1, honest.1.2, honest.2⟩
  refine ⟨⟨h.named, fun honest id x found here => ?_⟩, fun honest => (kept honest).2.1⟩
  obtain ⟨before, -, still⟩ := kept honest
  have settled := h.settled before id x found here
  refine ⟨settled.known, fun readable closed => ?_, fun readable more heard => ?_⟩
  · have spent := settled.closed readable closed
    have still := List.all_eq_true.1 still x.id settled.known
    rw [spent] at still
    exact still
  · obtain rfl := h.named id x found
    cases waited : unread x.id s.transport.inner with
    | true => exact .inr (settled.left readable waited heard)
    | false =>
      have more : unread x.id t = true := more
      refine .inl (List.mem_append_right _ (List.mem_filter.2 ⟨settled.known, ?_⟩))
      rw [more, waited]
      rfl

section Reports

variable (hears : listens = true → a.listener.isSome = true) {now : Instant}
include hears

/-- A report is taken; if it says that something arrived on a stream, the stream is drained. -/
theorem Roused.round (h : Roused listens aside left s) {e : Event} {m : Monitor τ}
    (polled : Transport.poll s.transport = some (e, m))
    (reacted : { s with transport := m }.react a now e = .ok s') :
    Roused listens aside left s' ∧ (s'.transport.honest = true →
      Transport.backlog s'.transport < Transport.backlog s.transport) := by
  have answered : s'.transport.honest = true → Answered m s'.transport :=
    retains_react (Monitor.reacting_answered m) reacted .refl
  have taken : Tidy listens aside (fun id => id ∈ s.transport.due ∨ left id)
      { s with transport := m } := h.tidy.transport fun honest => (Monitor.later_poll polled honest).1
  have course := course_react a now reacted
  refine ⟨⟨?_, fun honest => ?_⟩, fun honest => ?_⟩
  · have due (honest : s'.transport.honest = true) : s'.transport.due = outstanding s.transport.due e := by
      rw [(answered honest).same, (Monitor.later_poll polled (answered honest).honest).2.1]
    by_cases readable : ∃ id, e = .readable id
    · obtain ⟨id, rfl⟩ := readable
      have delivered : { s with transport := m }.deliver a id = s' := Except.ok.inj reacted
      have rest : Tidy listens aside
          (fun j => j = id ∨ j ∈ outstanding s.transport.due (.readable id) ∨ left j)
          { s with transport := m } := by
        refine taken.mono fun _ j waits => ?_
        by_cases same : j = id
        · exact .inl same
        · refine .inr (waits.imp_left fun mem => ?_)
          exact List.mem_filter.2 ⟨mem, decide_eq_true same⟩
      have drained := rest.deliver hears
      rw [delivered] at drained
      exact drained.mono fun honest j waits => (due honest).symm ▸ waits
    · have same : outstanding s.transport.due e = s.transport.due := by
        cases e <;> first | rfl | exact absurd ⟨_, rfl⟩ readable
      exact (taken.course hears course).mono fun honest j waits =>
        ((due honest).trans same).symm ▸ waits
  · have moved := answered honest
    have before := (Monitor.later_poll polled moved.honest).1
    exact moved.announced (before.announced (h.announced before.honest))
  · have moved := answered honest
    exact Nat.lt_of_le_of_lt moved.backlog (Monitor.later_poll polled moved.honest).2.2

/-- When every report is taken, nothing is left to read that there is somebody to take. -/
theorem Roused.process (h : Roused listens aside left s) (processed : s.process a now = .ok s') :
    Rested listens aside left s' := by
  fun_induction Session.process a now s with
  | case1 s none_waits =>
    obtain rfl := Except.ok.inj processed
    have due (honest : s.transport.honest = true) : s.transport.due = [] := by
      have announced := h.announced honest
      have quiet : Transport.poll s.transport.inner = none := Option.map_eq_none_iff.1 none_waits
      unfold Monitor.announced at announced
      rw [quiet, Option.isSome_none, Bool.or_false] at announced
      exact List.isEmpty_iff.1 announced
    refine ⟨h.tidy.mono fun honest id waits => waits.resolve_left fun mem => ?_, due⟩
    rw [due honest] at mem
    cases mem
  | case2 s e m waits fault failed => cases processed
  | case3 s e m waits s₁ reacted less ih => exact ih (h.round hears waits reacted).1 processed
  | case4 s e m waits s₁ reacted full =>
    obtain rfl := Except.ok.inj processed
    obtain ⟨round, fewer⟩ := h.round hears waits reacted
    exact ⟨⟨round.tidy.named, fun honest => absurd (fewer honest) full⟩,
      fun honest => absurd (fewer honest) full⟩

end Reports

end QuicSessions.Session
