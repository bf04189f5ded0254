import QuicSessions.Proofs.Sessions.Departures

/-!
# Who hears that a stream is closed

A stream that leaves the table is told of to its own visitor, to the visitor of the session and to the
listener, as far as there are any and notices are taken. The last two know it by an integer, so that each
hears of each stream just once needs that live streams have integers: a session opens no stream without one,
and takes none in.
-/

set_option autoImplicit false

namespace QuicSessions

/-- The stream of which a notice says that it is closed. -/
def Notice.closes? : Notice → Option StreamId
  | stream _ h .closed => some h.stream
  | session _ _ (.streamClosed n) => some (.ofHandle n)
  | listener _ (.streamClosed _ n) => some (.ofHandle n)
  | _ => none

namespace Session

variable {τ : Type}

/-- Who hears of the streams that left on the way from one state of a session to another: each receiver that
there is, once, and nobody of any other stream. The integers are those of the streams. -/
structure Tolled (a : Audience) (s s' : Session τ) : Prop where
  known : ∀ x ∈ departed s s', x.id.handle? = some x.id.handle
  all : ((told s s').filter fun n => n.closes?.isSome).Perm
    (if a.taken then (departed s s').flatMap (s.lastNews a) else [])
  own : a.taken = true → ∀ x ∈ departed s s', ∀ v, x.visitor = some v →
    (told s s').count (.stream v (s.streamHandle x.id) .closed) = 1
  visitor : a.taken = true → ∀ x ∈ departed s s', ∀ v, s.visitor = some v →
    (told s s').count (.session v s.sessionHandle (.streamClosed x.id.handle)) = 1
  listener : a.taken = true → ∀ x ∈ departed s s', ∀ l, a.listener = some l →
    (told s s').count (.listener l (.streamClosed s.id x.id.handle)) = 1

/-! ## What is said of one stream -/

section News

variable {a : Audience} {s s' : Session τ}

theorem closes_lastNews {x : LiveStream} {n : Notice} (fits : x.id.handle?.isSome = true)
    (said : n ∈ s.lastNews a x) : n.closes? = some x.id := by
  have back : StreamId.ofHandle x.id.handle = x.id := (StreamId.handle_of_fits fits).2
  obtain ⟨v, -, rfl⟩ | ⟨v, -, rfl⟩ | ⟨l, -, rfl⟩ := (mem_lastNews a).1 said
  · rfl
  · exact congrArg some back
  · exact congrArg some back

theorem nodup_lastNews (s : Session τ) (x : LiveStream) : (s.lastNews a x).Nodup := by
  unfold lastNews
  cases x.visitor <;> cases s.visitor <;> cases a.listener <;> simp

/-- What is said of streams with integers of their own is said once. -/
theorem nodup_departed_lastNews (named : Named s) (fits : ∀ x ∈ departed s s', x.id.handle?.isSome = true) :
    ((departed s s').flatMap (s.lastNews a)).Nodup := by
  have distinct : (departed s s').Pairwise fun x y => x.id ≠ y.id :=
    (List.pairwise_map.1 named.nodup_ids).filter _
  refine List.nodup_flatMap.2 ⟨fun x _ => nodup_lastNews s x, distinct.imp_of_mem ?_⟩
  intro x y left left' ne n said again
  have same : some x.id = some y.id :=
    (closes_lastNews (fits x left) said).symm.trans (closes_lastNews (fits y left') again)
  exact ne (Option.some.inj same)

theorem Tolled.of_perm (named : Named s) (fits : ∀ x ∈ departed s s', x.id.handle?.isSome = true)
    (all : ((told s s').filter fun n => n.closes?.isSome).Perm
      (if a.taken then (departed s s').flatMap (s.lastNews a) else [])) : Tolled a s s' := by
  have once (taken : a.taken = true) {x : LiveStream} (left : x ∈ departed s s') {n : Notice}
      (said : n ∈ s.lastNews a x) : (told s s').count n = 1 := by
    have closes : n.closes?.isSome = true := by
      rw [closes_lastNews (fits x left) said]
      rfl
    rw [if_pos taken] at all
    have counted : ((told s s').filter fun n => n.closes?.isSome).count n = (told s s').count n :=
      List.count_filter closes
    rw [← counted, all.count_eq]
    exact List.count_eq_one_of_mem (nodup_departed_lastNews named fits) (List.mem_flatMap.2 ⟨x, left, said⟩)
  exact {
    known := fun x left => (StreamId.handle_of_fits (fits x left)).1
    all := all
    own := fun taken x left v is => once taken left ((mem_lastNews a).2 (.inl ⟨v, is, rfl⟩))
    visitor := fun taken x left v is => once taken left ((mem_lastNews a).2 (.inr (.inl ⟨v, is, rfl⟩)))
    listener := fun taken x left l is => once taken left ((mem_lastNews a).2 (.inr (.inr ⟨l, is, rfl⟩))) }

theorem filter_closes_lastNews {gone : List LiveStream} (fits : ∀ x ∈ gone, x.id.handle?.isSome = true) :
    (gone.flatMap (s.lastNews a)).filter (fun n => n.closes?.isSome) = gone.flatMap (s.lastNews a) := by
  refine List.filter_eq_self.2 fun n mem => ?_
  obtain ⟨x, left, said⟩ := List.mem_flatMap.1 mem
  rw [closes_lastNews (fits x left) said]
  rfl

theorem tolled_of_staying (named : Named s) (fits : ∀ x ∈ departed s s', x.id.handle?.isSome = true)
    (staying : Staying a s s') : Tolled a s s' := by
  have among : (told s s').filter (fun n => n.closes?.isSome) =
      ((told s s').filter Notice.parting).filter fun n => n.closes?.isSome := by
    rw [List.filter_filter]
    refine List.filter_congr fun n _ => ?_
    unfold Notice.closes? Notice.parting
    split <;> rfl
  refine .of_perm named fits (.of_eq ?_)
  rw [among, staying.told]
  split
  · exact filter_closes_lastNews fits
  · rfl

/-- On closing every live stream leaves. -/
theorem tolled_of_closing {reason : CloseReason} (named : Named s)
    (fits : ∀ x ∈ s.streams.values, x.id.handle?.isSome = true) (closing : Closing a reason s s') :
    Tolled a s s' := by
  have everyone : departed s s' = s.streams.values := by
    refine List.filter_eq_self.2 fun x _ => ?_
    have gone : x.id ∉ s'.streams.keys := by
      rw [closing.emptied]
      exact List.not_mem_nil
    rw [← Table.contains_eq_true_iff, Bool.not_eq_true] at gone
    rw [gone]
    rfl
  refine .of_perm named (by rwa [everyone]) ?_
  rw [closing.told, everyone]
  split
  · have farewell : (s.visitor.toList.map fun v => Notice.session v s.sessionHandle
        (.connectionClosed reason)).filter (fun n => n.closes?.isSome) = [] := by
      cases s.visitor <;> rfl
    have each := filter_closes_lastNews (a := a) (s := s) fun x mem => fits x (closing.all.mem_iff.1 mem)
    rw [List.filter_append, farewell, List.append_nil, each]
    exact closing.all.flatMap_right _
  · exact .refl _

end News

/-! ## Every step of every run -/

variable [Transport τ]

/-- The live streams have integers. -/
def Fitted (s : Session τ) : Prop := ∀ id ∈ s.streams.keys, id.handle?.isSome = true

section Steps

variable {s : Session τ} {x : Step τ} {steps : List (Step τ)}

theorem fitted_step (fitted : Fitted s) (single : x.single = true)
    (numbered : ∀ p ∈ x.opened s, p.2 = s.nextId p.1) : Fitted (s.step x) := by
  have o := outcome_step s single
  intro id live
  obtain held | opened | received := mem_keys_outcome o live
  · exact fitted id held
  · obtain ⟨p, mem, rfl⟩ := List.mem_map.1 opened
    rw [numbered p mem]
    exact handle_of_gate (gate_of_opened o p mem)
  · exact fits_of_received o id received

theorem fitted_run (fitted : Fitted s) (single : ∀ x ∈ steps, x.single = true)
    (numbered : s.Numbered steps) : Fitted (s.run steps) := by
  induction steps generalizing s with
  | nil => exact fitted
  | cons x steps ih =>
    have here : ∀ p ∈ x.opened s, p.2 = s.nextId p.1 := fun p mem =>
      numbered (p.2, s.nextId p.1) (List.mem_append_left _ (List.mem_map_of_mem mem))
    exact ih (fitted_step fitted (single x (List.mem_cons_self ..)) here)
      (fun y mem => single y (List.mem_cons_of_mem x mem)) fun p mem => numbered p (List.mem_append_right _ mem)

theorem tolled_step (named : Named s) (fitted : Fitted s) (single : x.single = true) :
    Tolled x.audience s (s.step x) := by
  have fits : ∀ y ∈ s.streams.values, y.id.handle?.isSome = true := fun y mem =>
    fitted y.id (named.map_id_values ▸ List.mem_map_of_mem mem)
  obtain ⟨reason, -, -, closing⟩ | ⟨-, staying⟩ := closing_or_staying named single
  · exact tolled_of_closing named fits closing
  · exact tolled_of_staying named (fun y left => fits y (List.mem_filter.1 left).1) staying

end Steps

/-- Whatever happens to a session, each stream that enters its table is told of as closed once, in the
step in which it leaves, by being reclaimed or because the session closes: to its own visitor, to the visitor
of the session and to the listener, as far as there are any. A session that closes tells of every live stream,
lowest identifier first, and then of the end of the connection. It closes once, for the first cause it meets:
the owner gets one signal with that reason, and the visitor no more than one notice, with the same. -/
theorem streams_told_closed_once (id : SessionId) (connection : ConnectionHandle) (t : τ)
    (options : SessionOptions) (now : Instant) (steps : List (Step τ)) :
    let s : Session τ := .new id connection t options now
    let rounds := s.rounds steps
    s.Numbered rounds →
      s.run rounds = s.run steps ∧
      (∀ before x after, rounds = before ++ x :: after →
        let m := s.run before
        (∀ reason, x.cause m = some reason → m.state ≠ .closed →
          Closing x.audience reason m (m.step x)) ∧
        (x.cause m = none ∨ m.state = .closed → Staying x.audience m (m.step x)) ∧
        Tolled x.audience m (m.step x)) ∧
      (s.entrances rounds).Perm (s.exits rounds ++ (s.run steps).streams.keys) ∧
      s.verdicts rounds = (s.firstCause rounds).toList ∧
      (s.obituaries rounds).Sublist (s.verdicts rounds) := by
  intro s rounds numbered
  have named : Named s := named_empty rfl
  have counted : Counted s := fun id live => by cases live
  have fitted : Fitted s := fun id live => by cases live
  have single : ∀ x ∈ rounds, x.single = true := single_rounds s steps
  have same : s.run rounds = s.run steps := run_rounds s steps
  refine ⟨same, fun before x after split => ?_, ?_, ?_, ?_⟩
  · have alone : x.single = true := single x (split ▸ List.mem_append_right _ (List.mem_cons_self ..))
    have earlier : ∀ y ∈ before, y.single = true := fun y mem => single y (split ▸ List.mem_append_left _ mem)
    have inOrder : s.Numbered before := by
      intro p mem
      refine numbered p ?_
      rw [split, along_append]
      exact List.mem_append_left _ mem
    have o := outcome_step (s.run before) alone
    have named' := named_run named before
    refine ⟨fun reason cause open_ => ?_, fun later => staying_outcome o named' later,
      tolled_step named' (fitted_run fitted earlier inOrder) alone⟩
    rw [cause] at o
    exact closing_outcome o named' open_
  · have perm := entrances_perm named counted single numbered
    have empty : s.streams.keys = [] := rfl
    rw [same, empty, List.append_nil] at perm
    exact perm
  · exact (verdicts_run named single).trans (if_neg nofun)
  · exact sublist_along named single fun s x named single => obituaries_step named single

/-- A client's session, with a visitor and a listener, that opens a stream. The stream has a visitor too. -/
def openingRun : List (Step Wire.Connection) :=
  let a : Audience := ⟨some default, true⟩
  [.operate a 0 .start, .operate a 0 .beginHandshake, .transport answeredConnection, .operate a 0 .process,
    .operate a 0 (.setVisitor default), .operate a 0 (.openStream .bi),
    .operate a 0 (.setStreamVisitor (.of .client .bi 0) default)]

/-- It is closed, and its connection is lost after that. -/
def closingRun : List (Step Wire.Connection) :=
  openingRun ++ [.operate ⟨some default, true⟩ 0 (.close 7 "done"), .report ⟨some default, true⟩ 0 (.lost .timedOut)]

theorem streams_told_closed_once_lost :
    let s : Session Wire.Connection := .new ⟨1⟩ ⟨0⟩ Scenario.unmadeConnection .standard 0
    let rounds := s.rounds closingRun
    let m := s.run openingRun
    let m' := m.step (.operate ⟨some default, true⟩ 0 (.close 7 "done"))
    let h : SessionHandle := ⟨⟨1⟩, ⟨0⟩, .client⟩
    s.Numbered rounds ∧
      told m m' = [.stream default ⟨⟨1⟩, .of .client .bi 0, .bidirectional⟩ .closed,
        .session default h (.streamClosed 0), .listener default (.streamClosed ⟨1⟩ 0),
        .session default h (.connectionClosed (.application 7 "done"))] ∧
      Tolled ⟨some default, true⟩ m m' ∧
      (s.entrances rounds).Perm (s.exits rounds ++ (s.run closingRun).streams.keys) ∧
      s.exits rounds = [.of .client .bi 0] ∧
      s.verdicts rounds = (s.firstCause rounds).toList ∧
      s.verdicts rounds = [.application 7 "done"] ∧
      s.obituaries rounds = [.application 7 "done"] := by
  intro s rounds m m' h
  have numbered : s.Numbered rounds := by decide +kernel
  have all := streams_told_closed_once ⟨1⟩ ⟨0⟩ Scenario.unmadeConnection .standard 0 closingRun numbered
  have tolled : Tolled ⟨some default, true⟩ m m' := by
    have here := (all.2.1 (s.rounds openingRun) _ _ (rounds_append s openingRun _)).2.2
    rw [run_rounds] at here
    exact here
  exact ⟨numbered, by decide +kernel, tolled, all.2.2.1, by decide +kernel, all.2.2.2.1, by decide +kernel,
    by decide +kernel⟩

end Session

end QuicSessions
