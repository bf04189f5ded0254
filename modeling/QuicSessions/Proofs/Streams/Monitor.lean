import QuicSessions.Proofs.Sessions.Retention

/-!
# A transport whose word is checked

A monitor is a transport around another one. It answers as the other does and checks what the other
promises its session: a stream that was given out becomes readable only by what arrives, and an arrival
is reported; a read that finds no more has left nothing, and one that finds the end has left no stream;
asking for something brings no reports, so they come to an end.
-/

set_option autoImplicit false

namespace QuicSessions

namespace Transport

variable {τ : Type} [Transport τ]

/-- Whether there is nothing to read from. -/
def gone (id : StreamId) (t : τ) : Bool := (beginRead id t).isNone

/-- Whether a read of the stream would bring something: bytes, its end, or that it was given up. -/
def unread (id : StreamId) (t : τ) : Bool :=
  match beginRead id t with
  | none => false
  | some t =>
    match (nextRegion id 1 t).1 with
    | .blocked => false
    | _ => true

theorem unread_of_gone {id : StreamId} {t : τ} (h : gone id t = true) : unread id t = false := by
  have none_begins : beginRead id t = none := Option.isNone_iff_eq_none.1 h
  unfold unread
  rw [none_begins]

end Transport

open Transport (unread gone unread_of_gone)

structure Monitor (τ : Type) where
  inner : τ
  /-- The streams that were opened or accepted. -/
  known : List StreamId
  /-- The streams on which something arrived that is still to be reported. -/
  due : List StreamId
  /-- How many bytes the last pass over a stream brought. -/
  passed : Nat
  /-- Every promise was kept. -/
  honest : Bool

namespace Monitor

variable {τ : Type}

def fresh (t : τ) : Monitor τ := ⟨t, [], [], 0, true⟩

variable [Transport τ]

/-- Of the streams that were given out none became readable, and none came back. -/
def calm (m : Monitor τ) (t : τ) : Bool :=
  m.known.all fun id => (!unread id t || unread id m.inner) && (!gone id m.inner || gone id t)

/-- What is still to be reported comes with the reports that wait. -/
def announced (due : List StreamId) (t : τ) : Bool := due.isEmpty || (Transport.poll t).isSome

/-- The transport moved without an arrival, and gave out the streams `given`. -/
def moved (m : Monitor τ) (t : τ) (given due : List StreamId) (kept : Bool) : Monitor τ where
  inner := t
  known := given ++ m.known
  due := due
  passed := m.passed
  honest := m.honest && kept && m.calm t && announced due t

/-- The transport did what its session asked for. -/
def asked (m : Monitor τ) (t : τ) (given : List StreamId) (kept : Bool) : Monitor τ :=
  m.moved t given m.due (kept && decide (Transport.backlog t ≤ Transport.backlog m.inner))

def read {limit : Nat} (m : Monitor τ) (id : StreamId) (answer : ReadAnswer limit) (t : τ) :
    Monitor τ :=
  match answer with
  | .region bytes _ _ =>
    { m.asked t [] (decide (m.passed + bytes.length < LiveStream.unlimited)) with
      passed := m.passed + bytes.length }
  | .blocked => m.asked t [] (!unread id t)
  | _ => m.asked t [] (gone id t)

def outstanding (due : List StreamId) : Event → List StreamId
  | .readable id => due.filter (· ≠ id)
  | _ => due

def arrived (m : Monitor τ) (t : τ) : Monitor τ :=
  let due := m.due ++ m.known.filter fun id => unread id t && !unread id m.inner
  { m with
    inner := t
    due := due
    honest := m.honest && announced due t && m.known.all fun id => !gone id m.inner || gone id t }

instance : Transport (Monitor τ) where
  side m := Transport.side m.inner
  remote m := Transport.remote m.inner
  counters m := Transport.counters m.inner
  isClosed m := Transport.isClosed m.inner
  isDrained m := Transport.isDrained m.inner
  openStream dir m :=
    (Transport.openStream dir m.inner).map fun x => (x.1, m.asked x.2 [x.1] (!unread x.1 x.2))
  acceptStream dir m :=
    (Transport.acceptStream dir m.inner).map fun x => (x.1, m.asked x.2 [x.1] true)
  write id data m :=
    let x := Transport.write id data m.inner
    (x.1, m.asked x.2 [] true)
  finish id m :=
    let x := Transport.finish id m.inner
    (x.1, m.asked x.2 [] true)
  reset id code m := m.asked (Transport.reset id code m.inner) [] true
  stop id code m := m.asked (Transport.stop id code m.inner) [] true
  beginRead id m :=
    (Transport.beginRead id m.inner).map fun t => { m.asked t [] true with passed := 0 }
  nextRegion id limit m :=
    let x := Transport.nextRegion id limit m.inner
    (x.1, m.read id x.1 x.2)
  endRead id m := m.asked (Transport.endRead id m.inner) [] true
  poll m :=
    (Transport.poll m.inner).map fun x =>
      (x.1, m.moved x.2 [] (outstanding m.due x.1)
        (decide (Transport.backlog x.2 < Transport.backlog m.inner)))
  receiveDatagram m :=
    (Transport.receiveDatagram m.inner).map fun x => (x.1, m.asked x.2 [] true)
  sendDatagram data m :=
    let x := Transport.sendDatagram data m.inner
    (x.1, m.asked x.2 [] true)
  ping m := m.asked (Transport.ping m.inner) [] true
  close now code reason m := m.asked (Transport.close now code reason m.inner) [] true
  deadline m := Transport.deadline m.inner
  timeout now m := m.moved (Transport.timeout now m.inner) [] m.due true
  backlog m := Transport.backlog m.inner

/-! ## What follows from a kept promise -/

/-- Nothing became readable, and nothing more is to be reported. -/
structure Later (m m' : Monitor τ) : Prop where
  honest : m.honest = true
  known : ∀ id ∈ m.known, id ∈ m'.known
  calm : ∀ id ∈ m.known, unread id m'.inner = true → unread id m.inner = true
  gone : ∀ id ∈ m.known, gone id m.inner = true → gone id m'.inner = true
  due : ∀ id ∈ m'.due, id ∈ m.due
  announced : announced m.due m.inner = true → announced m'.due m'.inner = true

namespace Later

variable {m m' m'' : Monitor τ}

theorem refl (honest : m.honest = true) : Later m m :=
  ⟨honest, fun _ mem => mem, fun _ _ more => more, fun _ _ spent => spent, fun _ mem => mem,
    fun waits => waits⟩

theorem trans (h : Later m m') (h' : Later m' m'') : Later m m'' where
  honest := h.honest
  known id mem := h'.known id (h.known id mem)
  calm id mem more := h.calm id mem (h'.calm id (h.known id mem) more)
  gone id mem spent := h'.gone id (h.known id mem) (h.gone id mem spent)
  due id mem := h.due id (h'.due id mem)
  announced waits := h'.announced (h.announced waits)

end Later

/-- The transport did what its session asked for: what is to be reported is the same, and no more
waits. -/
structure Answered (m m' : Monitor τ) : Prop extends Later m m' where
  same : m'.due = m.due
  backlog : Transport.backlog m' ≤ Transport.backlog m

theorem Answered.refl {m : Monitor τ} (honest : m.honest = true) : Answered m m :=
  ⟨.refl honest, rfl, Nat.le_refl _⟩

theorem Answered.trans {m m' m'' : Monitor τ} (h : Answered m m') (h' : Answered m' m'') :
    Answered m m'' :=
  ⟨h.toLater.trans h'.toLater, h'.same.trans h.same, h'.backlog.trans h.backlog⟩

theorem Answered.passing {m m' : Monitor τ} (h : Answered m m') (passed : Nat) :
    Answered m { m' with passed := passed } :=
  ⟨⟨h.honest, h.known, h.calm, h.gone, h.due, h.announced⟩, h.same, h.backlog⟩

section Moved

variable {m : Monitor τ} {t : τ} {given due : List StreamId} {kept : Bool}

theorem honest_moved (h : (m.moved t given due kept).honest = true) :
    m.honest = true ∧ kept = true ∧ m.calm t = true ∧ announced due t = true := by
  unfold moved at h
  simp only [Bool.and_eq_true] at h
  exact ⟨h.1.1.1, h.1.1.2, h.1.2, h.2⟩

theorem later_moved (fewer : ∀ id ∈ due, id ∈ m.due)
    (h : (m.moved t given due kept).honest = true) : Later m (m.moved t given due kept) := by
  obtain ⟨honest, -, calm, waits⟩ := honest_moved h
  refine ⟨honest, fun id mem => List.mem_append_right _ mem, fun id mem more => ?_,
    fun id mem spent => ?_, fewer, fun _ => waits⟩
  · have still := List.all_eq_true.1 calm id mem
    have more : unread id t = true := more
    rw [more, Bool.and_eq_true] at still
    exact still.1
  · have still := List.all_eq_true.1 calm id mem
    rw [spent, Bool.and_eq_true] at still
    exact still.2

theorem answered_asked (h : (m.asked t given kept).honest = true) :
    Answered m (m.asked t given kept) ∧ kept = true := by
  have kept := (honest_moved h).2.1
  rw [Bool.and_eq_true, decide_eq_true_iff] at kept
  exact ⟨⟨later_moved (fun _ mem => mem) h, rfl, kept.2⟩, kept.1⟩

theorem answered_read {limit : Nat} {id : StreamId} {answer : ReadAnswer limit}
    (h : (m.read id answer t).honest = true) : Answered m (m.read id answer t) := by
  cases answer with
  | region bytes ne le => exact (answered_asked h).1.passing _
  | finished => exact (answered_asked h).1
  | reset code => exact (answered_asked h).1
  | blocked => exact (answered_asked h).1

end Moved

/-! ## Calls -/

section Calls

variable {m m' : Monitor τ} {id : StreamId} {dir : Dir}

theorem answered_openStream (h : Transport.openStream dir m = some (id, m'))
    (honest : m'.honest = true) :
    Answered m m' ∧ id ∈ m'.known ∧ unread id m'.inner = false := by
  obtain ⟨x, -, e⟩ := Option.map_eq_some_iff.1 h
  cases e
  obtain ⟨answered, new⟩ := answered_asked honest
  rw [Bool.not_eq_true'] at new
  exact ⟨answered, List.mem_cons_self .., new⟩

theorem answered_acceptStream (h : Transport.acceptStream dir m = some (id, m'))
    (honest : m'.honest = true) : Answered m m' ∧ id ∈ m'.known := by
  obtain ⟨x, -, e⟩ := Option.map_eq_some_iff.1 h
  cases e
  exact ⟨(answered_asked honest).1, List.mem_cons_self ..⟩

theorem answered_beginRead (h : Transport.beginRead id m = some m') (honest : m'.honest = true) :
    Answered m m' ∧ m'.passed = 0 := by
  obtain ⟨t, -, rfl⟩ := Option.map_eq_some_iff.1 h
  obtain ⟨later, same, backlog⟩ := (answered_asked (m := m) (t := t) honest).1
  exact ⟨⟨⟨later.honest, later.known, later.calm, later.gone, later.due, later.announced⟩, same, backlog⟩, rfl⟩

theorem answered_nextRegion {limit : Nat} {answer : ReadAnswer limit}
    (h : Transport.nextRegion id limit m = (answer, m')) (honest : m'.honest = true) :
    Answered m m' := by
  cases h
  exact answered_read honest

theorem passed_nextRegion {limit : Nat} {bytes : Bytes} {ne : bytes ≠ []}
    {le : bytes.length ≤ limit}
    (h : Transport.nextRegion id limit m = (.region bytes ne le, m')) (honest : m'.honest = true) :
    m'.passed = m.passed + bytes.length ∧ m'.passed < LiveStream.unlimited := by
  obtain ⟨answer, rfl⟩ := Prod.mk.inj h
  change (m.read id (Transport.nextRegion id limit m.inner).1 _).honest = true at honest
  rw [answer] at honest ⊢
  have asked : (m.asked _ [] (decide (m.passed + bytes.length < LiveStream.unlimited))).honest = true :=
    honest
  exact ⟨rfl, of_decide_eq_true (answered_asked asked).2⟩

theorem gone_nextRegion {limit : Nat} {answer : ReadAnswer limit}
    (h : Transport.nextRegion id limit m = (answer, m')) (honest : m'.honest = true)
    (ends : answer = .finished ∨ ∃ code, answer = .reset code) : gone id m'.inner = true := by
  cases h
  change (m.read id (Transport.nextRegion id limit m.inner).1 _).honest = true at honest
  obtain finished | ⟨code, given_up⟩ := ends
  · rw [finished] at honest ⊢
    exact (answered_asked honest).2
  · rw [given_up] at honest ⊢
    exact (answered_asked honest).2

theorem spent_nextRegion {limit : Nat} {answer : ReadAnswer limit}
    (h : Transport.nextRegion id limit m = (answer, m')) (honest : m'.honest = true)
    (spent : ∀ bytes ne le, answer ≠ .region bytes ne le) : unread id m'.inner = false := by
  cases answer with
  | region bytes ne le => exact absurd rfl (spent bytes ne le)
  | finished => exact unread_of_gone (gone_nextRegion h honest (.inl rfl))
  | reset code => exact unread_of_gone (gone_nextRegion h honest (.inr ⟨code, rfl⟩))
  | blocked =>
    obtain ⟨answer, rfl⟩ := Prod.mk.inj h
    change (m.read id (Transport.nextRegion id limit m.inner).1 _).honest = true at honest
    rw [answer] at honest ⊢
    have kept := (answered_asked honest).2
    rwa [Bool.not_eq_true'] at kept

theorem answered_receiveDatagram {data : Bytes} (h : Transport.receiveDatagram m = some (data, m'))
    (honest : m'.honest = true) : Answered m m' := by
  obtain ⟨x, -, e⟩ := Option.map_eq_some_iff.1 h
  cases e
  exact (answered_asked honest).1

theorem later_poll {e : Event} (h : Transport.poll m = some (e, m')) (honest : m'.honest = true) :
    Later m m' ∧ m'.due = outstanding m.due e ∧ Transport.backlog m' < Transport.backlog m := by
  obtain ⟨x, -, e⟩ := Option.map_eq_some_iff.1 h
  cases e
  refine ⟨later_moved (fun id mem => ?_) honest, rfl, of_decide_eq_true (honest_moved honest).2.1⟩
  unfold outstanding at mem
  split at mem
  · exact List.mem_of_mem_filter mem
  · exact mem

end Calls

theorem Later.extend {m₀ m m' : Monitor τ} (sofar : m.honest = true → Later m₀ m)
    (call : m'.honest = true → Later m m') (honest : m'.honest = true) : Later m₀ m' :=
  (sofar (call honest).honest).trans (call honest)

theorem Answered.extend {m₀ m m' : Monitor τ} (sofar : m.honest = true → Answered m₀ m)
    (call : m'.honest = true → Answered m m') (honest : m'.honest = true) : Answered m₀ m' :=
  (sofar (call honest).honest).trans (call honest)

theorem reacting_answered (m₀ : Monitor τ) :
    Transport.ReactingRetains fun m : Monitor τ => m.honest = true → Answered m₀ m where
  write h sofar := by
    cases h
    exact .extend sofar fun honest => (answered_asked honest).1
  finish h sofar := by
    cases h
    exact .extend sofar fun honest => (answered_asked honest).1
  beginRead h sofar := .extend sofar fun honest => (answered_beginRead h honest).1
  nextRegion h sofar := .extend sofar (answered_nextRegion h)
  endRead sofar := .extend sofar fun honest => (answered_asked honest).1
  acceptStream h sofar := .extend sofar fun honest => (answered_acceptStream h honest).1
  reset sofar := .extend sofar fun honest => (answered_asked honest).1
  stop sofar := .extend sofar fun honest => (answered_asked honest).1
  receiveDatagram h sofar := .extend sofar (answered_receiveDatagram h)
  close sofar := .extend sofar fun honest => (answered_asked honest).1

theorem retains_later (m₀ : Monitor τ) :
    Transport.Retains fun m : Monitor τ => m.honest = true → Later m₀ m where
  write h sofar := by
    cases h
    exact .extend sofar fun honest => (answered_asked honest).1.toLater
  finish h sofar := by
    cases h
    exact .extend sofar fun honest => (answered_asked honest).1.toLater
  beginRead h sofar := .extend sofar fun honest => (answered_beginRead h honest).1.toLater
  nextRegion h sofar := .extend sofar fun honest => (answered_nextRegion h honest).toLater
  endRead sofar := .extend sofar fun honest => (answered_asked honest).1.toLater
  openStream h sofar := .extend sofar fun honest => (answered_openStream h honest).1.toLater
  acceptStream h sofar := .extend sofar fun honest => (answered_acceptStream h honest).1.toLater
  reset sofar := .extend sofar fun honest => (answered_asked honest).1.toLater
  stop sofar := .extend sofar fun honest => (answered_asked honest).1.toLater
  poll h sofar := .extend sofar fun honest => (later_poll h honest).1
  receiveDatagram h sofar := .extend sofar fun honest => (answered_receiveDatagram h honest).toLater
  sendDatagram sofar := .extend sofar fun honest => (answered_asked honest).1.toLater
  ping sofar := .extend sofar fun honest => (answered_asked honest).1.toLater
  close sofar := .extend sofar fun honest => (answered_asked honest).1.toLater
  timeout sofar := .extend sofar (later_moved fun _ mem => mem)

end Monitor

/-! ## A pass over the receive side -/

namespace LiveStream

open Monitor (Later Answered)

variable {τ : Type} [Transport τ]

theorem answered_pull (id : StreamId) (remaining : Nat) {m : Monitor τ}
    (honest : (pull id remaining m).2.honest = true) : Answered m (pull id remaining m).2 :=
  retains_pull (Monitor.reacting_answered m).toReadingRetains id remaining .refl honest

theorem gone_of_ended (id : StreamId) (remaining : Nat) (m : Monitor τ)
    (honest : (pull id remaining m).2.honest = true) (ended : (pull id remaining m).1.ended = true) :
    gone id (pull id remaining m).2.inner = true := by
  fun_induction pull id remaining m with
  | case1 remaining m more bytes ne le m' h rest ih => exact ih honest ended
  | case2 remaining m more m' h => exact Monitor.gone_nextRegion h honest (.inl rfl)
  | case3 remaining m more code m' h => exact Monitor.gone_nextRegion h honest (.inr ⟨code, rfl⟩)
  | case4 remaining m more m' h => cases ended
  | case5 remaining m enough => cases ended

/-- A pass without a limit goes on until nothing is left. -/
theorem unread_of_unlimited (id : StreamId) (remaining : Nat) (m : Monitor τ) (more : 0 < remaining)
    (all : m.passed + remaining = unlimited) (honest : (pull id remaining m).2.honest = true) :
    unread id (pull id remaining m).2.inner = false := by
  fun_induction pull id remaining m with
  | case1 remaining m more bytes ne le m' h rest ih =>
    have earlier := (answered_pull id (remaining - bytes.length) honest).honest
    obtain ⟨passed, short⟩ := Monitor.passed_nextRegion h earlier
    exact ih (by omega) (by omega) honest
  | case2 remaining m more m' h => exact Monitor.spent_nextRegion h honest fun _ _ _ e => by cases e
  | case3 remaining m more code m' h => exact Monitor.spent_nextRegion h honest fun _ _ _ e => by cases e
  | case4 remaining m more m' h => exact Monitor.spent_nextRegion h honest fun _ _ _ e => by cases e
  | case5 remaining m enough => exact absurd more enough

/-- What can be read of a stream is read, or there is nobody to take it, or `left` says why it is not.
Once the read side is over there is nothing to read from. -/
structure Settled (listens : Bool) (left : Prop) (x : LiveStream) (m : Monitor τ) : Prop where
  known : x.id ∈ m.known
  closed : x.directionality.readable = true → x.readClosed = true → gone x.id m.inner = true
  left : x.directionality.readable = true → unread x.id m.inner = true →
    (listens || x.visitor.isSome) = true → left

variable {listens : Bool} {left left' : Prop} {x x' : LiveStream} {m m' : Monitor τ}

theorem Settled.mono (h : Settled listens left x m) (weaker : left → left') :
    Settled listens left' x m :=
  ⟨h.known, h.closed, fun readable more heard => weaker (h.left readable more heard)⟩

theorem Settled.later (h : Settled listens left x m) (same : SendingOnly x x') (later : Later m m') :
    Settled listens left x' m' := by
  refine ⟨same.id ▸ later.known _ h.known, fun readable closed => ?_, fun readable more heard => ?_⟩
  · rw [same.directionality] at readable
    rw [same.readClosed] at closed
    rw [same.id]
    exact later.gone _ h.known (h.closed readable closed)
  · rw [same.directionality] at readable
    rw [same.id] at more
    rw [same.visitor] at heard
    exact h.left readable (later.calm _ h.known more) heard

theorem later_readUpTo (limit : Nat) (honest : (x.readUpTo limit m).2.2.honest = true) :
    Later m (x.readUpTo limit m).2.2 :=
  (retains_readUpTo (Monitor.reacting_answered m).toReadingRetains x limit .refl honest).toLater

theorem gone_of_unknown {id : StreamId} (unknown : Transport.beginRead id m = none) :
    gone id m.inner = true := by
  have none_begins : Transport.beginRead id m.inner = none := Option.map_eq_none_iff.1 unknown
  exact Option.isNone_iff_eq_none.2 none_begins

theorem closed_readUpTo (h : Settled listens left x m) (limit : Nat)
    (honest : (x.readUpTo limit m).2.2.honest = true) (readable : x.directionality.readable = true)
    (closed : (x.readUpTo limit m).2.1.readClosed = true) :
    gone x.id (x.readUpTo limit m).2.2.inner = true := by
  unfold readUpTo at honest closed ⊢
  split
  · rename_i idle
    rw [if_pos idle] at closed
    exact h.closed readable closed
  · rename_i able
    rw [if_neg able] at honest closed
    split
    · exact gone_of_unknown ‹_›
    · rename_i m' begun
      rw [begun] at honest closed
      have ending := (Monitor.answered_asked honest).1
      have pulled := answered_pull x.id limit ending.honest
      have begins := (Monitor.answered_beginRead begun pulled.honest).1
      have known := pulled.known _ (begins.known _ h.known)
      have ended : (pull x.id limit m').1.ended = true := closed
      exact ending.gone _ known (gone_of_ended x.id limit m' ending.honest ended)

/-- Draining leaves nothing to read. -/
theorem unread_drain (h : Settled listens left x m) (honest : (x.drain m).2.2.honest = true)
    (readable : x.directionality.readable = true) :
    unread x.id (x.drain m).2.2.inner = false := by
  unfold drain readUpTo at honest ⊢
  split
  · rename_i idle
    have closed : x.readClosed = true := by
      rw [Bool.or_eq_true] at idle
      exact idle.resolve_right (by decide)
    exact unread_of_gone (h.closed readable closed)
  · rename_i able
    rw [if_neg able] at honest
    split
    · exact unread_of_gone (gone_of_unknown ‹_›)
    · rename_i m' begun
      rw [begun] at honest
      have ending := (Monitor.answered_asked honest).1
      have pulled := answered_pull x.id unlimited ending.honest
      obtain ⟨begins, passed⟩ := Monitor.answered_beginRead begun pulled.honest
      have nothing := unread_of_unlimited x.id unlimited m' (by decide) (by omega) ending.honest
      cases more : unread x.id (Transport.endRead x.id (pull x.id unlimited m').2).inner with
      | false => rfl
      | true =>
        have more := ending.calm _ (pulled.known _ (begins.known _ h.known)) more
        rw [nothing] at more
        cases more

theorem settled_readUpTo (h : Settled listens left x m) (limit : Nat)
    (honest : (x.readUpTo limit m).2.2.honest = true)
    (rest : x.directionality.readable = true → unread x.id (x.readUpTo limit m).2.2.inner = true →
      left → left') :
    Settled listens left' (x.readUpTo limit m).2.1.takeFin.2 (x.readUpTo limit m).2.2 := by
  have same := sameStream_readUpTo_takeFin x limit m
  have later := later_readUpTo limit honest
  have closed : (x.readUpTo limit m).2.1.takeFin.2.readClosed = (x.readUpTo limit m).2.1.readClosed := by
    rw [takeFin_eq]
  refine ⟨same.id ▸ later.known _ h.known, fun readable closing => ?_, fun readable more heard => ?_⟩
  · rw [same.directionality] at readable
    rw [closed] at closing
    rw [same.id]
    exact closed_readUpTo h limit honest readable closing
  · rw [same.directionality] at readable
    rw [same.id] at more
    rw [same.visitor] at heard
    exact rest readable more (h.left readable (later.calm _ h.known more) heard)

end LiveStream

end QuicSessions
