import QuicSessions.Proofs.Sessions.Retention

/-!
# Marked transports

A journal is a transport around another one. It answers as the other does and marks what ends a side of a
stream: that the transport took the end, that this side gave the stream up, that the peer wants no more, that
there is nothing to send on, and that a read came to an end, of either kind. A stream handed over to a journal
can be held against the marks: they explain each side of it that is over.
-/

set_option autoImplicit false

namespace QuicSessions

/-- What may end a side of a stream. -/
inductive Mark where
  /-- The transport took the end of the stream. -/
  | ended
  /-- This side gave the stream up. -/
  | reset
  /-- The peer wants no more of the stream. -/
  | stopped
  /-- The transport has nothing to send the stream on. -/
  | unknown
  /-- The peer has all of the stream, its end included. -/
  | acknowledged
  /-- A read came to the end of the stream. -/
  | readOut
  /-- A read found that the peer gave the stream up. -/
  | givenUp
  /-- The transport has nothing to read the stream from. -/
  | unreadable
  deriving DecidableEq

namespace Mark

def ofWrite {offered : Nat} : WriteAnswer offered → List Mark
  | .stopped _ => [stopped]
  | .unknown => [unknown]
  | _ => []

def ofFinish : FinishAnswer → List Mark
  | .done => [ended]
  | .stopped _ => [stopped]
  | .unknown => [unknown]

def ofRead {limit : Nat} : ReadAnswer limit → List Mark
  | .finished => [readOut]
  | .reset _ => [givenUp]
  | _ => []

/-- The marks for a pass over a stream. -/
def ofPass (pass : ReadPass) : List Mark :=
  (if pass.fin then [readOut] else []) ++ if pass.reset.isSome then [givenUp] else []

theorem mem_ofPass {pass : ReadPass} {m : Mark} (mem : m ∈ ofPass pass) : m = readOut ∨ m = givenUp := by
  unfold ofPass at mem
  obtain mem | mem := List.mem_append.1 mem
  · split at mem
    · exact .inl (List.mem_singleton.1 mem)
    · cases mem
  · split at mem
    · exact .inr (List.mem_singleton.1 mem)
    · cases mem

/-- A pass that came to an end is marked. -/
theorem ofPass_of_ended {pass : ReadPass} (ended : pass.ended = true) :
    readOut ∈ ofPass pass ∨ givenUp ∈ ofPass pass := by
  unfold ReadPass.ended at ended
  unfold ofPass
  obtain fin | reset := Bool.or_eq_true_iff.1 ended
  · rw [if_pos fin]
    exact .inl (List.mem_append_left _ (List.mem_singleton_self _))
  · rw [if_pos reset]
    exact .inr (List.mem_append_right _ (List.mem_singleton_self _))

end Mark

/-- A transport with the marks of its streams, first made first. -/
structure Journal (τ : Type) where
  inner : τ
  marks : List (StreamId × Mark)

namespace Journal

variable {τ : Type}

def after (j : Journal τ) (t : τ) (id : StreamId) (noted : List Mark) : Journal τ :=
  ⟨t, j.marks ++ noted.map (Prod.mk id)⟩

def moved (j : Journal τ) (t : τ) : Journal τ := { j with inner := t }

/-- More is marked of the stream `id`, and of no other. -/
def Adds (id : StreamId) (noted : List Mark) (j j' : Journal τ) : Prop :=
  j'.marks = j.marks ++ noted.map (Prod.mk id)

theorem Adds.of_same {j j' : Journal τ} (id : StreamId) (same : j'.marks = j.marks) : Adds id [] j j' :=
  same.trans (List.append_nil _).symm

theorem Adds.trans {id : StreamId} {noted more : List Mark} {j j' j'' : Journal τ} (h : Adds id noted j j')
    (h' : Adds id more j' j'') : Adds id (noted ++ more) j j'' := by
  unfold Adds at h h' ⊢
  rw [h', h, List.map_append, List.append_assoc]

theorem Adds.drop_marks {id : StreamId} {noted : List Mark} {j j' : Journal τ} (h : Adds id noted j j') :
    j'.marks.drop j.marks.length = noted.map (Prod.mk id) := by
  rw [h, List.drop_left]

/-- What is marked of the stream `id`. -/
def marksOf (id : StreamId) (marks : List (StreamId × Mark)) : List Mark :=
  marks.filterMap fun m => if m.1 = id then some m.2 else none

theorem marksOf_map (i id : StreamId) (noted : List Mark) :
    marksOf id (noted.map (Prod.mk i)) = if id = i then noted else [] := by
  unfold marksOf
  rw [List.filterMap_map]
  split
  · rename_i same
    subst same
    exact (List.filterMap_congr fun m _ => if_pos rfl).trans List.filterMap_some
  · rename_i other
    exact List.filterMap_eq_nil_iff.2 fun m _ => if_neg (Ne.symm other)

instance [Transport τ] : Transport (Journal τ) where
  side j := Transport.side j.inner
  remote j := Transport.remote j.inner
  counters j := Transport.counters j.inner
  isClosed j := Transport.isClosed j.inner
  isDrained j := Transport.isDrained j.inner
  openStream dir j := (Transport.openStream dir j.inner).map fun x => (x.1, j.moved x.2)
  acceptStream dir j := (Transport.acceptStream dir j.inner).map fun x => (x.1, j.moved x.2)
  write id data j :=
    let x := Transport.write id data j.inner
    (x.1, j.after x.2 id (Mark.ofWrite x.1))
  finish id j :=
    let x := Transport.finish id j.inner
    (x.1, j.after x.2 id (Mark.ofFinish x.1))
  reset id code j := j.after (Transport.reset id code j.inner) id [.reset]
  stop id code j := j.moved (Transport.stop id code j.inner)
  beginRead id j := (Transport.beginRead id j.inner).map j.moved
  nextRegion id limit j :=
    let x := Transport.nextRegion id limit j.inner
    (x.1, j.after x.2 id (Mark.ofRead x.1))
  endRead id j := j.moved (Transport.endRead id j.inner)
  poll j := (Transport.poll j.inner).map fun x => (x.1, j.moved x.2)
  receiveDatagram j := (Transport.receiveDatagram j.inner).map fun x => (x.1, j.moved x.2)
  sendDatagram data j :=
    let x := Transport.sendDatagram data j.inner
    (x.1, j.moved x.2)
  ping j := j.moved (Transport.ping j.inner)
  close now code reason j := j.moved (Transport.close now code reason j.inner)
  deadline j := Transport.deadline j.inner
  timeout now j := j.moved (Transport.timeout now j.inner)
  backlog j := Transport.backlog j.inner

variable [Transport τ] {j j' : Journal τ} {id : StreamId}

theorem adds_write {data : Bytes} {answer : WriteAnswer data.length}
    (h : Transport.write id data j = (answer, j')) : Adds id (Mark.ofWrite answer) j j' := by
  cases h
  rfl

theorem adds_finish {answer : FinishAnswer} (h : Transport.finish id j = (answer, j')) :
    Adds id (Mark.ofFinish answer) j j' := by
  cases h
  rfl

theorem adds_nextRegion {limit : Nat} {answer : ReadAnswer limit}
    (h : Transport.nextRegion id limit j = (answer, j')) : Adds id (Mark.ofRead answer) j j' := by
  cases h
  rfl

theorem marks_beginRead (h : Transport.beginRead id j = some j') : j'.marks = j.marks := by
  obtain ⟨t, -, rfl⟩ := Option.map_eq_some_iff.1 h
  rfl

theorem marks_openStream {dir : Dir} (h : Transport.openStream dir j = some (id, j')) :
    j'.marks = j.marks := by
  obtain ⟨x, -, e⟩ := Option.map_eq_some_iff.1 h
  cases e
  rfl

theorem marks_receiveDatagram {data : Bytes} (h : Transport.receiveDatagram j = some (data, j')) :
    j'.marks = j.marks := by
  obtain ⟨x, -, e⟩ := Option.map_eq_some_iff.1 h
  cases e
  rfl

theorem adds_reject (id : StreamId) (side : Side) (code : Nat) (j : Journal τ) :
    ∃ noted, Adds id noted j (LiveStream.reject id side code j) := by
  have stopped : (if (Directionality.of id side).readable then Transport.stop id code j else j).marks =
      j.marks := by
    split <;> rfl
  unfold LiveStream.reject
  dsimp only
  split
  · exact ⟨[.reset], congrArg (· ++ [(id, Mark.reset)]) stopped⟩
  · exact ⟨[], .of_same id stopped⟩

end Journal

namespace LiveStream

/-! ## Marks that explain a stream -/

/-- The marks explain what became of a stream: a side that is over now was over before, or a mark says why.
The end goes out on an open write side only, and what stops or ends the write side closes it. -/
structure Explained (noted : List Mark) (x x' : LiveStream) : Prop where
  directionality : x'.directionality = x.directionality
  done : x'.writeDone = true → x.writeDone = true ∨
    .acknowledged ∈ noted ∨ .stopped ∈ noted ∨ .unknown ∈ noted
  barred : x.writeClosed = true ∨ .stopped ∈ noted ∨ .ended ∈ noted → x'.writeClosed = true
  ended : .ended ∈ noted → x.writeClosed = false ∧ .stopped ∉ noted
  read : x'.readClosed = true → x.readClosed = true ∨
    .readOut ∈ noted ∨ .givenUp ∈ noted ∨ .unreadable ∈ noted
  kept : .reset ∉ noted

/-- Nothing differs that a mark could explain. -/
structure SameEnds (x x' : LiveStream) : Prop where
  directionality : x'.directionality = x.directionality
  writeDone : x'.writeDone = x.writeDone
  writeClosed : x'.writeClosed = x.writeClosed
  readClosed : x'.readClosed = x.readClosed

namespace Explained

variable {noted : List Mark} {x x' : LiveStream}

/-- Where nothing ended, no mark has to be explained but that there was nothing to read. -/
theorem of_same (h : SameEnds x x') (only : ∀ m ∈ noted, m = .unreadable) : Explained noted x x' where
  directionality := h.directionality
  done done := .inl (h.writeDone ▸ done)
  barred barred := by
    obtain closed | stopped | ended := barred
    · exact h.writeClosed.trans closed
    · cases only _ stopped
    · cases only _ ended
  ended ended := by cases only _ ended
  read read := .inl (h.readClosed ▸ read)
  kept reset := by cases only _ reset

theorem refl (x : LiveStream) : Explained [] x x := of_same ⟨rfl, rfl, rfl, rfl⟩ fun _ mem => by cases mem

end Explained

theorem SameEnds.explained {noted : List Mark} {x x' x'' : LiveStream} (h : SameEnds x x')
    (h' : Explained noted x' x'') : Explained noted x x'' where
  directionality := h'.directionality.trans h.directionality
  done done := (h'.done done).imp_left fun before => h.writeDone ▸ before
  barred barred := h'.barred (barred.imp_left fun closed => h.writeClosed.trans closed)
  ended ended := ⟨h.writeClosed ▸ (h'.ended ended).1, (h'.ended ended).2⟩
  read read := (h'.read read).imp_left fun before => h.readClosed ▸ before
  kept := h'.kept

theorem explained_abandonWrites (x : LiveStream) : Explained [.stopped] x x.abandonWrites where
  directionality := rfl
  done _ := .inr (.inr (.inl (List.mem_singleton_self _)))
  barred _ := rfl
  ended ended := by cases List.mem_singleton.1 ended
  read read := .inl read
  kept reset := by cases List.mem_singleton.1 reset

theorem explained_acknowledged (x : LiveStream) : Explained [.acknowledged] x x.acknowledged where
  directionality := rfl
  done _ := .inr (.inl (List.mem_singleton_self _))
  barred barred := by
    obtain closed | stopped | ended := barred
    · exact closed
    · cases List.mem_singleton.1 stopped
    · cases List.mem_singleton.1 ended
  ended ended := by cases List.mem_singleton.1 ended
  read read := .inl read
  kept reset := by cases List.mem_singleton.1 reset

/-! ## Sending -/

variable {τ : Type} [Transport τ]

/-- Handing over chunks marks nothing unless it breaks off, and then why. -/
theorem adds_pour (id : StreamId) (pending : List Bytes) (buffered : Nat) (j : Journal τ) :
    ∃ noted, Journal.Adds id noted j (pour id pending buffered j).transport ∧
      if (pour id pending buffered j).broken then noted = [.stopped] ∨ noted = [.unknown] else noted = [] := by
  fun_induction pour id pending buffered j with
  | case1 buffered j => exact ⟨[], .of_same id rfl, rfl⟩
  | case2 chunk rest buffered j j' pos le written ih =>
    obtain ⟨noted, adds, why⟩ := ih
    exact ⟨noted, (Journal.adds_write written).trans adds, why⟩
  | case3 chunk rest buffered j taken pos le j' written part ih =>
    obtain ⟨noted, adds, why⟩ := ih
    exact ⟨noted, (Journal.adds_write written).trans adds, why⟩
  | case4 chunk rest buffered j j' written => exact ⟨[], Journal.adds_write written, rfl⟩
  | case5 chunk rest buffered j code j' written => exact ⟨_, Journal.adds_write written, .inl rfl⟩
  | case6 chunk rest buffered j j' written => exact ⟨_, Journal.adds_write written, .inr rfl⟩

theorem explained_sendFin {s : LiveStream} (open_ : s.writeClosed = false) (j : Journal τ) :
    ∃ noted, Journal.Adds s.id noted j (s.sendFin j).2 ∧ Explained noted s (s.sendFin j).1 := by
  unfold sendFin
  dsimp only
  split
  · rename_i finished
    refine ⟨_, Journal.adds_finish finished, rfl, fun done => .inl done, fun _ => rfl, fun _ => ?_,
      fun read => .inl read, by decide⟩
    exact ⟨open_, by decide⟩
  · rename_i finished
    refine ⟨_, Journal.adds_finish finished, ?_⟩
    have same : SameEnds s { s with writeClosed := false } := ⟨rfl, rfl, open_.symm, rfl⟩
    exact same.explained (explained_abandonWrites { s with writeClosed := false })
  · rename_i finished
    refine ⟨_, Journal.adds_finish finished, rfl, fun _ => ?_, fun _ => rfl, ?_, fun read => .inl read,
      by decide⟩
    · exact .inr (.inr (.inr (List.mem_singleton_self _)))
    · intro ended
      cases List.mem_singleton.1 ended

theorem explained_flush (s : LiveStream) (j : Journal τ) :
    ∃ noted, Journal.Adds s.id noted j (s.flush j).2.2 ∧ Explained noted s (s.flush j).2.1 := by
  obtain ⟨noted, adds, why⟩ := adds_pour s.id s.pending s.buffered j
  unfold flush
  split
  · exact ⟨[], .of_same s.id rfl, .refl s⟩
  · rename_i open_
    rw [Bool.not_eq_true] at open_
    dsimp only
    generalize pour s.id s.pending s.buffered j = p at adds why
    have poured : SameEnds s { s with pending := p.pending, buffered := p.buffered } := ⟨rfl, rfl, rfl, rfl⟩
    split
    · rename_i broken
      rw [if_pos broken] at why
      refine ⟨noted, adds, ?_⟩
      obtain rfl | rfl := why
      · exact poured.explained (explained_abandonWrites _)
      · refine ⟨rfl, fun _ => ?_, fun _ => rfl, ?_, fun read => .inl read, by decide⟩
        · exact .inr (.inr (.inr (List.mem_singleton_self _)))
        · intro ended
          cases List.mem_singleton.1 ended
    · rename_i whole
      rw [if_neg whole] at why
      subst why
      split
      · obtain ⟨noted, ends, explained⟩ :=
          explained_sendFin (s := { s with pending := p.pending, buffered := p.buffered }) open_ p.transport
        exact ⟨noted, adds.trans ends, poured.explained explained⟩
      · exact ⟨[], adds, .of_same poured fun _ mem => by cases mem⟩

theorem sameEnds_enqueue {s s' : LiveStream} {data : Bytes} {fin : Bool}
    (h : s.enqueue? data fin = some s') : SameEnds s s' := by
  unfold enqueue? at h
  split at h
  · cases h
  split at h
  · cases h
  · cases h
    split <;> split <;> exact ⟨rfl, rfl, rfl, rfl⟩

theorem explained_write (s : LiveStream) (data : Bytes) (fin : Bool) (j : Journal τ) :
    ∃ noted, Journal.Adds s.id noted j (s.write data fin j).2.2 ∧
      Explained noted s (s.write data fin j).2.1 := by
  unfold write
  split
  · exact ⟨[], .of_same s.id rfl, .refl s⟩
  · rename_i s' taken
    obtain ⟨noted, adds, explained⟩ := explained_flush s' j
    rw [(sendingOnly_enqueue taken).id] at adds
    exact ⟨noted, adds, (sameEnds_enqueue taken).explained explained⟩

theorem explained_close (s : LiveStream) (j : Journal τ) :
    ∃ noted, Journal.Adds s.id noted j (s.close j).2 ∧ Explained noted s (s.close j).1 := by
  unfold close
  split
  · exact ⟨[], .of_same s.id rfl, .refl s⟩
  · obtain ⟨noted, adds, explained⟩ := explained_flush { s with finAsked := true } j
    have asked : SameEnds s { s with finAsked := true } := ⟨rfl, rfl, rfl, rfl⟩
    exact ⟨noted, adds, asked.explained explained⟩

/-! ## Receiving -/

theorem adds_pull (id : StreamId) (remaining : Nat) (j : Journal τ) :
    Journal.Adds id (Mark.ofPass (pull id remaining j).1) j (pull id remaining j).2 := by
  fun_induction pull id remaining j with
  | case1 remaining j more bytes ne le j' read rest ih => exact (Journal.adds_nextRegion read).trans ih
  | case2 remaining j more j' read => exact Journal.adds_nextRegion read
  | case3 remaining j more code j' read => exact Journal.adds_nextRegion read
  | case4 remaining j more j' read => exact Journal.adds_nextRegion read
  | case5 remaining j enough => exact .of_same id rfl

/-- The mark for a stream that the transport has nothing to read from. -/
def missing (id : StreamId) (j : Journal τ) : List Mark :=
  if (Transport.beginRead id j).isNone then [.unreadable] else []

theorem missing_of_none {id : StreamId} {j : Journal τ} (nowhere : Transport.beginRead id j = none) :
    missing id j = [.unreadable] := by
  unfold missing
  rw [nowhere]
  rfl

theorem missing_of_some {id : StreamId} {j j' : Journal τ} (begun : Transport.beginRead id j = some j') :
    missing id j = [] := by
  unfold missing
  rw [begun]
  rfl

theorem mem_missing {id : StreamId} {j : Journal τ} {m : Mark} (mem : m ∈ missing id j) :
    m = .unreadable := by
  unfold missing at mem
  split at mem
  · exact List.mem_singleton.1 mem
  · cases mem

/-- A pass over a stream, and the report of its end that follows. -/
theorem explained_readUpTo (s : LiveStream) (limit : Nat) (j : Journal τ) :
    ∃ noted, Journal.Adds s.id noted j (s.readUpTo limit j).2.2 ∧
      Explained (missing s.id j ++ noted) s (s.readUpTo limit j).2.1.takeFin.2 := by
  rw [takeFin_eq]
  unfold readUpTo
  split
  · refine ⟨[], .of_same s.id rfl, .of_same ⟨rfl, rfl, rfl, rfl⟩ fun m mem => ?_⟩
    rw [List.append_nil] at mem
    exact mem_missing mem
  · split
    · rename_i nowhere
      rw [missing_of_none nowhere]
      refine ⟨[], .of_same s.id rfl, rfl, fun done => .inl done, ?_, ?_, fun _ => ?_, by decide⟩
      · rintro (closed | stopped | ended)
        · exact closed
        · cases List.mem_singleton.1 stopped
        · cases List.mem_singleton.1 ended
      · intro ended
        cases List.mem_singleton.1 ended
      · exact .inr (.inr (.inr (List.mem_singleton_self _)))
    · rename_i j' begun
      have adds := adds_pull s.id limit j'
      refine ⟨_, (Journal.Adds.of_same s.id (Journal.marks_beginRead begun)).trans adds, ?_⟩
      rw [missing_of_some begun, List.nil_append, List.nil_append]
      dsimp only
      generalize (pull s.id limit j').1 = pass
      have lacks (m : Mark) (ne : m ≠ .readOut) (ne' : m ≠ .givenUp) : m ∉ Mark.ofPass pass := by
        intro mem
        obtain rfl | rfl := Mark.mem_ofPass mem
        · exact ne rfl
        · exact ne' rfl
      refine ⟨rfl, fun done => .inl done, ?_, ?_, fun ended => .inr ?_, lacks _ nofun nofun⟩
      · rintro (closed | stopped | ended)
        · exact closed
        · exact absurd stopped (lacks _ nofun nofun)
        · exact absurd ended (lacks _ nofun nofun)
      · exact fun ended => absurd ended (lacks _ nofun nofun)
      · exact (Mark.ofPass_of_ended ended).imp_right .inl

end LiveStream

end QuicSessions
