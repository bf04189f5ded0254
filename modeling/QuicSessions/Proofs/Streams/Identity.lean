import QuicSessions.LiveStream

/-!
# What the traffic of a stream leaves alone

Sending and receiving move bytes and flags. The identifier of a stream, the ways it runs, its visitor
and its limit stay what they were.
-/

set_option autoImplicit false

namespace QuicSessions.LiveStream

variable {τ : Type} [Transport τ]

/-- Two states of one stream: no more than its bytes and its flags differ. -/
structure SameStream (s s' : LiveStream) : Prop where
  id : s'.id = s.id
  directionality : s'.directionality = s.directionality
  visitor : s'.visitor = s.visitor
  limit : s'.limit = s.limit

namespace SameStream

variable {s s' s'' : LiveStream}

theorem refl (s : LiveStream) : SameStream s s := ⟨rfl, rfl, rfl, rfl⟩

theorem trans (h : SameStream s s') (h' : SameStream s' s'') : SameStream s s'' :=
  ⟨h'.id.trans h.id, h'.directionality.trans h.directionality, h'.visitor.trans h.visitor,
    h'.limit.trans h.limit⟩

end SameStream

/-! ## Sending -/

/-- Two states of one stream: no more than its write side differs. -/
structure SendingOnly (s s' : LiveStream) : Prop extends SameStream s s' where
  readClosed : s'.readClosed = s.readClosed
  finReported : s'.finReported = s.finReported

namespace SendingOnly

variable {s s' s'' : LiveStream}

theorem refl (s : LiveStream) : SendingOnly s s := ⟨.refl s, rfl, rfl⟩

theorem trans (h : SendingOnly s s') (h' : SendingOnly s' s'') : SendingOnly s s'' :=
  ⟨h.toSameStream.trans h'.toSameStream, h'.readClosed.trans h.readClosed,
    h'.finReported.trans h.finReported⟩

end SendingOnly

theorem sendingOnly_abandonWrites (s : LiveStream) : SendingOnly s s.abandonWrites :=
  ⟨⟨rfl, rfl, rfl, rfl⟩, rfl, rfl⟩

theorem sendingOnly_acknowledged (s : LiveStream) : SendingOnly s s.acknowledged :=
  ⟨⟨rfl, rfl, rfl, rfl⟩, rfl, rfl⟩

theorem sendingOnly_sendFin (s : LiveStream) (t : τ) : SendingOnly s (s.sendFin t).1 := by
  unfold sendFin
  dsimp only
  split <;> exact ⟨⟨rfl, rfl, rfl, rfl⟩, rfl, rfl⟩

theorem sendingOnly_flush (s : LiveStream) (t : τ) : SendingOnly s (s.flush t).2.1 := by
  unfold flush
  split
  · exact .refl s
  · have poured : SendingOnly s { s with
        pending := (pour s.id s.pending s.buffered t).pending
        buffered := (pour s.id s.pending s.buffered t).buffered } := ⟨⟨rfl, rfl, rfl, rfl⟩, rfl, rfl⟩
    dsimp only
    split
    · exact poured.trans (sendingOnly_abandonWrites _)
    · split
      · exact poured.trans (sendingOnly_sendFin _ _)
      · exact poured

theorem sendingOnly_enqueue {s s' : LiveStream} {data : Bytes} {fin : Bool}
    (h : s.enqueue? data fin = some s') : SendingOnly s s' := by
  unfold enqueue? at h
  split at h
  · cases h
  · split at h
    · cases h
    · simp only [Option.some.injEq] at h
      subst h
      cases fin <;> cases data.isEmpty <;> exact ⟨⟨rfl, rfl, rfl, rfl⟩, rfl, rfl⟩

theorem sendingOnly_write (s : LiveStream) (data : Bytes) (fin : Bool) (t : τ) :
    SendingOnly s (s.write data fin t).2.1 := by
  unfold write
  split
  · exact .refl s
  · rename_i s' h
    exact (sendingOnly_enqueue h).trans (sendingOnly_flush s' t)

theorem sendingOnly_close (s : LiveStream) (t : τ) : SendingOnly s (s.close t).1 := by
  unfold close
  split
  · exact .refl s
  · have asked : SendingOnly s { s with finAsked := true } := ⟨⟨rfl, rfl, rfl, rfl⟩, rfl, rfl⟩
    exact asked.trans (sendingOnly_flush _ t)

/-! ## Receiving -/

theorem sameStream_readUpTo (s : LiveStream) (limit : Nat) (t : τ) :
    SameStream s (s.readUpTo limit t).2.1 := by
  unfold readUpTo
  split
  · exact .refl s
  · split
    · exact ⟨rfl, rfl, rfl, rfl⟩
    · exact ⟨rfl, rfl, rfl, rfl⟩

theorem takeFin_eq (s : LiveStream) :
    s.takeFin = (s.readClosed && !s.finReported,
      { s with finReported := s.finReported || (s.readClosed && !s.finReported) }) := by
  unfold takeFin
  split
  · rename_i due
    rw [due, Bool.or_true]
  · rename_i undue
    rw [Bool.not_eq_true] at undue
    rw [undue, Bool.or_false]

theorem sameStream_takeFin (s : LiveStream) : SameStream s s.takeFin.2 := by
  unfold takeFin
  split <;> exact ⟨rfl, rfl, rfl, rfl⟩

/-- A pass with the report of the end that follows it. -/
theorem sameStream_readUpTo_takeFin (s : LiveStream) (limit : Nat) (t : τ) :
    SameStream s (s.readUpTo limit t).2.1.takeFin.2 :=
  (sameStream_readUpTo s limit t).trans (sameStream_takeFin _)

end QuicSessions.LiveStream
