import QuicSessions.Proofs.Streams.Identity

/-!
# The end of a stream, as it is reported

The read side of a stream ends in one of three ways: a pass comes to the end, a pass finds that the peer gave
the stream up, or the transport has nothing to read it from. A reader keeps what the passes over a stream
brought. The end is reported once, after the first of the three and after the last, and never after the second.
-/

set_option autoImplicit false

namespace QuicSessions

/-- What happens to a stream. -/
inductive Handling (τ : Type) where
  /-- A pass; without a limit it drains the stream. -/
  | read (limit : Nat)
  | takeFin
  | write (data : Bytes) (fin : Bool)
  | flush
  | close
  | stopped
  | acknowledged
  | visit (v : StreamVisitor)
  /-- The transport moves by itself. -/
  | transport (t : τ)

/-- A stream with its transport and the history of its read side. -/
structure Reader (τ : Type) where
  stream : LiveStream
  transport : τ
  passes : List ReadPass
  /-- A pass found that the transport had nothing to read the stream from. -/
  lost : Bool
  /-- How often the end was reported. -/
  told : Nat

namespace LiveStream

variable {τ : Type} [Transport τ]

/-- A pass of at most `limit` bytes asks the transport for the stream. -/
def Asks (limit : Nat) (s : LiveStream) : Prop := s.readClosed = false ∧ 0 < limit

instance (limit : Nat) (s : LiveStream) : Decidable (s.Asks limit) :=
  inferInstanceAs (Decidable (_ ∧ _))

theorem readUpTo_of_idle {limit : Nat} {s : LiveStream} (idle : ¬ s.Asks limit) (t : τ) :
    s.readUpTo limit t = (.nothing, s, t) := by
  refine if_pos ?_
  unfold Asks at idle
  cases closed : s.readClosed with
  | true => rfl
  | false =>
    have none_wanted : limit = 0 := by
      simp only [closed, true_and, Nat.not_lt] at idle
      exact Nat.le_zero.1 idle
    rw [none_wanted]
    rfl

theorem readUpTo_of_asks {limit : Nat} {s : LiveStream} (asks : s.Asks limit) (t : τ) :
    s.readUpTo limit t = match Transport.beginRead s.id t with
      | none => (.nothing, { s with readClosed := true }, t)
      | some t =>
        let r := pull s.id limit t
        (r.1,
          { s with
            readClosed := r.1.ended
            finReported := s.finReported || r.1.reset.isSome },
          Transport.endRead s.id r.2) := by
  refine if_neg ?_
  rw [asks.1, Bool.false_or, beq_iff_eq]
  exact Nat.ne_of_gt asks.2

/-- A pass that comes to the end finds no other one. -/
theorem reset_pull_of_fin (id : StreamId) (remaining : Nat) (t : τ) :
    (pull id remaining t).1.fin = true → (pull id remaining t).1.reset = none := by
  fun_induction pull id remaining t with
  | case1 remaining t more bytes ne le t' h rest ih => exact ih
  | case2 remaining t more t' h => exact fun _ => rfl
  | case3 remaining t more code t' h => exact nofun
  | case4 remaining t more t' h => exact nofun
  | case5 remaining t enough => exact nofun

/-- What a pass brings does not depend on who visits the stream. -/
theorem readUpTo_of_visitor (s : LiveStream) (v : Option StreamVisitor) (limit : Nat) (t : τ) :
    ({ s with visitor := v }.readUpTo limit t).1 = (s.readUpTo limit t).1 := by
  by_cases asks : s.Asks limit
  · have visited : ({ s with visitor := v } : LiveStream).Asks limit := asks
    rw [readUpTo_of_asks asks, readUpTo_of_asks visited]
    dsimp only
    cases Transport.beginRead s.id t <;> rfl
  · have visited : ¬ ({ s with visitor := v } : LiveStream).Asks limit := asks
    rw [readUpTo_of_idle asks, readUpTo_of_idle visited]

/-! ## A pass with the report that follows it -/

/-- What is over is reported: nothing is left to report of the read side. -/
def Level (s : LiveStream) : Prop := s.finReported = s.readClosed

omit [Transport τ] in
theorem level_new (id : StreamId) (directionality : Directionality) (limit : Nat) :
    Level (new id directionality limit) := rfl

/-- If nothing was left to report, a pass has something to report if it comes to the end, or if there is
nothing to read the stream from. -/
theorem takeFin_readUpTo_iff {s : LiveStream} (level : s.Level) (limit : Nat) (t : τ) :
    (s.readUpTo limit t).2.1.takeFin.1 = true ↔
      s.Asks limit ∧ ((s.readUpTo limit t).1.fin = true ∨ Transport.beginRead s.id t = none) := by
  rw [takeFin_eq]
  by_cases asks : s.Asks limit
  · have unreported : s.finReported = false := level.trans asks.1
    rw [readUpTo_of_asks asks]
    cases begun : Transport.beginRead s.id t with
    | none => simp [asks, unreported]
    | some t' =>
      have apart := reset_pull_of_fin s.id limit t'
      dsimp only
      generalize (pull s.id limit t').1 = pass at *
      simp only [ReadPass.ended, unreported, asks]
      cases fin : pass.fin with
      | true => simp [apart fin]
      | false => cases pass.reset <;> simp
  · rw [readUpTo_of_idle asks]
    simp only [asks, false_and, iff_false]
    rw [show s.finReported = s.readClosed from level]
    cases s.readClosed <;> simp

/-- After a pass and the report that follows it, nothing is left to report. -/
theorem level_readUpTo_takeFin {s : LiveStream} (level : s.Level) (limit : Nat) (t : τ) :
    (s.readUpTo limit t).2.1.takeFin.2.Level := by
  rw [takeFin_eq]
  unfold Level
  by_cases asks : s.Asks limit
  · have unreported : s.finReported = false := level.trans asks.1
    rw [readUpTo_of_asks asks]
    cases begun : Transport.beginRead s.id t with
    | none => simp [unreported]
    | some t' =>
      dsimp only
      simp only [ReadPass.ended, unreported]
      cases (pull s.id limit t').1.fin <;> cases (pull s.id limit t').1.reset <;> rfl
  · rw [readUpTo_of_idle asks]
    dsimp only
    rw [show s.finReported = s.readClosed from level]
    cases s.readClosed <;> rfl

/-- A read side that is over stays over. -/
theorem readClosed_readUpTo {s : LiveStream} (closed : s.readClosed = true) (limit : Nat) (t : τ) :
    (s.readUpTo limit t).2.1.readClosed = true := by
  rw [readUpTo_of_idle fun asks => Bool.false_ne_true (asks.1.symm.trans closed)]
  exact closed

end LiveStream

namespace Reader

variable {τ : Type}

/-- A new stream on a transport. -/
def new (id : StreamId) (directionality : Directionality) (limit : Nat) (t : τ) : Reader τ where
  stream := .new id directionality limit
  transport := t
  passes := []
  lost := false
  told := 0

/-- A pass came to the end of the peer's data. -/
def FoundEnd (r : Reader τ) : Prop := ∃ p ∈ r.passes, p.fin = true

/-- A pass found that the peer gave the stream up. -/
def GivenUp (r : Reader τ) : Prop := ∃ p ∈ r.passes, p.reset.isSome = true

variable [Transport τ]

/-- A pass over the stream. -/
def read (limit : Nat) (r : Reader τ) : Reader τ :=
  let x := r.stream.readUpTo limit r.transport
  { r with
    stream := x.2.1
    transport := x.2.2
    passes := r.passes ++ [x.1]
    lost := r.lost || (decide (r.stream.Asks limit) && (Transport.beginRead r.stream.id r.transport).isNone) }

def step (r : Reader τ) : Handling τ → Reader τ
  | .read limit => r.read limit
  | .takeFin =>
    let x := r.stream.takeFin
    { r with stream := x.2, told := r.told + x.1.toNat }
  | .write data fin =>
    let x := r.stream.write data fin r.transport
    { r with stream := x.2.1, transport := x.2.2 }
  | .flush =>
    let x := r.stream.flush r.transport
    { r with stream := x.2.1, transport := x.2.2 }
  | .close =>
    let x := r.stream.close r.transport
    { r with stream := x.1, transport := x.2 }
  | .stopped => { r with stream := r.stream.abandonWrites }
  | .acknowledged => { r with stream := r.stream.acknowledged }
  | .visit v => { r with stream := { r.stream with visitor := some v } }
  | .transport t => { r with transport := t }

def run (r : Reader τ) (happened : List (Handling τ)) : Reader τ := happened.foldl step r

/-! ## Where the read side stands -/

section Passes

omit [Transport τ]

variable {r r' : Reader τ} {p : ReadPass} (passes : r'.passes = r.passes ++ [p])
include passes

theorem foundEnd_append : r'.FoundEnd ↔ r.FoundEnd ∨ p.fin = true := by
  unfold FoundEnd
  rw [passes]
  simp [or_and_right, exists_or]

theorem givenUp_append : r'.GivenUp ↔ r.GivenUp ∨ p.reset.isSome = true := by
  unfold GivenUp
  rw [passes]
  simp [or_and_right, exists_or]

end Passes

/-- The phases of the read side of a stream. -/
inductive Phase (r : Reader τ) : Prop where
  /-- There is no read side. -/
  | mute (closed : r.stream.readClosed = true) (reported : r.stream.finReported = true)
      (endless : ¬ r.FoundEnd) (kept : ¬ r.GivenUp) (known : r.lost = false) (untold : r.told = 0)
  | underway (open_ : r.stream.readClosed = false) (unreported : r.stream.finReported = false)
      (endless : ¬ r.FoundEnd) (kept : ¬ r.GivenUp) (known : r.lost = false) (untold : r.told = 0)
  /-- The stream is over, and that was reported or is still to be. -/
  | ended (closed : r.stream.readClosed = true) (kept : ¬ r.GivenUp) (why : r.FoundEnd ↔ r.lost = false)
      (told : r.told = r.stream.finReported.toNat)
  /-- The peer gave the stream up. -/
  | givenUp (closed : r.stream.readClosed = true) (reported : r.stream.finReported = true)
      (endless : ¬ r.FoundEnd) (found : r.GivenUp) (known : r.lost = false) (untold : r.told = 0)

namespace Phase

omit [Transport τ] in
theorem new (id : StreamId) (directionality : Directionality) (limit : Nat) (t : τ) :
    Phase (new id directionality limit t) := by
  cases readable : directionality.readable with
  | true =>
    refine .underway ?_ ?_ (by simp [FoundEnd, Reader.new]) (by simp [GivenUp, Reader.new]) rfl rfl <;>
      exact congrArg not readable
  | false =>
    refine .mute ?_ ?_ (by simp [FoundEnd, Reader.new]) (by simp [GivenUp, Reader.new]) rfl rfl <;>
      exact congrArg not readable

variable {r : Reader τ}

omit [Transport τ] in
/-- What leaves the read side alone leaves its phase alone. -/
theorem aside (phase : Phase r) {s : LiveStream} (closed : s.readClosed = r.stream.readClosed)
    (reported : s.finReported = r.stream.finReported) (t : τ) :
    Phase { r with stream := s, transport := t } := by
  cases phase with
  | mute was told endless kept known untold =>
    exact .mute (closed.trans was) (reported.trans told) endless kept known untold
  | underway was untold' endless kept known untold =>
    exact .underway (closed.trans was) (reported.trans untold') endless kept known untold
  | ended was kept why told =>
    exact .ended (closed.trans was) kept why (told.trans (congrArg Bool.toNat reported.symm))
  | givenUp was told endless found known untold =>
    exact .givenUp (closed.trans was) (reported.trans told) endless found known untold

omit [Transport τ] in
theorem takeFin (phase : Phase r) :
    Phase { r with stream := r.stream.takeFin.2, told := r.told + r.stream.takeFin.1.toNat } := by
  rw [LiveStream.takeFin_eq]
  cases phase with
  | mute closed reported endless kept known untold =>
    exact .mute closed (by simp [reported]) endless kept known (by simp [reported, untold])
  | underway open_ unreported endless kept known untold =>
    exact .underway open_ (by simp [open_, unreported]) endless kept known (by simp [open_, untold])
  | ended closed kept why told =>
    refine .ended closed kept why ?_
    dsimp only
    rw [told, closed]
    cases r.stream.finReported <;> rfl
  | givenUp closed reported endless found known untold =>
    exact .givenUp closed (by simp [reported]) endless found known (by simp [reported, untold])

/-- A pass that asks the transport for nothing. -/
theorem read_of_idle (phase : Phase r) {limit : Nat} (idle : ¬ r.stream.Asks limit) :
    Phase (r.read limit) := by
  have same : r.read limit = { r with passes := r.passes ++ [.nothing] } := by
    unfold Reader.read
    rw [LiveStream.readUpTo_of_idle idle, decide_eq_false idle, Bool.false_and, Bool.or_false]
  have endless : ¬ ReadPass.nothing.fin = true := nofun
  have kept : ¬ ReadPass.nothing.reset.isSome = true := nofun
  have ends : (r.read limit).FoundEnd ↔ r.FoundEnd := by
    rw [foundEnd_append (congrArg passes same), or_iff_left endless]
  have gone : (r.read limit).GivenUp ↔ r.GivenUp := by
    rw [givenUp_append (congrArg passes same), or_iff_left kept]
  rw [same] at ends gone ⊢
  cases phase with
  | mute closed reported endless kept known untold =>
    exact .mute closed reported (mt ends.1 endless) (mt gone.1 kept) known untold
  | underway open_ unreported endless kept known untold =>
    exact .underway open_ unreported (mt ends.1 endless) (mt gone.1 kept) known untold
  | ended closed kept why told => exact .ended closed (mt gone.1 kept) (ends.trans why) told
  | givenUp closed reported endless found known untold =>
    exact .givenUp closed reported (mt ends.1 endless) (gone.2 found) known untold

/-- A pass over an open stream goes on, or it finds one of the three ways to end. -/
theorem read_of_asks (phase : Phase r) {limit : Nat} (asks : r.stream.Asks limit) :
    Phase (r.read limit) := by
  have was_open := asks.1
  cases phase with
  | mute closed => rw [closed] at was_open; cases was_open
  | ended closed => rw [closed] at was_open; cases was_open
  | givenUp closed => rw [closed] at was_open; cases was_open
  | underway open_ unreported endless kept known untold =>
    have passes : (r.read limit).passes = r.passes ++ [(r.stream.readUpTo limit r.transport).1] := rfl
    have ends := foundEnd_append passes
    have gone := givenUp_append passes
    have read := LiveStream.readUpTo_of_asks asks r.transport
    cases begun : Transport.beginRead r.stream.id r.transport with
    | none =>
      rw [begun] at read
      have missed : (r.read limit).lost = true := by
        simp [Reader.read, asks, begun]
      rw [read, or_iff_left (by exact nofun)] at ends gone
      refine .ended ?_ (mt gone.1 kept) ⟨fun found => absurd (ends.1 found) endless, fun not_lost => ?_⟩ ?_
      · simp [Reader.read, read]
      · rw [missed] at not_lost
        cases not_lost
      · simp [Reader.read, read, untold, unreported]
    | some t =>
      rw [begun] at read
      have there : (r.read limit).lost = false := by
        simp [Reader.read, begun, known]
      have fin_or_reset := LiveStream.reset_pull_of_fin r.stream.id limit t
      rw [read, or_iff_right endless] at ends
      rw [read, or_iff_right kept] at gone
      have closed : (r.read limit).stream.readClosed = (LiveStream.pull r.stream.id limit t).1.ended := by
        simp [Reader.read, read]
      have reported : (r.read limit).stream.finReported =
          (LiveStream.pull r.stream.id limit t).1.reset.isSome := by
        simp [Reader.read, read, unreported]
      dsimp only at ends gone
      generalize (LiveStream.pull r.stream.id limit t).1 = pass at *
      rw [ReadPass.ended] at closed
      cases reset : pass.reset.isSome with
      | true =>
        have endless : ¬ pass.fin = true := fun fin => by
          rw [fin_or_reset fin] at reset
          cases reset
        rw [reset, Bool.or_true] at closed
        exact .givenUp closed (reported.trans reset) (mt ends.1 endless) (gone.2 reset) there untold
      | false =>
        have kept : ¬ (r.read limit).GivenUp := fun given => by
          rw [gone.1 given] at reset
          cases reset
        rw [reset, Bool.or_false] at closed
        rw [reset] at reported
        cases fin : pass.fin with
        | true =>
          refine .ended (closed.trans fin) kept ⟨fun _ => there, fun _ => ends.2 fin⟩ ?_
          rw [reported]
          exact untold
        | false =>
          refine .underway (closed.trans fin) reported (fun found => ?_) kept there untold
          rw [ends.1 found] at fin
          cases fin

theorem step (phase : Phase r) (x : Handling τ) : Phase (r.step x) := by
  cases x with
  | read limit =>
    by_cases asks : r.stream.Asks limit
    · exact phase.read_of_asks asks
    · exact phase.read_of_idle asks
  | takeFin => exact phase.takeFin
  | write data fin =>
    have same := LiveStream.sendingOnly_write r.stream data fin r.transport
    exact phase.aside same.readClosed same.finReported _
  | flush =>
    have same := LiveStream.sendingOnly_flush r.stream r.transport
    exact phase.aside same.readClosed same.finReported _
  | close =>
    have same := LiveStream.sendingOnly_close r.stream r.transport
    exact phase.aside same.readClosed same.finReported _
  | stopped => exact phase.aside (s := r.stream.abandonWrites) rfl rfl r.transport
  | acknowledged => exact phase.aside (s := r.stream.acknowledged) rfl rfl r.transport
  | visit v => exact phase.aside (s := { r.stream with visitor := some v }) rfl rfl r.transport
  | transport t => exact phase.aside rfl rfl t

theorem run (phase : Phase r) (happened : List (Handling τ)) : Phase (r.run happened) := by
  induction happened generalizing r with
  | nil => exact phase
  | cons x happened ih => exact ih (phase.step x)

end Phase

omit [Transport τ] in
/-- In each phase: the report comes once, for a stream that is over and was not given up. -/
theorem Phase.report_iff {r : Reader τ} (phase : Phase r) :
    r.told ≤ 1 ∧
    (r.stream.takeFin.1 = true ↔ (r.FoundEnd ∨ r.lost = true) ∧ r.told = 0) ∧
    (0 < r.told ∨ r.stream.takeFin.1 = true → (r.FoundEnd ↔ r.lost = false)) ∧
    (r.GivenUp → r.told = 0 ∧ r.stream.takeFin.1 = false) := by
  rw [LiveStream.takeFin_eq]
  cases phase with
  | mute closed reported endless kept known untold => simp [*]
  | underway open_ unreported endless kept known untold => simp [*]
  | ended closed kept why told =>
    have found : r.FoundEnd ∨ r.lost = true := by
      rw [why]
      cases r.lost <;> simp
    simp only [closed, told, kept, why]
    cases r.stream.finReported <;> simp
  | givenUp closed reported endless found known untold => simp [*]

end Reader

end QuicSessions
