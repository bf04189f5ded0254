import Mathlib.Data.List.Infix
import QuicSessions.Proofs.Sessions.Retention

/-!
# Registered streams

A register is a transport around another one. It answers as the other does and notes where streams
come from, opened from here or accepted from the peer, and which of them the peer gave up. Notes are
only ever added.
-/

set_option autoImplicit false

namespace QuicSessions

/-- What a register notes of a stream. -/
inductive Entry where
  | opened (dir : Dir) (id : StreamId)
  | accepted (id : StreamId)
  /-- A read found that the peer gave the stream up. -/
  | reset (id : StreamId)
  deriving DecidableEq

namespace Entry

/-- The stream that begins with the entry. -/
def given? : Entry → Option StreamId
  | opened _ id => some id
  | accepted id => some id
  | reset _ => none

/-- The stream that was opened from here, if it runs in the direction `dir`. -/
def opened? (dir : Dir) : Entry → Option StreamId
  | opened d id => if d = dir then some id else none
  | _ => none

def reset? : Entry → Option StreamId
  | reset id => some id
  | _ => none

/-- The entries for the answer to a wish to read on. -/
def ofRead {limit : Nat} (id : StreamId) : ReadAnswer limit → List Entry
  | .reset _ => [reset id]
  | _ => []

/-- The entries for a pass over the stream `id`. -/
def ofPass (id : StreamId) (pass : ReadPass) : List Entry :=
  if pass.reset.isSome then [reset id] else []

end Entry

/-- A transport with what was noted of its streams. -/
structure Register (τ : Type) where
  inner : τ
  entries : List Entry

namespace Register

variable {τ : Type}

/-- The streams that began, first begun first. -/
def given (r : Register τ) : List StreamId := r.entries.filterMap Entry.given?

/-- The streams opened from here in one direction. -/
def opened (dir : Dir) (r : Register τ) : List StreamId := r.entries.filterMap (Entry.opened? dir)

/-- The streams that the peer gave up. -/
def resets (r : Register τ) : List StreamId := r.entries.filterMap Entry.reset?

def after (r : Register τ) (t : τ) (noted : List Entry) : Register τ := ⟨t, r.entries ++ noted⟩

def moved (r : Register τ) (t : τ) : Register τ := { r with inner := t }

theorem given_of_opened {r : Register τ} {dir : Dir} {id : StreamId} (h : id ∈ r.opened dir) :
    id ∈ r.given := by
  obtain ⟨e, mem, opened⟩ := List.mem_filterMap.1 h
  refine List.mem_filterMap.2 ⟨e, mem, ?_⟩
  cases e with
  | opened d i =>
    have opened : (if d = dir then some i else none) = some id := opened
    split at opened
    · exact opened
    · cases opened
  | accepted i => cases opened
  | reset i => cases opened

section Noted

variable {r r' : Register τ} {noted : List Entry} (h : r'.entries = r.entries ++ noted)
include h

theorem given_of_entries : r'.given = r.given ++ noted.filterMap Entry.given? := by
  unfold given
  rw [h, List.filterMap_append]

theorem opened_of_entries (dir : Dir) :
    r'.opened dir = r.opened dir ++ noted.filterMap (Entry.opened? dir) := by
  unfold opened
  rw [h, List.filterMap_append]

theorem resets_of_entries : r'.resets = r.resets ++ noted.filterMap Entry.reset? := by
  unfold resets
  rw [h, List.filterMap_append]

end Noted

theorem opened_of_opened {r r' : Register τ} {d : Dir} {id : StreamId}
    (h : r'.entries = r.entries ++ [.opened d id]) (dir : Dir) :
    r'.opened dir = r.opened dir ++ if dir = d then [id] else [] := by
  rw [opened_of_entries h]
  by_cases same : dir = d
  · simp [Entry.opened?, same]
  · have elsewhere : ¬d = dir := fun e => same e.symm
    simp [Entry.opened?, same, elsewhere]

instance [Transport τ] : Transport (Register τ) where
  side r := Transport.side r.inner
  remote r := Transport.remote r.inner
  counters r := Transport.counters r.inner
  isClosed r := Transport.isClosed r.inner
  isDrained r := Transport.isDrained r.inner
  openStream dir r :=
    (Transport.openStream dir r.inner).map fun x => (x.1, r.after x.2 [.opened dir x.1])
  acceptStream dir r :=
    (Transport.acceptStream dir r.inner).map fun x => (x.1, r.after x.2 [.accepted x.1])
  write id data r :=
    let x := Transport.write id data r.inner
    (x.1, r.moved x.2)
  finish id r :=
    let x := Transport.finish id r.inner
    (x.1, r.moved x.2)
  reset id code r := r.moved (Transport.reset id code r.inner)
  stop id code r := r.moved (Transport.stop id code r.inner)
  beginRead id r := (Transport.beginRead id r.inner).map r.moved
  nextRegion id limit r :=
    let x := Transport.nextRegion id limit r.inner
    (x.1, r.after x.2 (Entry.ofRead id x.1))
  endRead id r := r.moved (Transport.endRead id r.inner)
  poll r := (Transport.poll r.inner).map fun x => (x.1, r.moved x.2)
  receiveDatagram r := (Transport.receiveDatagram r.inner).map fun x => (x.1, r.moved x.2)
  sendDatagram data r :=
    let x := Transport.sendDatagram data r.inner
    (x.1, r.moved x.2)
  ping r := r.moved (Transport.ping r.inner)
  close now code reason r := r.moved (Transport.close now code reason r.inner)
  deadline r := Transport.deadline r.inner
  timeout now r := r.moved (Transport.timeout now r.inner)
  backlog r := Transport.backlog r.inner

/-! ## What the calls note -/

section Calls

variable [Transport τ] {r r' : Register τ} {id : StreamId} {dir : Dir}

theorem entries_openStream (h : Transport.openStream dir r = some (id, r')) :
    r'.entries = r.entries ++ [.opened dir id] := by
  obtain ⟨x, -, e⟩ := Option.map_eq_some_iff.1 h
  cases e
  rfl

theorem entries_acceptStream (h : Transport.acceptStream dir r = some (id, r')) :
    r'.entries = r.entries ++ [.accepted id] := by
  obtain ⟨x, -, e⟩ := Option.map_eq_some_iff.1 h
  cases e
  rfl

theorem entries_beginRead (h : Transport.beginRead id r = some r') : r'.entries = r.entries := by
  obtain ⟨t, -, rfl⟩ := Option.map_eq_some_iff.1 h
  rfl

theorem entries_nextRegion {limit : Nat} {answer : ReadAnswer limit}
    (h : Transport.nextRegion id limit r = (answer, r')) :
    r'.entries = r.entries ++ Entry.ofRead id answer := by
  cases h
  rfl

theorem entries_poll {e : Event} (h : Transport.poll r = some (e, r')) : r'.entries = r.entries := by
  obtain ⟨x, -, e⟩ := Option.map_eq_some_iff.1 h
  cases e
  rfl

theorem entries_receiveDatagram {data : Bytes} (h : Transport.receiveDatagram r = some (data, r')) :
    r'.entries = r.entries := by
  obtain ⟨x, -, e⟩ := Option.map_eq_some_iff.1 h
  cases e
  rfl

/-- Sending on a stream is not noted. -/
theorem sending_retains (noted : List Entry) :
    Transport.SendingRetains fun r : Register τ => r.entries = noted where
  write h same := by
    cases h
    exact same
  finish h same := by
    cases h
    exact same

/-- Nothing that was noted is lost. -/
theorem retains_prefix (noted : List Entry) :
    Transport.Retains fun r : Register τ => noted <+: r.entries where
  write h sofar := by
    cases h
    exact sofar
  finish h sofar := by
    cases h
    exact sofar
  beginRead h sofar := entries_beginRead h ▸ sofar
  nextRegion h sofar := entries_nextRegion h ▸ sofar.trans (List.prefix_append ..)
  endRead sofar := sofar
  openStream h sofar := entries_openStream h ▸ sofar.trans (List.prefix_append ..)
  acceptStream h sofar := entries_acceptStream h ▸ sofar.trans (List.prefix_append ..)
  reset sofar := sofar
  stop sofar := sofar
  poll h sofar := entries_poll h ▸ sofar
  receiveDatagram h sofar := entries_receiveDatagram h ▸ sofar
  sendDatagram sofar := sofar
  ping sofar := sofar
  close sofar := sofar
  timeout sofar := sofar

end Calls

end Register

/-! ## A pass over the receive side -/

namespace LiveStream

variable {τ : Type} [Transport τ]

theorem entries_pull (id : StreamId) (remaining : Nat) (r : Register τ) :
    (pull id remaining r).2.entries = r.entries ++ Entry.ofPass id (pull id remaining r).1 := by
  fun_induction pull id remaining r with
  | case1 remaining r more bytes ne le t h rest ih =>
    have first : t.entries = r.entries ++ [] := Register.entries_nextRegion h
    rw [List.append_nil] at first
    rw [← first]
    exact ih
  | case2 remaining r more t h => exact Register.entries_nextRegion h
  | case3 remaining r more code t h => exact Register.entries_nextRegion h
  | case4 remaining r more t h => exact Register.entries_nextRegion h
  | case5 remaining r enough => exact (List.append_nil _).symm

theorem entries_readUpTo (s : LiveStream) (limit : Nat) (r : Register τ) :
    (s.readUpTo limit r).2.2.entries = r.entries ++ Entry.ofPass s.id (s.readUpTo limit r).1 := by
  unfold readUpTo
  split
  · exact (List.append_nil _).symm
  · split
    · exact (List.append_nil _).symm
    · rename_i r' begun
      rw [← Register.entries_beginRead begun]
      exact entries_pull s.id limit r'

/-- What a pass over a stream may bring, and how it leaves the stream, `s'`, when it has told about the
end. -/
structure Passed (s : LiveStream) (pass : ReadPass) (fin : Bool) (s' : LiveStream) : Prop where
  /-- Only a stream that is open brings anything. -/
  fresh : pass.regions ≠ [] ∨ pass.reset.isSome = true → s.readClosed = false
  fin : fin = true → s.finReported = false ∧ pass.reset = none ∧
    s'.readClosed = true ∧ s'.finReported = true
  reset : pass.reset.isSome = true → s'.readClosed = true ∧ s'.finReported = true
  stays : s.readClosed = true → s.finReported = true → s'.readClosed = true ∧ s'.finReported = true

theorem passed_readUpTo (s : LiveStream) (limit : Nat) (t : τ) :
    Passed s (s.readUpTo limit t).1 (s.readUpTo limit t).2.1.takeFin.1
      (s.readUpTo limit t).2.1.takeFin.2 := by
  unfold readUpTo
  split
  · rw [takeFin_eq]
    refine ⟨?_, ?_, ?_, ?_⟩ <;> simp +contextual [ReadPass.nothing]
  · rename_i able
    have able : s.readClosed = false := by
      rw [Bool.or_eq_true, not_or, Bool.not_eq_true] at able
      exact able.1
    split
    · rw [takeFin_eq]
      refine ⟨fun _ => able, ?_, ?_, ?_⟩ <;> simp +contextual [ReadPass.nothing]
    · rename_i t' begun
      rw [takeFin_eq]
      dsimp only
      generalize (pull s.id limit t').1 = pass
      refine ⟨fun _ => able, fun due => ?_, fun gone => ?_, fun closed => ?_⟩
      · have due : pass.ended = true ∧ s.finReported = false ∧ pass.reset = none := by
          simpa using due
        simp [due]
      · have ended : pass.ended = true := by
          unfold ReadPass.ended
          rw [gone, Bool.or_true]
        simp [ended, gone]
      · rw [able] at closed
        cases closed

end LiveStream

end QuicSessions
