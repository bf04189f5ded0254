import QuicSessions.LiveStream

/-!
# Recorded transports

A recorder is a transport around another one. It answers as the other does and keeps, in order, the
calls that move the bytes of streams. What a stream or a session does to its transport can then be
read off the calls. Since sessions and streams are written for any transport, they cannot tell a
recorder from what it wraps.
-/

set_option autoImplicit false

namespace QuicSessions

/-- A call that moves the bytes of a stream, with what came of it. -/
inductive Call where
  /-- The first `taken` of the bytes were taken; none, if there was no room. -/
  | offered (id : StreamId) (bytes : Bytes) (taken : Nat)
  /-- The bytes were offered to a stream that takes no more. -/
  | refused (id : StreamId) (bytes : Bytes)
  | finish (id : StreamId) (answer : FinishAnswer)
  | region (id : StreamId) (bytes : Bytes)
  deriving DecidableEq

namespace Call

/-- The call that an offer of bytes was. -/
def ofWrite (id : StreamId) (data : Bytes) : WriteAnswer data.length → Call
  | .accepted taken _ _ => .offered id data taken
  | .blocked => .offered id data 0
  | .stopped _ => .refused id data
  | .unknown => .refused id data

/-- The calls that a wish to read on was. -/
def ofRead {limit : Nat} (id : StreamId) : ReadAnswer limit → List Call
  | .region bytes _ _ => [.region id bytes]
  | _ => []

/-- The bytes that a call gave to the transport. -/
def taken : Call → Bytes
  | .offered _ bytes taken => bytes.take taken
  | _ => []

/-- Whether the call is the end of a stream. -/
def isFinish : Call → Bool
  | .finish .. => true
  | _ => false

/-- Whether the answer says that the peer, or the transport, wants no more of the stream. -/
def stops : Call → Bool
  | .refused .. => true
  | .finish _ (.stopped _) => true
  | _ => false

/-- The region of the stream `id` that the call brought, if it brought one. -/
def regionOf (id : StreamId) : Call → Option Bytes
  | .region j bytes => if j = id then some bytes else none
  | _ => none

end Call

/-- The bytes that calls gave to the transport, in order. -/
def sent (calls : List Call) : Bytes := calls.flatMap Call.taken

/-- The regions of the stream `id` that calls brought, in order. -/
def regions (id : StreamId) (calls : List Call) : List Bytes := calls.filterMap (Call.regionOf id)

theorem sent_append (calls later : List Call) : sent (calls ++ later) = sent calls ++ sent later :=
  List.flatMap_append

theorem regions_append (id : StreamId) (calls later : List Call) :
    regions id (calls ++ later) = regions id calls ++ regions id later :=
  List.filterMap_append

/-- A transport with the calls that were made to it. -/
structure Recorder (τ : Type) where
  inner : τ
  calls : List Call

namespace Recorder

variable {τ : Type}

/-- The recorder after its transport moved to `t`, in some calls. -/
def after (r : Recorder τ) (t : τ) (calls : List Call) : Recorder τ := ⟨t, r.calls ++ calls⟩

/-- The recorder after its transport moved to `t`, in no call that is kept. -/
def moved (r : Recorder τ) (t : τ) : Recorder τ := { r with inner := t }

instance [Transport τ] : Transport (Recorder τ) where
  side r := Transport.side r.inner
  remote r := Transport.remote r.inner
  counters r := Transport.counters r.inner
  isClosed r := Transport.isClosed r.inner
  isDrained r := Transport.isDrained r.inner
  openStream dir r := (Transport.openStream dir r.inner).map fun x => (x.1, r.moved x.2)
  acceptStream dir r := (Transport.acceptStream dir r.inner).map fun x => (x.1, r.moved x.2)
  write id data r :=
    let x := Transport.write id data r.inner
    (x.1, r.after x.2 [.ofWrite id data x.1])
  finish id r :=
    let x := Transport.finish id r.inner
    (x.1, r.after x.2 [.finish id x.1])
  reset id code r := r.moved (Transport.reset id code r.inner)
  stop id code r := r.moved (Transport.stop id code r.inner)
  beginRead id r := (Transport.beginRead id r.inner).map r.moved
  nextRegion id limit r :=
    let x := Transport.nextRegion id limit r.inner
    (x.1, r.after x.2 (Call.ofRead id x.1))
  endRead id r := r.moved (Transport.endRead id r.inner)
  poll r := (Transport.poll r.inner).map fun x => (x.1, r.moved x.2)
  receiveDatagram r := (Transport.receiveDatagram r.inner).map fun x => (x.1, r.moved x.2)
  sendDatagram data r :=
    let x := Transport.sendDatagram data r.inner
    (x.1, r.moved x.2)
  ping r := r.moved (Transport.ping r.inner)
  close now code reason r := r.moved (Transport.close now code reason r.inner)
  deadline r := Transport.deadline r.inner
  timeout now r := r.moved (Transport.timeout now r.inner)
  backlog r := Transport.backlog r.inner

variable [Transport τ]

theorem calls_write {id : StreamId} {data : Bytes} {r r' : Recorder τ}
    {answer : WriteAnswer data.length} (h : Transport.write id data r = (answer, r')) :
    r'.calls = r.calls ++ [.ofWrite id data answer] := by
  cases h
  rfl

theorem calls_finish {id : StreamId} {r r' : Recorder τ} {answer : FinishAnswer}
    (h : Transport.finish id r = (answer, r')) : r'.calls = r.calls ++ [.finish id answer] := by
  cases h
  rfl

theorem calls_nextRegion {id : StreamId} {limit : Nat} {r r' : Recorder τ} {answer : ReadAnswer limit}
    (h : Transport.nextRegion id limit r = (answer, r')) :
    r'.calls = r.calls ++ Call.ofRead id answer := by
  cases h
  rfl

theorem calls_beginRead {id : StreamId} {r r' : Recorder τ} (h : Transport.beginRead id r = some r') :
    r'.calls = r.calls := by
  obtain ⟨t, -, rfl⟩ := Option.map_eq_some_iff.1 h
  rfl

theorem inner_write {id : StreamId} {data : Bytes} {r r' : Recorder τ}
    {answer : WriteAnswer data.length} (h : Transport.write id data r = (answer, r')) :
    Transport.write id data r.inner = (answer, r'.inner) := by
  cases h
  rfl

theorem inner_finish {id : StreamId} {r r' : Recorder τ} {answer : FinishAnswer}
    (h : Transport.finish id r = (answer, r')) : Transport.finish id r.inner = (answer, r'.inner) := by
  cases h
  rfl

theorem inner_beginRead (id : StreamId) (r : Recorder τ) :
    Transport.beginRead id r.inner = (Transport.beginRead id r).map inner := by
  show _ = ((Transport.beginRead id r.inner).map r.moved).map inner
  rw [Option.map_map]
  exact Option.map_id'.symm

theorem inner_nextRegion {id : StreamId} {limit : Nat} {r r' : Recorder τ} {answer : ReadAnswer limit}
    (h : Transport.nextRegion id limit r = (answer, r')) :
    Transport.nextRegion id limit r.inner = (answer, r'.inner) := by
  cases h
  rfl

end Recorder

/-! ## What is done to a recorder is done to what it wraps -/

namespace LiveStream

variable {τ : Type} [Transport τ]

theorem pour_inner (id : StreamId) (pending : List Bytes) (buffered : Nat) (r : Recorder τ) :
    pour id pending buffered r.inner =
      ⟨(pour id pending buffered r).pending, (pour id pending buffered r).buffered,
        (pour id pending buffered r).broken, (pour id pending buffered r).transport.inner⟩ := by
  fun_induction pour id pending buffered r with
  | case1 buffered r => rw [pour]
  | case2 chunk rest buffered r t pos le h ih =>
    rw [pour, Recorder.inner_write h]
    dsimp only
    rw [if_pos rfl, ih]
  | case3 chunk rest buffered r taken pos le t h part ih =>
    rw [pour, Recorder.inner_write h]
    dsimp only
    rw [if_neg part, ih]
  | case4 chunk rest buffered r t h => rw [pour, Recorder.inner_write h]
  | case5 chunk rest buffered r code t h => rw [pour, Recorder.inner_write h]
  | case6 chunk rest buffered r t h => rw [pour, Recorder.inner_write h]

theorem sendFin_inner (s : LiveStream) (r : Recorder τ) :
    s.sendFin r.inner = ((s.sendFin r).1, (s.sendFin r).2.inner) := by
  cases h : Transport.finish s.id r with
  | mk answer r' =>
    have h' := Recorder.inner_finish h
    unfold sendFin
    dsimp only
    cases answer <;> rw [h, h']

theorem flush_inner (s : LiveStream) (r : Recorder τ) :
    s.flush r.inner = ((s.flush r).1, (s.flush r).2.1, (s.flush r).2.2.inner) := by
  unfold flush
  rw [pour_inner]
  split
  · rfl
  · dsimp only
    split
    · rfl
    · split
      · rw [sendFin_inner]
      · rfl

theorem write_inner (s : LiveStream) (data : Bytes) (fin : Bool) (r : Recorder τ) :
    s.write data fin r.inner =
      ((s.write data fin r).1, (s.write data fin r).2.1, (s.write data fin r).2.2.inner) := by
  unfold write
  split
  · rfl
  · rw [flush_inner]

theorem close_inner (s : LiveStream) (r : Recorder τ) :
    s.close r.inner = ((s.close r).1, (s.close r).2.inner) := by
  unfold close
  split
  · rfl
  · rw [flush_inner]

theorem pull_inner (id : StreamId) (remaining : Nat) (r : Recorder τ) :
    pull id remaining r.inner = ((pull id remaining r).1, (pull id remaining r).2.inner) := by
  fun_induction pull id remaining r with
  | case1 remaining r more bytes ne le t h rest ih =>
    rw [pull, if_pos more, Recorder.inner_nextRegion h]
    dsimp only
    rw [ih]
  | case2 remaining r more t h => rw [pull, if_pos more, Recorder.inner_nextRegion h]
  | case3 remaining r more code t h => rw [pull, if_pos more, Recorder.inner_nextRegion h]
  | case4 remaining r more t h => rw [pull, if_pos more, Recorder.inner_nextRegion h]
  | case5 remaining r enough => rw [pull, if_neg enough]

theorem readUpTo_inner (s : LiveStream) (limit : Nat) (r : Recorder τ) :
    s.readUpTo limit r.inner =
      ((s.readUpTo limit r).1, (s.readUpTo limit r).2.1, (s.readUpTo limit r).2.2.inner) := by
  unfold readUpTo
  split
  · rfl
  · cases h : Transport.beginRead s.id r with
    | none =>
      rw [Recorder.inner_beginRead, h]
      rfl
    | some r' =>
      rw [Recorder.inner_beginRead, h]
      dsimp only [Option.map_some]
      rw [pull_inner]
      rfl

end LiveStream

end QuicSessions
