import QuicSessions.Wire.Frame

/-!
# The two halves of a stream

A send half holds what was written and not sent yet, and counts what is not acknowledged. A receive
half holds what arrived, in order of offset, and hands it out in the regions in which it arrived.
-/

set_option autoImplicit false

namespace QuicSessions.Wire

/-- How many unread bytes a stream may have. -/
def streamWindow : Nat := 1250000

/-- How many unacknowledged bytes a connection may have. -/
def sendWindow : Nat := 10000000

/-! ## Sending -/

inductive SendPhase where
  | ready
  /-- The end was written. -/
  | ending
  | reset
  deriving DecidableEq

structure SendHalf where
  phase : SendPhase
  /-- Written and never sent. -/
  unsent : List Bytes
  /-- How many bytes were sent. -/
  sent : Nat
  /-- How many bytes were written. -/
  written : Nat
  /-- How many bytes may be written. -/
  maxData : Nat
  /-- How many written bytes are not acknowledged. -/
  unacked : Nat
  /-- The end is still to be sent. -/
  finPending : Bool
  finAcked : Bool
  stopped : Option Nat
  /-- Waits for the connection to have room. -/
  waiting : Bool

namespace SendHalf

def fresh : SendHalf := ⟨.ready, [], 0, 0, streamWindow, 0, false, false, none, false⟩

/-- Whether something is left to send. -/
def pending (h : SendHalf) : Bool := h.phase ≠ .reset && (!h.unsent.isEmpty || h.finPending)

/-- The end of what is sent in one frame, and the half after that. -/
def emit (id : StreamId) (h : SendHalf) : Option (Frame × SendHalf) :=
  if h.pending then
    let data := h.unsent.flatten
    some (.stream id h.sent data (h.phase = .ending),
      { h with unsent := [], sent := h.sent + data.length, finPending := false })
  else none

def acknowledge (size : Nat) (fin : Bool) (h : SendHalf) : SendHalf :=
  { h with unacked := h.unacked - size, finAcked := h.finAcked || fin }

/-- Everything is acknowledged, the end included. -/
def complete (h : SendHalf) : Bool := h.phase = .ending && h.finAcked && h.unacked == 0

end SendHalf

/-! ## Receiving -/

structure RecvHalf where
  /-- What arrived, by offset. -/
  segments : List (Nat × Bytes)
  /-- How many bytes were read. -/
  read : Nat
  /-- The size of the stream, once its end arrived. -/
  size : Option Nat
  reset : Option Nat
  /-- This side asked the peer to stop. -/
  stopped : Bool
  /-- The limit that the peer was last told. -/
  toldLimit : Nat

namespace RecvHalf

def fresh : RecvHalf := ⟨[], 0, none, none, false, streamWindow⟩

/-- The segments with one more, before the first that starts later. -/
def insertSegment (offset : Nat) (data : Bytes) : List (Nat × Bytes) → List (Nat × Bytes)
  | [] => [(offset, data)]
  | x :: rest =>
    if offset < x.1 then (offset, data) :: x :: rest else x :: insertSegment offset data rest

/-- A part of the stream arrived. After a stop nothing is kept. -/
def receive (offset : Nat) (data : Bytes) (fin : Bool) (h : RecvHalf) : RecvHalf :=
  { h with
    segments :=
      if h.stopped || data.isEmpty then h.segments else insertSegment offset data h.segments
    size := if fin then some (offset + data.length) else h.size }

/-- Neither the size of the stream nor a reset is known. -/
def endUnknown (h : RecvHalf) : Bool := h.size.isNone && h.reset.isNone

/-- The first region of these segments that goes on from `read`, at most `limit` bytes long, and the
segments after it. What was read before is cut off. -/
def takeRegion (limit read : Nat) : List (Nat × Bytes) → Option (Bytes × List (Nat × Bytes))
  | [] => none
  | (offset, data) :: rest =>
    if read < offset then none
    else
      match data.drop (read - offset) with
      | [] => takeRegion limit read rest
      | b :: more =>
        let region := (b :: more).take limit
        let left := (b :: more).drop limit
        some (region, if left.isEmpty then rest else (read + region.length, left) :: rest)

/-- The next region that can be read. -/
def next (limit : Nat) (h : RecvHalf) : Option (Bytes × RecvHalf) :=
  (takeRegion limit h.read h.segments).map fun r =>
    (r.1, { h with read := h.read + r.1.length, segments := r.2 })

theorem takeRegion_length_le {limit read : Nat} {segments : List (Nat × Bytes)}
    {r : Bytes × List (Nat × Bytes)} (e : takeRegion limit read segments = some r) :
    r.1.length ≤ limit := by
  induction segments with
  | nil => simp [takeRegion] at e
  | cons x rest ih =>
    obtain ⟨offset, data⟩ := x
    simp only [takeRegion] at e
    split at e
    · cases e
    · split at e
      · exact ih e
      · cases e
        exact List.length_take_le ..

theorem takeRegion_ne_nil {limit read : Nat} {segments : List (Nat × Bytes)}
    {r : Bytes × List (Nat × Bytes)} (pos : 0 < limit)
    (e : takeRegion limit read segments = some r) : r.1 ≠ [] := by
  induction segments with
  | nil => simp [takeRegion] at e
  | cons x rest ih =>
    obtain ⟨offset, data⟩ := x
    simp only [takeRegion] at e
    split at e
    · cases e
    · split at e
      · exact ih e
      · cases e
        obtain ⟨n, rfl⟩ : ∃ n, limit = n + 1 := ⟨limit - 1, by omega⟩
        simp

/-- Whether a new limit is worth telling the peer. -/
def creditDue (h : RecvHalf) : Bool :=
  h.endUnknown && !h.stopped && streamWindow / 8 ≤ h.read + streamWindow - h.toldLimit

end RecvHalf

end QuicSessions.Wire
