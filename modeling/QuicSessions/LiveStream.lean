import QuicSessions.Transport
import QuicSessions.Visitor

/-!
# Live streams

What a session keeps of each stream in its table: the bytes that wait for the transport, and how far
the two sides have got. A write is accepted whole or not at all. The end of the write side is asked
for once and handed to the transport as soon as nothing waits before it. A stream is spent when both
sides are over and the end of the read side, if there was one, has been reported.
-/

set_option autoImplicit false

namespace QuicSessions

/-- What one pass over the receive side brought. -/
structure ReadPass where
  /-- Regions in stream order. -/
  regions : List Bytes
  /-- The pass reached the end of the stream. -/
  fin : Bool
  /-- The pass found that the peer gave the stream up. -/
  reset : Option Nat

namespace ReadPass

def nothing : ReadPass := ⟨[], false, none⟩

def bytes (p : ReadPass) : Bytes := p.regions.flatten

/-- Whether the pass came to an end of the stream, of either kind. -/
def ended (p : ReadPass) : Bool := p.fin || p.reset.isSome

def prepend (region : Bytes) (p : ReadPass) : ReadPass := { p with regions := region :: p.regions }

end ReadPass

/-- A stream in the table of a session. -/
structure LiveStream where
  id : StreamId
  directionality : Directionality
  visitor : Option StreamVisitor
  /-- Chunks that the transport has not taken yet. -/
  pending : List Bytes
  /-- How many bytes the chunks have. -/
  buffered : Nat
  /-- How many bytes may wait. -/
  limit : Nat
  /-- The end was asked for; it goes out after the last chunk. -/
  finAsked : Bool
  /-- The end went out, or the peer stopped the write side. -/
  writeClosed : Bool
  /-- The peer has nothing left to acknowledge. -/
  writeDone : Bool
  readClosed : Bool
  /-- The end of the read side was reported, or there is none to report. -/
  finReported : Bool

namespace LiveStream

variable {τ : Type} [Transport τ]

/-- A new stream. A side that its directionality does not have counts as over. -/
def new (id : StreamId) (directionality : Directionality) (limit : Nat) : LiveStream where
  id := id
  directionality := directionality
  visitor := none
  pending := []
  buffered := 0
  limit := limit
  finAsked := false
  writeClosed := !directionality.writable
  writeDone := !directionality.writable
  readClosed := !directionality.readable
  finReported := !directionality.readable

def canWrite (s : LiveStream) : Bool :=
  !s.writeClosed && !s.finAsked && decide (s.buffered < s.limit)

/-- Both sides are over, and nothing is left to report. -/
def spent (s : LiveStream) : Bool := s.writeDone && s.readClosed && s.finReported

/-- The peer stopped the write side, or the transport no longer knows it: what waits is dropped. -/
def abandonWrites (s : LiveStream) : LiveStream :=
  { s with pending := [], buffered := 0, writeClosed := true, writeDone := true }

/-- The peer acknowledged everything, the end included. -/
def acknowledged (s : LiveStream) : LiveStream := { s with writeDone := true }

/-! ## Sending -/

/-- How handing over the waiting chunks ended. -/
structure Pour (τ : Type) where
  pending : List Bytes
  buffered : Nat
  /-- Nothing more can be sent. -/
  broken : Bool
  transport : τ

/-- Hands over chunks from the first one on until the transport takes no more. -/
def pour (id : StreamId) : (pending : List Bytes) → (buffered : Nat) → τ → Pour τ
  | [], buffered, t => ⟨[], buffered, false, t⟩
  | chunk :: rest, buffered, t =>
    match Transport.write id chunk t with
    | (.accepted taken _ _, t') =>
      if taken = chunk.length then pour id rest (buffered - taken) t'
      else pour id (chunk.drop taken :: rest) (buffered - taken) t'
    | (.blocked, t') => ⟨chunk :: rest, buffered, false, t'⟩
    | (.stopped _, t') => ⟨chunk :: rest, buffered, true, t'⟩
    | (.unknown, t') => ⟨chunk :: rest, buffered, true, t'⟩
termination_by pending => pending.flatten.length
decreasing_by
  · simp only [List.flatten_cons, List.length_append]; omega
  · simp only [List.flatten_cons, List.length_append, List.length_drop]; omega

/-- Tells the transport that the stream ends here. -/
def sendFin (s : LiveStream) (t : τ) : LiveStream × τ :=
  let s := { s with writeClosed := true }
  match Transport.finish s.id t with
  | (.done, t) => (s, t)
  | (.stopped _, t) => (s.abandonWrites, t)
  | (.unknown, t) => ({ s with writeDone := true }, t)

/-- Hands waiting bytes to the transport, and the end once nothing waits before it. Says whether
nothing waits any more. -/
def flush (s : LiveStream) (t : τ) : Bool × LiveStream × τ :=
  if s.writeClosed then (s.pending.isEmpty, s, t)
  else
    let p := pour s.id s.pending s.buffered t
    let s := { s with pending := p.pending, buffered := p.buffered }
    if p.broken then (true, s.abandonWrites, p.transport)
    else if s.pending.isEmpty && s.finAsked then
      let (s, t) := s.sendFin p.transport
      (s.pending.isEmpty, s, t)
    else (s.pending.isEmpty, s, p.transport)

/-- The stream with all of `data`, and the end if that is asked for, waiting behind what waits
already. Nothing is taken after the end was asked for, when the buffer is full, and when the bytes
would take it past its limit. -/
def enqueue? (s : LiveStream) (data : Bytes) (fin : Bool) : Option LiveStream :=
  if !s.canWrite then none
  else if s.limit < s.buffered + data.length then none
  else
    let s :=
      if data.isEmpty then s
      else { s with pending := s.pending ++ [data], buffered := s.buffered + data.length }
    some (if fin then { s with finAsked := true } else s)

/-- Accepts all of `data` or nothing, and says how many bytes that is. -/
def write (s : LiveStream) (data : Bytes) (fin : Bool) (t : τ) : Nat × LiveStream × τ :=
  match s.enqueue? data fin with
  | none => (0, s, t)
  | some s => (data.length, (s.flush t).2)

/-- Asks for the end of the write side. Only the first call has an effect. -/
def close (s : LiveStream) (t : τ) : LiveStream × τ :=
  if s.writeClosed || s.finAsked then (s, t)
  else ({ s with finAsked := true }.flush t).2

/-! ## Receiving -/

/-- Reads regions until the transport has no more or `remaining` bytes were read. -/
def pull (id : StreamId) (remaining : Nat) (t : τ) : ReadPass × τ :=
  if 0 < remaining then
    match Transport.nextRegion id remaining t with
    | (.region bytes _ _, t) =>
      let r := pull id (remaining - bytes.length) t
      (r.1.prepend bytes, r.2)
    | (.finished, t) => (⟨[], true, none⟩, t)
    | (.reset code, t) => (⟨[], false, some code⟩, t)
    | (.blocked, t) => (.nothing, t)
  else (.nothing, t)
termination_by remaining
decreasing_by
  have := List.length_pos_iff.2 ‹bytes ≠ []›
  omega

/-- A pass that reads at most `limit` bytes. A stream that the transport does not know is over,
without an end; one that the peer gave up has no end to report. -/
def readUpTo (s : LiveStream) (limit : Nat) (t : τ) : ReadPass × LiveStream × τ :=
  if s.readClosed || limit == 0 then (.nothing, s, t)
  else
    match Transport.beginRead s.id t with
    | none => (.nothing, { s with readClosed := true }, t)
    | some t =>
      let r := pull s.id limit t
      (r.1,
        { s with
          readClosed := r.1.ended
          finReported := s.finReported || r.1.reset.isSome },
        Transport.endRead s.id r.2)

/-- More bytes than any stream brings at once. -/
def unlimited : Nat := UInt64.size - 1

/-- A pass that reads everything the transport has. Stopping early would leave bytes behind that
nothing reports again. -/
def drain (s : LiveStream) (t : τ) : ReadPass × LiveStream × τ := s.readUpTo unlimited t

/-- Whether the end of the read side has still to be reported; after this it is. -/
def takeFin (s : LiveStream) : Bool × LiveStream :=
  if s.readClosed && !s.finReported then (true, { s with finReported := true }) else (false, s)

/-- Refuses a stream: its peer is asked to stop, and what this side could send is given up. -/
def reject (id : StreamId) (side : Side) (code : Nat) (t : τ) : τ :=
  let directionality := Directionality.of id side
  let t := if directionality.readable then Transport.stop id code t else t
  if directionality.writable then Transport.reset id code t else t

end LiveStream

end QuicSessions
