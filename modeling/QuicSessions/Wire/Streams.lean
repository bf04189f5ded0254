import QuicSessions.Table
import QuicSessions.Wire.Half

/-!
# The streams of a connection

Which streams exist, what was written, sent and read on them, and what the session is to be told.
Streams of the peer exist from the moment the peer may open them. A stream that the peer opened is
freed when both its halves are gone; the peer is then allowed one more, and told so once more than
an eighth of the limit has been freed.
-/

set_option autoImplicit false

namespace QuicSessions.Wire

structure Streams where
  side : Side
  /-- Send halves that were used; the others are fresh. -/
  send : Table StreamId SendHalf
  sendGone : List StreamId
  /-- Receive halves that were used; the others are fresh. -/
  recv : Table StreamId RecvHalf
  recvGone : List StreamId
  /-- How many streams were opened from here. -/
  opened : PerDir Nat
  /-- How many streams the peer allows to be opened from here. -/
  allowed : PerDir Nat
  /-- How many streams the peer may have open at once. -/
  limit : PerDir Nat
  /-- How many streams the peer may open in all. -/
  remoteAllowed : PerDir Nat
  /-- What the peer was told of that. -/
  remoteTold : PerDir Nat
  /-- How many streams the peer is known to have opened. -/
  remoteSeen : PerDir Nat
  /-- How many of them the session has accepted. -/
  remoteAccepted : PerDir Nat
  /-- The session has not been told that there are streams to accept. -/
  newcomers : PerDir Bool
  events : List Event
  /-- Streams that wait for the connection to have room, the last to wait first. -/
  waiting : List StreamId
  /-- How many written bytes of all streams are not acknowledged. -/
  unacked : Nat
  /-- The peer has said how much it takes. -/
  peerKnown : Bool
  /-- Resets and stops to be sent. -/
  control : List Frame
  /-- Streams whose new limit is to be sent. -/
  creditDue : List StreamId
  /-- The new number of streams is to be sent. -/
  streamsDue : PerDir Bool

/-- What a peer did wrong. -/
abbrev Violation := TransportCode × String

namespace Streams

/-- The streams of a new connection. -/
def new (side : Side) (limit : PerDir Nat) : Streams where
  side := side
  send := .empty
  sendGone := []
  recv := .empty
  recvGone := []
  opened := ⟨0, 0⟩
  allowed := ⟨0, 0⟩
  limit := limit
  remoteAllowed := limit
  remoteTold := limit
  remoteSeen := ⟨0, 0⟩
  remoteAccepted := ⟨0, 0⟩
  newcomers := ⟨false, false⟩
  events := []
  waiting := []
  unacked := 0
  peerKnown := false
  control := []
  creditDue := []
  streamsDue := ⟨false, false⟩

/-! ## Halves -/

/-- Whether a stream has been allotted to one of the two sides. -/
def allotted (id : StreamId) (s : Streams) : Bool :=
  if id.initiator = s.side then decide (id.index < s.opened.get id.dir)
  else decide (id.index < s.remoteAllowed.get id.dir)

def sendHalf? (id : StreamId) (s : Streams) : Option SendHalf :=
  if s.allotted id && (Directionality.of id s.side).writable && !s.sendGone.contains id then
    some ((s.send.get? id).getD .fresh)
  else none

def recvHalf? (id : StreamId) (s : Streams) : Option RecvHalf :=
  if s.allotted id && (Directionality.of id s.side).readable && !s.recvGone.contains id then
    some ((s.recv.get? id).getD .fresh)
  else none

def setSend (id : StreamId) (h : SendHalf) (s : Streams) : Streams :=
  { s with send := s.send.insert id h }

def setRecv (id : StreamId) (h : RecvHalf) (s : Streams) : Streams :=
  { s with recv := s.recv.insert id h }

/-- Allows the peer one more stream in place of one that is gone. -/
def replaceRemote (id : StreamId) (s : Streams) : Streams :=
  if id.initiator = s.side then s
  else { s with remoteAllowed := s.remoteAllowed.update id.dir (· + 1) }

def freeSend (id : StreamId) (s : Streams) : Streams :=
  let gone := (s.recvHalf? id).isNone
  let s := { s with send := s.send.erase id, sendGone := id :: s.sendGone }
  if gone then s.replaceRemote id else s

def freeRecv (id : StreamId) (s : Streams) : Streams :=
  let gone := (s.sendHalf? id).isNone
  let s := { s with recv := s.recv.erase id, recvGone := id :: s.recvGone }
  if gone then s.replaceRemote id else s

/-- Notes that the number of streams is worth telling the peer. -/
def noteStreams (s : Streams) : Streams :=
  Dir.all.foldl (fun s dir =>
    if s.limit.get dir / 8 < s.remoteAllowed.get dir - s.remoteTold.get dir then
      { s with streamsDue := s.streamsDue.set dir true }
    else s) s

/-! ## What the session asks -/

def openStream (dir : Dir) (s : Streams) : Option (StreamId × Streams) :=
  let n := s.opened.get dir
  if n < s.allowed.get dir then
    some (.of s.side dir n, { s with opened := s.opened.set dir (n + 1) })
  else none

def acceptStream (dir : Dir) (s : Streams) : Option (StreamId × Streams) :=
  let n := s.remoteAccepted.get dir
  if n < s.remoteSeen.get dir then
    some (.of s.side.other dir n, { s with remoteAccepted := s.remoteAccepted.set dir (n + 1) })
  else none

/-- How many more bytes the connection takes. -/
def room (s : Streams) : Nat := if s.peerKnown then sendWindow - s.unacked else 0

/-- Why nothing can be written to a stream, or how much can. A stream that finds the connection full
waits for it. -/
def writable (id : StreamId) (s : Streams) : Except (WriteAnswer 0) Nat × Streams :=
  match s.sendHalf? id with
  | none => (.error .unknown, s)
  | some h =>
    if s.room = 0 then
      if h.waiting then (.error .blocked, s)
      else
        (.error .blocked,
          { s.setSend id { h with waiting := true } with waiting := id :: s.waiting })
    else if h.phase ≠ .ready then (.error .unknown, s)
    else
      match h.stopped with
      | some code => (.error (.stopped code), s)
      | none =>
        if h.written < h.maxData then (.ok (min s.room (h.maxData - h.written)), s)
        else (.error .blocked, s)

/-- Takes the first `taken` bytes of what is written to a stream. -/
def append (id : StreamId) (data : Bytes) (s : Streams) : Streams :=
  match s.sendHalf? id with
  | none => s
  | some h =>
    { s.setSend id { h with
        unsent := h.unsent ++ [data]
        written := h.written + data.length
        unacked := h.unacked + data.length } with
      unacked := s.unacked + data.length }

def write (id : StreamId) (data : Bytes) (s : Streams) : WriteAnswer data.length × Streams :=
  match s.writable id with
  | (.error .unknown, s) => (.unknown, s)
  | (.error (.stopped code), s) => (.stopped code, s)
  | (.error _, s) => (.blocked, s)
  | (.ok room, s) =>
    if h : 0 < min room data.length then
      (.accepted (min room data.length) h (Nat.min_le_right ..),
        s.append id (data.take (min room data.length)))
    else (.blocked, s)

def finish (id : StreamId) (s : Streams) : FinishAnswer × Streams :=
  match s.sendHalf? id with
  | none => (.unknown, s)
  | some h =>
    match h.stopped with
    | some code => (.stopped code, s)
    | none =>
      if h.phase = .ready then
        (.done, s.setSend id { h with phase := .ending, finPending := true })
      else (.unknown, s)

/-- Gives up what this side sends on a stream; says whether there was something to give up. -/
def reset (id : StreamId) (code : Nat) (s : Streams) : Bool × Streams :=
  match s.sendHalf? id with
  | none => (false, s)
  | some h =>
    if h.phase = .reset then (false, s)
    else
      (true,
        { s.setSend id { h with phase := .reset, unsent := [], unacked := 0, finPending := false }
            with
          unacked := s.unacked - h.unacked
          control := s.control ++ [.reset id code] })

/-- Asks the peer to send no more on a stream; says whether it could be asked. -/
def stop (id : StreamId) (code : Nat) (s : Streams) : Bool × Streams :=
  match s.recvHalf? id with
  | none => (false, s)
  | some h =>
    if h.stopped then (false, s)
    else
      let s := s.setRecv id { h with stopped := true, segments := [] }
      let s := if h.reset.isNone then { s with control := s.control ++ [.stop id code] } else s
      (true, if h.endUnknown then s else s.freeRecv id)

def beginRead (id : StreamId) (s : Streams) : Option Streams :=
  match s.recvHalf? id with
  | none => none
  | some h => if h.stopped then none else some s

/-- The next region of a stream, or how it ended. A half whose end was read is gone. -/
def nextRegion (id : StreamId) (limit : Nat) (s : Streams) : ReadAnswer limit × Streams :=
  match s.recvHalf? id with
  | none => (.blocked, s)
  | some h =>
    if pos : 0 < limit then
      match e : RecvHalf.takeRegion limit h.read h.segments with
      | some r =>
        (.region r.1 (RecvHalf.takeRegion_ne_nil pos e) (RecvHalf.takeRegion_length_le e),
          s.setRecv id { h with read := h.read + r.1.length, segments := r.2 })
      | none =>
        match h.reset with
        | some code => (.reset code, s.freeRecv id)
        | none => if h.size = some h.read then (.finished, s.freeRecv id) else (.blocked, s)
    else (.blocked, s)

/-- Ends a pass of reads. -/
def endRead (id : StreamId) (s : Streams) : Streams :=
  let s := s.noteStreams
  match s.recvHalf? id with
  | none => s
  | some h =>
    if h.creditDue then { s with creditDue := s.creditDue.filter (· ≠ id) ++ [id] } else s

/-! ## What arrives -/

/-- The peer has said what it allows. -/
def learnPeer (allowed : PerDir Nat) (s : Streams) : Streams :=
  { s with allowed := allowed, peerKnown := true }

/-- Whether the peer may speak of the receive side of a stream. -/
def checkReceived (id : StreamId) (s : Streams) : Except Violation Unit :=
  if id.initiator = s.side then
    if id.dir = .uni then .error (.streamStateError, "illegal operation on send-only stream")
    else if s.opened.get .bi ≤ id.index then
      .error (.streamStateError, "operation on unopened stream")
    else .ok ()
  else if s.remoteAllowed.get id.dir ≤ id.index then .error (.streamLimitError, "")
  else .ok ()

/-- The peer spoke of a stream. A stream of the peer not heard of before is new, with all below it;
otherwise the session is told if there may be something to read. -/
def noteStream (readable : Bool) (id : StreamId) (s : Streams) : Streams :=
  if id.initiator = s.side then
    if readable then { s with events := s.events ++ [.readable id] } else s
  else if s.remoteSeen.get id.dir ≤ id.index then
    { s with
      remoteSeen := s.remoteSeen.set id.dir (id.index + 1)
      newcomers := s.newcomers.set id.dir true }
  else if readable then { s with events := s.events ++ [.readable id] }
  else s

def receiveStream (id : StreamId) (offset : Nat) (data : Bytes) (fin : Bool) (s : Streams) :
    Except Violation Streams := do
  s.checkReceived id
  match s.recvHalf? id with
  | none => return s
  | some h =>
    if h.reset.isSome then return s
    let h := h.receive offset data fin
    let s := s.setRecv id h
    if !h.stopped then return s.noteStream true id
    return if fin then s.freeRecv id else s

def receiveReset (id : StreamId) (code : Nat) (s : Streams) : Except Violation Streams := do
  s.checkReceived id
  match s.recvHalf? id with
  | none => return s
  | some h =>
    if h.reset.isSome then return s
    let s := s.setRecv id { h with reset := some code, segments := [] }
    let s := if h.stopped then s.freeRecv id else s
    return s.noteStream (!h.stopped) id

def receiveStop (id : StreamId) (code : Nat) (s : Streams) : Except Violation Streams :=
  if id.initiator ≠ s.side ∧ id.dir = .uni then
    .error (.streamStateError, "STOP_SENDING on recv-only stream")
  else if id.initiator = s.side ∧ s.opened.get id.dir ≤ id.index then
    .error (.streamStateError, "STOP_SENDING on unopened stream")
  else
    match s.sendHalf? id with
    | none => .ok s
    | some h =>
      if h.stopped.isSome then .ok s
      else
        let s := s.setSend id { h with stopped := some code }
        let s := { s with events := s.events ++ [Event.stopped id code] }
        .ok (s.noteStream false id)

def receiveMaxStreamData (id : StreamId) (limit : Nat) (s : Streams) : Except Violation Streams :=
  if id.initiator ≠ s.side ∧ id.dir = .uni then
    .error (.streamStateError, "MAX_STREAM_DATA on recv-only stream")
  else
    match s.sendHalf? id with
    | none =>
      if id.initiator = s.side ∧ s.opened.get id.dir ≤ id.index then
        .error (.streamStateError, "MAX_STREAM_DATA on unopened stream")
      else .ok s
    | some h =>
      let grown := h.maxData < limit && h.phase = .ready
      let full := h.written == h.maxData
      let h := if grown then { h with maxData := limit } else h
      let s := s.setSend id h
      let s :=
        if grown && full then
          if 0 < s.room then { s with events := s.events ++ [Event.writable id] }
          else if h.waiting then s
          else { s.setSend id { h with waiting := true } with waiting := id :: s.waiting }
        else s
      .ok (s.noteStream false id)

def receiveMaxStreams (dir : Dir) (count : Nat) (s : Streams) : Streams :=
  if s.allowed.get dir < count then
    { s with allowed := s.allowed.set dir count, events := s.events ++ [.available dir] }
  else s

/-- A frame that was sent arrived. -/
def acknowledged (f : Frame) (s : Streams) : Streams :=
  match f with
  | .stream id _ data fin =>
    match s.sendHalf? id with
    | none => s
    | some h =>
      if h.phase = .reset then s
      else
        let h := h.acknowledge data.length fin
        let s := { s.setSend id h with unacked := s.unacked - data.length }
        if h.complete then
          let s := s.freeSend id
          { s with events := s.events ++ [Event.finished id] }
        else s
  | .reset id _ =>
    match s.sendHalf? id with
    | none => s
    | some h => if h.phase = .reset then s.freeSend id else s
  | _ => s

/-! ## What is sent -/

/-- The new limits of streams that are worth sending. -/
def emitCredit (s : Streams) : List Frame × Streams :=
  s.creditDue.foldl (fun (frames, s) id =>
    match s.recvHalf? id with
    | none => (frames, s)
    | some h =>
      if h.endUnknown && !h.stopped then
        (frames ++ [.maxStreamData id (h.read + streamWindow)],
          s.setRecv id { h with toldLimit := h.read + streamWindow })
      else (frames, s)) ([], { s with creditDue := [] })

/-- The new numbers of streams that are worth sending. -/
def emitStreams (s : Streams) : List Frame × Streams :=
  Dir.all.foldl (fun (frames, s) dir =>
    if s.streamsDue.get dir then
      (frames ++ [.maxStreams dir (s.remoteAllowed.get dir)],
        { s with
          streamsDue := s.streamsDue.set dir false
          remoteTold := s.remoteTold.set dir (s.remoteAllowed.get dir) })
    else (frames, s)) ([], s)

/-- What was written and not sent yet. -/
def emitData (s : Streams) : List Frame × Streams :=
  s.send.entries.foldl (fun (frames, s) e =>
    match e.2.emit e.1 with
    | some (f, h) => (frames ++ [f], { s with send := s.send.update e.1 fun _ => h })
    | none => (frames, s)) ([], s)

/-! ## What the session is told -/

/-- The first stream in the list that can be written again; streams that cannot stop waiting. -/
def wake : List StreamId → Streams → Option StreamId × Streams
  | [], s => (none, { s with waiting := [] })
  | id :: rest, s =>
    match s.sendHalf? id with
    | none => wake rest s
    | some h =>
      let s := s.setSend id { h with waiting := false }
      if h.phase = .ready ∧ h.written < h.maxData then (some id, { s with waiting := rest })
      else wake rest s

/-- The next report of the event queue. -/
def pollEvents (s : Streams) : Option (Event × Streams) :=
  match s.events with
  | [] => none
  | e :: rest => some (e, { s with events := rest })

/-- The next report: new streams first, then streams that waited for room, then the queue. -/
def poll (s : Streams) : Option (Event × Streams) :=
  if s.newcomers.bi then some (.opened .bi, { s with newcomers := s.newcomers.set .bi false })
  else if s.newcomers.uni then
    some (.opened .uni, { s with newcomers := s.newcomers.set .uni false })
  else if 0 < s.room then
    match wake s.waiting s with
    | (some id, s) => some (.writable id, s)
    | (none, s) => s.pollEvents
  else s.pollEvents

/-- How many reports and new streams wait for the session. -/
def backlog (s : Streams) : Nat :=
  s.events.length + (if 0 < s.room then s.waiting.length else 0) +
    s.newcomers.bi.toNat + s.newcomers.uni.toNat +
    (s.remoteSeen.bi - s.remoteAccepted.bi) + (s.remoteSeen.uni - s.remoteAccepted.uni)

end Streams

end QuicSessions.Wire
