import QuicSessions.Scenario.Bare
import QuicSessions.Scenario.Party
import QuicSessions.Scenario.Request
import QuicSessions.Session.Operation
import QuicSessions.Wire.Raw
import QuicSessions.Wire.Station

/-!
# A client and a server back to back

Two dispatchers whose packets are handed from one to the other. The clock stands still but for the
steps that move it. `pump` exchanges packets until nothing moves; `advance` lets time pass with all
its deadlines; `expire` ends the closing of every closed connection.
-/

set_option autoImplicit false

namespace QuicSessions.Scenario.Pair

open Wire (Connection RawOperation RawAnswer Station Payload)

/-- A dispatcher on the in-memory engine. -/
abbrev Switchboard := Dispatcher Station Connection Payload

/-- What one side is set up with. -/
structure Setup where
  options : SessionOptions
  settings : Settings
  maxSessions : Option Nat
  openOnConnect : Bool
  /-- Connections may be begun from this side. -/
  connects : Bool

/-- The two sides, their handles and the clock. -/
structure State where
  client : Party Station Connection Payload
  server : Party Station Connection Payload
  /-- Handles of the sessions that were seen. -/
  clientHandles : List SessionHandle
  serverHandles : List SessionHandle
  clock : Instant

namespace State

def party (side : Side) (s : State) : Party Station Connection Payload :=
  match side with
  | .client => s.client
  | .server => s.server

def setParty (side : Side) (p : Party Station Connection Payload) (s : State) : State :=
  match side with
  | .client => { s with client := p }
  | .server => { s with server := p }

def handles (side : Side) (s : State) : List SessionHandle :=
  match side with
  | .client => s.clientHandles
  | .server => s.serverHandles

/-- The handle of a session that was seen. -/
def handle? (side : Side) (id : SessionId) (s : State) : Option SessionHandle :=
  (s.handles side).find? fun h => h.id = id

end State

def address : Side → SocketAddress
  | .client => clientAddress
  | .server => serverAddress

def dispatcherOf (side : Side) (setup : Setup) : Switchboard :=
  let station : Station :=
    match side with
    | .server => .server setup.settings
    | .client => .client
  let d : Switchboard := .new side station (address side) setup.options
  { d with
    connecting := if setup.connects then some setup.settings else none
    openOnConnect := setup.openOnConnect
    maxSessions := setup.maxSessions.getD d.maxSessions }

def new (client server : Setup) : State where
  client := ⟨some (dispatcherOf .client client), []⟩
  server := ⟨some (dispatcherOf .server server), []⟩
  clientHandles := []
  serverHandles := []
  clock := 0

namespace State

/-- Changes the dispatcher of one side; a fault changes nothing. -/
def onDispatcher (side : Side) (f : Switchboard → Except Fault Switchboard) (s : State) : State :=
  let p := s.party side
  match p.installed with
  | none => s
  | some d =>
    match f d with
    | .ok d => s.setParty side { p with installed := some d }
    | .error _ => s

/-- Delivers what was posted on one side. -/
def settle (side : Side) (s : State) : State :=
  s.setParty side ((s.party side).settle s.clock)

/-- Takes the packets that one side has sent. -/
def takeSent (side : Side) (s : State) : List (Outgoing Payload) × State :=
  let p := s.party side
  match p.installed with
  | none => ([], s)
  | some d =>
    (d.sent, s.setParty side { p with installed := some { d with sent := [] } })

/-- The side at a destination. -/
def sideAt? (destination : SocketAddress) : Option Side :=
  if destination = serverAddress then some .server
  else if destination = clientAddress then some .client
  else none

/-- Hands one packet over. -/
def carry (source : Side) (s : State) (o : Outgoing Payload) : State :=
  match sideAt? o.destination with
  | none => s
  | some side =>
    s.onDispatcher side fun d => d.receive s.clock (address source) o.packet

/-- Drives all sessions of one side. -/
def driveSide (side : Side) (s : State) : State :=
  (s.onDispatcher side fun d => d.driveAll s.clock).settle side

/-- Drives both sides and takes what they send; says whether that was anything. -/
def gather (s : State) : List (Outgoing Payload) × List (Outgoing Payload) × State :=
  let s := (s.driveSide .client).driveSide .server
  let (fromClient, s) := s.takeSent .client
  let (fromServer, s) := s.takeSent .server
  (fromClient, fromServer, s)

/-- Exchanges packets until nothing moves, in at most `rounds` rounds. -/
def exchange : (rounds : Nat) → State → State
  | 0, s => s
  | rounds + 1, s =>
    let (fromClient, fromServer, s) := s.gather
    if fromClient.isEmpty && fromServer.isEmpty then s
    else
      let s := (fromClient.foldl (carry .client) s).settle .server
      let s := (fromServer.foldl (carry .server) s).settle .client
      exchange rounds s

/-- More rounds than two sides take to have nothing left to say. -/
def rounds : Nat := 10000

/-- Sends are lost: both sides are driven, and what they send is thrown away. -/
def discard (s : State) : State := s.gather.2.2

/-- When a live connection next sends again what was not acknowledged. -/
def nextProbe (side : Side) (s : State) : Option Instant :=
  match (s.party side).installed with
  | none => none
  | some d => (d.sessions.values.filterMap fun x => x.transport.probeAt).min?

/-- Tells one side the time. -/
def timeoutSide (side : Side) (s : State) : State :=
  (s.onDispatcher side fun d => d.timeout s.clock).settle side

/-- Sends again on a connection whose time has come. -/
def probeSession (now : Instant) (x : Session Connection) : Session Connection :=
  if Wire.Connection.due x.transport.probeAt now then
    { x with transport := x.transport.probe }
  else x

/-- Sends again on the connections of one side whose time has come. -/
def probeSide (side : Side) (s : State) : State :=
  s.onDispatcher side fun d =>
    let sessions := d.sessions.keys.foldl (fun t id => t.update id (probeSession s.clock)) d.sessions
    .ok { d with sessions := sessions }

/-- Lets live connections send again what was lost, as long as that falls before `limit`. -/
def recover (limit : Instant) : (tries : Nat) → State → State
  | 0, s => s
  | tries + 1, s =>
    match Session.earlier (s.nextProbe .client) (s.nextProbe .server) with
    | none => s
    | some t =>
      if limit < t then s
      else
        let s := { s with clock := max s.clock t }
        recover limit tries (((s.probeSide .client).probeSide .server).exchange rounds)

/-- The time within which a pump sends again. -/
def pumpTime : Nat := millis 100

def pump (s : State) : State :=
  recover (s.clock + pumpTime) 64 (s.exchange rounds)

/-- When a session of either side next wants to be told the time. -/
def nextDeadline (s : State) : Except Fault (Option Instant) := do
  let at? (side : Side) : Except Fault (Option Instant) :=
    match (s.party side).installed with
    | none => .ok none
    | some d => d.pollTimeout
  return Session.earlier (← at? .client) (← at? .server)

/-- Lets time pass until `limit`, with every deadline on the way. -/
def pass (deliver : Bool) (limit : Instant) : (tries : Nat) → State → Except Fault State
  | 0, s => .ok { s with clock := limit }
  | tries + 1, s => do
    let s := if deliver then s.exchange rounds else s.discard
    match ← s.nextDeadline with
    | none => return { s with clock := limit }
    | some t =>
      if limit < t then return { s with clock := limit }
      else
        let s := { s with clock := max s.clock t }
        pass deliver limit tries ((s.timeoutSide .client).timeoutSide .server)

/-- More deadlines than pass in one step. -/
def deadlines : Nat := 5000

def advance (by_ : Nat) (deliver : Bool) (s : State) : Except Fault State := do
  let s ← pass deliver (s.clock + by_) deadlines s
  return if deliver then s.exchange rounds else s.discard

/-- Ends the closing of every closed connection of one side. -/
def expireSide (side : Side) (s : State) : State :=
  (s.onDispatcher side fun d =>
    d.sessionIds.foldlM (fun d id =>
      match d.sessions.get? id with
      | some x =>
        if x.transport.isClosed then
          { d with sessions := d.sessions.update id fun x =>
              { x with transport := x.transport.endClosing } }.drive s.clock id
        else .ok d
      | none => .ok d) d).settle side

def expire (s : State) : State := (s.expireSide .client).expireSide .server

/-- Keeps the handles of sessions seen for the first time. -/
def keepHandles (s : State) : State :=
  let seen (side : Side) : List SessionHandle :=
    match (s.party side).installed with
    | none => s.handles side
    | some d =>
      d.sessions.values.foldl (fun known x =>
        if known.any fun h => h.id = x.id then known else known ++ [x.sessionHandle])
        (s.handles side)
  { s with clientHandles := seen .client, serverHandles := seen .server }

end State

/-! ## Steps -/

/-- What is done through the handles of a session and of its streams. -/
inductive HandleOperation where
  | session (r : SessionRequest)
  | stream (id : StreamId) (r : StreamRequest)
  | debug (id : StreamId)

/-- What is done to the dispatcher of a side. -/
inductive DispatcherOperation where
  | connect (name : String) (port : UInt16)
  | drive
  | status
  | setMaxSessions (n : Nat)
  | setMaxReads (n : Nat)
  | setOpenOnConnect (value : Bool)
  | setListener (l : Option Listener)
  | setServerVisitor (v : Option ServerVisitor)
  | setClientVisitor (v : Option ClientVisitor)
  | send (session : SessionId) (stream : UInt32) (data : Bytes)
  | shutdown
  | remove
  | connectionClosed (handle : ConnectionHandle)
  | datagram (data : Bytes)
  | breakWriter (value : Bool)
  | losePackets

inductive Operation where
  | pump
  | expire
  | advance (by_ : Nat) (deliver : Bool)
  | dispatcher (side : Side) (op : DispatcherOperation)
  | session (side : Side) (id : SessionId) (op : Session.Operation)
  | raw (side : Side) (id : SessionId) (op : RawOperation)
  | handle (side : Side) (id : SessionId) (op : HandleOperation)

/-- How a dispatcher stands. -/
structure Status where
  count : Nat
  registered : Nat
  shutDown : Bool
  localAddress : SocketAddress
  sessions : List (SessionId × Session.Standing)

def statusOf (d : Switchboard) : Status where
  count := d.sessionCount
  registered := d.registeredConnections
  shutDown := d.shutDown
  localAddress := d.localAddress
  sessions := d.sessionIds.filterMap fun id => (d.sessions.get? id).map fun x => (id, x.standing)

/-- What a step answers. -/
inductive Answer where
  | done
  | flag (value : Bool)
  | count (n : Nat)
  | session (a : Session.Answer)
  | raw (a : RawAnswer)
  | connected (r : Except QuicError SessionId)
  | status (s : Status)
  | reply (r : Reply)
  | debug (session stream : String) (server : Bool)
  | fault (f : Fault)
  | noSession
  | noHandle
  | noDispatcher

/-- An operation on the dispatcher of a side. -/
def DispatcherOperation.run (op : DispatcherOperation) (now : Instant) (d : Switchboard) :
    Except Fault (Answer × Switchboard) :=
  match op with
  | .connect name port => do
    let (r, d) ← d.connect now (.v4 .loopback port) name
    return (.connected r, d)
  | .drive => return (.done, ← d.driveAll now)
  | .status => .ok (.status (statusOf d), d)
  | .setMaxSessions n => .ok (.done, { d with maxSessions := n })
  | .setMaxReads n =>
    let d := d.setMaxReads n
    .ok (.count d.maxReads, d)
  | .setOpenOnConnect value => .ok (.done, { d with openOnConnect := value })
  | .setListener l => .ok (.done, d.setListener l)
  | .setServerVisitor v => .ok (.done, { d with serverVisitor := v })
  | .setClientVisitor v => .ok (.done, { d with clientVisitor := v })
  | .send id stream data => do
    let (sent, d) ← d.sendTo now id stream data
    return (.flag sent, d)
  | .shutdown => return (.done, ← d.shutdown now)
  | .remove => .ok (.flag true, d)
  | .connectionClosed handle => .ok (.done, d.connectionClosed handle)
  | .datagram data => do
    let before := d.sent.length
    let d ← d.receive now (.v4 .loopback 9) (.foreign data)
    return (.count (d.sent.length - before), d)
  | .breakWriter value => .ok (.done, { d with writerBroken := value })
  | .losePackets => .ok (.done, { d with sent := [] })

/-- An operation through a handle. -/
def HandleOperation.run (op : HandleOperation) (now : Instant) (h : SessionHandle)
    (installed : Option Switchboard) : Except Fault (Answer × Option Switchboard) :=
  let stream (id : StreamId) : StreamHandle := ⟨h.id, id, .of id h.side⟩
  match op with
  | .session r => do
    let (reply, installed) ← r.run now h installed
    return (.reply reply, installed)
  | .stream id r => do
    let (reply, installed) ← r.run now (stream id) installed
    return (.reply reply, installed)
  | .debug id => .ok (.debug h.debug (stream id).debug h.side.isServer, installed)

/-- Carries out a step, and delivers what it posted. -/
def Operation.run (op : Operation) (s : State) : Answer × State :=
  match op with
  | .pump => (.done, s.pump)
  | .expire => (.done, s.expire)
  | .advance n deliver =>
    match s.advance n deliver with
    | .ok s => (.done, s)
    | .error f => (.fault f, s)
  | .dispatcher side op =>
    let p := s.party side
    match op, p.installed with
    | .remove, installed =>
      (.flag installed.isSome, s.setParty side { p with installed := none })
    | _, none => (.noDispatcher, s)
    | op, some d =>
      match op.run s.clock d with
      | .ok (a, d) => (a, (s.setParty side { p with installed := some d }).settle side)
      | .error f => (.fault f, s)
  | .session side id op =>
    let p := s.party side
    match p.installed with
    | none => (.noDispatcher, s)
    | some d =>
      match d.onSession id fun a x => op.run a s.clock x with
      | .ok (some a, d) =>
        (.session a, (s.setParty side { p with installed := some d }).settle side)
      | .ok (none, _) => (.noSession, s)
      | .error f => (.fault f, s)
  | .raw side id op =>
    let p := s.party side
    match p.installed with
    | none => (.noDispatcher, s)
    | some d =>
      match d.onSession id fun _ x =>
          let (a, c) := op.run x.transport
          .ok (a, { x with transport := c }) with
      | .ok (some a, d) =>
        (.raw a, (s.setParty side { p with installed := some d }).settle side)
      | .ok (none, _) => (.noSession, s)
      | .error f => (.fault f, s)
  | .handle side id op =>
    let p := s.party side
    match s.handle? side id with
    | none => (.noHandle, s)
    | some h =>
      match op.run s.clock h p.installed with
      | .ok (a, installed) => (a, (s.setParty side { p with installed := installed }).settle side)
      | .error f => (.fault f, s)

/-- Whether only the order within streams means something for what a step brings. -/
def Operation.arranged : Operation → Bool
  | .pump => true
  | .expire => true
  | .advance _ _ => true
  | .dispatcher _ (.connect _ _) => true
  | .dispatcher _ .drive => true
  | .dispatcher _ (.send _ _ _) => true
  | .dispatcher _ .shutdown => true
  | .session _ _ .reclaim => true
  | .handle _ _ _ => true
  | _ => false

/-- A step with what was observed in it. -/
def step (merge : Bool) (op : Operation) (s : State) : (Answer × List Observation) × State :=
  let (a, s) := op.run s
  let (fromClient, client) := s.client.takeLog
  let (fromServer, server) := s.server.takeLog
  let log := fromClient ++ fromServer
  let log := if op.arranged then Observation.arrange log else log
  let log := if merge then Observation.joinData [] log else log
  ((a, log), { s with client := client, server := server }.keepHandles)

end QuicSessions.Scenario.Pair
