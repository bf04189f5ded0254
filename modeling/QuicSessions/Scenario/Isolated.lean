import QuicSessions.Client
import QuicSessions.Scenario.Party
import QuicSessions.Scenario.Request
import QuicSessions.Server
import QuicSessions.Wire.Station

/-!
# Servers and clients on a host without a network

Several servers and clients of one host, each under a name. Sockets can be bound, but nothing that is
sent ever arrives, so no handshake ends and no server hears of a client. Time passes only while
something is waited for; deadlines that come meanwhile take effect. After each step everything that
was posted has run, and every notice was delivered.
-/

set_option autoImplicit false

namespace QuicSessions.Scenario.Isolated

open Wire (Connection Station Payload)

/-- A dispatcher on the in-memory engine, if one is installed. -/
abbrev Installed := Option (Dispatcher Station Connection Payload)

/-! ## One instance -/

section
variable {ν : Type} [Installable ν] (now : Instant)

/-- Delivers all notices. Reactions reach what is installed as long as the runner takes tasks. -/
def deliver (i : Instance ν Station Connection Payload) :
    List Observation × Instance ν Station Connection Payload :=
  let p : Party Station Connection Payload :=
    ⟨if i.io.serving then i.thread.installed else none, []⟩
  let p := p.deliverAll now Party.deliveries i.notices
  let thread := if i.io.serving then { i.thread with installed := p.installed }.wake else i.thread
  (p.log, { i with notices := [], thread := thread })

/-- The loops that were told that deadlines have moved look again. -/
def lookAgain (i : Instance ν Station Connection Payload) :
    Instance ν Station Connection Payload :=
  i.thread.loops.entries.foldl (fun i e => if e.2.woken then i.resume now e.1 .told else i) i

/-- Loses what was sent. -/
def losePackets (i : Instance ν Station Connection Payload) :
    Instance ν Station Connection Payload :=
  { i with thread := { i.thread with installed := i.thread.installed.map fun d =>
      { d with sent := [] } } }

/-- Runs and delivers everything that was posted. -/
def settle (held : List SocketAddress) (i : Instance ν Station Connection Payload) :
    List Observation × Instance ν Station Connection Payload :=
  let (log, i) := deliver now (i.work now held)
  (log, losePackets (lookAgain now i))

/-- Wakes the loops whose deadline has come. -/
def elapse (i : Instance ν Station Connection Payload) : Instance ν Station Connection Payload :=
  i.thread.loops.entries.foldl (fun i e =>
    if Session.reached e.2.deadline now then i.resume now e.1 .deadline else i) i

end

/-- When the first loop of an instance wakes by itself. -/
def nextDeadline {ν : Type} (i : Instance ν Station Connection Payload) : Option Instant :=
  (i.thread.loops.values.filterMap ReadLoop.deadline).min?

/-! ## Objects -/

/-- What a name stands for. -/
inductive Object where
  /-- A socket that nobody reads. -/
  | socket (address : SocketAddress)
  | server (s : Server Station Connection Payload)
  | client (s : Client Station Connection Payload)

namespace Object

/-- The addresses that the object holds. -/
def sockets : Object → List SocketAddress
  | socket a => [a]
  | server s => s.running.thread.sockets
  | client s => s.running.thread.sockets

/-- The port for those who want to reach the object. -/
def port : Object → UInt16
  | socket a => a.port
  | server s => s.port
  | client _ => 0

/-- The name of the runner whose sessions the object has. -/
def runner? : Object → Option String
  | socket _ => none
  | server s => some s.running.io.name
  | client s => some s.running.io.name

def deadline : Object → Option Instant
  | socket _ => none
  | server s => nextDeadline s.running
  | client s => nextDeadline s.running

variable (now : Instant) (held : List SocketAddress)

def settle : Object → List Observation × Object
  | socket a => ([], socket a)
  | server s =>
    let (log, running) := Isolated.settle now held s.running
    (log, server { s with running := running })
  | client s =>
    let (log, running) := Isolated.settle now held s.running
    (log, client { s with running := running })

def elapse : Object → Object
  | socket a => socket a
  | server s => server { s with running := Isolated.elapse now s.running }
  | client s => client { s with running := Isolated.elapse now s.running }

/-- The object at its end. -/
def finish : Object → Object
  | socket a => socket a
  | server s => server { s with running := s.running.finish now held }
  | client s => client { s with running := s.running.finish now held }

/-- An operation through a handle. One that cannot be posted finds nothing installed. -/
def operate {α : Type} (op : Installed → Except Fault (α × Installed)) :
    Object → Except Fault (α × Object)
  | socket a => return ((← op none).1, socket a)
  | server s => do
    if s.running.io.serving then
      let (r, running) ← s.running.operate op
      return (r, server { s with running := running })
    else return ((← op none).1, server s)
  | client s => do
    if s.running.io.serving then
      let (r, running) ← s.running.operate op
      return (r, client { s with running := running })
    else return ((← op none).1, client s)

end Object

/-! ## The host -/

/-- A handle that was given a name, with the runner of its session. -/
structure Held where
  runner : String
  handle : SessionHandle

structure State where
  objects : Table String Object
  handles : Table String Held
  /-- How many servers and clients were made. -/
  made : Nat
  clock : Instant
  /-- Everything that was observed. -/
  log : List Observation
  /-- How many lines of the log those who wait ignore. -/
  forgotten : Nat

/-- A host that was started a day ago. -/
def new : State := ⟨.empty, .empty, 0, 86400 * nanosPerSecond, [], 0⟩

namespace State

/-- What everything but the object of this name has bound. -/
def heldBeside (name : String) (s : State) : List SocketAddress :=
  (s.objects.entries.filter fun e => e.1 ≠ name).flatMap fun e => e.2.sockets

/-- Runs and delivers everything that was posted to an object. -/
def settleObject (s : State) (name : String) : State :=
  match s.objects.get? name with
  | none => s
  | some o =>
    let (log, o) := o.settle s.clock (s.heldBeside name)
    { s with objects := s.objects.update name fun _ => o, log := s.log ++ log }

def settle (s : State) : State := s.objects.keys.foldl settleObject s

/-- Ends an object; says whether there was one. -/
def drop (name : String) (s : State) : Bool × State :=
  match s.objects.get? name with
  | none => (false, s)
  | some o =>
    let held := s.heldBeside name
    let (log, _) := (o.finish s.clock held).settle s.clock held
    (true, { s with objects := s.objects.erase name, log := s.log ++ log })

/-- Gives an object a name; what had the name before is ended. -/
def put (name : String) (o : Object) (s : State) : State :=
  let (_, s) := s.drop name
  { s with objects := s.objects.insert name o, made := s.made + 1 }

/-- Changes an object. -/
def set (name : String) (o : Object) (s : State) : State :=
  { s with objects := s.objects.update name fun _ => o }

/-! ## Time -/

/-- When the first loop wakes by itself. -/
def nextDeadline (s : State) : Option Instant :=
  (s.objects.values.filterMap Object.deadline).min?

/-- The time is `t`. -/
def elapse (t : Instant) (s : State) : State :=
  let s := { s with clock := max s.clock t }
  let objects := s.objects.keys.foldl (fun objects name =>
    objects.update name (Object.elapse s.clock)) s.objects
  { s with objects := objects }.settle

/-- Lets time pass until something is found, or until `limit`. -/
def await {α : Type} (find : State → Option α) (limit : Instant) :
    (tries : Nat) → State → Option α × State
  | 0, s => (find s, { s with clock := limit })
  | tries + 1, s =>
    match find s with
    | some a => (some a, s)
    | none =>
      match s.nextDeadline with
      | none => (none, { s with clock := limit })
      | some t =>
        if limit < t then (none, { s with clock := limit }) else await find limit tries (s.elapse t)

/-- How long anything is waited for. -/
def patience : Nat := millis 5000

/-- More deadlines than come while something is waited for. -/
def deadlines : Nat := 5000

def awaitPatiently {α : Type} (find : State → Option α) (s : State) : Option α × State :=
  s.await find (s.clock + patience) deadlines

/-! ## What was observed -/

/-- What was observed at a place and not forgotten. -/
def observedAt (place : String) (s : State) : List Observation :=
  (s.log.drop s.forgotten).filter fun o => o.place = place

/-- The bytes of a stream that were delivered at a place. -/
def dataAt (place : String) (stream : UInt32) (s : State) : Bytes :=
  (s.log.filter fun o => o.place = place && o.stream = some stream).flatMap fun o =>
    o.data?.getD []

/-! ## Handles -/

/-- A request through a handle. If the instance is gone it finds nothing installed. -/
def request (r : SessionRequest) (h : Held) (s : State) : Except Fault (Reply × State) :=
  match s.objects.entries.find? fun e => e.2.runner? = some h.runner with
  | none => return ((← r.run s.clock h.handle (none : Installed)).1, s)
  | some (name, o) => do
    let (reply, o) ← o.operate (r.run s.clock h.handle)
    return (reply, (s.set name o).settle)

/-- Whether the session of a handle is ready. -/
def isReady (h : Held) (s : State) : Bool :=
  match s.request .ready h with
  | .ok (.flag b, _) => b
  | _ => false

/-- Gives the handle of a session of an object a name. -/
def keepHandle (as : String) (name : String) (h : SessionHandle) (s : State) : State :=
  match (s.objects.get? name).bind Object.runner? with
  | none => s
  | some runner => { s with handles := s.handles.insert as ⟨runner, h⟩ }

end State

/-! ## Steps -/

/-- A port, by its number or by the object that has it. -/
inductive Port where
  | number (n : UInt16)
  | ofObject (name : String)

def Port.resolve (s : State) : Port → UInt16
  | number n => n
  | ofObject name => ((s.objects.get? name).map Object.port).getD 0

/-- What is done with the name `on`. -/
inductive Operation where
  | makeSocket
  | makeServer (c : ServerConfig)
  /-- Makes a server from two files, and ends it. -/
  | tryServer (cert key : String)
  | makeClient (c : ClientConfig)
  | drop
  /-- A visitor for a server and one for a client, of which the fitting one is set. -/
  | setVisitor (server : ServerVisitor) (client : ClientVisitor)
  | setListener (l : Listener)
  | listen (port : Port)
  | isListening
  | start (host : String) (port : Port) (as : String)
  | stop
  | send (session : SessionId) (stream : UInt32) (data : Bytes)
  | sessions
  | session (id : SessionId) (as : String)
  | config
  | request (r : SessionRequest)
  | waitReady
  /-- Anything asked of a stream. Nobody has a handle of one, as no session gets ready. -/
  | askStream
  | wait (wanted : Observation → Bool)
  | waitData (stream : UInt32) (length : Nat)
  | forget
  | count (name : String)

/-- What a step answers. -/
inductive Answer where
  | done
  | flag (value : Bool)
  | flags (first second : Bool)
  | count (n : Nat)
  | text (value : String)
  | bytes (value : Bytes)
  | ids (sessions : List SessionId)
  | handle (h : Option SessionHandle)
  | listening (port server : UInt16)
  | reply (r : Reply)
  | observed (o : Option Observation)
  | serverConfig (c : ServerConfig)
  | clientConfig (c : ClientConfig)
  | failed (e : TransportError)
  | fault (f : Fault)
  | noObject
  | noHandle

/-- What is done to a server. -/
def onServer (op : Operation) (on : String) (s : State) (x : Server Station Connection Payload) :
    Answer × State :=
  let held := s.heldBeside on
  let put (x : Server Station Connection Payload) : State := (s.set on (.server x)).settle
  match op with
  | .setVisitor v _ => (.done, put { x with running := x.running.setVisitor v })
  | .setListener l => (.done, put { x with running := x.running.setListener l })
  | .listen port =>
    match x.listen s.clock held (port.resolve s) with
    | (.ok port, x) => (.listening port x.port, put x)
    | (.error e, x) => (.failed e, put x)
  | .isListening => (.flags x.isListening (x.port ≠ 0), s)
  | .stop => (.done, put (x.stop s.clock held))
  | .send session stream data =>
    let (sent, running) := x.running.post (.send session stream data)
    (.flag sent, put { x with running := running })
  | .sessions => (.ids x.sessions, s)
  | .session id as =>
    match x.session id with
    | some h => (.handle (some h), s.keepHandle as on h)
    | none => (.handle none, s)
  | .config => (.serverConfig x.config, s)
  | _ => (.noObject, s)

/-- What is done to a client. -/
def onClient (op : Operation) (on : String) (s : State) (x : Client Station Connection Payload) :
    Answer × State :=
  let held := s.heldBeside on
  let put (x : Client Station Connection Payload) : State := (s.set on (.client x)).settle
  match op with
  | .setVisitor _ v => (.done, put { x with running := x.running.setVisitor v })
  | .setListener l => (.done, put { x with running := x.running.setListener l })
  | .start host port as =>
    match x.start s.clock held host (port.resolve s) with
    | (.ok h, x) => (.handle (some h), (put x).keepHandle as on h)
    | (.error e, x) => (.failed e, put x)
  | .stop => (.done, put (x.stop s.clock held))
  | .send session stream data =>
    let (sent, running) := x.running.post (.send session stream data)
    (.flag sent, put { x with running := running })
  | .session _ as =>
    match x.session with
    | some h => (.handle (some h), s.keepHandle as on h)
    | none => (.handle none, s)
  | .config => (.clientConfig x.config, s)
  | _ => (.noObject, s)

/-- A step with what it answers. -/
def step (files : Files) (op : Operation) (on : String) (s : State) : Answer × State :=
  match op with
  | .makeSocket =>
    match Net.bind (s.heldBeside on) (.v4 .loopback 0) with
    | .ok a => (.done, s.put on (.socket a))
    | .error e => (.failed (.ofIo e), s)
  | .makeServer c =>
    match Server.create files s.made c with
    | .ok x => (.text x.debug, s.put on (.server x))
    | .error e => (.failed e, s)
  | .tryServer cert key =>
    match (Server.createWithFiles files s.made cert key :
        Except TransportError (Server Station Connection Payload)) with
    | .ok _ => (.text "ok", s)
    | .error e => (.failed e, s)
  | .makeClient c =>
    match Client.create s.made c with
    | .ok x => (.text x.debug, s.put on (.client x))
    | .error e => (.failed e, s)
  | .drop =>
    let (existed, s) := s.drop on
    (.flag existed, s)
  | .request r =>
    match s.handles.get? on with
    | none => (.noHandle, s)
    | some h =>
      match s.request r h with
      | .ok (reply, s) => (.reply reply, s)
      | .error f => (.fault f, s)
  | .waitReady =>
    match s.handles.get? on with
    | none => (.noHandle, s)
    | some h =>
      let (found, s) := s.awaitPatiently fun s => if s.isReady h then some () else none
      (.flag found.isSome, s)
  | .askStream => (.noHandle, s)
  | .wait wanted =>
    let (found, s) := s.awaitPatiently fun s => (s.observedAt on).find? wanted
    (.observed found, s)
  | .waitData stream length =>
    let (_, s) := s.awaitPatiently fun s =>
      if length ≤ (s.dataAt on stream).length then some () else none
    (.bytes (s.dataAt on stream), s)
  | .forget => (.done, { s with forgotten := s.log.length })
  | .count name => (.count (s.log.filter fun o => o.place = on && o.name = name).length, s)
  | op =>
    match s.objects.get? on with
    | some (.server x) => onServer op on s x
    | some (.client x) => onClient op on s x
    | _ => (.noObject, s)

end QuicSessions.Scenario.Isolated
