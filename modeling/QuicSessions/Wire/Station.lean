import QuicSessions.Net.HostName
import QuicSessions.Wire.Connection

/-!
# Stations

A station is an endpoint of the in-memory engine. Every connection has a slot, and a new one gets
the lowest free slot. A packet belongs to the connection with its link; one that begins a connection
asks for a new slot, and any other packet of an unknown link is answered with the news that the
connection is unknown.
-/

set_option autoImplicit false

namespace QuicSessions.Wire

structure Station where
  /-- The settings for connections that peers begin; without them none may. -/
  serving : Option Settings
  /-- The link in each slot. -/
  slots : Table ConnectionHandle Nat
  /-- The link of the next connection begun here. -/
  nextLink : Nat

namespace Station

def server (settings : Settings) : Station := ⟨some settings, .empty, 0⟩

def client : Station := ⟨none, .empty, 0⟩

/-- The first number that no slot in the list has; `tries` more than its length suffice. -/
def firstFree (used : List ConnectionHandle) : (tries n : Nat) → Nat
  | 0, n => n
  | tries + 1, n => if used.contains ⟨n⟩ then firstFree used tries (n + 1) else n

/-- The lowest free slot. -/
def freeSlot (s : Station) : ConnectionHandle := ⟨firstFree s.slots.keys (s.slots.size + 1) 0⟩

/-- The slot of a link. -/
def slotOf? (link : Nat) (s : Station) : Option ConnectionHandle :=
  (s.slots.entries.find? fun e => e.2 = link).map Prod.fst

/-- Begins a connection. An address that no packet can be sent to is refused first, then a name that
is none. -/
def connect (settings : Settings) (remote : SocketAddress) (name : String) (s : Station) :
    Except ConnectError (ConnectionHandle × Connection × Station) :=
  if remote.port = 0 || remote.ip.isUnspecified then .error (.invalidRemoteAddress remote)
  else if !Net.isServerName name then .error (.invalidServerName name)
  else
    let slot := s.freeSlot
    .ok (slot, .new .client s.nextLink remote settings,
      { s with slots := s.slots.insert slot s.nextLink, nextLink := s.nextLink + 1 })

/-- Whether the packet begins a connection. -/
def begins (p : Packet) : Bool := p.frames.any fun f => match f with
  | .hello _ _ => true
  | _ => false

/-- What a packet of an unknown link is answered with; farewells are not answered. -/
def strangerAnswer (source : SocketAddress) (p : Packet) : List (Outgoing Payload) :=
  if p.frames.any fun f => f.closeCause?.isSome || f.ofHandshake then []
  else [⟨source, .packet ⟨p.link, 0, [.unknownConnection]⟩⟩]

def arrival (source : SocketAddress) (payload : Payload) (s : Station) : Arrival Payload :=
  match payload with
  | .packet p =>
    match s.slotOf? p.link with
    | some slot => .connection slot
    | none =>
      if begins p then if s.serving.isSome then .request else .ignored
      else .answer (strangerAnswer source p)
  | .foreign bytes =>
    if s.serving.isSome && wantsVersions bytes then .answer [⟨source, .foreign []⟩] else .ignored

def accept (now : Instant) (source : SocketAddress) (payload : Payload) (s : Station) :
    Except (List (Outgoing Payload)) (ConnectionHandle × Connection) × Station :=
  match s.serving, payload with
  | some settings, .packet p =>
    let slot := s.freeSlot
    (.ok (slot, (Connection.new .server p.link source settings).receive now p),
      { s with slots := s.slots.insert slot p.link })
  | _, _ => (.error [], s)

def refuse (source : SocketAddress) (payload : Payload) (s : Station) :
    List (Outgoing Payload) × Station :=
  match payload with
  | .packet p =>
    ([⟨source, .packet ⟨p.link, 0, [.transportClose .connectionRefused []]⟩⟩], s)
  | .foreign _ => ([], s)

def deliver (now : Instant) (payload : Payload) (c : Connection) : Connection :=
  match payload with
  | .packet p => c.receive now p
  | .foreign _ => c

/-- Frees the slot of a connection whose closing is over. -/
def settle (slot : ConnectionHandle) (c : Connection) (s : Station) : Connection × Station :=
  if c.slotDue then ({ c with slotDue := false }, { s with slots := s.slots.erase slot })
  else (c, s)

def transmit (now : Instant) (c : Connection) : List (Outgoing Payload) × Connection :=
  let (p, c) := c.transmit now
  (p.toList.map fun p => ⟨c.remote, .packet p⟩, c)

instance : Endpoint Station Connection Payload where
  serving := server
  calling := client
  connect _ := connect
  arrival _ source payload s := (s.arrival source payload, s)
  accept := accept
  refuse := refuse
  deliver := deliver
  settle := settle
  transmit := transmit

end Station

end QuicSessions.Wire
