import QuicSessions.Scenario.Bare
import QuicSessions.Scenario.Party
import QuicSessions.Session.Operation
import QuicSessions.Wire.Raw
import QuicSessions.Wire.Station

/-!
# One session that never reaches a server

A client session by itself, on a connection whose handshake never starts. No dispatcher is installed,
so visitors that react through handles find everything over.
-/

set_option autoImplicit false

namespace QuicSessions.Scenario.Lone

open Wire (Connection RawOperation RawAnswer Station Payload)

/-- A step of the scenario. -/
inductive Operation where
  | session (op : Session.Operation)
  | raw (op : RawOperation)
  | setListener (l : Option Listener)
  /-- The clock goes on by this many nanoseconds. -/
  | advance (by_ : Nat)
  /-- Notices are dropped from now on. -/
  | stopEvents

/-- What a step answers. -/
inductive Answer where
  | session (a : Session.Answer)
  | raw (a : RawAnswer)
  | fault (f : Fault)
  | done

structure State where
  session : Session Connection
  audience : Audience
  clock : Instant

def new (id : SessionId) (options : SessionOptions) (listener : Option Listener) : State where
  session := .new id ⟨0⟩ unmadeConnection options 0
  audience := ⟨listener, true⟩
  clock := 0

/-- The side of the visitors: handles reach nothing. -/
def party : Party Station Connection Payload := ⟨none, []⟩

def Operation.run (op : Operation) (s : State) : Answer × State :=
  match op with
  | .session op =>
    match op.run s.audience s.clock s.session with
    | .ok (a, after) => (.session a, { s with session := after })
    | .error f => (.fault f, s)
  | .raw op =>
    let (a, c) := op.run s.session.transport
    (.raw a, { s with session := { s.session with transport := c } })
  | .setListener l => (.done, { s with audience := { s.audience with listener := l } })
  | .advance n => (.done, { s with clock := s.clock + n })
  | .stopEvents => (.done, { s with audience := { s.audience with taken := false } })

/-- Whether only the order within streams means something for what a step brings. -/
def Operation.arranged : Operation → Bool
  | .session .reclaim => true
  | .advance _ => true
  | _ => false

/-- A step with what was observed in it. -/
def step (op : Operation) (s : State) : (Answer × List Observation) × State :=
  let (a, s) := op.run s
  let log := (party.deliverAll s.clock Party.deliveries s.session.posted).log
  ((a, if op.arranged then Observation.arrange log else log),
    { s with session := { s.session with posted := [] } })

end QuicSessions.Scenario.Lone
