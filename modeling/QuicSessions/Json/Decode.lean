import QuicSessions.Json.Basic
import QuicSessions.Net.Address.Reader
import QuicSessions.Time

/-!
# Wanting values from a document

Each decoder says which kind of value it wants, and objects to the first thing that a reader from
left to right cannot use. A record is an object in which every field may be missing and unknown
fields are skipped, or an array of its fields in their order, of which the last ones may be missing.
-/

set_option autoImplicit false

namespace QuicSessions.Json

/-- The fault of a value that is not of the wanted kind. A value that cannot be read at all is
objected to for that reason; arrays and objects are not looked into. -/
def mismatch : Json → Fault
  | .text none => .malformed
  | .number .unbounded => .malformed
  | .broken fault _ => fault
  | _ => .unsuitable

/-! ## Skipping -/

mutual

/-- Passes over a value that nobody wants. -/
def skip : Json → Except Fault Unit
  | .array items ending => do
    skipItems items
    skipEnding ending
  | .object members ending => do
    skipMembers members
    skipEnding ending
  | .broken _ fault => .error fault
  | _ => .ok ()

def skipItems : List Json → Except Fault Unit
  | [] => .ok ()
  | item :: rest => do
    skip item
    skipItems rest

def skipMembers : List (Except Fault String × Json) → Except Fault Unit
  | [] => .ok ()
  | (_, value) :: rest => do
    skip value
    skipMembers rest

def skipEnding : Option Fault → Except Fault Unit
  | none => .ok ()
  | some fault => .error fault

end

/-! ## Single values -/

/-- A whole number below `limit`. -/
def decodeNat (limit : Nat) : Json → Except Fault Nat
  | .number (.natural n) => if n.toNat < limit then .ok n.toNat else .error .unsuitable
  | j => .error j.mismatch

def decodeUInt32 (j : Json) : Except Fault UInt32 := return (← j.decodeNat UInt32.size).toUInt32

def decodeUInt64 (j : Json) : Except Fault UInt64 := return (← j.decodeNat UInt64.size).toUInt64

def decodeBool : Json → Except Fault Bool
  | .bool b => .ok b
  | j => .error j.mismatch

def decodeString : Json → Except Fault String
  | .text (some s) => .ok s
  | j => .error j.mismatch

/-- A value, or null for none. -/
def decodeOption {α : Type} (f : Json → Except Fault α) : Json → Except Fault (Option α)
  | .null => .ok none
  | j => return some (← f j)

def decodeAddress (j : Json) : Except Fault SocketAddress := do
  match SocketAddress.parse? (← j.decodeString) with
  | some a => return a
  | none => throw .unsuitable

/-! ## Records -/

/-- A field of a record, with what its value does to the record. -/
structure Field (α : Type) where
  name : String
  decode : Json → α → Except Fault α

namespace Field

/-- A field that a decoder and a setter give. -/
def of {α β : Type} (name : String) (decode : Json → Except Fault β) (set : α → β → α) : Field α :=
  ⟨name, fun j a => return set a (← decode j)⟩

end Field

/-- Reads the fields in their order from the items of an array. -/
def decodeColumns {α : Type} : List (Field α) → List Json → Option Fault → α → Except Fault α
  | [], [], none, a => .ok a
  | [], [], some fault, _ => .error fault
  | [], _ :: _, _, _ => .error .malformed
  | _ :: _, [], none, a => .ok a
  | _ :: _, [], some fault, _ => .error fault
  | field :: fields, item :: items, ending, a => do
    decodeColumns fields items ending (← field.decode item a)

/-- Reads the members of an object; no field may come twice. -/
def decodeMembers {α : Type} (fields : List (Field α)) :
    List (Except Fault String × Json) → (seen : List String) → Option Fault → α → Except Fault α
  | [], _, none, a => .ok a
  | [], _, some fault, _ => .error fault
  | (.error fault, _) :: _, _, _, _ => .error fault
  | (.ok name, value) :: rest, seen, ending, a =>
    match fields.find? fun f => f.name = name with
    | none => do
      value.skip
      decodeMembers fields rest seen ending a
    | some field =>
      if seen.contains name then .error .unsuitable
      else do decodeMembers fields rest (name :: seen) ending (← field.decode value a)

/-- Reads a record, starting from one that has the values of missing fields. -/
def decodeRecord {α : Type} (fields : List (Field α)) (missing : α) : Json → Except Fault α
  | .array items ending => decodeColumns fields items ending missing
  | .object members ending => decodeMembers fields members [] ending missing
  | j => .error j.mismatch

/-! ## Durations -/

/-- Seconds and nanoseconds; a surplus of nanoseconds is carried. -/
def durationOf (secs : UInt64) (nanos : UInt32) : Except Fault Duration :=
  match Duration.ofParts? secs.toNat nanos.toNat with
  | some d => .ok d
  | none => .error .unsuitable

/-- Reads the members of a duration; there are no others, and none comes twice. -/
def decodeDurationMembers : List (Except Fault String × Json) → (secs : Option UInt64) →
    (nanos : Option UInt32) → Option Fault → Except Fault Duration
  | [], some secs, some nanos, none => durationOf secs nanos
  | [], _, _, none => .error .unsuitable
  | [], _, _, some fault => .error fault
  | (.error fault, _) :: _, _, _, _ => .error fault
  | (.ok name, value) :: rest, secs, nanos, ending =>
    if name = "secs" ∧ secs.isNone then do
      decodeDurationMembers rest (some (← value.decodeUInt64)) nanos ending
    else if name = "nanos" ∧ nanos.isNone then do
      decodeDurationMembers rest secs (some (← value.decodeUInt32)) ending
    else .error .unsuitable

/-- A duration: an object with seconds and nanoseconds, or an array of the two. -/
def decodeDuration : Json → Except Fault Duration
  | .array items ending =>
    match items with
    | [] => .error (ending.getD .unsuitable)
    | [secs] => do
      let _ ← secs.decodeUInt64
      throw (ending.getD .unsuitable)
    | secs :: nanos :: more => do
      let d ← durationOf (← secs.decodeUInt64) (← nanos.decodeUInt32)
      if more.isEmpty then
        match ending with
        | none => return d
        | some fault => throw fault
      else throw .malformed
  | .object members ending => decodeDurationMembers members none none ending
  | j => .error j.mismatch

end QuicSessions.Json
