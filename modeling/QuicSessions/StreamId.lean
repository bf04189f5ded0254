/-!
# Stream identifiers

A stream identifier packs who opened the stream, whether it runs both ways, and a running index.
Applications hold streams by 32-bit integers; an identifier that does not fit has no such handle.
-/

set_option autoImplicit false

namespace QuicSessions

/-- The two ends of a connection. -/
inductive Side where
  | client
  | server
  deriving DecidableEq, Inhabited, Repr

/-- Streams run both ways or one way. -/
inductive Dir where
  | bi
  | uni
  deriving DecidableEq, Inhabited, Repr

namespace Side

def other : Side → Side
  | client => server
  | server => client

def isServer : Side → Bool
  | server => true
  | client => false

def isClient : Side → Bool
  | client => true
  | server => false

/-- The bit that marks the initiator in a stream identifier. -/
def bit : Side → Nat
  | client => 0
  | server => 1

/-- The name of the side in running text. -/
def name : Side → String
  | client => "client"
  | server => "server"

/-- The name of the side in a debug rendering. -/
def debug : Side → String
  | client => "Client"
  | server => "Server"

end Side

namespace Dir

/-- The bit that marks the direction in a stream identifier. -/
def bit : Dir → Nat
  | bi => 0
  | uni => 1

def all : List Dir := [bi, uni]

/-- The short name of a direction. -/
def name : Dir → String
  | bi => "bi"
  | uni => "uni"

/-- The adjective for a direction. -/
def adjective : Dir → String
  | bi => "bidirectional"
  | uni => "unidirectional"

end Dir

/-- One value for each direction. -/
structure PerDir (α : Type) where
  bi : α
  uni : α
  deriving DecidableEq, Inhabited

namespace PerDir

variable {α : Type}

def get (p : PerDir α) : Dir → α
  | .bi => p.bi
  | .uni => p.uni

def set (p : PerDir α) (d : Dir) (a : α) : PerDir α :=
  match d with
  | .bi => { p with bi := a }
  | .uni => { p with uni := a }

def update (p : PerDir α) (d : Dir) (f : α → α) : PerDir α := p.set d (f (p.get d))

@[simp] theorem get_set (p : PerDir α) (d e : Dir) (a : α) :
    (p.set d a).get e = if e = d then a else p.get e := by
  cases d <;> cases e <;> rfl

@[simp] theorem get_update (p : PerDir α) (d e : Dir) (f : α → α) :
    (p.update d f).get e = if e = d then f (p.get e) else p.get e := by
  cases d <;> cases e <;> rfl

end PerDir

/-- A stream identifier: initiator in bit 0, direction in bit 1, index above. -/
structure StreamId where
  raw : Nat
  deriving DecidableEq, Inhabited, Repr

namespace StreamId

def of (initiator : Side) (dir : Dir) (index : Nat) : StreamId :=
  ⟨4 * index + 2 * dir.bit + initiator.bit⟩

def initiator (id : StreamId) : Side := if id.raw % 2 = 0 then .client else .server

def dir (id : StreamId) : Dir := if id.raw / 2 % 2 = 0 then .bi else .uni

def index (id : StreamId) : Nat := id.raw / 4

/-- The integer by which applications hold the stream, if it fits in 32 bits. -/
def handle? (id : StreamId) : Option UInt32 :=
  if id.raw < UInt32.size then some id.raw.toUInt32 else none

/-- The integer handle, or the greatest one where there is none. -/
def handle (id : StreamId) : UInt32 := id.handle?.getD 4294967295

/-- The stream that an integer handle stands for. -/
def ofHandle (h : UInt32) : StreamId := ⟨h.toNat⟩

/-- The stream in words. -/
def describe (id : StreamId) : String :=
  id.initiator.name ++ " " ++ id.dir.adjective ++ " stream " ++ toString id.index

theorem of_parts (id : StreamId) : of id.initiator id.dir id.index = id := by
  obtain ⟨n⟩ := id
  simp only [of, initiator, dir, index, mk.injEq]
  split <;> split <;> simp only [Dir.bit, Side.bit] <;> omega

@[simp] theorem initiator_of (s : Side) (d : Dir) (n : Nat) : (of s d n).initiator = s := by
  cases s
  · exact if_pos (by cases d <;> simp only [of, Dir.bit, Side.bit] <;> omega)
  · exact if_neg (by cases d <;> simp only [of, Dir.bit, Side.bit] <;> omega)

@[simp] theorem dir_of (s : Side) (d : Dir) (n : Nat) : (of s d n).dir = d := by
  cases d
  · exact if_pos (by cases s <;> simp only [of, Dir.bit, Side.bit] <;> omega)
  · exact if_neg (by cases s <;> simp only [of, Dir.bit, Side.bit] <;> omega)

@[simp] theorem index_of (s : Side) (d : Dir) (n : Nat) : (of s d n).index = n := by
  cases s <;> cases d <;> simp only [of, index, Dir.bit, Side.bit] <;> omega

theorem ofHandle_of_handle? {id : StreamId} {h : UInt32} (e : id.handle? = some h) :
    ofHandle h = id := by
  obtain ⟨n⟩ := id
  simp only [handle?, Option.ite_none_right_eq_some, Option.some.injEq] at e
  obtain ⟨hn, rfl⟩ := e
  simp only [ofHandle, mk.injEq]
  exact Nat.mod_eq_of_lt hn

/-- An identifier that has an integer does not get the one for those without, and its integer leads back. -/
theorem handle_of_fits {id : StreamId} (fits : id.handle?.isSome = true) :
    id.handle? = some id.handle ∧ ofHandle id.handle = id := by
  obtain ⟨h, is⟩ := Option.isSome_iff_exists.1 fits
  have same : id.handle = h := by
    unfold handle
    rw [is]
    rfl
  rw [same]
  exact ⟨is, ofHandle_of_handle? is⟩

end StreamId

/-- Which ways a stream runs, as seen from one side. -/
inductive Directionality where
  | bidirectional
  /-- Opened by the peer; this side only reads. -/
  | readOnly
  /-- Opened by this side, which only writes. -/
  | writeOnly
  deriving DecidableEq, Inhabited, Repr

namespace Directionality

/-- The directionality of a stream for one side. -/
def of (id : StreamId) (side : Side) : Directionality :=
  match id.dir with
  | .bi => bidirectional
  | .uni => if id.initiator = side then writeOnly else readOnly

def readable : Directionality → Bool
  | writeOnly => false
  | _ => true

def writable : Directionality → Bool
  | readOnly => false
  | _ => true

/-- The name in a debug rendering. -/
def debug : Directionality → String
  | bidirectional => "Bidirectional"
  | readOnly => "ReadUnidirectional"
  | writeOnly => "WriteUnidirectional"

end Directionality

end QuicSessions
