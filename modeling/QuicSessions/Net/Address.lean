/-!
# Network addresses

IPv4 and IPv6 addresses, socket addresses, and their canonical text: an IPv6 address shows its first
longest run of at least two zero groups as two colons, and an IPv4-mapped address shows its last
two groups in dotted form.
-/

set_option autoImplicit false

namespace QuicSessions

/-- The four octets of an IPv4 address. -/
structure Ipv4 where
  a : UInt8
  b : UInt8
  c : UInt8
  d : UInt8
  deriving DecidableEq, Inhabited

/-- The eight groups of an IPv6 address. -/
structure Ipv6 where
  groups : List UInt16
  length_eq : groups.length = 8
  deriving DecidableEq

/-- An address of either family. -/
inductive IpAddress where
  | v4 (address : Ipv4)
  | v6 (address : Ipv6)
  deriving DecidableEq

/-- An address with a port; an IPv6 one also has a scope, which is zero if none is meant. -/
inductive SocketAddress where
  | v4 (address : Ipv4) (port : UInt16)
  | v6 (address : Ipv6) (scope : UInt32) (port : UInt16)
  deriving DecidableEq

namespace Ipv4

def loopback : Ipv4 := ⟨127, 0, 0, 1⟩

def unspecified : Ipv4 := ⟨0, 0, 0, 0⟩

/-- Dotted decimal text. -/
def render (x : Ipv4) : String :=
  toString x.a.toNat ++ "." ++ toString x.b.toNat ++ "." ++ toString x.c.toNat ++ "." ++
    toString x.d.toNat

/-- The two groups that hold the address inside an IPv6 one. -/
def groups (x : Ipv4) : List UInt16 :=
  [x.a.toUInt16 * 256 + x.b.toUInt16, x.c.toUInt16 * 256 + x.d.toUInt16]

/-- The address that two groups of an IPv6 one hold. -/
def ofGroups (hi lo : UInt16) : Ipv4 :=
  ⟨(hi / 256).toUInt8, hi.toUInt8, (lo / 256).toUInt8, lo.toUInt8⟩

end Ipv4

namespace Ipv6

def unspecified : Ipv6 := ⟨List.replicate 8 0, by decide⟩

def loopback : Ipv6 := ⟨List.replicate 7 0 ++ [1], by decide⟩

instance : Inhabited Ipv6 := ⟨unspecified⟩

/-- The IPv4 address that an IPv4-mapped address holds. -/
def mapped? (x : Ipv6) : Option Ipv4 :=
  match x.groups with
  | [0, 0, 0, 0, 0, 0xFFFF, hi, lo] => some (Ipv4.ofGroups hi lo)
  | _ => none

/-- How many zero groups stand at the front. -/
def zerosAt (groups : List UInt16) : Nat := (groups.takeWhile (· == 0)).length

/-- Start and length of the first longest run of zero groups. -/
def longestRun (groups : List UInt16) : Nat × Nat :=
  (List.range groups.length).foldl (fun best i =>
    if best.2 < zerosAt (groups.drop i) then (i, zerosAt (groups.drop i)) else best) (0, 0)

/-- A group in lower-case hexadecimal digits without leading zeros. -/
def renderGroup (g : UInt16) : String := String.ofList (Nat.toDigits 16 g.toNat)

/-- Groups with a colon between any two. -/
def renderGroups (groups : List UInt16) : String :=
  String.intercalate ":" (groups.map renderGroup)

/-- The canonical text of an IPv6 address. -/
def render (x : Ipv6) : String :=
  match x.mapped? with
  | some inner => "::ffff:" ++ inner.render
  | none =>
    let run := longestRun x.groups
    if 1 < run.2 then
      renderGroups (x.groups.take run.1) ++ "::" ++ renderGroups (x.groups.drop (run.1 + run.2))
    else renderGroups x.groups

end Ipv6

namespace IpAddress

instance : Inhabited IpAddress := ⟨.v4 default⟩

/-- Whether the address is the one that stands for any. -/
def isUnspecified : IpAddress → Bool
  | .v4 x => x == Ipv4.unspecified
  | .v6 x => x == Ipv6.unspecified

def withPort (ip : IpAddress) (port : UInt16) : SocketAddress :=
  match ip with
  | .v4 x => .v4 x port
  | .v6 x => .v6 x 0 port

end IpAddress

namespace SocketAddress

instance : Inhabited SocketAddress := ⟨.v4 default 0⟩

def ip : SocketAddress → IpAddress
  | .v4 x _ => .v4 x
  | .v6 x _ _ => .v6 x

def port : SocketAddress → UInt16
  | .v4 _ p => p
  | .v6 _ _ p => p

/-- The canonical text of a socket address. -/
def render : SocketAddress → String
  | .v4 x p => x.render ++ ":" ++ toString p.toNat
  | .v6 x scope p =>
    "[" ++ x.render ++ (if scope = 0 then "" else "%" ++ toString scope.toNat) ++ "]:" ++
      toString p.toNat

end SocketAddress

end QuicSessions
