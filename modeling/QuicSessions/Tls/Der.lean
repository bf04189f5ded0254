import QuicSessions.Bytes

/-!
# DER

Values with a tag and a length, as certificates and keys are made of.
-/

set_option autoImplicit false

namespace QuicSessions.Der

/-- A tagged value. -/
structure Item where
  tag : UInt8
  content : Bytes
  deriving DecidableEq

def integer : UInt8 := 0x02
def bitString : UInt8 := 0x03
def octetString : UInt8 := 0x04
def null : UInt8 := 0x05
def objectId : UInt8 := 0x06
def sequence : UInt8 := 0x30

/-- The tag of a part with a number of its own. -/
def part (n : UInt8) : UInt8 := 0xa0 + n

/-! ## Writing -/

/-- A number in as few bytes as it takes, the most significant one first. -/
def magnitude (n : Nat) : Bytes :=
  if _h : n < 256 then [n.toUInt8] else magnitude (n / 256) ++ [(n % 256).toUInt8]
termination_by n

/-- A length: one byte below 128, otherwise the number of its bytes first. -/
def writeLength (n : Nat) : Bytes :=
  if n < 128 then [n.toUInt8]
  else
    let bytes := magnitude n
    (128 + bytes.length).toUInt8 :: bytes

def write (tag : UInt8) (content : Bytes) : Bytes := tag :: writeLength content.length ++ content

/-! ## Reading -/

/-- The number that bytes stand for, the most significant one first. -/
def ofMagnitude (bytes : Bytes) : Nat := bytes.foldl (fun n b => n * 256 + b.toNat) 0

/-- A length in its shortest form. -/
def readLength : Bytes → Option (Nat × Bytes)
  | [] => none
  | b :: rest =>
    if b < 0x80 then some (b.toNat, rest)
    else do
      let count := b.toNat - 128
      guard (1 ≤ count && count ≤ 4 && count ≤ rest.length)
      let n := ofMagnitude (rest.take count)
      guard (writeLength n == b :: rest.take count)
      return (n, rest.drop count)

/-- The first value, and what follows it. -/
def read : Bytes → Option (Item × Bytes)
  | [] => none
  | tag :: rest => do
    let (n, rest) ← readLength rest
    guard (n ≤ rest.length)
    return (⟨tag, rest.take n⟩, rest.drop n)

/-- The first value, if it has this tag. -/
def expect (tag : UInt8) (bytes : Bytes) : Option (Bytes × Bytes) := do
  let (item, rest) ← read bytes
  guard (item.tag == tag)
  return (item.content, rest)

/-- A value of this tag that nothing follows. -/
def expectOnly (tag : UInt8) (bytes : Bytes) : Option Bytes := do
  let (content, rest) ← expect tag bytes
  guard rest.isEmpty
  return content

/-- The first value if it has this tag; otherwise everything is still to be read. -/
def expectOptional (tag : UInt8) (bytes : Bytes) : Option Bytes × Bytes :=
  match expect tag bytes with
  | some (content, rest) => (some content, rest)
  | none => (none, bytes)

end QuicSessions.Der
