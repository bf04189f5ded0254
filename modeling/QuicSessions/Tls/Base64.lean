import QuicSessions.Bytes

/-!
# Base64

Four digits of six bits stand for three bytes. Blanks count for nothing; the last group may be filled
up with one or two padding characters.
-/

set_option autoImplicit false

namespace QuicSessions.Base64

/-- The six bits that a digit stands for. -/
def value? (b : UInt8) : Option Nat :=
  let c := Char.ofNat b.toNat
  if 'A' ≤ c ∧ c ≤ 'Z' then some (b.toNat - 65)
  else if 'a' ≤ c ∧ c ≤ 'z' then some (b.toNat - 71)
  else if '0' ≤ c ∧ c ≤ '9' then some (b.toNat + 4)
  else if c = '+' then some 62
  else if c = '/' then some 63
  else none

def isBlank (b : UInt8) : Bool := b == 0x20 || b == 0x09 || b == 0x0a || b == 0x0d

def isPadding (b : UInt8) : Bool := b == 0x3d

/-- The bytes of groups of digits; of a last group that is short, as many as its bits fill. -/
def join : List Nat → Bytes
  | a :: b :: c :: d :: rest =>
    let n := ((a * 64 + b) * 64 + c) * 64 + d
    (n / 65536).toUInt8 :: (n / 256).toUInt8 :: n.toUInt8 :: join rest
  | [a, b, c] =>
    let n := (a * 64 + b) * 64 + c
    [(n / 1024).toUInt8, (n / 4).toUInt8]
  | [a, b] => [((a * 64 + b) / 16).toUInt8]
  | _ => []

/-- The bytes that a text stands for, if it is well-formed. -/
def decode (text : Bytes) : Option Bytes := do
  let text := text.filter (!isBlank ·)
  let digits := text.takeWhile (!isPadding ·)
  let padding := text.dropWhile (!isPadding ·)
  guard (padding.all isPadding && padding.length ≤ 2 && text.length % 4 == 0)
  return join (← digits.mapM value?)

end QuicSessions.Base64
