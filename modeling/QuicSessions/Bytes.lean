/-!
# Byte strings

A byte string is a list of bytes. Besides the type this module holds the two ways in which byte
strings are shown: hexadecimal digits, and the 64-bit FNV-1a digest for long ones.
-/

set_option autoImplicit false

namespace QuicSessions

/-- The payloads that streams, datagrams and close reasons carry. -/
abbrev Bytes := List UInt8

/-- The lower-case hexadecimal digit of a number below 16. -/
def hexDigit (n : Nat) : Char :=
  if n < 10 then Char.ofNat (48 + n) else Char.ofNat (87 + n)

/-- The number that a hexadecimal digit of either case stands for. -/
def hexValue? (c : Char) : Option Nat :=
  if '0' ≤ c ∧ c ≤ '9' then some (c.toNat - 48)
  else if 'a' ≤ c ∧ c ≤ 'f' then some (c.toNat - 87)
  else if 'A' ≤ c ∧ c ≤ 'F' then some (c.toNat - 55)
  else none

namespace Bytes

/-- Two lower-case hexadecimal digits for each byte. -/
def hex (bytes : Bytes) : String :=
  String.ofList (bytes.flatMap fun b => [hexDigit (b.toNat / 16), hexDigit (b.toNat % 16)])

/-- The bytes that pairs of hexadecimal digits stand for. -/
def ofHexDigits? : List Char → Option Bytes
  | [] => some []
  | [_] => none
  | hi :: lo :: rest => do
    let h ← hexValue? hi
    let l ← hexValue? lo
    let tail ← ofHexDigits? rest
    return (16 * h + l).toUInt8 :: tail

/-- The FNV-1a digest with 64 bits: xor the byte in, then multiply by the prime. -/
def fnv1a (bytes : Bytes) : UInt64 :=
  bytes.foldl (fun h b => (h ^^^ b.toUInt64) * 0x100000001b3) 0xcbf29ce484222325

/-- The digest as sixteen hexadecimal digits. -/
def fnvHex (bytes : Bytes) : String :=
  let h := (fnv1a bytes).toNat
  String.ofList ((List.range 16).map fun i => hexDigit ((h >>> (60 - 4 * i)) % 16))

theorem ofHexDigits?_nil : ofHexDigits? [] = some [] := rfl

end Bytes

end QuicSessions
