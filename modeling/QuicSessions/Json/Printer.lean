import QuicSessions.Json.Basic
import QuicSessions.Bytes

/-!
# Writing JSON

The shortest form: no blanks, and an escape only where a string needs one. Only documents without
faults are meant to be written; what a text does not say leaves nothing behind.
-/

set_option autoImplicit false

namespace QuicSessions.Json

/-- The escape of a control character that has no short one. -/
def codeEscape (c : Char) : List Char :=
  ['\\', 'u', '0', '0', hexDigit (c.toNat / 16), hexDigit (c.toNat % 16)]

def escapeChar (c : Char) : List Char :=
  if c = '"' then ['\\', '"']
  else if c = '\\' then ['\\', '\\']
  else if c = '\x08' then ['\\', 'b']
  else if c = '\x0c' then ['\\', 'f']
  else if c = '\n' then ['\\', 'n']
  else if c = '\r' then ['\\', 'r']
  else if c = '\t' then ['\\', 't']
  else if c < ' ' then codeEscape c
  else [c]

/-- A string in quotes. -/
def quote (s : String) : List Char := '"' :: (s.toList.flatMap escapeChar ++ ['"'])

mutual

/-- The text of a document. -/
def write : Json → List Char
  | .null => "null".toList
  | .bool true => "true".toList
  | .bool false => "false".toList
  | .number (.natural n) => Nat.toDigits 10 n.toNat
  | .text (some s) => quote s
  | .array items _ => '[' :: (writeItems true items ++ [']'])
  | .object members _ => '\x7b' :: (writeMembers true members ++ ['\x7d'])
  | _ => []

/-- The items of an array, each but the first after a comma. -/
def writeItems : (first : Bool) → List Json → List Char
  | _, [] => []
  | first, item :: rest => (if first then [] else [',']) ++ write item ++ writeItems false rest

/-- The members of an object, each but the first after a comma. -/
def writeMembers : (first : Bool) → List (Except Fault String × Json) → List Char
  | _, [] => []
  | first, (.ok name, value) :: rest =>
    (if first then [] else [',']) ++ quote name ++ ':' :: (write value ++ writeMembers false rest)
  | _, (.error _, _) :: rest => writeMembers false rest

end

/-- A document as a text. -/
def render (j : Json) : String := String.ofList j.write

end QuicSessions.Json
