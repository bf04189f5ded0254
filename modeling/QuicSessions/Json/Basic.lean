/-!
# JSON documents

What a text says, as far as it can be read. A document that breaks off, or that goes on in a way no
document does, is kept up to that point: the tree holds the fault in the place where a reader who
goes from left to right meets it. What is asked of a value later can so find its own objection first.

Some faults only count for a reader who wants the value. A string may hold an escape that stands for
no character, and a number may be too large; whoever skips the value does not mind.
-/

set_option autoImplicit false

namespace QuicSessions

namespace Json

/-- Why a text cannot be read. -/
inductive Fault where
  /-- No document goes on like this. -/
  | malformed
  /-- A value is not of the kind that is wanted. -/
  | unsuitable
  /-- The text ends too early. -/
  | cut
  deriving DecidableEq

/-- What a number is good for. -/
inductive Number where
  /-- Written with digits alone, and it fits. -/
  | natural (n : UInt64)
  /-- Negative, with a fraction or an exponent, or with too many digits. -/
  | other
  /-- Beyond every floating-point number. -/
  | unbounded
  deriving DecidableEq

end Json

/-- A document, or what there is of it. -/
inductive Json where
  | null
  | bool (value : Bool)
  | number (n : Json.Number)
  /-- A string, if all its escapes are characters. -/
  | text (value : Option String)
  /-- The items, and the fault that stands where a comma or the end is wanted. -/
  | array (items : List Json) (ending : Option Json.Fault)
  /-- The members with their names, and the fault that stands where another one or the end is
  wanted. -/
  | object (members : List (Except Json.Fault String × Json)) (ending : Option Json.Fault)
  /-- No value: the fault for a reader who wants one, and for a reader who skips it. -/
  | broken (read skipped : Json.Fault)
  deriving Inhabited

namespace Json

def natural (n : UInt64) : Json := .number (.natural n)

def string (s : String) : Json := .text (some s)

def list (items : List Json) : Json := .array items none

/-- An object whose members are all there. -/
def record (members : List (String × Json)) : Json :=
  .object (members.map fun m => (.ok m.1, m.2)) none

/-- A value that may be missing. -/
def optional {α : Type} (f : α → Json) : Option α → Json
  | some a => f a
  | none => .null

end Json

end QuicSessions
