import QuicSessions.Failure
import QuicSessions.Text.Utf8

/-!
# Files

What a path leads to. The library reads whole files and nothing else.
-/

set_option autoImplicit false

namespace QuicSessions

/-- What is found at a path. -/
inductive FileState where
  | absent
  /-- Something that cannot be read. -/
  | unreadable (e : IoError)
  | holding (bytes : Bytes)

/-- What is found at each path. -/
abbrev Files := String → FileState

namespace FileState

def isFound : FileState → Bool
  | absent => false
  | _ => true

/-- The bytes of a file. -/
def read : FileState → Except IoError Bytes
  | absent => .error ⟨.other, "No such file or directory (os error 2)"⟩
  | unreadable e => .error e
  | holding bytes => .ok bytes

/-- The text of a file, which must be well-formed. -/
def readText (f : FileState) : Except IoError String := do
  match Utf8.decode? (← f.read) with
  | some text => return text
  | none => throw ⟨.other, "stream did not contain valid UTF-8"⟩

end FileState

end QuicSessions
