import QuicSessions.Net.Address.Reader

/-!
# Server names

A server name is a DNS name or the literal of an IP address. A DNS name has at most 253 characters;
its labels have at most 63 letters, digits, underscores and hyphens, do not begin or end with a
hyphen, and the last one is not a number. One dot may follow the last label.
-/

set_option autoImplicit false

namespace QuicSessions.Net

/-- How far a DNS name has been read. -/
inductive NameState where
  | start
  /-- After a dot that ended a label with a letter. -/
  | next
  /-- After a dot that ended a number. -/
  | nextAfterNumber
  /-- In a label of digits alone, of the given length. -/
  | number (length : Nat)
  /-- In a label, of the given length. -/
  | label (length : Nat)
  /-- After a hyphen in a label, of the given length. -/
  | hyphen (length : Nat)
  deriving DecidableEq

namespace NameState

def isLetter (c : Char) : Bool := c.isAlpha || c == '_'

/-- The length of the label that is being read. -/
def labelLength? : NameState → Option Nat
  | number n => some n
  | label n => some n
  | hyphen n => some n
  | _ => none

/-- One more character, if a name may go on with it. -/
def step (s : NameState) (c : Char) : Option NameState :=
  if c = '.' then
    match s with
    | label _ => some next
    | number _ => some nextAfterNumber
    | _ => none
  else
    match s.labelLength? with
    | none =>
      if c.isDigit then some (number 1)
      else if isLetter c then some (label 1)
      else none
    | some n =>
      if 63 ≤ n then none
      else if c = '-' then some (hyphen (n + 1))
      else if c.isDigit then
        match s with
        | number _ => some (number (n + 1))
        | _ => some (label (n + 1))
      else if isLetter c then some (label (n + 1))
      else none

/-- Whether a name may end here. -/
def final : NameState → Bool
  | next => true
  | label _ => true
  | _ => false

end NameState

/-- Whether a text is a DNS name. -/
def isDnsName (text : String) : Bool :=
  text.utf8ByteSize ≤ 253 &&
    ((text.toList.foldlM NameState.step NameState.start).any NameState.final)

/-- Whether a text names a server: by DNS name or by IP address. -/
def isServerName (text : String) : Bool :=
  isDnsName text || (IpAddress.parse? text).isSome

end QuicSessions.Net
