import QuicSessions.Net.Address

/-!
# Reading network addresses

Each reader takes characters from the front of a text and gives back the rest. Octets have one to
three decimal digits without a leading zero, groups one to four hexadecimal digits; ports and scopes
have any number of digits as long as the value fits. Two colons stand for at least one zero group.
-/

set_option autoImplicit false

namespace QuicSessions.Net

/-- The value of a digit in a base up to sixteen. -/
def digit? (base : Nat) (c : Char) : Option Nat :=
  let v :=
    if '0' ≤ c ∧ c ≤ '9' then c.toNat - 48
    else if 'a' ≤ c ∧ c ≤ 'z' then c.toNat - 87
    else if 'A' ≤ c ∧ c ≤ 'Z' then c.toNat - 55
    else base
  if v < base then some v else none

def isDigit (base : Nat) (c : Char) : Bool := (digit? base c).isSome

/-- The number that digits stand for. -/
def ofDigits (base : Nat) (digits : List Char) : Nat :=
  digits.foldl (fun n c => n * base + (digit? base c).getD 0) 0

/-- A form of number: its base, how many digits it may have, whether it may start with a zero that
is not its only digit, and the first value that no longer fits. -/
structure NumberForm where
  base : Nat
  maxDigits : Option Nat
  leadingZero : Bool
  limit : Nat

def octetForm : NumberForm := ⟨10, some 3, false, 256⟩

def groupForm : NumberForm := ⟨16, some 4, true, 65536⟩

def portForm : NumberForm := ⟨10, none, true, 65536⟩

def scopeForm : NumberForm := ⟨10, none, true, UInt32.size⟩

/-- All digits at the front, read as a number of the given form. -/
def readNumber (form : NumberForm) (text : List Char) : Option (Nat × List Char) :=
  let digits := text.takeWhile (isDigit form.base)
  let value := ofDigits form.base digits
  if digits.isEmpty then none
  else if form.maxDigits.any (· < digits.length) then none
  else if !form.leadingZero && digits.head? == some '0' && 1 < digits.length then none
  else if form.limit ≤ value then none
  else some (value, text.dropWhile (isDigit form.base))

/-- One given character. -/
def readChar (c : Char) : List Char → Option (List Char)
  | [] => none
  | x :: rest => if x = c then some rest else none

/-- Four octets with dots between them. -/
def readIpv4 (text : List Char) : Option (Ipv4 × List Char) := do
  let (a, text) ← readNumber octetForm text
  let text ← readChar '.' text
  let (b, text) ← readNumber octetForm text
  let text ← readChar '.' text
  let (c, text) ← readNumber octetForm text
  let text ← readChar '.' text
  let (d, text) ← readNumber octetForm text
  return (⟨a.toUInt8, b.toUInt8, c.toUInt8, d.toUInt8⟩, text)

/-- At most `slots` groups with colons between them; the last two may be written as an IPv4 address,
which ends them. Says whether one did. -/
def readGroups : (slots : Nat) → (first : Bool) → List Char → List UInt16 × Bool × List Char
  | 0, _, text => ([], false, text)
  | slots + 1, first, text =>
    let body := if first then some text else readChar ':' text
    match if slots = 0 then none else body.bind readIpv4 with
    | some (inner, rest) => (inner.groups, true, rest)
    | none =>
      match body.bind (readNumber groupForm) with
      | some (g, rest) =>
        let more := readGroups slots false rest
        (g.toUInt16 :: more.1, more.2)
      | none => ([], false, text)

theorem readGroups_length (slots : Nat) (first : Bool) (text : List Char) :
    (readGroups slots first text).1.length ≤ slots := by
  induction slots generalizing first text with
  | zero => simp [readGroups]
  | succ slots ih =>
    simp only [readGroups]
    split
    · rename_i h
      split at h
      · cases h
      · simp only [Ipv4.groups, List.length_cons, List.length_nil]
        omega
    · split
      · exact Nat.succ_le_succ (ih _ _)
      · exact Nat.zero_le _

/-- Eight groups, or fewer around two colons that stand for the zero groups left out. -/
def readIpv6 (text : List Char) : Option (Ipv6 × List Char) :=
  let front := readGroups 8 true text
  if h : front.1.length = 8 then some (⟨front.1, h⟩, front.2.2)
  else if front.2.1 then none
  else do
    let rest ← readChar ':' front.2.2
    let rest ← readChar ':' rest
    let back := readGroups (7 - front.1.length) true rest
    return (⟨front.1 ++ List.replicate (8 - front.1.length - back.1.length) 0 ++ back.1, by
      have h1 : front.1.length ≤ 8 := readGroups_length 8 true text
      have h2 : back.1.length ≤ 7 - front.1.length := readGroups_length _ true rest
      simp only [List.length_append, List.length_replicate]
      omega⟩, back.2.2)

/-- An address of either family; IPv4 is tried first. -/
def readIp (text : List Char) : Option (IpAddress × List Char) :=
  match readIpv4 text with
  | some (x, rest) => some (.v4 x, rest)
  | none => (readIpv6 text).map fun r => (.v6 r.1, r.2)

/-- A colon and a port. -/
def readPort (text : List Char) : Option (Nat × List Char) :=
  (readChar ':' text).bind (readNumber portForm)

/-- A percent sign and a scope; nothing stands for scope zero. -/
def readScope (text : List Char) : Nat × List Char :=
  ((readChar '%' text).bind (readNumber scopeForm)).getD (0, text)

/-- An IPv4 address and a port, or an IPv6 address in brackets and a port. -/
def readSocketAddress (text : List Char) : Option (SocketAddress × List Char) :=
  match (do
    let (x, text) ← readIpv4 text
    let (port, text) ← readPort text
    return (SocketAddress.v4 x port.toUInt16, text)) with
  | some r => some r
  | none => do
    let text ← readChar '[' text
    let (x, text) ← readIpv6 text
    let (scope, text) := readScope text
    let text ← readChar ']' text
    let (port, text) ← readPort text
    return (.v6 x scope.toUInt32 port.toUInt16, text)

/-- The value of a reader that has to take the whole text. -/
def whole {α : Type} (reader : List Char → Option (α × List Char)) (text : String) : Option α :=
  match reader text.toList with
  | some (a, []) => some a
  | _ => none

end QuicSessions.Net

namespace QuicSessions

/-- The address that a text is the literal of. -/
def IpAddress.parse? (text : String) : Option IpAddress := Net.whole Net.readIp text

/-- The socket address that a text is the literal of. -/
def SocketAddress.parse? (text : String) : Option SocketAddress :=
  Net.whole Net.readSocketAddress text

end QuicSessions
