import QuicSessions.Bytes
import QuicSessions.Json.Basic

/-!
# Reading JSON

`Json.read` makes a document out of any text. Blanks are spaces, tabs, line feeds and carriage
returns; a number has no superfluous zero in front; a string holds no control characters, and an
escape of four hexadecimal digits stands for a code unit, two of them for a character beyond the
first plane.
-/

set_option autoImplicit false

namespace QuicSessions.Json

def isBlank (c : Char) : Bool := c = ' ' || c = '\n' || c = '\t' || c = '\r'

def skipBlanks (text : List Char) : List Char := text.dropWhile isBlank

def malformed : Json := .broken .malformed .malformed

def cut : Json := .broken .cut .cut

/-- Reads the rest of a word that stands for a value. -/
def readWord : (word : List Char) → (value : Json) → List Char → Json × List Char
  | [], value, rest => (value, rest)
  | _ :: _, _, [] => (cut, [])
  | w :: word, value, c :: rest => if c = w then readWord word value rest else (malformed, [])

/-! ## Strings -/

/-- A piece of a string: a character, or a code unit that an escape gives. -/
inductive Piece where
  | char (c : Char)
  | code (n : Nat)

/-- The code unit that four digits stand for. -/
def codeUnit? (a b c d : Char) : Option Nat := do
  return (((← hexValue? a) * 16 + (← hexValue? b)) * 16 + (← hexValue? c)) * 16 + (← hexValue? d)

/-- What a short escape stands for. -/
def unescape? : Char → Option Char
  | '"' => some '"'
  | '\\' => some '\\'
  | '/' => some '/'
  | 'b' => some '\x08'
  | 'f' => some '\x0c'
  | 'n' => some '\n'
  | 'r' => some '\r'
  | 't' => some '\t'
  | _ => none

/-- An escape that is not four digits long: the text ends in it if fewer than four bytes are left. -/
def shortEscape (text : List Char) : Fault :=
  if (text.map Char.utf8Size).foldl (· + ·) 0 < 4 then .cut else .malformed

/-- The pieces of a string after its opening quote, and what follows its closing quote. -/
def readPieces : List Char → List Piece × Except Fault (List Char)
  | [] => ([], .error .cut)
  | '"' :: rest => ([], .ok rest)
  | '\\' :: 'u' :: a :: b :: c :: d :: rest =>
    match codeUnit? a b c d with
    | some n =>
      let r := readPieces rest
      (.code n :: r.1, r.2)
    | none => ([], .error .malformed)
  | '\\' :: 'u' :: rest => ([], .error (shortEscape rest))
  | ['\\'] => ([], .error .cut)
  | '\\' :: e :: rest =>
    match unescape? e with
    | some c =>
      let r := readPieces rest
      (.char c :: r.1, r.2)
    | none => ([], .error .malformed)
  | c :: rest =>
    if c < ' ' then ([], .error .malformed)
    else
      let r := readPieces rest
      (.char c :: r.1, r.2)

/-- The first of two code units that stand for one character. -/
def isLead (n : Nat) : Bool := 0xD800 ≤ n && n < 0xDC00

/-- The second of two code units that stand for one character. -/
def isTrail (n : Nat) : Bool := 0xDC00 ≤ n && n < 0xE000

/-- The character that two code units stand for. -/
def pairedChar (lead trail : Nat) : Char :=
  Char.ofNat ((lead - 0xD800) * 0x400 + (trail - 0xDC00) + 0x10000)

/-- Makes characters out of pieces; `atEnd` is the fault of a first half that the pieces end with. -/
def assemble (atEnd : Fault) : List Piece → Except Fault (List Char)
  | [] => .ok []
  | .char c :: rest => (assemble atEnd rest).map (c :: ·)
  | .code n :: rest =>
    if isTrail n then .error .malformed
    else if isLead n then
      match rest with
      | [] => .error atEnd
      | .code m :: rest =>
        if isTrail m then (assemble atEnd rest).map (pairedChar n m :: ·) else .error .malformed
      | .char _ :: _ => .error .malformed
    else (assemble atEnd rest).map (Char.ofNat n :: ·)

/-- Reads a string after its opening quote: what it says, and what follows it. -/
def readString (text : List Char) : Except Fault String × Except Fault (List Char) :=
  match readPieces text with
  | (pieces, .ok rest) => ((assemble .malformed pieces).map String.ofList, .ok rest)
  | (pieces, .error fault) =>
    match assemble fault pieces with
    | .error first => (.error first, .error fault)
    | .ok _ => (.error fault, .error fault)

/-- A string as a value. -/
def readText (text : List Char) : Json × List Char :=
  match readString text with
  | (value, .ok rest) => (.text value.toOption, rest)
  | (.error read, .error fault) => (.broken read fault, [])
  | (.ok _, .error fault) => (.broken fault fault, [])

/-! ## Numbers -/

/-- The parts of a number without its sign. -/
structure Numeral where
  whole : List Char
  fraction : Option (List Char)
  /-- Whether the exponent is negative, and its digits. -/
  exponent : Option (Bool × List Char)

def digitValue (c : Char) : Nat := c.toNat - 48

/-- At least one digit. A number that the text ends in is only cut off for who wants it. -/
def readDigits (text : List Char) : Except Json (List Char × List Char) :=
  match text.takeWhile Char.isDigit, text.dropWhile Char.isDigit with
  | [], [] => .error (.broken .cut .malformed)
  | [], _ :: _ => .error malformed
  | digits, rest => .ok (digits, rest)

/-- The part after the point, if there is a point. -/
def readFraction : List Char → Except Json (Option (List Char) × List Char)
  | '.' :: rest => do
    let (digits, rest) ← readDigits rest
    return (some digits, rest)
  | rest => .ok (none, rest)

/-- The sign of an exponent. -/
def readSign : List Char → Bool × List Char
  | '+' :: rest => (false, rest)
  | '-' :: rest => (true, rest)
  | rest => (false, rest)

def isExponentMark (c : Char) : Bool := c = 'e' || c = 'E'

/-- The exponent, if there is one. -/
def readExponent : List Char → Except Json (Option (Bool × List Char) × List Char)
  | [] => .ok (none, [])
  | c :: rest =>
    if isExponentMark c then do
      let (negative, rest) := readSign rest
      let (digits, rest) ← readDigits rest
      return (some (negative, digits), rest)
    else .ok (none, c :: rest)

def readNumeral (text : List Char) : Except Json (Numeral × List Char) := do
  let (whole, rest) ← readDigits text
  match whole with
  | '0' :: _ :: _ => throw malformed
  | _ =>
    let (fraction, rest) ← readFraction rest
    let (exponent, rest) ← readExponent rest
    return (⟨whole, fraction, exponent⟩, rest)

def ofDigits (digits : List Char) : Nat := digits.foldl (fun n c => n * 10 + digitValue c) 0

/-- The number that the first digits stand for, as many as fit 64 bits, and the digits after them. -/
def significand (n : Nat) : List Char → Nat × List Char
  | [] => (n, [])
  | c :: rest =>
    if n * 10 + digitValue c < UInt64.size then significand (n * 10 + digitValue c) rest
    else (n, c :: rest)

/-- Exponents are counted with 32 bits. -/
def exponentLimit : Nat := 1 <<< 31

/-- Whether the floating-point number nearest to `n` exceeds them all when it is moved up by
`exponent` decimal places. -/
def exceedsFloat (n : Nat) (exponent : Int) : Bool :=
  n ≠ 0 && 0 ≤ exponent &&
    (308 < exponent || (Float.ofNat n * Float.ofScientific 1 false exponent.toNat).isInf)

/-- What a number is good for. -/
def Numeral.number (negative : Bool) (x : Numeral) : Number :=
  if x.fraction.isNone && x.exponent.isNone && decide (ofDigits x.whole < UInt64.size) then
    if negative then .other else .natural (ofDigits x.whole).toUInt64
  else
    let (n, tail) := significand 0 x.whole
    let digits := x.fraction.getD []
    let (n, cutDigits) := significand n digits
    let places : Int := tail.length - (digits.length - cutDigits.length : Nat)
    let large :=
      match x.exponent with
      | none => exceedsFloat n places
      | some (down, e) =>
        if exponentLimit ≤ ofDigits e then n ≠ 0 && !down
        else exceedsFloat n (if down then places - ofDigits e else places + ofDigits e)
    if large then .unbounded else .other

/-- A number as a value. -/
def readNumber (negative : Bool) (text : List Char) : Json × List Char :=
  match readNumeral text with
  | .ok (x, rest) => (.number (x.number negative), rest)
  | .error fault => (fault, [])

/-! ## Values -/

mutual

/-- Reads a value, in at most `fuel` steps. -/
def readValue : (fuel : Nat) → List Char → Json × List Char
  | 0, _ => (cut, [])
  | fuel + 1, input =>
    match skipBlanks input with
    | [] => (cut, [])
    | 'n' :: rest => readWord "ull".toList .null rest
    | 't' :: rest => readWord "rue".toList (.bool true) rest
    | 'f' :: rest => readWord "alse".toList (.bool false) rest
    | '"' :: rest => readText rest
    | '-' :: rest => readNumber true rest
    | '[' :: rest =>
      let (items, ending, rest) := readItems fuel true rest
      (.array items ending, rest)
    | '{' :: rest =>
      let (members, ending, rest) := readMembers fuel true rest
      (.object members ending, rest)
    | c :: rest => if c.isDigit then readNumber false (c :: rest) else (malformed, [])

/-- Reads the items of an array up to its end, in at most `fuel` steps. -/
def readItems : (fuel : Nat) → (first : Bool) → List Char → List Json × Option Fault × List Char
  | 0, _, _ => ([], some .cut, [])
  | fuel + 1, first, input =>
    match skipBlanks input with
    | [] => ([], some .cut, [])
    | ']' :: rest => ([], none, rest)
    | c :: rest =>
      if first || c = ',' then
        let (item, rest) := readValue fuel (if first then c :: rest else rest)
        let (items, ending, rest) := readItems fuel false rest
        (item :: items, ending, rest)
      else ([], some .malformed, [])

/-- Reads the members of an object up to its end, in at most `fuel` steps. -/
def readMembers : (fuel : Nat) → (first : Bool) → List Char →
    List (Except Fault String × Json) × Option Fault × List Char
  | 0, _, _ => ([], some .cut, [])
  | fuel + 1, first, input =>
    match skipBlanks input with
    | [] => ([], some .cut, [])
    | '}' :: rest => ([], none, rest)
    | c :: rest =>
      if first || c = ',' then
        match skipBlanks (if first then c :: rest else rest) with
        | [] => ([], some .cut, [])
        | '"' :: rest =>
          match readString rest with
          | (name, .error fault) => ([(name, .broken fault fault)], none, [])
          | (name, .ok rest) =>
            match skipBlanks rest with
            | [] => ([(name, cut)], none, [])
            | ':' :: rest =>
              let (value, rest) := readValue fuel rest
              let (members, ending, rest) := readMembers fuel false rest
              ((name, value) :: members, ending, rest)
            | _ :: _ => ([(name, malformed)], none, [])
        | _ :: _ => ([], some .malformed, [])
      else ([], some .malformed, [])

end

/-- Steps that suffice for a text: every other one takes a character. -/
def stepsFor (text : List Char) : Nat := 2 * text.length + 2

/-- The document that a text holds, and whether something else follows it. -/
def read (text : String) : Json × Bool :=
  let (value, rest) := readValue (stepsFor text.toList) text.toList
  (value, !(skipBlanks rest).isEmpty)

end QuicSessions.Json
