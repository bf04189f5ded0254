import QuicSessions.Bytes

/-!
# Text and its UTF-8 form

`encode` writes a text as UTF-8. `decodeLossy` reads any bytes: every well-formed sequence becomes
its character and every maximal ill-formed part becomes one replacement character. A maximal
ill-formed part is the longest beginning of some well-formed sequence, or one byte if there is none.
-/

set_option autoImplicit false

namespace QuicSessions.Utf8

/-- The UTF-8 form of a text. -/
def encode (text : String) : Bytes :=
  text.toUTF8.toList

/-- The character shown in place of bytes that are not UTF-8. -/
def replacement : Char := Char.ofNat 0xFFFD

/-- What a first byte asks of the bytes after it. -/
structure Lead where
  /-- Continuation bytes to come. -/
  more : Nat
  /-- Least value of the next byte: overlong forms are excluded here. -/
  low : Nat
  /-- Greatest value of the next byte: surrogates and values above U+10FFFF are excluded here. -/
  high : Nat
  /-- The bits that the first byte contributes. -/
  bits : Nat

/-- The sequences that a byte of 0x80 and above can begin. -/
def lead? (b : Nat) : Option Lead :=
  if 0xC2 ≤ b ∧ b ≤ 0xDF then some ⟨1, 0x80, 0xBF, b - 0xC0⟩
  else if b = 0xE0 then some ⟨2, 0xA0, 0xBF, 0⟩
  else if b = 0xED then some ⟨2, 0x80, 0x9F, 0xD⟩
  else if 0xE1 ≤ b ∧ b ≤ 0xEF then some ⟨2, 0x80, 0xBF, b - 0xE0⟩
  else if b = 0xF0 then some ⟨3, 0x90, 0xBF, 0⟩
  else if b = 0xF4 then some ⟨3, 0x80, 0x8F, 4⟩
  else if 0xF1 ≤ b ∧ b ≤ 0xF3 then some ⟨3, 0x80, 0xBF, b - 0xF0⟩
  else none

/-- How far a sequence reaches: its character if it is complete, and the bytes after it. -/
def sequence : (more low high value : Nat) → Bytes → Option Char × Bytes
  | 0, _, _, value, rest => (some (Char.ofNat value), rest)
  | _ + 1, _, _, _, [] => (none, [])
  | more + 1, low, high, value, b :: rest =>
    if low ≤ b.toNat ∧ b.toNat ≤ high then
      sequence more 0x80 0xBF (value * 64 + (b.toNat - 0x80)) rest
    else (none, b :: rest)

theorem sequence_length_le (more low high value : Nat) (bytes : Bytes) :
    (sequence more low high value bytes).2.length ≤ bytes.length := by
  induction more generalizing low high value bytes with
  | zero => simp [sequence]
  | succ more ih =>
    cases bytes with
    | nil => simp [sequence]
    | cons b rest =>
      simp only [sequence]
      split
      · exact Nat.le_trans (ih _ _ _ _) (Nat.le_succ _)
      · simp

/-- The characters of any bytes, with one replacement character for each maximal ill-formed part. -/
def decodeChars : Bytes → List Char → List Char
  | [], shown => shown.reverse
  | b :: rest, shown =>
    if b.toNat < 0x80 then decodeChars rest (Char.ofNat b.toNat :: shown)
    else
      match lead? b.toNat with
      | none => decodeChars rest (replacement :: shown)
      | some l =>
        decodeChars (sequence l.more l.low l.high l.bits rest).2
          ((sequence l.more l.low l.high l.bits rest).1.getD replacement :: shown)
termination_by bytes => bytes.length
decreasing_by
  · simp
  · simp
  · exact Nat.lt_succ_of_le (sequence_length_le ..)

/-- The text that any bytes are shown as. -/
def decodeLossy (bytes : Bytes) : String :=
  String.ofList (decodeChars bytes [])

/-- The text of bytes that are well-formed UTF-8. -/
def decode? (bytes : Bytes) : Option String :=
  String.fromUTF8? ⟨bytes.toArray⟩

end QuicSessions.Utf8
