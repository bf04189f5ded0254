/-!
# Quoted text

A text in double quotes, with everything escaped that would not show: quotes, backslashes, control
characters, and characters that leave no mark of their own.
-/

set_option autoImplicit false

namespace QuicSessions.Text

/-- Ranges of characters without a mark of their own: controls, blanks other than the space,
characters that only change their neighbours, and those that mean nothing in public. -/
def unmarked : List (Nat × Nat) :=
  [ (0x00, 0x1f), (0x7f, 0xa0), (0xad, 0xad), (0x300, 0x36f), (0x483, 0x489), (0x591, 0x5bd),
    (0x5bf, 0x5bf), (0x5c1, 0x5c2), (0x5c4, 0x5c5), (0x5c7, 0x5c7), (0x600, 0x605),
    (0x610, 0x61a), (0x61c, 0x61c), (0x64b, 0x65f), (0x670, 0x670), (0x6d6, 0x6dd),
    (0x6df, 0x6e4), (0x6e7, 0x6e8), (0x6ea, 0x6ed), (0x93c, 0x93c), (0x941, 0x948),
    (0x94d, 0x94d), (0xe31, 0xe31), (0xe34, 0xe3a), (0xe47, 0xe4e), (0x1680, 0x1680),
    (0x180b, 0x180f), (0x1ab0, 0x1ace), (0x1dc0, 0x1dff), (0x2000, 0x200f), (0x2028, 0x202f),
    (0x205f, 0x206f), (0x20d0, 0x20f0), (0x3000, 0x3000), (0x302a, 0x302f), (0x3099, 0x309a),
    (0xe000, 0xf8ff), (0xfe00, 0xfe0f), (0xfe20, 0xfe2f), (0xfeff, 0xfeff), (0xff9e, 0xff9f),
    (0xfff0, 0xfffb), (0xfffe, 0xffff), (0xe0000, 0x10ffff) ]

/-- Whether a character would not show. -/
def isUnmarked (c : Char) : Bool := unmarked.any fun r => r.1 ≤ c.toNat && c.toNat ≤ r.2

/-- One character between quotes. -/
def quotedChar (c : Char) : String :=
  match c with
  | '"' => "\\\""
  | '\\' => "\\\\"
  | '\n' => "\\n"
  | '\r' => "\\r"
  | '\t' => "\\t"
  | '\x00' => "\\0"
  | c =>
    if isUnmarked c then "\\u\x7b" ++ String.ofList (Nat.toDigits 16 c.toNat) ++ "\x7d"
    else String.singleton c

def quoted (s : String) : String := "\"" ++ String.join (s.toList.map quotedChar) ++ "\""

end QuicSessions.Text
