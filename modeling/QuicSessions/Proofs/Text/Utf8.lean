import Mathlib.Data.List.Basic
import QuicSessions.Text.Utf8

/-!
# Reading encoded text back

The UTF-8 form of a text has no ill-formed part, so the forgiving reading of it finds every character
again and shows no replacement. The narrower bounds on the second byte, which exclude overlong forms,
surrogates and values that are no characters, never turn a character away.
-/

set_option autoImplicit false

namespace QuicSessions.Utf8

/-! ## The bytes of a text -/

theorem toList_loop (bytes : ByteArray) (i : Nat) (read : List UInt8) :
    ByteArray.toList.loop bytes i read = read.reverse ++ bytes.data.toList.drop i := by
  fun_induction ByteArray.toList.loop bytes i read with
  | case1 i read inside ih =>
    have within : i < bytes.data.toList.length := inside
    have here : bytes.get! i = bytes.data.toList[i] := by
      simp [ByteArray.get!, inside]
    rw [ih, here, List.drop_eq_getElem_cons within, List.reverse_cons, List.append_assoc]
    rfl
  | case2 i read outside =>
    have none_left : bytes.data.toList.length ≤ i := Nat.not_lt.1 outside
    rw [List.drop_eq_nil_of_le none_left, List.append_nil]

theorem encode_ofList (chars : List Char) :
    encode (String.ofList chars) = chars.flatMap String.utf8EncodeChar := by
  have bytes : encode (String.ofList chars) =
      ByteArray.toList.loop (chars.flatMap String.utf8EncodeChar).toByteArray 0 [] := rfl
  rw [bytes, toList_loop, List.data_toByteArray]
  rfl

/-! ## One sequence -/

section Sequences

variable {value : Nat}

/-- A lead byte of two, with bounds that the byte after it keeps. -/
theorem lead?_of_two (least : 0x80 ≤ value) (most : value < 0x800) :
    lead? (value / 64 + 192) = some ⟨1, 0x80, 0xBF, value / 64⟩ := by
  unfold lead?
  rw [if_pos (by omega), Nat.add_sub_cancel]

theorem lead?_of_three (least : 0x800 ≤ value) (most : value < 0x10000)
    (scalar : ¬ (0xD800 ≤ value ∧ value < 0xE000)) :
    ∃ low high, lead? (value / 4096 + 224) = some ⟨2, low, high, value / 4096⟩ ∧
      low ≤ value / 64 % 64 + 128 ∧ value / 64 % 64 + 128 ≤ high := by
  unfold lead?
  rw [if_neg (by omega)]
  by_cases first : value / 4096 = 0
  · rw [if_pos (by omega), first]
    exact ⟨_, _, rfl, by omega, by omega⟩
  rw [if_neg (by omega)]
  by_cases surrogate : value / 4096 = 13
  · rw [if_pos (by omega), surrogate]
    exact ⟨_, _, rfl, by omega, by omega⟩
  · rw [if_neg (by omega), if_pos (by omega), Nat.add_sub_cancel]
    exact ⟨_, _, rfl, by omega, by omega⟩

theorem lead?_of_four (least : 0x10000 ≤ value) (most : value < 0x110000) :
    ∃ low high, lead? (value / 262144 + 240) = some ⟨3, low, high, value / 262144⟩ ∧
      low ≤ value / 4096 % 64 + 128 ∧ value / 4096 % 64 + 128 ≤ high := by
  unfold lead?
  rw [if_neg (by omega), if_neg (by omega), if_neg (by omega), if_neg (by omega)]
  by_cases first : value / 262144 = 0
  · rw [if_pos (by omega), first]
    exact ⟨_, _, rfl, by omega, by omega⟩
  rw [if_neg (by omega)]
  by_cases last : value / 262144 = 4
  · rw [if_pos (by omega), last]
    exact ⟨_, _, rfl, by omega, by omega⟩
  · rw [if_neg (by omega), if_pos (by omega), Nat.add_sub_cancel]
    exact ⟨_, _, rfl, by omega, by omega⟩

theorem sequence_of_within {more low high byte : Nat} (rest : Bytes) (small : byte < 256)
    (least : low ≤ byte) (most : byte ≤ high) :
    sequence (more + 1) low high value (UInt8.ofNat byte :: rest) =
      sequence more 0x80 0xBF (value * 64 + (byte - 0x80)) rest := by
  have same : (UInt8.ofNat byte).toNat = byte := UInt8.toNat_ofNat_of_lt' small
  rw [sequence, same, if_pos ⟨least, most⟩]

/-- A lead byte whose sequence is complete stands for its character. -/
theorem decodeChars_of_lead {byte : Nat} {l : Lead} {char : Char} {tail rest : Bytes} (shown : List Char)
    (small : byte < 256) (long : 0x80 ≤ byte) (leads : lead? byte = some l)
    (complete : sequence l.more l.low l.high l.bits tail = (some char, rest)) :
    decodeChars (UInt8.ofNat byte :: tail) shown = decodeChars rest (char :: shown) := by
  have same : (UInt8.ofNat byte).toNat = byte := UInt8.toNat_ofNat_of_lt' small
  rw [decodeChars, same, if_neg (by omega), leads]
  dsimp only
  rw [complete]
  rfl

end Sequences

theorem scalar_toNat (c : Char) :
    ¬ (0xD800 ≤ c.toNat ∧ c.toNat < 0xE000) ∧ c.toNat < 0x110000 := by
  have valid : c.toNat.isValidChar := c.valid
  unfold Nat.isValidChar at valid
  omega

theorem decodeChars_utf8EncodeChar (c : Char) (rest : Bytes) (shown : List Char) :
    decodeChars (String.utf8EncodeChar c ++ rest) shown = decodeChars rest (c :: shown) := by
  obtain ⟨scalar, most⟩ := scalar_toNat c
  have back {value : Nat} (same : value = c.toNat) : Char.ofNat value = c := by
    rw [same, Char.ofNat_toNat]
  have value_eq : c.val.toNat = c.toNat := rfl
  unfold String.utf8EncodeChar
  rw [value_eq]
  dsimp only
  split
  · rename_i single
    have same : (UInt8.ofNat c.toNat).toNat = c.toNat := UInt8.toNat_ofNat_of_lt' (Nat.lt_of_le_of_lt single (by decide))
    rw [List.singleton_append, decodeChars, same, if_pos (by omega), back rfl]
  -- The byte after a lead has bounds of its own, which keep overlong and surrogate sequences out.
  split
  · rename_i beyond two
    have digit : c.toNat / 64 % 32 = c.toNat / 64 := Nat.mod_eq_of_lt (by omega)
    rw [digit, List.cons_append, List.singleton_append]
    refine decodeChars_of_lead shown (by omega) (by omega) (lead?_of_two (by omega) (by omega)) ?_
    dsimp only
    rw [sequence_of_within rest (by omega) (by omega) (by omega), sequence,
      back (by omega)]
  split
  · rename_i beyond three
    have digit : c.toNat / 4096 % 16 = c.toNat / 4096 := Nat.mod_eq_of_lt (by omega)
    have three_bytes : 0x800 ≤ c.toNat := by omega
    obtain ⟨low, high, leads, least, most⟩ := lead?_of_three three_bytes (by omega) scalar
    rw [digit, List.cons_append, List.cons_append, List.singleton_append]
    refine decodeChars_of_lead shown (by omega) (by omega) leads ?_
    dsimp only
    rw [sequence_of_within _ (by omega) least most,
      sequence_of_within rest (by omega) (by omega) (by omega), sequence, back (by omega)]
  · have digit : c.toNat / 262144 % 8 = c.toNat / 262144 := Nat.mod_eq_of_lt (by omega)
    have four_bytes : 0x10000 ≤ c.toNat := by omega
    obtain ⟨low, high, leads, least, most⟩ := lead?_of_four four_bytes (by omega)
    rw [digit, List.cons_append, List.cons_append, List.cons_append, List.singleton_append]
    refine decodeChars_of_lead shown (by omega) (by omega) leads ?_
    dsimp only
    rw [sequence_of_within _ (by omega) least most,
      sequence_of_within _ (by omega) (by omega) (by omega),
      sequence_of_within rest (by omega) (by omega) (by omega), sequence, back (by omega)]

/-! ## Whole texts -/

theorem decodeChars_flatMap (chars : List Char) (shown : List Char) :
    decodeChars (chars.flatMap String.utf8EncodeChar) shown = shown.reverse ++ chars := by
  induction chars generalizing shown with
  | nil =>
    rw [List.flatMap_nil, decodeChars, List.append_nil]
  | cons c chars ih =>
    rw [List.flatMap_cons, decodeChars_utf8EncodeChar, ih, List.reverse_cons, List.append_assoc]
    rfl

/-- The forgiving reading gives an encoded text back. -/
theorem decodeLossy_encode (text : String) : decodeLossy (encode text) = text := by
  have bytes : encode text = text.toList.flatMap String.utf8EncodeChar := by
    rw [← encode_ofList, String.ofList_toList]
  unfold decodeLossy
  rw [bytes, decodeChars_flatMap]
  exact String.ofList_toList

end QuicSessions.Utf8
