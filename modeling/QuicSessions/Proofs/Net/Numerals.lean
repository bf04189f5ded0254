import QuicSessions.Net.Address.Reader
import QuicSessions.Proofs.Text.Digits

/-!
# Reading written addresses back: numbers and dotted octets

A number of a form is read back from its digits. So is an IPv4 address from its four octets; and no text of
hexadecimal groups is taken for one, because a group is not followed by a dot.
-/

set_option autoImplicit false

namespace QuicSessions.Net

open Text (Stops stops_cons takeWhile_front dropWhile_front)

/-! ## Numbers -/

theorem digit?_digitChar_ten : ∀ d < 10, digit? 10 d.digitChar = some d := by decide

theorem digit?_digitChar_sixteen : ∀ d < 16, digit? 16 d.digitChar = some d := by decide

/-- A form whose digits are the usual ones. -/
structure NumberForm.Usual (form : NumberForm) : Prop where
  two : 1 < form.base
  digits : ∀ d < form.base, digit? form.base d.digitChar = some d

theorem usual_octet : octetForm.Usual := ⟨by decide, digit?_digitChar_ten⟩

theorem usual_group : groupForm.Usual := ⟨by decide, digit?_digitChar_sixteen⟩

theorem usual_port : portForm.Usual := ⟨by decide, digit?_digitChar_ten⟩

theorem usual_scope : scopeForm.Usual := ⟨by decide, digit?_digitChar_ten⟩

theorem isDigit_of_mem {form : NumberForm} (usual : form.Usual) {n : Nat} :
    ∀ c ∈ Nat.toDigits form.base n, isDigit form.base c = true := by
  intro c mem
  obtain ⟨d, lt, rfl⟩ := Text.mem_toDigits usual.two mem
  unfold isDigit
  rw [usual.digits d lt]
  rfl

theorem ofDigits_toDigits {form : NumberForm} (usual : form.Usual) (n : Nat) :
    ofDigits form.base (Nat.toDigits form.base n) = n :=
  Text.foldl_toDigits usual.two (fun d lt => by rw [usual.digits d lt]; rfl) n

theorem readNumber_toDigits {form : NumberForm} (usual : form.Usual) {n : Nat} (fits : n < form.limit)
    (short : ∀ most, form.maxDigits = some most → (Nat.toDigits form.base n).length ≤ most) {tail : List Char}
    (stops : Stops (isDigit form.base) tail) :
    readNumber form (Nat.toDigits form.base n ++ tail) = some (n, tail) := by
  have any : form.maxDigits.any (· < (Nat.toDigits form.base n).length) = false := by
    cases most : form.maxDigits with
    | none => rfl
    | some most' => simpa using short most' most
  have some_digit : (Nat.toDigits form.base n).isEmpty = false := by
    cases digits : Nat.toDigits form.base n with
    | nil => exact absurd digits Nat.toDigits_ne_nil
    | cons c rest => rfl
  have zero : ((Nat.toDigits form.base n).head? == some '0' && 1 < (Nat.toDigits form.base n).length) = false := by
    cases digits : Nat.toDigits form.base n with
    | nil => rfl
    | cons c rest =>
      by_cases same : c = '0'
      · rw [same] at digits
        rw [Text.toDigits_zero_cons usual.two digits]
        simp
      · simp [same]
  unfold readNumber
  rw [takeWhile_front (isDigit_of_mem usual) stops, dropWhile_front (isDigit_of_mem usual) stops]
  dsimp only
  rw [some_digit, any, ofDigits_toDigits usual, Bool.and_assoc, zero, Bool.and_false, if_neg (by simp),
    if_neg (by simp), if_neg (by simp), if_neg (by omega)]

theorem readNumber_eq_none {form : NumberForm} {text : List Char} (stops : Stops (isDigit form.base) text) :
    readNumber form text = none := by
  have none_taken : ([] ++ text).takeWhile (isDigit form.base) = [] := takeWhile_front (List.forall_mem_nil _) stops
  unfold readNumber
  rw [← List.nil_append text, none_taken]
  rfl

theorem rest_of_readNumber {form : NumberForm} {text rest : List Char} {n : Nat}
    (h : readNumber form text = some (n, rest)) : rest = text.dropWhile (isDigit form.base) := by
  unfold readNumber at h
  dsimp only at h
  split at h
  · cases h
  split at h
  · cases h
  split at h
  · cases h
  split at h
  · cases h
  · exact (Prod.mk.inj (Option.some.inj h)).2.symm

/-! ## Dotted octets -/

def octet (x : UInt8) : List Char := Nat.toDigits 10 x.toNat

theorem render_ipv4 (x : Ipv4) : x.render.toList =
    octet x.a ++ '.' :: (octet x.b ++ '.' :: (octet x.c ++ '.' :: octet x.d)) := by
  unfold Ipv4.render octet
  simp only [String.toList_append, Nat.toString_eq_repr, Nat.toList_repr, List.append_assoc]
  rfl

theorem readNumber_octet (x : UInt8) {tail : List Char} (stops : Stops (isDigit 10) tail) :
    readNumber octetForm (octet x ++ tail) = some (x.toNat, tail) := by
  refine readNumber_toDigits usual_octet x.toNat_lt (fun most three => ?_) stops
  obtain rfl : 3 = most := Option.some.inj three
  exact (Nat.length_toDigits_le_iff (by decide) (by decide)).2 (Nat.lt_of_lt_of_le x.toNat_lt (by decide))

theorem readChar_self (c : Char) (rest : List Char) : readChar c (c :: rest) = some rest := if_pos rfl

theorem readIpv4_render (x : Ipv4) {tail : List Char} (stops : Stops (isDigit 10) tail) :
    readIpv4 (x.render.toList ++ tail) = some (x, tail) := by
  have dot (rest : List Char) : Stops (isDigit 10) ('.' :: rest) := stops_cons (by decide) rest
  rw [render_ipv4]
  simp only [List.append_assoc, List.cons_append]
  unfold readIpv4
  rw [readNumber_octet x.a (dot _)]
  simp only [Option.bind_eq_bind, Option.bind_some, readChar_self]
  rw [readNumber_octet x.b (dot _)]
  simp only [Option.bind_some, readChar_self]
  rw [readNumber_octet x.c (dot _)]
  simp only [Option.bind_some, readChar_self]
  rw [readNumber_octet x.d stops]
  simp

/-- Whether an IPv4 address is there shows at the dot after its first octet. -/
theorem readIpv4_eq_none {text : List Char} (undotted : ∀ rest, text.dropWhile (isDigit 10) ≠ '.' :: rest) :
    readIpv4 text = none := by
  unfold readIpv4
  cases read : readNumber octetForm text with
  | none => rfl
  | some r =>
    obtain ⟨n, rest⟩ := r
    obtain rfl := rest_of_readNumber read
    show (readChar '.' (text.dropWhile (isDigit 10)) >>= _) = none
    cases left : text.dropWhile (isDigit 10) with
    | nil => rfl
    | cons c rest =>
      have other : c ≠ '.' := fun same => undotted rest (same ▸ left)
      show ((if c = '.' then some rest else none) >>= _) = none
      rw [if_neg other]
      rfl

end QuicSessions.Net
