import QuicSessions.Json.Printer
import QuicSessions.Json.Reader
import QuicSessions.Proofs.Text.Digits

/-!
# Reading written documents back

A document without faults is written in such a way that reading finds the same document again, and whatever
follows it. The induction is on the document; the steps that reading needs are at most as many as there are
characters.
-/

set_option autoImplicit false

namespace QuicSessions.Json

open Text (Stops takeWhile_front dropWhile_front)

/-! ## Documents without faults -/

mutual

/-- A document without faults, whose numbers are natural. -/
def Whole : Json → Prop
  | .null => True
  | .bool _ => True
  | .number (.natural _) => True
  | .text (some _) => True
  | .array items none => WholeItems items
  | .object members none => WholeMembers members
  | _ => False

def WholeItems : List Json → Prop
  | [] => True
  | item :: rest => Whole item ∧ WholeItems rest

def WholeMembers : List (Except Fault String × Json) → Prop
  | [] => True
  | (.ok _, value) :: rest => Whole value ∧ WholeMembers rest
  | (.error _, _) :: _ => False

end

/-! ## Strings -/

theorem hexValue?_hexDigit : ∀ d < 16, hexValue? (hexDigit d) = some d := by decide

theorem codeUnit?_codeEscape {c : Char} (control : c < ' ') :
    codeUnit? '0' '0' (hexDigit (c.toNat / 16)) (hexDigit (c.toNat % 16)) = some c.toNat := by
  have small : c.toNat < 32 := control
  have zero : hexValue? '0' = some 0 := by decide
  unfold codeUnit?
  rw [zero, hexValue?_hexDigit _ (by omega), hexValue?_hexDigit _ (by omega)]
  show some (((0 * 16 + 0) * 16 + c.toNat / 16) * 16 + c.toNat % 16) = some c.toNat
  congr 1
  omega

theorem readPieces_plain {c : Char} (quote : c ≠ '"') (backslash : c ≠ '\\') (shown : ¬ c < ' ')
    (rest : List Char) : readPieces (c :: rest) = (.char c :: (readPieces rest).1, (readPieces rest).2) := by
  rw [readPieces.eq_def]
  split <;> simp_all

/-- The escape of a character is one piece, which stands for the character. -/
theorem readPieces_escapeChar (c : Char) :
    ∃ p, (∀ rest, readPieces (escapeChar c ++ rest) = (p :: (readPieces rest).1, (readPieces rest).2)) ∧
      ∀ atEnd more, assemble atEnd (p :: more) = (assemble atEnd more).map (c :: ·) := by
  unfold escapeChar
  by_cases quote : c = '"'
  · rw [if_pos quote, quote]
    exact ⟨.char _, fun _ => rfl, fun _ _ => rfl⟩
  rw [if_neg quote]
  by_cases backslash : c = '\\'
  · rw [if_pos backslash, backslash]
    exact ⟨.char _, fun _ => rfl, fun _ _ => rfl⟩
  rw [if_neg backslash]
  split
  · rename_i h
    exact h ▸ ⟨.char _, fun _ => rfl, fun _ _ => rfl⟩
  split
  · rename_i h
    exact h ▸ ⟨.char _, fun _ => rfl, fun _ _ => rfl⟩
  split
  · rename_i h
    exact h ▸ ⟨.char _, fun _ => rfl, fun _ _ => rfl⟩
  split
  · rename_i h
    exact h ▸ ⟨.char _, fun _ => rfl, fun _ _ => rfl⟩
  split
  · rename_i h
    exact h ▸ ⟨.char _, fun _ => rfl, fun _ _ => rfl⟩
  split
  · rename_i control
    have small : c.toNat < 32 := control
    refine ⟨.code c.toNat, fun rest => ?_, fun atEnd more => ?_⟩
    · show readPieces ('\\' :: 'u' :: '0' :: '0' :: hexDigit (c.toNat / 16) :: hexDigit (c.toNat % 16) :: rest) = _
      rw [readPieces, codeUnit?_codeEscape control]
    · have trail : isTrail c.toNat = false := by
        unfold isTrail
        simp only [Bool.and_eq_false_iff, decide_eq_false_iff_not]
        omega
      have lead : isLead c.toNat = false := by
        unfold isLead
        simp only [Bool.and_eq_false_iff, decide_eq_false_iff_not]
        omega
      rw [assemble.eq_def]
      dsimp only
      rw [trail, lead, Char.ofNat_toNat]
      rfl
  · rename_i shown
    exact ⟨.char c, readPieces_plain quote backslash shown, fun _ _ => rfl⟩

theorem readPieces_escaped (chars rest : List Char) :
    ∃ pieces, readPieces (chars.flatMap escapeChar ++ '"' :: rest) = (pieces, .ok rest) ∧
      ∀ atEnd, assemble atEnd pieces = .ok chars := by
  induction chars with
  | nil => exact ⟨[], rfl, fun _ => rfl⟩
  | cons c chars ih =>
    obtain ⟨pieces, read, stand⟩ := ih
    obtain ⟨p, one, stands⟩ := readPieces_escapeChar c
    refine ⟨p :: pieces, ?_, fun atEnd => ?_⟩
    · rw [List.flatMap_cons, List.append_assoc, one, read]
    · rw [stands, stand]
      rfl

theorem readString_quote (s : String) (rest : List Char) :
    readString (s.toList.flatMap escapeChar ++ '"' :: rest) = (.ok s, .ok rest) := by
  obtain ⟨pieces, read, stand⟩ := readPieces_escaped s.toList rest
  unfold readString
  rw [read]
  dsimp only
  rw [stand]
  show (Except.ok (String.ofList s.toList), _) = _
  rw [String.ofList_toList]

theorem readText_of_string {s : String} {text rest : List Char} (read : readString text = (.ok s, .ok rest)) :
    readText text = (.text (some s), rest) := by
  unfold readText
  rw [read]
  rfl

/-! ## Numbers -/

/-- What may follow a value. -/
def Ends (tail : List Char) : Prop := Stops (fun c => c ≠ ',' && c ≠ ']' && c ≠ '\x7d') tail

theorem Ends.stops {tail : List Char} (ends : Ends tail) {p : Char → Bool} (comma : p ',' = false)
    (bracket : p ']' = false) (brace : p '\x7d' = false) : Stops p tail := by
  intro c rest same
  have mark := ends c rest same
  simp only [ne_eq, decide_not, Bool.and_eq_false_iff, Bool.not_eq_false', decide_eq_true_eq] at mark
  obtain (rfl | rfl) | rfl := mark
  · exact comma
  · exact bracket
  · exact brace

theorem digits_isDigit {n : Nat} : ∀ c ∈ Nat.toDigits 10 n, c.isDigit = true :=
  fun _ mem => Nat.isDigit_of_mem_toDigits (by decide) (by decide) mem

theorem readDigits_toDigits (n : Nat) {tail : List Char} (stops : Stops Char.isDigit tail) :
    readDigits (Nat.toDigits 10 n ++ tail) = .ok (Nat.toDigits 10 n, tail) := by
  unfold readDigits
  rw [takeWhile_front digits_isDigit stops, dropWhile_front digits_isDigit stops]
  cases digits : Nat.toDigits 10 n with
  | nil => exact absurd digits Nat.toDigits_ne_nil
  | cons c rest => rfl

theorem readFraction_of_ends {tail : List Char} (ends : Ends tail) : readFraction tail = .ok (none, tail) := by
  have stops : Stops (· = '.') tail := ends.stops rfl rfl rfl
  unfold readFraction
  split
  · rename_i rest
    have other := stops '.' rest rfl
    simp at other
  · rfl

theorem readExponent_of_ends {tail : List Char} (ends : Ends tail) : readExponent tail = .ok (none, tail) := by
  have stops : Stops isExponentMark tail := ends.stops rfl rfl rfl
  cases tail with
  | nil => rfl
  | cons c rest =>
    unfold readExponent
    dsimp only
    rw [stops c rest rfl]
    rfl

theorem readNumeral_toDigits (n : Nat) {tail : List Char} (ends : Ends tail) :
    readNumeral (Nat.toDigits 10 n ++ tail) = .ok (⟨Nat.toDigits 10 n, none, none⟩, tail) := by
  unfold readNumeral
  rw [readDigits_toDigits n (ends.stops rfl rfl rfl)]
  dsimp only [bind, Except.bind]
  split
  · rename_i c more zero
    cases Text.toDigits_zero_cons (by decide) zero
  · rw [readFraction_of_ends ends]
    dsimp only
    rw [readExponent_of_ends ends]
    rfl

theorem ofDigits_toDigits (n : Nat) : ofDigits (Nat.toDigits 10 n) = n :=
  Text.foldl_toDigits (by decide) (by decide) n

theorem readNumber_toDigits (n : UInt64) {tail : List Char} (ends : Ends tail) :
    readNumber false (Nat.toDigits 10 n.toNat ++ tail) = (.natural n, tail) := by
  unfold readNumber
  rw [readNumeral_toDigits n.toNat ends]
  have fits : n.toNat < UInt64.size := n.toNat_lt
  show (Json.number (Numeral.number false ⟨Nat.toDigits 10 n.toNat, none, none⟩), tail) = _
  unfold Numeral.number
  rw [ofDigits_toDigits, if_pos (by simpa using fits)]
  simp [natural]

/-! ## Values -/

theorem skipBlanks_of_mark {c : Char} (mark : isBlank c = false) (rest : List Char) :
    skipBlanks (c :: rest) = c :: rest := List.dropWhile_cons_of_neg (by simp [mark])

theorem isBlank_of_digit {c : Char} (digit : c.isDigit = true) : isBlank c = false := by
  cases blank : isBlank c with
  | false => rfl
  | true =>
    simp only [isBlank, Bool.or_eq_true, decide_eq_true_eq] at blank
    obtain ((rfl | rfl) | rfl) | rfl := blank <;> cases digit

theorem readValue_digit (fuel : Nat) {c : Char} (digit : c.isDigit = true) (rest : List Char) :
    readValue (fuel + 1) (c :: rest) = readNumber false (c :: rest) := by
  unfold readValue
  rw [skipBlanks_of_mark (isBlank_of_digit digit)]
  split
  case h_9 => rename_i same; cases same; rw [if_pos digit]
  all_goals (rename_i same; cases same <;> cases digit)

/-- What a document is written as begins with a mark that begins a value. -/
theorem write_starts {j : Json} (whole : j.Whole) :
    ∃ c rest, j.write = c :: rest ∧ isBlank c = false ∧ c ≠ ']' := by
  cases j with
  | null => exact ⟨'n', _, rfl, by decide, by decide⟩
  | bool value =>
    cases value with
    | true => exact ⟨'t', _, rfl, by decide, by decide⟩
    | false => exact ⟨'f', _, rfl, by decide, by decide⟩
  | number n =>
    cases n with
    | natural n =>
      cases digits : Nat.toDigits 10 n.toNat with
      | nil => exact absurd digits Nat.toDigits_ne_nil
      | cons c rest =>
        have digit : c.isDigit = true := digits_isDigit c (digits ▸ List.mem_cons_self ..)
        exact ⟨c, rest, digits, isBlank_of_digit digit, fun same => by rw [same] at digit; cases digit⟩
    | other => exact whole.elim
    | unbounded => exact whole.elim
  | text value =>
    cases value with
    | some s => exact ⟨'"', _, rfl, by decide, by decide⟩
    | none => exact whole.elim
  | array items ending => exact ⟨'[', _, rfl, by decide, by decide⟩
  | object members ending => exact ⟨'\x7b', _, rfl, by decide, by decide⟩
  | broken read skipped => exact whole.elim

theorem ends_items {items : List Json} (rest : List Char) : Ends (writeItems false items ++ ']' :: rest) := by
  cases items with
  | nil => exact Text.stops_cons rfl rest
  | cons item items => exact Text.stops_cons rfl _

theorem ends_members {members : List (Except Fault String × Json)} (whole : WholeMembers members)
    (rest : List Char) : Ends (writeMembers false members ++ '\x7d' :: rest) := by
  match members with
  | [] => exact Text.stops_cons rfl rest
  | (.ok name, value) :: members => exact Text.stops_cons rfl _
  | (.error fault, value) :: members => exact whole.elim

theorem readItems_first (fuel : Nat) {c : Char} (mark : isBlank c = false) (other : c ≠ ']') (rest : List Char) :
    readItems (fuel + 1) true (c :: rest) =
      ((readValue fuel (c :: rest)).1 :: (readItems fuel false (readValue fuel (c :: rest)).2).1,
        (readItems fuel false (readValue fuel (c :: rest)).2).2) := by
  rw [readItems, skipBlanks_of_mark mark]
  split
  · rename_i none
    cases none
  · rename_i closed
    exact absurd (List.cons.inj closed).1 other
  · rename_i opened
    cases opened
    rfl

theorem readItems_next (fuel : Nat) (rest : List Char) :
    readItems (fuel + 1) false (',' :: rest) =
      ((readValue fuel rest).1 :: (readItems fuel false (readValue fuel rest).2).1,
        (readItems fuel false (readValue fuel rest).2).2) := rfl

theorem readMembers_name (fuel : Nat) (first : Bool) (name : String) (rest : List Char) :
    readMembers (fuel + 1) first ((if first then [] else [',']) ++ (quote name ++ ':' :: rest)) =
      ((.ok name, (readValue fuel rest).1) :: (readMembers fuel false (readValue fuel rest).2).1,
        (readMembers fuel false (readValue fuel rest).2).2) := by
  have quoted : quote name ++ ':' :: rest = '"' :: (name.toList.flatMap escapeChar ++ '"' :: ':' :: rest) := by
    unfold quote
    rw [List.cons_append, List.append_assoc]
    rfl
  have mark : isBlank '"' = false := by decide
  have comma : isBlank ',' = false := by decide
  have colon : isBlank ':' = false := by decide
  have read := readString_quote name (':' :: rest)
  rw [quoted]
  cases first with
  | true =>
    rw [if_pos rfl, List.nil_append, readMembers]
    simp [skipBlanks_of_mark mark, read, skipBlanks_of_mark colon]
  | false =>
    rw [if_neg Bool.false_ne_true, List.singleton_append, readMembers]
    simp [skipBlanks_of_mark comma, skipBlanks_of_mark mark, read, skipBlanks_of_mark colon]

mutual

/-- Reading finds the document that was written, and what follows it. -/
theorem readValue_write : ∀ (j : Json), j.Whole → ∀ (fuel : Nat) (tail : List Char), j.write.length ≤ fuel →
    Ends tail → readValue fuel (j.write ++ tail) = (j, tail)
  -- What is inside a document is written shorter than the document, so the fuel is enough for it too.
  | .null, _, _ + 1, _, _, _ => rfl
  | .bool true, _, _ + 1, _, _, _ => rfl
  | .bool false, _, _ + 1, _, _, _ => rfl
  | .number (.natural n), whole, fuel, tail, enough, ends => by
    obtain ⟨c, rest, starts, -⟩ := write_starts whole
    have digits : Nat.toDigits 10 n.toNat = c :: rest := starts
    have digit : c.isDigit = true := digits_isDigit c (digits ▸ List.mem_cons_self ..)
    rw [starts] at enough ⊢
    obtain ⟨fuel, rfl⟩ : ∃ more, fuel = more + 1 :=
      Nat.exists_eq_add_one.2 (Nat.lt_of_lt_of_le (Nat.succ_pos _) enough)
    show readValue (fuel + 1) (c :: (rest ++ tail)) = _
    rw [readValue_digit fuel digit, ← List.cons_append, ← digits]
    exact readNumber_toDigits n ends
  | .text (some s), _, fuel + 1, tail, _, _ => by
    show readText ((s.toList.flatMap escapeChar ++ ['"']) ++ tail) = _
    rw [List.append_assoc]
    exact readText_of_string (readString_quote s tail)
  | .array items none, whole, fuel + 1, tail, enough, _ => by
    have opened : (Json.array items none).write ++ tail = '[' :: (writeItems true items ++ ']' :: tail) := by
      show '[' :: (writeItems true items ++ [']']) ++ tail = _
      rw [List.cons_append, List.append_assoc]
      rfl
    have less : (writeItems true items).length < fuel := by
      have length : (Json.array items none).write.length = (writeItems true items).length + 2 := by
        show ('[' :: (writeItems true items ++ [']'])).length = _
        simp
      omega
    rw [opened]
    show (Json.array (readItems fuel true _).1 (readItems fuel true _).2.1, (readItems fuel true _).2.2) = _
    rw [readItems_write items whole fuel true tail less]
  | .object members none, whole, fuel + 1, tail, enough, _ => by
    have opened : (Json.object members none).write ++ tail =
        '\x7b' :: (writeMembers true members ++ '\x7d' :: tail) := by
      show '\x7b' :: (writeMembers true members ++ ['\x7d']) ++ tail = _
      rw [List.cons_append, List.append_assoc]
      rfl
    have less : (writeMembers true members).length < fuel := by
      have length : (Json.object members none).write.length = (writeMembers true members).length + 2 := by
        show ('\x7b' :: (writeMembers true members ++ ['\x7d'])).length = _
        simp
      omega
    rw [opened]
    show (Json.object (readMembers fuel true _).1 (readMembers fuel true _).2.1, (readMembers fuel true _).2.2) = _
    rw [readMembers_write members whole fuel true tail less]

theorem readItems_write : ∀ (items : List Json), WholeItems items → ∀ (fuel : Nat) (first : Bool)
    (tail : List Char), (writeItems first items).length < fuel →
    readItems fuel first (writeItems first items ++ ']' :: tail) = (items, none, tail)
  | [], _, fuel + 1, first, tail, enough => rfl
  | item :: items, whole, fuel + 1, first, tail, enough => by
    obtain ⟨whole, wholes⟩ := whole
    obtain ⟨c, more, starts, mark, other⟩ := write_starts whole
    have length : (writeItems first (item :: items)).length =
        (if first then [] else [',']).length + item.write.length + (writeItems false items).length := by
      rw [writeItems, List.length_append, List.length_append]
    -- A number among the items ends where the comma or the bracket after it begins.
    have value := readValue_write item whole fuel (writeItems false items ++ ']' :: tail) (by omega) (ends_items tail)
    have one := congrArg List.length starts
    rw [List.length_cons] at one
    have rest := readItems_write items wholes fuel false tail (by omega)
    cases first with
    | true =>
      show readItems (fuel + 1) true (([] ++ item.write ++ writeItems false items) ++ ']' :: tail) = _
      rw [List.nil_append, List.append_assoc, starts, List.cons_append,
        readItems_first fuel mark other, ← List.cons_append, ← starts, value, rest]
    | false =>
      show readItems (fuel + 1) false (([','] ++ item.write ++ writeItems false items) ++ ']' :: tail) = _
      rw [List.append_assoc, List.append_assoc]
      show readItems (fuel + 1) false (',' :: (item.write ++ (writeItems false items ++ ']' :: tail))) = _
      rw [readItems_next, value, rest]

theorem readMembers_write : ∀ (members : List (Except Fault String × Json)), WholeMembers members →
    ∀ (fuel : Nat) (first : Bool) (tail : List Char), (writeMembers first members).length < fuel →
    readMembers fuel first (writeMembers first members ++ '\x7d' :: tail) = (members, none, tail)
  | [], _, fuel + 1, first, tail, enough => rfl
  | (.ok name, value) :: members, whole, fuel + 1, first, tail, enough => by
    obtain ⟨whole, wholes⟩ := whole
    have parts : writeMembers first ((.ok name, value) :: members) =
        (if first then [] else [',']) ++ (quote name ++ ':' :: (value.write ++ writeMembers false members)) := by
      rw [writeMembers, List.append_assoc]
    have length := congrArg List.length parts
    simp only [List.length_append, List.length_cons] at length
    have item := readValue_write value whole fuel (writeMembers false members ++ '\x7d' :: tail) (by omega)
      (ends_members wholes tail)
    have rest := readMembers_write members wholes fuel false tail (by omega)
    rw [parts, List.append_assoc, List.append_assoc, List.cons_append, List.append_assoc, readMembers_name, item,
      rest]

end

/-- A document without faults is read back from its text, and nothing follows it. -/
theorem read_render {j : Json} (whole : j.Whole) : read j.render = (j, false) := by
  have enough : j.write.length ≤ stepsFor j.write := by
    unfold stepsFor
    omega
  have found := readValue_write j whole (stepsFor j.write) [] enough (Text.stops_nil _)
  rw [List.append_nil] at found
  unfold read render
  rw [String.toList_ofList, found]
  rfl

end QuicSessions.Json
