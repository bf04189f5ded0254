import QuicSessions.Proofs.Net.Numerals

/-!
# Reading written addresses back: groups and socket addresses

The text of an IPv6 address shows all of its groups, or the groups before and after its first longest run of
zeros. Reading stops at the two colons, because no group begins with a colon, and fills up what is missing with
zeros; so it finds the address again. The same holds of socket addresses.
-/

set_option autoImplicit false

namespace QuicSessions.Net

open Text (Stops stops_cons)

/-! ## Groups with colons between them -/

def group (g : UInt16) : List Char := Nat.toDigits 16 g.toNat

/-- The text of groups, with a colon in front of each, except in front of the first if nothing precedes it. -/
def spelled : (first : Bool) → List UInt16 → List Char
  | _, [] => []
  | first, g :: groups => (if first then [] else [':']) ++ (group g ++ spelled false groups)

theorem render_groups (groups : List UInt16) : (Ipv6.renderGroups groups).toList = spelled true groups := by
  have one (g : UInt16) : (Ipv6.renderGroup g).toList = group g := String.toList_ofList
  unfold Ipv6.renderGroups
  cases groups with
  | nil => rfl
  | cons g groups =>
    induction groups generalizing g with
    | nil =>
      rw [List.map_singleton, String.intercalate_singleton, one]
      exact (List.append_nil (group g)).symm
    | cons g' groups ih =>
      rw [List.map_cons, List.map_cons, String.intercalate_cons_cons, String.toList_append, String.toList_append,
        one, ← List.map_cons, ih g', List.append_assoc]
      rfl

theorem isDigit_sixteen_of_ten {c : Char} (digit : isDigit 10 c = true) : isDigit 16 c = true := by
  unfold isDigit digit? at digit ⊢
  simp only [Option.isSome_ite] at digit ⊢
  by_cases decimal : '0' ≤ c ∧ c ≤ '9'
  · rw [if_pos decimal] at digit ⊢
    omega
  · rw [if_neg decimal] at digit ⊢
    by_cases lower : 'a' ≤ c ∧ c ≤ 'z'
    · rw [if_pos lower] at digit ⊢
      omega
    · rw [if_neg lower] at digit ⊢
      by_cases upper : 'A' ≤ c ∧ c ≤ 'Z'
      · rw [if_pos upper] at digit ⊢
        omega
      · rw [if_neg upper] at digit
        omega

/-- No group goes on, and no octet ends, with what follows. -/
def Barred (tail : List Char) : Prop := Stops (fun c => isDigit 16 c || c = '.') tail

theorem Barred.stops {tail : List Char} (barred : Barred tail) : Stops (isDigit 16) tail :=
  fun c rest same => (Bool.or_eq_false_iff.1 (barred c rest same)).1

theorem barred_colon (rest : List Char) : Barred (':' :: rest) := stops_cons (by decide) rest

theorem barred_spelled (groups : List UInt16) {tail : List Char} (barred : Barred tail) :
    Barred (spelled false groups ++ tail) := by
  cases groups with
  | nil => exact barred
  | cons g groups => exact barred_colon _

theorem stops_ten {tail : List Char} (stops : Stops (isDigit 16) tail) : Stops (isDigit 10) tail := by
  intro c rest same
  cases digit : isDigit 10 c with
  | false => rfl
  | true => exact absurd (isDigit_sixteen_of_ten digit) (by rw [stops c rest same]; decide)

/-- A group is not taken for an IPv4 address. -/
theorem readIpv4_of_barred {digits tail : List Char} (hexadecimal : ∀ c ∈ digits, isDigit 16 c = true)
    (barred : Barred tail) : readIpv4 (digits ++ tail) = none := by
  refine readIpv4_eq_none fun rest => ?_
  induction digits with
  | nil =>
    have left : ([] ++ tail).dropWhile (isDigit 10) = tail := Text.dropWhile_front nofun (stops_ten barred.stops)
    rw [left]
    intro same
    have mark := barred '.' rest same
    revert mark
    decide
  | cons c digits ih =>
    -- A letter stops the decimal digits before the end of the group, but is no dot.
    have digit := hexadecimal c (List.mem_cons_self ..)
    rw [List.cons_append, List.dropWhile_cons]
    split
    · exact ih fun c' mem => hexadecimal c' (List.mem_cons_of_mem c mem)
    · intro same
      rw [(List.cons.inj same).1] at digit
      revert digit
      decide

theorem readNumber_group (g : UInt16) {tail : List Char} (stops : Stops (isDigit 16) tail) :
    readNumber groupForm (group g ++ tail) = some (g.toNat, tail) := by
  refine readNumber_toDigits usual_group g.toNat_lt (fun most four => ?_) stops
  obtain rfl : 4 = most := Option.some.inj four
  exact (Nat.length_toDigits_le_iff (by decide) (by decide)).2 (Nat.lt_of_lt_of_le g.toNat_lt (by decide))

/-- No group follows, neither at once nor after a colon. -/
structure Shut (tail : List Char) : Prop where
  barred : Barred tail
  colon : ∀ rest, tail = ':' :: rest → Barred rest

theorem readGroups_of_shut (slots : Nat) (first : Bool) {tail : List Char} (shut : Shut tail) :
    readGroups slots first tail = ([], false, tail) := by
  have nothing {body : List Char} (barred : Barred body) :
      readIpv4 body = none ∧ readNumber groupForm body = none :=
    ⟨readIpv4_of_barred (List.forall_mem_nil _) barred, readNumber_eq_none barred.stops⟩
  cases slots with
  | zero => rfl
  | succ slots =>
    have body : ((if first then some tail else readChar ':' tail).bind readIpv4) = none ∧
        ((if first then some tail else readChar ':' tail).bind (readNumber groupForm)) = none := by
      cases first with
      | true => exact nothing shut.barred
      | false =>
        cases tail with
        | nil => exact ⟨rfl, rfl⟩
        | cons c rest =>
          by_cases colon : c = ':'
          · rw [colon, if_neg (by decide), readChar_self]
            exact nothing (shut.colon rest (by rw [colon]))
          · have none_read : readChar ':' (c :: rest) = none := if_neg colon
            rw [if_neg (by decide), none_read]
            exact ⟨rfl, rfl⟩
    unfold readGroups
    dsimp only
    rw [body.1, body.2]
    simp

theorem readGroups_spelled (groups : List UInt16) (slots : Nat) (first : Bool) {tail : List Char}
    (room : groups.length ≤ slots) (barred : Barred tail) (shut : groups.length < slots → Shut tail) :
    readGroups slots first (spelled first groups ++ tail) = (groups, false, tail) := by
  induction groups generalizing slots first with
  | nil =>
    cases slots with
    | zero => rfl
    | succ slots => exact readGroups_of_shut (slots + 1) first (shut (Nat.succ_pos slots))
  | cons g groups ih =>
    obtain ⟨slots, rfl⟩ : ∃ more, slots = more + 1 :=
      Nat.exists_eq_add_one.2 (Nat.lt_of_lt_of_le (Nat.succ_pos _) room)
    have rest := ih slots false (Nat.le_of_succ_le_succ room) fun less => shut (Nat.succ_lt_succ less)
    have later := barred_spelled groups barred
    have body : (if first then some (spelled first (g :: groups) ++ tail)
        else readChar ':' (spelled first (g :: groups) ++ tail)) =
        some (group g ++ (spelled false groups ++ tail)) := by
      rw [← List.append_assoc]
      cases first with
      | true => rfl
      | false => exact readChar_self ':' _
    have undotted : readIpv4 (group g ++ (spelled false groups ++ tail)) = none :=
      readIpv4_of_barred (isDigit_of_mem usual_group) later
    unfold readGroups
    dsimp only
    rw [body, Option.bind_some, Option.bind_some, undotted, readNumber_group g later.stops, ite_self]
    dsimp only
    have back : g.toNat.toUInt16 = g := UInt16.ofNat_toNat
    rw [rest, back]

/-! ## IPv6 addresses -/

/-- What follows an IPv6 address. -/
def Closes (tail : List Char) : Prop := Barred tail ∧ ∀ rest, tail ≠ ':' :: rest

theorem Closes.shut {tail : List Char} (closes : Closes tail) : Shut tail :=
  ⟨closes.1, fun rest same => absurd same (closes.2 rest)⟩

theorem shut_colons (rest : List Char) : Shut (':' :: ':' :: rest) :=
  ⟨barred_colon _, fun _ same => (List.cons.inj same).2 ▸ barred_colon rest⟩

theorem replicate_zerosAt (groups : List UInt16) {z : Nat} (le : z ≤ Ipv6.zerosAt groups) :
    groups = List.replicate z 0 ++ groups.drop z := by
  induction z generalizing groups with
  | zero => rfl
  | succ z ih =>
    unfold Ipv6.zerosAt at le
    cases groups with
    | nil => exact absurd le (Nat.not_succ_le_zero z)
    | cons g groups =>
      rw [List.takeWhile_cons] at le
      split at le
      · rename_i zero
        have zero : g = 0 := by simpa using zero
        have rest := ih groups (Nat.le_of_succ_le_succ le)
        rw [zero, List.replicate_succ, List.drop_succ_cons, List.cons_append, ← rest]
      · exact absurd le (Nat.not_succ_le_zero z)

theorem longestRun_zeros (groups : List UInt16) :
    (Ipv6.longestRun groups).2 ≤ Ipv6.zerosAt (groups.drop (Ipv6.longestRun groups).1) := by
  unfold Ipv6.longestRun
  refine List.foldlRecOn (motive := fun best : Nat × Nat => best.2 ≤ Ipv6.zerosAt (groups.drop best.1)) _ _
    (Nat.zero_le _) ?_
  intro best run i _
  split
  · exact Nat.le_refl _
  · exact run

theorem around_longestRun (groups : List UInt16) :
    groups = groups.take (Ipv6.longestRun groups).1 ++ (List.replicate (Ipv6.longestRun groups).2 0 ++
      groups.drop ((Ipv6.longestRun groups).1 + (Ipv6.longestRun groups).2)) := by
  have run := replicate_zerosAt _ (longestRun_zeros groups)
  rw [List.drop_drop] at run
  rw [← run, List.take_append_drop]

theorem ipv6_ext {x y : Ipv6} (same : x.groups = y.groups) : x = y := by
  cases x
  cases y
  cases same
  rfl

theorem readIpv6_all (x : Ipv6) {tail : List Char} (closes : Closes tail) :
    readIpv6 (spelled true x.groups ++ tail) = some (x, tail) := by
  have all : readGroups 8 true (spelled true x.groups ++ tail) = (x.groups, false, tail) :=
    readGroups_spelled x.groups 8 true (Nat.le_of_eq x.length_eq) closes.1 fun _ => closes.shut
  unfold readIpv6
  dsimp only
  split
  · refine congrArg some (Prod.ext (ipv6_ext ?_) ?_)
    · exact congrArg Prod.fst all
    · exact congrArg (fun r => r.2.2) all
  · rename_i other
    rw [all] at other
    exact absurd x.length_eq other

/-- Groups around two colons are those on both sides, and zeros between them. -/
theorem readIpv6_around {front back : List UInt16} {shown tail : List Char} {dotted : Bool} (x : Ipv6)
    (few : front.length < 8) (read : readGroups (7 - front.length) true shown = (back, dotted, tail))
    (same : x.groups = front ++ List.replicate (8 - front.length - back.length) 0 ++ back) :
    readIpv6 (spelled true front ++ ':' :: ':' :: shown) = some (x, tail) := by
  have fronts : readGroups 8 true (spelled true front ++ ':' :: ':' :: shown) =
      (front, false, ':' :: ':' :: shown) :=
    readGroups_spelled front 8 true (Nat.le_of_lt few) (barred_colon _) fun _ => shut_colons shown
  unfold readIpv6
  dsimp only
  split
  · rename_i full
    rw [fronts] at full
    exact absurd full (Nat.ne_of_lt few)
  split
  · rename_i ended
    rw [fronts] at ended
    cases ended
  · have colons : readChar ':' (readGroups 8 true (spelled true front ++ ':' :: ':' :: shown)).2.2 =
        some (':' :: shown) := by
      rw [fronts]
      exact readChar_self ':' _
    rw [colons, Option.bind_eq_bind, Option.bind_some, readChar_self, Option.bind_some]
    refine congrArg some (Prod.ext (ipv6_ext ?_) ?_)
    · show _ = x.groups
      simp only [fronts, read]
      exact same.symm
    · simp only [fronts, read]

theorem groups_ofGroups (hi lo : UInt16) : (Ipv4.ofGroups hi lo).groups = [hi, lo] := by
  have halves (g : UInt16) : (g / 256).toUInt8.toUInt16 * 256 + g.toUInt8.toUInt16 = g := by
    apply UInt16.toNat_inj.1
    have lt := g.toNat_lt
    simp only [UInt16.toNat_add, UInt16.toNat_mul, UInt8.toNat_toUInt16, UInt16.toNat_toUInt8, UInt16.toNat_div]
    show (g.toNat / 256 % 2 ^ 8 * 256 % 2 ^ 16 + g.toNat % 2 ^ 8) % 2 ^ 16 = g.toNat
    omega
  show [(hi / 256).toUInt8.toUInt16 * 256 + hi.toUInt8.toUInt16,
    (lo / 256).toUInt8.toUInt16 * 256 + lo.toUInt8.toUInt16] = [hi, lo]
  rw [halves hi, halves lo]

theorem groups_of_mapped {x : Ipv6} {inner : Ipv4} (mapped : x.mapped? = some inner) :
    x.groups = [0, 0, 0, 0, 0] ++ (0xFFFF :: inner.groups) := by
  unfold Ipv6.mapped? at mapped
  split at mapped
  · rename_i hi lo shape
    rw [← Option.some.inj mapped, groups_ofGroups]
    exact shape
  · cases mapped

/-- An IPv4 address may stand for the last two groups. -/
theorem readGroups_dotted (slots : Nat) (x : Ipv4) {tail : List Char} (stops : Stops (isDigit 10) tail) :
    readGroups (slots + 2) false (':' :: (x.render.toList ++ tail)) = (x.groups, true, tail) := by
  have dotted : readIpv4 (x.render.toList ++ tail) = some (x, tail) := readIpv4_render x stops
  unfold readGroups
  dsimp only
  rw [if_neg Bool.false_ne_true, if_neg (Nat.succ_ne_zero slots), readChar_self, Option.bind_some, dotted]

theorem readIpv6_mapped {x : Ipv6} {inner : Ipv4} (mapped : x.mapped? = some inner) {tail : List Char}
    (closes : Closes tail) :
    readIpv6 ("::ffff:".toList ++ inner.render.toList ++ tail) = some (x, tail) := by
  have later : Barred (':' :: (inner.render.toList ++ tail)) := barred_colon _
  have text : "::ffff:".toList ++ inner.render.toList ++ tail =
      ':' :: ':' :: (group 0xFFFF ++ ':' :: (inner.render.toList ++ tail)) := by
    have prefix_chars : "::ffff:".toList = ':' :: ':' :: (group 0xFFFF ++ [':']) := by decide
    rw [prefix_chars]
    simp only [List.append_assoc, List.cons_append, List.nil_append]
  have shown : readGroups 7 true (group 0xFFFF ++ ':' :: (inner.render.toList ++ tail)) =
      (0xFFFF :: inner.groups, true, tail) := by
    have undotted : readIpv4 (group 0xFFFF ++ ':' :: (inner.render.toList ++ tail)) = none :=
      readIpv4_of_barred (isDigit_of_mem usual_group) later
    have rest := readGroups_dotted 4 inner (stops_ten closes.1.stops)
    rw [readGroups]
    dsimp only
    rw [if_pos rfl, Option.bind_some, Option.bind_some, undotted, readNumber_group 0xFFFF later.stops, ite_self]
    dsimp only
    rw [rest]
    rfl
  rw [text]
  show readIpv6 (spelled true [] ++ ':' :: ':' :: _) = _
  exact readIpv6_around x (by decide) shown (groups_of_mapped mapped)

/-- Groups are read back from the text that leaves out any run of zeros among them. -/
theorem readIpv6_shortened (x : Ipv6) {start zeros : Nat} (left_out : 0 < zeros)
    (around : x.groups = x.groups.take start ++ (List.replicate zeros 0 ++ x.groups.drop (start + zeros)))
    {tail : List Char} (closes : Closes tail) :
    readIpv6 ((Ipv6.renderGroups (x.groups.take start) ++ "::" ++
      Ipv6.renderGroups (x.groups.drop (start + zeros))).toList ++ tail) = some (x, tail) := by
  have lengths := congrArg List.length around
  simp only [List.length_append, List.length_take, List.length_replicate, List.length_drop, x.length_eq]
    at lengths
  have front : (x.groups.take start).length = start := by
    rw [List.length_take, x.length_eq]
    omega
  have back : (x.groups.drop (start + zeros)).length = 8 - (start + zeros) := by
    rw [List.length_drop, x.length_eq]
  have text : (Ipv6.renderGroups (x.groups.take start) ++ "::" ++
      Ipv6.renderGroups (x.groups.drop (start + zeros))).toList ++ tail =
      spelled true (x.groups.take start) ++ ':' :: ':' ::
        (spelled true (x.groups.drop (start + zeros)) ++ tail) := by
    rw [String.toList_append, String.toList_append, render_groups, render_groups, List.append_assoc,
      List.append_assoc]
    rfl
  rw [text]
  refine readIpv6_around x (by omega) (readGroups_spelled _ _ true (by omega) closes.1 fun _ => closes.shut) ?_
  rw [front, back, show 8 - start - (8 - (start + zeros)) = zeros by omega, List.append_assoc]
  exact around

theorem readIpv6_render (x : Ipv6) {tail : List Char} (closes : Closes tail) :
    readIpv6 (x.render.toList ++ tail) = some (x, tail) := by
  unfold Ipv6.render
  cases mapped : x.mapped? with
  | some inner =>
    dsimp only
    rw [String.toList_append]
    exact readIpv6_mapped mapped closes
  | none =>
    dsimp only
    split
    · rename_i run
      exact readIpv6_shortened x (Nat.lt_of_succ_lt run) (around_longestRun x.groups) closes
    · rw [render_groups]
      exact readIpv6_all x closes

/-! ## Socket addresses -/

theorem readPort_render (port : UInt16) : readPort (':' :: Nat.toDigits 10 port.toNat) = some (port.toNat, []) := by
  have read : readNumber portForm (Nat.toDigits 10 port.toNat ++ []) = some (port.toNat, []) :=
    readNumber_toDigits usual_port port.toNat_lt nofun (Text.stops_nil _)
  rw [List.append_nil] at read
  unfold readPort
  rw [readChar_self, Option.bind_some, read]

/-- The scope between an IPv6 address and its bracket. -/
def scopeSuffix (scope : UInt32) : List Char := if scope = 0 then [] else '%' :: Nat.toDigits 10 scope.toNat

theorem readScope_suffix (scope : UInt32) (rest : List Char) :
    readScope (scopeSuffix scope ++ ']' :: rest) = (scope.toNat, ']' :: rest) := by
  unfold scopeSuffix
  split
  · rename_i zero
    rw [zero]
    rfl
  · have read : readNumber scopeForm (Nat.toDigits 10 scope.toNat ++ ']' :: rest) =
        some (scope.toNat, ']' :: rest) :=
      readNumber_toDigits usual_scope scope.toNat_lt nofun (stops_cons (by decide) rest)
    unfold readScope
    rw [List.cons_append, readChar_self, Option.bind_some, read]
    rfl

theorem closes_suffix (scope : UInt32) (rest : List Char) : Closes (scopeSuffix scope ++ ']' :: rest) := by
  unfold scopeSuffix
  split
  · exact ⟨stops_cons (by decide) rest, nofun⟩
  · exact ⟨stops_cons (by decide) _, nofun⟩

theorem render_v6 (x : Ipv6) (scope : UInt32) (port : UInt16) :
    (SocketAddress.v6 x scope port).render.toList =
      '[' :: (x.render.toList ++ (scopeSuffix scope ++ ']' :: ':' :: Nat.toDigits 10 port.toNat)) := by
  have suffix : (if scope = 0 then "" else "%" ++ toString scope.toNat).toList = scopeSuffix scope := by
    unfold scopeSuffix
    split
    · rfl
    · rw [String.toList_append, Nat.toString_eq_repr, Nat.toList_repr]
      rfl
  show ("[" ++ x.render ++ (if scope = 0 then "" else "%" ++ toString scope.toNat) ++ "]:" ++
    toString port.toNat).toList = _
  rw [String.toList_append, String.toList_append, String.toList_append, String.toList_append, suffix,
    Nat.toString_eq_repr, Nat.toList_repr, List.append_assoc, List.append_assoc, List.append_assoc]
  rfl

theorem readSocketAddress_v4 (x : Ipv4) (port : UInt16) :
    readSocketAddress (SocketAddress.v4 x port).render.toList = some (.v4 x port, []) := by
  have text : (SocketAddress.v4 x port).render.toList = x.render.toList ++ ':' :: Nat.toDigits 10 port.toNat := by
    show (x.render ++ ":" ++ toString port.toNat).toList = _
    rw [String.toList_append, String.toList_append, Nat.toString_eq_repr, Nat.toList_repr, List.append_assoc]
    rfl
  have back : port.toNat.toUInt16 = port := UInt16.ofNat_toNat
  unfold readSocketAddress
  rw [text, readIpv4_render x (stops_cons (by decide) _)]
  simp only [Option.bind_eq_bind, Option.bind_some, readPort_render, Option.pure_def, back]

theorem readSocketAddress_v6 (x : Ipv6) (scope : UInt32) (port : UInt16) :
    readSocketAddress (SocketAddress.v6 x scope port).render.toList = some (.v6 x scope port, []) := by
  have undotted (rest : List Char) : readIpv4 ('[' :: rest) = none :=
    readIpv4_eq_none fun rest' same => by
      rw [List.dropWhile_cons_of_neg (by decide)] at same
      cases same
  have back : port.toNat.toUInt16 = port := UInt16.ofNat_toNat
  have scope_back : scope.toNat.toUInt32 = scope := UInt32.ofNat_toNat
  unfold readSocketAddress
  rw [render_v6, undotted]
  simp only [Option.bind_eq_bind, Option.bind_none, Option.bind_some, readChar_self,
    readIpv6_render x (closes_suffix scope _), readScope_suffix, readPort_render, Option.pure_def, back, scope_back]

/-- A socket address is read back from its text. -/
theorem parse?_render (a : SocketAddress) : SocketAddress.parse? a.render = some a := by
  have read : readSocketAddress a.render.toList = some (a, []) := by
    cases a with
    | v4 x port => exact readSocketAddress_v4 x port
    | v6 x scope port => exact readSocketAddress_v6 x scope port
  unfold SocketAddress.parse? whole
  rw [read]

end QuicSessions.Net
