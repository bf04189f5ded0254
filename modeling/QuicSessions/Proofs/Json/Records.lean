import Mathlib.Data.List.Nodup
import QuicSessions.Config.Basic
import QuicSessions.Proofs.Json.Documents
import QuicSessions.Proofs.Net.Addresses

/-!
# Decoding what was encoded

Each decoder gives back the value that its encoder made a document of. A record whose members are all its fields
in their order is decoded like the array of its values, so it is enough to look at the columns.
-/

set_option autoImplicit false

namespace QuicSessions.Json

/-- Values become documents without faults, which are decoded to the same values. -/
structure Lawful {β : Type} (encode : β → Json) (decode : Json → Except Fault β) : Prop where
  whole : ∀ x, (encode x).Whole
  back : ∀ x, decode (encode x) = .ok x

/-! ## Single values -/

theorem lawful_string : Lawful string decodeString := ⟨fun _ => trivial, fun _ => rfl⟩

theorem lawful_bool : Lawful bool decodeBool := ⟨fun _ => trivial, fun _ => rfl⟩

theorem decodeNat_natural {limit : Nat} {n : UInt64} (fits : n.toNat < limit) :
    (natural n).decodeNat limit = .ok n.toNat := if_pos fits

theorem lawful_uint64 : Lawful natural decodeUInt64 where
  whole _ := trivial
  back n := by
    unfold decodeUInt64
    rw [decodeNat_natural n.toNat_lt]
    exact congrArg Except.ok UInt64.ofNat_toNat

theorem lawful_uint32 : Lawful (fun n : UInt32 => natural n.toUInt64) decodeUInt32 where
  whole _ := trivial
  back n := by
    have same : n.toUInt64.toNat = n.toNat := UInt32.toNat_toUInt64 n
    have fits : n.toUInt64.toNat < UInt32.size := same ▸ n.toNat_lt
    unfold decodeUInt32
    rw [decodeNat_natural fits, same]
    exact congrArg Except.ok UInt32.ofNat_toNat

theorem lawful_address : Lawful SocketAddress.toJson decodeAddress where
  whole _ := trivial
  back a := by
    have text : a.toJson.decodeString = .ok a.render := rfl
    unfold decodeAddress
    rw [text]
    dsimp only [bind, Except.bind]
    rw [Net.parse?_render a]
    rfl

theorem Lawful.optional {β : Type} {encode : β → Json} {decode : Json → Except Fault β}
    (lawful : Lawful encode decode) (given : ∀ x, encode x ≠ .null) :
    Lawful (Json.optional encode) (decodeOption decode) where
  whole x := by
    cases x with
    | none => trivial
    | some x => exact lawful.whole x
  back x := by
    cases x with
    | none => rfl
    | some x =>
      show decodeOption decode (encode x) = _
      unfold decodeOption
      split
      · rename_i null
        exact absurd null (given x)
      · rw [lawful.back x]
        rfl

theorem durationOf_parts (d : Duration) : durationOf d.secs d.nanos.toUInt32 = .ok d := by
  have short := d.nanos_lt
  have whole : d.secs.toNat < UInt64.size := d.secs.toNat_lt
  have nanos : d.nanos.toUInt32.toNat = d.nanos := by
    show (UInt32.ofNat d.nanos).toNat = _
    rw [UInt32.toNat_ofNat']
    omega
  have parts : Duration.ofParts? d.secs.toNat d.nanos = some d := by
    have none_carried : d.nanos / 1000000000 = 0 := Nat.div_eq_of_lt short
    obtain ⟨secs, nanos, lt⟩ := d
    unfold Duration.ofParts?
    simp only [none_carried, Nat.add_zero, Nat.mod_eq_of_lt lt]
    rw [if_pos whole]
    congr 2
    exact UInt64.ofNat_toNat
  unfold durationOf
  rw [nanos, parts]

theorem lawful_duration : Lawful Duration.toJson decodeDuration where
  whole _ := ⟨trivial, trivial, trivial⟩
  back d := by
    have narrow : d.nanos.toUInt64 = d.nanos.toUInt32.toUInt64 := by
      have short := d.nanos_lt
      apply UInt64.toNat_inj.1
      rw [UInt32.toNat_toUInt64]
      show (UInt64.ofNat d.nanos).toNat = (UInt32.ofNat d.nanos).toNat
      rw [UInt64.toNat_ofNat', UInt32.toNat_ofNat']
      omega
    show decodeDurationMembers [(.ok "secs", .natural d.secs), (.ok "nanos", .natural d.nanos.toUInt64)]
      none none none = _
    rw [decodeDurationMembers, if_pos ⟨rfl, rfl⟩, lawful_uint64.back]
    show decodeDurationMembers [(.ok "nanos", .natural d.nanos.toUInt64)] (some d.secs) none none = _
    rw [decodeDurationMembers, if_neg (by simp), if_pos ⟨rfl, rfl⟩, narrow, lawful_uint32.back]
    exact durationOf_parts d

/-! ## Records -/

section Records

variable {α β : Type}

theorem find?_name {fields : List (Field α)} (distinct : (fields.map Field.name).Nodup) {field : Field α}
    (mem : field ∈ fields) : (fields.find? fun f => f.name = field.name) = some field := by
  induction fields with
  | nil => cases mem
  | cons f fields ih =>
    rw [List.map_cons, List.nodup_cons] at distinct
    obtain rfl | mem := List.mem_cons.1 mem
    · exact List.find?_cons_of_pos (by simp)
    · have other : f.name ≠ field.name := fun same => distinct.1 (same ▸ List.mem_map_of_mem mem)
      rw [List.find?_cons_of_neg (by simpa using other)]
      exact ih distinct.2 mem

/-- Members that are fields in their order are read like columns. -/
theorem decodeMembers_columns {fields : List (Field α)} (distinct : (fields.map Field.name).Nodup)
    {columns : List (Field α)} {members : List (String × Json)}
    (named : members.map Prod.fst = columns.map Field.name) (known : ∀ f ∈ columns, f ∈ fields)
    (apart : (columns.map Field.name).Nodup) {seen : List String} (unseen : ∀ f ∈ columns, f.name ∉ seen)
    (a : α) :
    decodeMembers fields (members.map fun m => (.ok m.1, m.2)) seen none a =
      decodeColumns columns (members.map Prod.snd) none a := by
  induction columns generalizing members seen a with
  | nil =>
    obtain rfl := List.map_eq_nil_iff.1 named
    rfl
  | cons field columns ih =>
    obtain ⟨⟨name, value⟩, members, rfl⟩ : ∃ m more, members = m :: more := by
      cases members with
      | nil => cases named
      | cons m more => exact ⟨m, more, rfl⟩
    obtain ⟨rfl, others⟩ := List.cons.inj named
    rw [List.map_cons, List.nodup_cons] at apart
    have here := unseen field (List.mem_cons_self ..)
    show _ = field.decode value a >>= decodeColumns columns (members.map Prod.snd) none
    -- The name finds the field of the first column, and was not seen: what is left is what columns do.
    rw [List.map_cons, decodeMembers, find?_name distinct (known field (List.mem_cons_self ..))]
    dsimp only
    rw [if_neg (by simpa using here)]
    refine congrArg (field.decode value a >>= ·) (funext fun b => ?_)
    refine ih others (fun f mem => known f (List.mem_cons_of_mem _ mem)) apart.2 (fun f mem again => ?_) b
    obtain same | again := List.mem_cons.1 again
    · exact apart.1 (same ▸ List.mem_map_of_mem mem)
    · exact unseen f (List.mem_cons_of_mem _ mem) again

/-- A record with all its fields in their order is decoded like the array of its values. -/
theorem decodeRecord_record {fields : List (Field α)} (distinct : (fields.map Field.name).Nodup)
    {members : List (String × Json)} (named : members.map Prod.fst = fields.map Field.name) (missing : α) :
    (record members).decodeRecord fields missing = decodeColumns fields (members.map Prod.snd) none missing :=
  decodeMembers_columns distinct named (fun _ mem => mem) distinct (fun _ _ => List.not_mem_nil) missing

theorem Lawful.column {encode : β → Json} {decode : Json → Except Fault β} (lawful : Lawful encode decode)
    {name : String} {set : α → β → α} (x : β) (fields : List (Field α)) (values : List Json)
    (ending : Option Fault) (a : α) :
    decodeColumns (.of name decode set :: fields) (encode x :: values) ending a =
      decodeColumns fields values ending (set a x) := by
  show ((decode (encode x) >>= fun y => .ok (set a y)) >>= decodeColumns fields values ending) = _
  rw [lawful.back x]
  rfl

end Records

end QuicSessions.Json
