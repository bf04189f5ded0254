/-!
# Tables with distinct keys

A table is a list of entries whose keys are distinct. Entries keep the order in which their keys
were last inserted. The lemmas say what each operation does to `get?` and to the keys.
-/

set_option autoImplicit false

namespace QuicSessions

/-- A finite map, as its entries in order of insertion. -/
structure Table (K V : Type) where
  entries : List (K × V)
  nodup : (entries.map Prod.fst).Nodup

namespace Table

variable {K V : Type}

def empty : Table K V := ⟨[], by simp⟩

instance : Inhabited (Table K V) := ⟨empty⟩

instance : EmptyCollection (Table K V) := ⟨empty⟩

def keys (t : Table K V) : List K := t.entries.map Prod.fst

def values (t : Table K V) : List V := t.entries.map Prod.snd

def size (t : Table K V) : Nat := t.entries.length

def isEmpty (t : Table K V) : Bool := t.entries.isEmpty

@[simp] theorem keys_empty : (empty : Table K V).keys = [] := rfl

@[simp] theorem size_empty : (empty : Table K V).size = 0 := rfl

theorem keys_nodup (t : Table K V) : t.keys.Nodup := t.nodup

theorem keys_length (t : Table K V) : t.keys.length = t.size := by
  simp [keys, size]

variable [DecidableEq K]

/-- The value that a key has. -/
def get? (t : Table K V) (k : K) : Option V :=
  (t.entries.find? fun e => e.1 = k).map Prod.snd

def contains (t : Table K V) (k : K) : Bool :=
  t.entries.any fun e => e.1 = k

/-- The table without a key. -/
def erase (t : Table K V) (k : K) : Table K V where
  entries := t.entries.filter fun e => e.1 ≠ k
  nodup := t.nodup.sublist (List.filter_sublist.map _)

/-- The table with a key set to a value; the entry becomes the last one. -/
def insert (t : Table K V) (k : K) (v : V) : Table K V where
  entries := (t.erase k).entries ++ [(k, v)]
  nodup := by
    rw [List.map_append, List.nodup_append]
    refine ⟨(t.erase k).nodup, by simp, ?_⟩
    intro a ha b hb
    simp only [erase, List.mem_map, List.mem_filter] at ha
    obtain ⟨e, ⟨_, he⟩, rfl⟩ := ha
    simp at hb
    simpa [hb] using he

/-- The table with the value of one key changed in place; other keys stay as they are. -/
def update (t : Table K V) (k : K) (f : V → V) : Table K V where
  entries := t.entries.map fun e => if e.1 = k then (e.1, f e.2) else e
  nodup := by
    have h : (t.entries.map fun e => if e.1 = k then (e.1, f e.2) else e).map Prod.fst =
        t.entries.map Prod.fst := by
      rw [List.map_map]
      apply List.map_congr_left
      intro e _
      simp only [Function.comp_apply]
      split <;> rfl
    rw [h]
    exact t.nodup

/-! ## What the operations do to the view -/

@[simp] theorem get?_empty (k : K) : (empty : Table K V).get? k = none := rfl

omit [DecidableEq K] in
theorem mem_keys_of_mem {t : Table K V} {k : K} {v : V} (h : (k, v) ∈ t.entries) : k ∈ t.keys :=
  List.mem_map.2 ⟨(k, v), h, rfl⟩

theorem get?_eq_some_of_mem {t : Table K V} {k : K} {v : V} (h : (k, v) ∈ t.entries) :
    t.get? k = some v := by
  obtain ⟨l, hn⟩ := t
  simp only [get?] at h ⊢
  induction l with
  | nil => simp at h
  | cons e l ih =>
    simp only [List.map_cons, List.nodup_cons] at hn
    rw [List.find?_cons]
    by_cases he : e.1 = k
    · simp only [he, decide_true, Option.map_some]
      rcases List.mem_cons.1 h with rfl | h
      · rfl
      · exact absurd (List.mem_map.2 ⟨(k, v), h, he.symm⟩) hn.1
    · simp only [he, decide_false]
      rcases List.mem_cons.1 h with rfl | h
      · exact absurd rfl he
      · exact ih hn.2 h

theorem mem_of_get?_eq_some {t : Table K V} {k : K} {v : V} (h : t.get? k = some v) :
    (k, v) ∈ t.entries := by
  simp only [get?, Option.map_eq_some_iff] at h
  obtain ⟨e, he, rfl⟩ := h
  have hk := List.find?_some he
  simp only [decide_eq_true_eq] at hk
  rw [← hk]
  exact List.mem_of_find?_eq_some he

theorem get?_eq_some_iff {t : Table K V} {k : K} {v : V} :
    t.get? k = some v ↔ (k, v) ∈ t.entries :=
  ⟨mem_of_get?_eq_some, get?_eq_some_of_mem⟩

theorem mem_keys_iff {t : Table K V} {k : K} : k ∈ t.keys ↔ ∃ v, t.get? k = some v := by
  simp only [keys, List.mem_map, get?_eq_some_iff]
  constructor
  · rintro ⟨e, he, rfl⟩
    exact ⟨e.2, he⟩
  · rintro ⟨v, hv⟩
    exact ⟨(k, v), hv, rfl⟩

theorem contains_eq_true_iff {t : Table K V} {k : K} : t.contains k = true ↔ k ∈ t.keys := by
  simp only [contains, List.any_eq_true, decide_eq_true_eq, keys, List.mem_map]

theorem get?_eq_none_iff {t : Table K V} {k : K} : t.get? k = none ↔ k ∉ t.keys := by
  rw [mem_keys_iff]
  cases t.get? k <;> simp

@[simp] theorem get?_erase (t : Table K V) (k j : K) :
    (t.erase k).get? j = if j = k then none else t.get? j := by
  apply Option.ext
  intro v
  rw [get?_eq_some_iff]
  simp only [erase, List.mem_filter, ne_eq, decide_not, Bool.not_eq_true',
    decide_eq_false_iff_not]
  by_cases h : j = k
  · simp [h]
  · simp [h, get?_eq_some_iff]

@[simp] theorem get?_insert (t : Table K V) (k j : K) (v : V) :
    (t.insert k v).get? j = if j = k then some v else t.get? j := by
  apply Option.ext
  intro w
  rw [get?_eq_some_iff]
  simp only [insert, List.mem_append, List.mem_singleton, Prod.mk.injEq]
  rw [← get?_eq_some_iff, get?_erase]
  by_cases h : j = k
  · subst h
    simp only [if_true, Option.some.injEq, reduceCtorEq, false_or, true_and]
    exact eq_comm
  · simp [h]

@[simp] theorem get?_update (t : Table K V) (k j : K) (f : V → V) :
    (t.update k f).get? j = if j = k then (t.get? j).map f else t.get? j := by
  apply Option.ext
  intro w
  rw [get?_eq_some_iff]
  simp only [update, List.mem_map]
  constructor
  · rintro ⟨⟨a, b⟩, he, h⟩
    by_cases hk : a = k
    · simp only [hk, if_true, Prod.mk.injEq] at h
      obtain ⟨rfl, rfl⟩ := h
      subst hk
      simp [get?_eq_some_of_mem he]
    · simp only [hk, if_false, Prod.mk.injEq] at h
      obtain ⟨rfl, rfl⟩ := h
      simp [hk, get?_eq_some_of_mem he]
  · intro h
    by_cases hk : j = k
    · subst hk
      simp only [if_true, Option.map_eq_some_iff] at h
      obtain ⟨b, hb, rfl⟩ := h
      exact ⟨(j, b), mem_of_get?_eq_some hb, by simp⟩
    · simp only [hk, if_false] at h
      exact ⟨(j, w), mem_of_get?_eq_some h, by simp [hk]⟩

@[simp] theorem keys_erase (t : Table K V) (k : K) : (t.erase k).keys = t.keys.filter (· ≠ k) := by
  simp [keys, erase, List.filter_map, Function.comp_def]

@[simp] theorem keys_insert (t : Table K V) (k : K) (v : V) :
    (t.insert k v).keys = t.keys.filter (· ≠ k) ++ [k] := by
  simp only [← keys_erase]
  simp [keys, insert]

theorem mem_keys_insert_iff {t : Table K V} {k j : K} {v : V} :
    j ∈ (t.insert k v).keys ↔ j = k ∨ j ∈ t.keys := by
  rw [keys_insert, List.mem_append, List.mem_filter, List.mem_singleton]
  by_cases h : j = k <;> simp [h]

theorem mem_keys_erase_iff {t : Table K V} {k j : K} :
    j ∈ (t.erase k).keys ↔ j ≠ k ∧ j ∈ t.keys := by
  rw [keys_erase, List.mem_filter, decide_eq_true_eq, and_comm]

@[simp] theorem keys_update (t : Table K V) (k : K) (f : V → V) : (t.update k f).keys = t.keys := by
  simp only [keys, update, List.map_map]
  apply List.map_congr_left
  intro e _
  simp only [Function.comp_apply]
  split <;> rfl

end Table

end QuicSessions
