import QuicSessions.Slot

/-!
# A slot is one optional value

The tasks of a thread set the slot, take from it and work on its value. A work may try the slot again, in any
kind, and what it tries inside may try it again, to any depth. Seen from outside the slot is no more than one
optional value of one kind: whatever a work tries inside is as if the thread had no slot at all.
-/

set_option autoImplicit false

namespace QuicSessions

namespace Slot

variable {κ : Type} {V : κ → Type} {A : Type}

/-! ## Works -/

/-- What is done with a value of a kind, step by step. What comes next may depend on the value and on all that
the slot answered so far. -/
inductive Work (V : κ → Type) (A : Type) : κ → Type where
  | answer {kind : κ} (a : A) : Work V A kind
  | look {kind : κ} (next : V kind → Work V A kind) : Work V A kind
  | replace {kind : κ} (value : V kind) (next : Work V A kind) : Work V A kind
  | take {kind : κ} (other : κ) (next : Option (V other) → Work V A kind) : Work V A kind
  | access {kind : κ} (other : κ) (inner : Work V A other) (next : Option A → Work V A kind) :
      Work V A kind

namespace Work

/-- What a work answers, the value that it leaves, and the slot as it leaves it. -/
def run [DecidableEq κ] {kind : κ} : Work V A kind → Slot V → V kind → (A × V kind) × Slot V
  | .answer a, s, v => ((a, v), s)
  | .look next, s, v => (next v).run s v
  | .replace value next, s, _ => next.run s value
  | .take other next, s, v =>
    let (taken, s) := s.take other
    (next taken).run s v
  | .access other inner next, s, v =>
    let (answered, s) := s.access other fun slot w => (inner.run slot w).1
    (next answered).run s v

/-- The same without a slot: nothing is ever there. -/
def alone {kind : κ} : Work V A kind → V kind → A × V kind
  | .answer a, v => (a, v)
  | .look next, v => (next v).alone v
  | .replace value next, _ => next.alone value
  | .take _ next, v => (next none).alone v
  | .access _ _ next, v => (next none).alone v

theorem run_lent [DecidableEq κ] {kind : κ} (work : Work V A kind) (v : V kind) :
    work.run .lent v = (work.alone v, .lent) := by
  induction work with
  | answer a => rfl
  | look next ih => exact ih v v
  | replace value next ih => exact ih value
  | take other next ih =>
    rw [run, take_lent]
    exact ih none v
  | access other inner next _ ih =>
    rw [run, access_lent]
    exact ih none v

end Work

/-! ## Cells -/

/-- At most one value, together with its kind. -/
def Cell {κ : Type} (V : κ → Type) : Type := Option (Σ kind, V kind)

namespace Cell

variable [DecidableEq κ]

def get? (kind : κ) : Cell V → Option (V kind)
  | some ⟨held, v⟩ => if same : held = kind then some (same ▸ v) else none
  | none => none

def set (kind : κ) (v : V kind) (_ : Cell V) : Cell V := some ⟨kind, v⟩

def take (kind : κ) (c : Cell V) : Option (V kind) × Cell V :=
  match c.get? kind with
  | some v => (some v, none)
  | none => (none, c)

def access (kind : κ) (work : V kind → A × V kind) (c : Cell V) : Option A × Cell V :=
  match c.get? kind with
  | some v => (some (work v).1, c.set kind (work v).2)
  | none => (none, c)

end Cell

def ofCell : Cell V → Slot V
  | some ⟨kind, v⟩ => .holding kind v
  | none => .empty

variable [DecidableEq κ]

theorem get?_ofCell (kind : κ) (c : Cell V) : (ofCell c).get? kind = c.get? kind := by
  cases c <;> rfl

/-- A kind reaches a value if and only if it is the value's kind. -/
theorem get?_ofCell_eq_some_iff {kind : κ} {c : Cell V} {v : V kind} :
    (ofCell c).get? kind = some v ↔ c = some ⟨kind, v⟩ := by
  match c with
  | none => exact ⟨nofun, nofun⟩
  | some ⟨held, w⟩ =>
    by_cases same : held = kind
    · subst same
      have there : (ofCell (some ⟨held, w⟩)).get? held = some w := get?_holding held w
      rw [there]
      constructor
      · intro e
        rw [Option.some.inj e]
      · intro e
        cases e
        rfl
    · have missing : (ofCell (some ⟨held, w⟩)).get? kind = none := get?_holding_of_ne w same
      rw [missing]
      refine ⟨nofun, fun e => ?_⟩
      cases e
      exact absurd rfl same

theorem take_ofCell (kind : κ) (c : Cell V) :
    (ofCell c).take kind = ((c.take kind).1, ofCell (c.take kind).2) := by
  rw [take, get?_ofCell, Cell.take]
  cases c.get? kind <;> rfl

theorem access_ofCell (kind : κ) (work : Work V A kind) (c : Cell V) :
    ((ofCell c).access kind fun slot v => (work.run slot v).1) =
      ((c.access kind work.alone).1, ofCell (c.access kind work.alone).2) := by
  rw [access, get?_ofCell, Cell.access]
  cases c.get? kind with
  | some v =>
    dsimp only
    rw [work.run_lent]
    rfl
  | none => rfl

/-! ## Runs of a thread -/

/-- One use of the slot outside any other. -/
inductive Use (V : κ → Type) (A : Type) where
  | set (kind : κ) (value : V kind)
  | take (kind : κ)
  | access (kind : κ) (work : Work V A kind)

inductive Reply (V : κ → Type) (A : Type) where
  | done
  | taken (kind : κ) (value : Option (V kind))
  | worked (answer : Option A)

def use (s : Slot V) : Use V A → Reply V A × Slot V
  | .set kind value => (.done, s.set kind value)
  | .take kind => (s.take kind).map (.taken kind) id
  | .access kind work => (s.access kind fun slot v => (work.run slot v).1).map .worked id

def Cell.use (c : Cell V) : Use V A → Reply V A × Cell V
  | .set kind value => (.done, c.set kind value)
  | .take kind => (c.take kind).map (.taken kind) id
  | .access kind work => (c.access kind work.alone).map .worked id

/-- The replies to all uses, and what is left after them. -/
def replies {σ : Type} (use : σ → Use V A → Reply V A × σ) (s : σ) :
    List (Use V A) → List (Reply V A) × σ
  | [] => ([], s)
  | x :: uses =>
    let (reply, s) := use s x
    let (later, s) := replies use s uses
    (reply :: later, s)

theorem use_ofCell (c : Cell V) (x : Use V A) : (ofCell c).use x = ((c.use x).1, ofCell (c.use x).2) := by
  cases x with
  | set kind value => rfl
  | take kind =>
    rw [use, take_ofCell]
    rfl
  | access kind work =>
    rw [use, access_ofCell]
    rfl

theorem replies_ofCell (uses : List (Use V A)) (c : Cell V) :
    replies use (ofCell c) uses =
      ((replies Cell.use c uses).1, ofCell (replies Cell.use c uses).2) := by
  induction uses generalizing c with
  | nil => rfl
  | cons x uses ih =>
    unfold replies
    rw [use_ofCell]
    dsimp only
    rw [ih]

/-- Inside an access every further access and every taking, of whatever kind, gets nothing and leaves the slot
as it is, while the work goes on with its own value. Outside, the replies to any uses and what they leave are
those of one optional value, which a kind reaches if and only if it is the value's kind. -/
theorem acts_as_cell (c : Cell V) (uses : List (Use V A)) :
    (∀ (kind : κ) (work : Work V A kind) (v : V kind), work.run .lent v = (work.alone v, .lent)) ∧
      replies use (ofCell c) uses =
        ((replies Cell.use c uses).1, ofCell (replies Cell.use c uses).2) ∧
      ∀ (kind : κ) (v : V kind),
        (replies use (ofCell c) uses).2.get? kind = some v ↔
          (replies Cell.use c uses).2 = some ⟨kind, v⟩ := by
  have same := replies_ofCell uses c
  refine ⟨fun _ work v => work.run_lent v, same, fun kind v => ?_⟩
  rw [same]
  exact get?_ofCell_eq_some_iff

/-- A work that tries to take its own value gets nothing, and what it put in its place is there afterwards. -/
example :
    let start : Cell fun _ : Bool => Nat := some ⟨true, 1⟩
    let work := .take true fun taken => .replace 2 (.look fun v => .answer (taken, v))
    replies use (ofCell start) [.access true work, .take false, .take true] =
      ([.worked (some (none, 2)), .taken false none, .taken true (some 2)], .empty) := rfl

end Slot

end QuicSessions
