/-!
# The slot of a thread

A worker thread keeps at most one value for the tasks that run on it. The value is of one of several
kinds, and a task must name the kind to get at it: with another kind, with nothing there, or while an
access is already under way, it gets nothing and changes nothing.
-/

set_option autoImplicit false

namespace QuicSessions

/-- At most one value, of one of the kinds `κ`. -/
inductive Slot {κ : Type} (V : κ → Type) where
  | empty
  | holding (kind : κ) (value : V kind)
  /-- An access is under way. -/
  | lent

namespace Slot

variable {κ : Type} {V : κ → Type}

/-- Puts a value in, in place of whatever was there. -/
def set (kind : κ) (value : V kind) (_ : Slot V) : Slot V := .holding kind value

variable [DecidableEq κ]

/-- The value, if it is there and of this kind. -/
def get? (kind : κ) (s : Slot V) : Option (V kind) :=
  match s with
  | .holding k v => if h : k = kind then some (h ▸ v) else none
  | .empty => none
  | .lent => none

/-- Takes the value out, if it is of this kind. -/
def take (kind : κ) (s : Slot V) : Option (V kind) × Slot V :=
  match s.get? kind with
  | some v => (some v, .empty)
  | none => (none, s)

/-- Works on the value, if it is of this kind. The work finds the slot lent. -/
def access {α : Type} (kind : κ) (work : Slot V → V kind → α × V kind) (s : Slot V) :
    Option α × Slot V :=
  match s.get? kind with
  | some v =>
    let (r, v) := work .lent v
    (some r, .holding kind v)
  | none => (none, s)

/-! ## Lemmas -/

@[simp] theorem get?_empty (kind : κ) : (empty : Slot V).get? kind = none := rfl

@[simp] theorem get?_lent (kind : κ) : (lent : Slot V).get? kind = none := rfl

@[simp] theorem get?_holding (kind : κ) (v : V kind) : (holding kind v : Slot V).get? kind = some v := by
  simp [get?]

theorem get?_holding_of_ne {kind other : κ} (v : V kind) (h : kind ≠ other) :
    (holding kind v : Slot V).get? other = none := by
  simp [get?, h]

theorem take_lent (kind : κ) : (lent : Slot V).take kind = (none, .lent) := rfl

theorem access_lent {α : Type} (kind : κ) (work : Slot V → V kind → α × V kind) :
    (lent : Slot V).access kind work = (none, .lent) := rfl

end Slot

end QuicSessions
