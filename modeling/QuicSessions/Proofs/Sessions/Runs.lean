import QuicSessions.Proofs.Sessions.Effects

/-!
# Runs of a session

A session lives through operations, reports, moves of its transport and collections of what it
posted, in any order. A mistake leaves it as it was. What every act keeps, and what neither a move of
the transport nor a collection disturbs, holds after every run.
-/

set_option autoImplicit false

namespace QuicSessions.Session

variable {τ : Type} [Transport τ]

/-- The stream that an operation took in because it was asked to. -/
def Operation.tookIn (op : Operation) (answer : Answer) : List StreamId :=
  match op, answer with
  | .createIncoming id, .stream (some _) => [id]
  | _, _ => []

/-- Something that happens to a session. -/
inductive Step (τ : Type) where
  /-- An operation is asked for. -/
  | operate (a : Audience) (now : Instant) (op : Operation)
  /-- One report of the transport is handled. -/
  | report (a : Audience) (now : Instant) (e : Event)
  /-- The transport moves by itself, or its endpoint moves it. -/
  | transport (t : τ)
  /-- The owner takes over what was posted. -/
  | collect

/-- The session after a step. -/
def step (s : Session τ) : Step τ → Session τ
  | .operate a now op =>
    match op.run a now s with
    | .ok (_, s') => s'
    | .error _ => s
  | .report a now e =>
    match s.react a now e with
    | .ok s' => s'
    | .error _ => s
  | .transport t => { s with transport := t }
  | .collect => { s with posted := [] }

/-- The session after steps taken one after the other. -/
def run (s : Session τ) (steps : List (Step τ)) : Session τ := steps.foldl step s

theorem run_append (s : Session τ) (before after : List (Step τ)) :
    s.run (before ++ after) = (s.run before).run after := List.foldl_append

/-- A step is a sequence of acts, a move of the transport or a collection. -/
theorem step_cases {s : Session τ} (named : Named s) (x : Step τ) :
    (∃ a, Acts a s (s.step x)) ∨ (∃ t, s.step x = { s with transport := t }) ∨
      s.step x = { s with posted := [] } := by
  cases x with
  | operate a now op =>
    refine .inl ⟨a, ?_⟩
    unfold step
    dsimp only
    split
    · rename_i done
      exact acts_run a now named done
    · exact .refl s
  | report a now e =>
    refine .inl ⟨a, ?_⟩
    unfold step
    dsimp only
    split
    · rename_i done
      exact (course_react a now done).acts
    · exact .refl s
  | transport t => exact .inr (.inl ⟨t, rfl⟩)
  | collect => exact .inr (.inr rfl)

/-- What acts, moves of the transport and collections keep. -/
structure Kept (P : Session τ → Prop) : Prop where
  act : ∀ {a : Audience} {s s' : Session τ}, Act a s s' → P s → P s'
  transport : ∀ (s : Session τ) (t : τ), P s → P { s with transport := t }
  collect : ∀ s : Session τ, P s → P { s with posted := [] }

theorem kept_named : Kept (Named (τ := τ)) :=
  ⟨named_act _, fun _ _ named => named, fun _ named => named⟩

namespace Kept

variable {P : Session τ → Prop} (kept : Kept P)
include kept

theorem acts {a : Audience} {s s' : Session τ} (h : Acts a s s') (hs : P s) : P s' :=
  h.keep (fun _ _ => kept.act) hs

theorem step {s : Session τ} (named : Named s) (hs : P s) (x : Step τ) : P (s.step x) := by
  obtain ⟨a, h⟩ | ⟨t, h⟩ | h := step_cases named x
  · exact kept.acts h hs
  · exact h ▸ kept.transport s t hs
  · exact h ▸ kept.collect s hs

theorem run {s : Session τ} (named : Named s) (hs : P s) (steps : List (Step τ)) :
    P (s.run steps) := by
  induction steps generalizing s with
  | nil => exact hs
  | cons x steps ih => exact ih (kept_named.step named named x) (kept.step named hs x)

end Kept

theorem named_run {s : Session τ} (named : Named s) (steps : List (Step τ)) : Named (s.run steps) :=
  kept_named.run named named steps

theorem kept_sameSession (s : Session τ) : Kept (SameSession s) where
  act act same := same.trans (sameSession_act _ act)
  transport _ _ same := ⟨same.id, same.connection, same.side, same.options⟩
  collect _ same := ⟨same.id, same.connection, same.side, same.options⟩

/-- A session keeps its number, its connection, its side and its options. -/
theorem sameSession_run {s : Session τ} (named : Named s) (steps : List (Step τ)) :
    SameSession s (s.run steps) :=
  (kept_sameSession s).run named (.refl s) steps

end QuicSessions.Session
