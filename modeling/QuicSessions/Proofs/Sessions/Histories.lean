import QuicSessions.Proofs.Sessions.Runs

/-!
# What becomes of a session

The owner of a session lets it act, moves its transport and collects what it posted. One session
becomes another if any number of these turns lead there. Which turns an owner takes is left open.
-/

set_option autoImplicit false

namespace QuicSessions.Session

variable {τ : Type} [Transport τ]

/-- One turn of a session: it acts, its transport moves, or what it posted is collected. -/
inductive Turn (s : Session τ) : Session τ → Prop where
  | act {a : Audience} {s' : Session τ} (h : Act a s s') : Turn s s'
  | transport (t : τ) : Turn s { s with transport := t }
  | collect : Turn s { s with posted := [] }

/-- Any number of turns, one after the other. -/
def Becomes : Session τ → Session τ → Prop := Relation.ReflTransGen Turn

namespace Becomes

variable {s s' s'' : Session τ}

theorem refl (s : Session τ) : Becomes s s := Relation.ReflTransGen.refl

theorem trans (h : Becomes s s') (h' : Becomes s' s'') : Becomes s s'' :=
  Relation.ReflTransGen.trans h h'

theorem acts {a : Audience} (h : Acts a s s') : Becomes s s' :=
  Relation.ReflTransGen.mono (fun _ _ act => .act act) _ _ h

theorem transport (s : Session τ) (t : τ) : Becomes s { s with transport := t } :=
  Relation.ReflTransGen.single (.transport t)

theorem collect (s : Session τ) : Becomes s { s with posted := [] } :=
  Relation.ReflTransGen.single .collect

end Becomes

theorem Kept.becomes {P : Session τ → Prop} (kept : Kept P) {s s' : Session τ} (h : Becomes s s')
    (hs : P s) : P s' := by
  induction h with
  | refl => exact hs
  | tail _ turn ih =>
    cases turn with
    | act act => exact kept.act act ih
    | transport t => exact kept.transport _ t ih
    | collect => exact kept.collect _ ih

theorem Becomes.named {s s' : Session τ} (h : Becomes s s') (named : Named s) : Named s' :=
  kept_named.becomes h named

theorem Becomes.sameSession {s s' : Session τ} (h : Becomes s s') : SameSession s s' :=
  (kept_sameSession s).becomes h (.refl s)

/-! ## Several operations at once -/

/-- Carries out operations one after the other; the first mistake ends it. -/
def operate (a : Audience) (now : Instant) : List Operation → Session τ → Except Fault (Session τ)
  | [], s => .ok s
  | op :: ops, s => do
    let (_, s) ← op.run a now s
    operate a now ops s

theorem acts_operate {a : Audience} {now : Instant} {ops : List Operation} {s s' : Session τ}
    (named : Named s) (h : s.operate a now ops = .ok s') : Acts a s s' := by
  induction ops generalizing s with
  | nil => exact Except.ok.inj h ▸ .refl s
  | cons op ops ih =>
    obtain ⟨⟨r, s₁⟩, done, h⟩ := ok_of_bind h
    have first : Acts a s s₁ := acts_run a now named done
    exact first.trans (ih (kept_named.acts first named) h)

end QuicSessions.Session
