import QuicSessions.Proofs.Sessions.Stages

/-!
# Sessions that make no mistakes

The one mistake in opening a stream and in taking reports is to do it before a session is begun. A session that
is begun takes in whatever its transport has for it.
-/

set_option autoImplicit false

namespace QuicSessions.Session

variable {τ : Type} [Transport τ] {s : Session τ} (a : Audience) (now : Instant)

theorem openStream_of_begun (begun : s.state ≠ .created) (dir : Dir) :
    ∃ r s', s.openStream a dir = .ok (r, s') := by
  have gate : s.gate dir = .ok (s.refusal? dir) := if_neg begun
  unfold openStream
  rw [gate]
  cases s.refusal? dir with
  | some refusal => exact ⟨_, _, rfl⟩
  | none =>
    dsimp only [bind, Except.bind]
    cases Transport.openStream dir s.transport <;> exact ⟨_, _, rfl⟩

theorem screen_of_begun (begun : s.state ≠ .created) (id : StreamId) :
    ∃ refusal s', s.screen a now id = .ok (refusal, s') := by
  unfold screen
  rw [if_neg begun]
  split
  · exact ⟨_, _, rfl⟩
  split
  · exact ⟨_, _, rfl⟩
  split
  · exact ⟨_, _, rfl⟩
  split
  · exact ⟨_, _, rfl⟩
  · exact ⟨_, _, rfl⟩

theorem createIncoming_of_begun (begun : s.state ≠ .created) (id : StreamId) :
    ∃ stream s', s.createIncoming a now id = .ok (stream, s') := by
  obtain ⟨refusal, s', screened⟩ := screen_of_begun a now begun id
  unfold createIncoming
  rw [screened]
  split
  · exact ⟨_, _, rfl⟩
  · cases refusal with
    | none => exact ⟨_, _, rfl⟩
    | some refusal => cases refusal <;> exact ⟨_, _, rfl⟩

theorem acceptPending_of_begun (begun : s.state ≠ .created) (dir : Dir) :
    ∃ s', s.acceptPending a now dir = .ok s' := by
  fun_induction acceptPending a now dir s with
  | case1 s none_waits => exact ⟨s, rfl⟩
  | case2 s id t waits fault failed =>
    obtain ⟨stream, s', created⟩ := createIncoming_of_begun (s := { s with transport := t }) a now begun id
    rw [failed] at created
    cases created
  | case3 s id t waits r s₁ taken closed => exact ⟨s₁, rfl⟩
  | case4 s id t waits r s₁ taken opened less ih =>
    have acts : Acts a { s with transport := t } s₁ := acts_createIncoming a now taken
    exact ih (kept_begun.acts acts begun)
  | case5 s id t waits r s₁ taken opened full => exact ⟨s₁, rfl⟩

theorem react_of_begun (begun : s.state ≠ .created) (e : Event) : ∃ s', s.react a now e = .ok s' := by
  cases e with
  | opened dir => exact acceptPending_of_begun a now begun dir
  | _ => exact ⟨_, rfl⟩

/-- A session that is begun takes every report that waits. -/
theorem process_of_begun (begun : s.state ≠ .created) : ∃ s', s.process a now = .ok s' := by
  fun_induction process a now s with
  | case1 s none_waits => exact ⟨s, rfl⟩
  | case2 s e t waits fault failed =>
    obtain ⟨s', reacted⟩ := react_of_begun (s := { s with transport := t }) a now begun e
    rw [failed] at reacted
    cases reacted
  | case3 s e t waits s₁ reacted less ih =>
    have acts : Acts a { s with transport := t } s₁ := (course_react a now reacted).acts
    exact ih (kept_begun.acts acts begun)
  | case4 s e t waits s₁ reacted full => exact ⟨s₁, rfl⟩

end QuicSessions.Session
