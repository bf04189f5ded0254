import QuicSessions.Proofs.Sessions.Signals

/-!
# Whom a session speaks of

What a session posts is about itself, one of its streams or its connection. That it is there, and that it
is gone, only its dispatcher says.
-/

set_option autoImplicit false

namespace QuicSessions

/-- The session that the listener is told of. -/
def ListenerNews.session : ListenerNews → SessionId
  | ready session _ => session
  | data session _ _ => session
  | fin session _ => session
  | streamClosed session _ => session
  | sessionClosed session => session

namespace Notice

/-- The session that a notice names. -/
def about? : Notice → Option SessionId
  | stream _ h _ => some h.session
  | session _ h _ => some h.id
  | server _ (.session h) => some h.id
  | server _ (.sessionClosed id _) => some id
  | server _ .ended => none
  | client _ (.connected h) => some h.id
  | client _ (.connectionFailed _) => none
  | listener _ news => some news.session

/-- Whether sessions post such a notice, and not only dispatchers. -/
def spoken : Notice → Bool
  | stream _ _ _ => true
  | session _ _ _ => true
  | server _ _ => false
  | client _ _ => false
  | listener _ (.sessionClosed _) => false
  | listener _ _ => true

/-- A notice that the session `id` posts about itself. -/
structure Own (id : SessionId) (n : Notice) : Prop where
  about : n.about? = some id
  spoken : n.spoken = true

/-- The news of a notice for a client visitor. -/
def clientNews? : Notice → Option ClientNews
  | client _ news => some news
  | _ => none

theorem clientNews?_of_spoken {n : Notice} (spoken : n.spoken = true) : n.clientNews? = none := by
  cases n with
  | client v news => cases spoken
  | _ => rfl

end Notice

namespace Session

variable {τ : Type} {a : Audience} {s s' s'' : Session τ}

/-- The session posted some notices about itself. -/
def Spoke (s s' : Session τ) : Prop :=
  s'.id = s.id ∧ ∃ notices, s'.posted = s.posted ++ notices ∧ ∀ n ∈ notices, n.Own s.id

namespace Spoke

theorem of_eq (id : s'.id = s.id) (posted : s'.posted = s.posted) : Spoke s s' :=
  ⟨id, [], by rw [posted, List.append_nil], List.forall_mem_nil _⟩

theorem refl (s : Session τ) : Spoke s s := of_eq rfl rfl

theorem trans (h : Spoke s s') (h' : Spoke s' s'') : Spoke s s'' := by
  obtain ⟨id, notices, posted, own⟩ := h
  obtain ⟨id', notices', posted', own'⟩ := h'
  refine ⟨id'.trans id, notices ++ notices', by rw [posted', posted, List.append_assoc], fun n mem => ?_⟩
  obtain mem | mem := List.mem_append.1 mem
  · exact own n mem
  · exact id ▸ own' n mem

/-- The session changed in other respects before it spoke. -/
theorem of_changed {s₁ : Session τ} (id : s₁.id = s.id) (posted : s₁.posted = s.posted)
    (h : Spoke s₁ s') : Spoke s s' := (of_eq id posted).trans h

theorem post {notices : List Notice} (own : ∀ n ∈ notices, n.Own s.id) : Spoke s (s.post a notices) := by
  refine ⟨rfl, a.heard notices, rfl, fun n mem => own n ?_⟩
  unfold Audience.heard at mem
  split at mem
  · exact mem
  · cases mem

end Spoke

/-! ## What is posted -/

theorem own_visitorNotice (s : Session τ) (news : SessionNews) : ∀ n ∈ s.visitorNotice news, n.Own s.id := by
  intro n mem
  obtain ⟨v, rfl⟩ := mem_visitorNotice s mem
  exact ⟨rfl, rfl⟩

theorem own_tellListener {id : SessionId} {news : ListenerNews}
    (own : ∀ l, (Notice.listener l news).Own id) : ∀ n ∈ a.tellListener news, n.Own id := by
  intro n mem
  obtain ⟨l, rfl⟩ := mem_tellListener a mem
  exact own l

theorem own_streamClosedNotices (s : Session τ) (x : LiveStream) :
    ∀ n ∈ s.streamClosedNotices a x, n.Own s.id := by
  intro n mem
  rw [streamClosedNotices_eq] at mem
  obtain ⟨v, -, rfl⟩ | ⟨v, -, rfl⟩ | ⟨l, -, rfl⟩ := (mem_lastNews a).1 mem <;> exact ⟨rfl, rfl⟩

theorem own_passNotices (s : Session τ) (x : LiveStream) (pass : ReadPass) (fin : Bool) :
    ∀ n ∈ s.passNotices a x pass fin, n.Own s.id := by
  intro n mem
  unfold passNotices at mem
  split at mem
  · obtain mem | mem := List.mem_append.1 mem
    · obtain ⟨bytes, -, rfl⟩ := List.mem_map.1 mem
      exact ⟨rfl, rfl⟩
    · split at mem
      · obtain rfl := List.mem_singleton.1 mem
        exact ⟨rfl, rfl⟩
      · cases mem
  · obtain mem | mem := List.mem_append.1 mem
    · obtain ⟨bytes, -, mem⟩ := List.mem_flatMap.1 mem
      exact own_tellListener (fun l => ⟨rfl, rfl⟩) n mem
    · split at mem
      · exact own_tellListener (fun l => ⟨rfl, rfl⟩) n mem
      · cases mem

namespace Spoke

theorem visitor (s : Session τ) (news : SessionNews) : Spoke s (s.tellVisitor a news) :=
  .post (own_visitorNotice s news)

theorem canCreate (s : Session τ) : Spoke s (s.tellCanCreate a) := by
  have first : Spoke s (s.tellVisitor a (.canCreate .bi)) := .visitor s _
  unfold tellCanCreate
  dsimp only
  split
  · exact first.trans (.visitor _ _)
  · exact first

theorem announce (s : Session τ) (id : StreamId) : Spoke s (s.announce a id) := by
  unfold Session.announce
  split
  · exact .visitor s _
  · exact .of_eq rfl rfl

theorem announces (missed : List StreamId) (s : Session τ) :
    Spoke s (missed.foldl (fun s id => if s.streams.contains id then s.announce a id else s) s) := by
  induction missed generalizing s with
  | nil => exact .refl s
  | cons id missed ih =>
    refine Spoke.trans ?_ (ih _)
    dsimp only
    split
    · exact .announce s id
    · exact .refl s

theorem setVisitor (s : Session τ) (v : SessionVisitor) : Spoke s (s.setVisitor a v) := by
  unfold Session.setVisitor
  dsimp only
  refine Spoke.trans ?_ (announces ..)
  split
  · exact (Spoke.of_changed rfl rfl (canCreate { s with visitor := some v })).trans (.of_eq rfl rfl)
  · exact .of_eq rfl rfl

theorem conclude (s : Session τ) (reason : CloseReason) : Spoke s (s.conclude a reason) := by
  by_cases closed : s.state = .closed
  · rw [conclude_of_closed a closed]
    exact .refl s
  · refine ⟨by rw [conclude_eq a closed], _, posted_conclude a closed reason, fun n mem => ?_⟩
    unfold Audience.heard at mem
    split at mem
    · obtain mem | mem := List.mem_append.1 mem
      · obtain ⟨x, -, mem⟩ := List.mem_flatMap.1 mem
        exact own_streamClosedNotices s x n mem
      · exact own_visitorNotice s _ n mem
    · cases mem

theorem takeIn (s : Session τ) (id : StreamId) : Spoke s (s.afterTakeIn a id) := by
  have announced : Spoke s ((s.insertStream id).announce a id) := .of_changed rfl rfl (.announce _ id)
  unfold afterTakeIn
  exact announced.trans (.post (own_tellListener fun l => ⟨rfl, rfl⟩))

variable [Transport τ]

theorem deliver (s : Session τ) (id : StreamId) : Spoke s (s.deliver a id) := by
  unfold Session.deliver
  split
  · exact .refl s
  · split
    · exact .refl s
    · exact .of_changed rfl rfl (.post (own_passNotices s _ _ _))

theorem traffic (h : Traffic a s s') : Spoke s s' := by
  cases h with
  | ask asked => exact .of_eq rfl rfl
  | deliver id => exact .deliver s id
  | setStreamVisitor id v =>
    unfold Session.setStreamVisitor
    split
    · exact .of_changed rfl rfl (.deliver _ id)
    · exact .refl s
  | read id limit =>
    unfold streamRead
    split
    · exact .refl s
    · exact .of_changed rfl rfl (.post (own_passNotices s _ _ _))
  | write id data fin =>
    unfold streamWrite
    split
    · exact .refl s
    · exact .of_eq rfl rfl
  | closeStream id =>
    unfold streamClose
    split
    · exact .refl s
    · exact .of_eq rfl rfl
  | writable id =>
    cases found : s.streams.get? id with
    | none =>
      rw [streamWritable_of_absent found]
      exact .refl s
    | some x =>
      obtain ⟨notices, none_told | ⟨v, told⟩, e⟩ := streamWritable_cases (a := a) found
      · rw [e, none_told, List.append_nil]
        exact .of_eq rfl rfl
      · rw [e, told]
        refine .of_changed rfl rfl (.post fun n mem => ?_)
        obtain rfl := List.mem_singleton.1 mem
        exact ⟨rfl, rfl⟩
  | acknowledged id => exact .of_eq rfl rfl
  | stopped id => exact .of_eq rfl rfl

theorem deed (h : Deed a s s') : Spoke s s' := by
  cases h with
  | traffic h => exact .traffic h
  | start h =>
    rw [(start_cases h).2]
    exact .of_eq rfl rfl
  | beginHandshake now h =>
    obtain ⟨-, e⟩ | ⟨-, -, e⟩ := beginHandshake_cases h <;> rw [e] <;> exact .of_eq rfl rfl
  | openStream gate h => exact .of_changed rfl rfl (.post (own_tellListener fun l => ⟨rfl, rfl⟩))
  | noCredit gate h => exact .of_eq rfl rfl
  | credit dir =>
    unfold afterCredit
    dsimp only
    split
    · exact .of_changed rfl rfl (.visitor _ _)
    · exact .of_eq rfl rfl
  | drop h spent => exact .of_changed rfl rfl (.post (own_streamClosedNotices s _))
  | conclude reason => exact .conclude s reason
  | handshakeComplete =>
    let ended : Session τ := { s with
      encrypted := true
      handshakeDeadline := none
      state := s.state.afterHandshake }
    have told : Spoke s (ended.tellCanCreate a) := (of_eq rfl rfl).trans (canCreate ended)
    exact told.trans (of_eq rfl rfl)
  | receiveGoaway =>
    unfold Session.receiveGoaway
    split
    · exact .refl s
    · exact .of_changed rfl rfl (.visitor _ _)
  | setVisitor v => exact .setVisitor s v
  | setRespectGoaway respect => exact .of_eq rfl rfl
  | takeSignals => exact .of_eq rfl rfl
  | rebase now => exact .of_eq rfl rfl

theorem act (h : Act a s s') : Spoke s s' := by
  cases h with
  | deed h => exact .deed h
  | takeIn h => exact .takeIn s _

end Spoke

variable [Transport τ]

/-- Everything that was posted and not yet collected is the session's own. -/
def Discreet (s : Session τ) : Prop := ∀ n ∈ s.posted, n.Own s.id

theorem kept_discreet : Kept (Discreet (τ := τ)) where
  act act discreet := by
    obtain ⟨id, notices, posted, own⟩ := Spoke.act act
    intro n mem
    rw [posted] at mem
    rw [id]
    obtain mem | mem := List.mem_append.1 mem
    · exact discreet n mem
    · exact own n mem
  transport _ _ discreet := discreet
  collect _ _ := List.forall_mem_nil _

/-- A session whose notices were collected posts nothing but its own. -/
theorem own_run {s : Session τ} (named : Named s) (collected : s.posted = []) (steps : List (Step τ)) :
    ∀ n ∈ (s.run steps).posted, n.Own s.id := by
  have discreet : Discreet s := fun n mem => by rw [collected] at mem; cases mem
  have kept := kept_discreet.run named discreet steps
  rw [← (sameSession_run named steps).id]
  exact kept

theorem own_step {s : Session τ} (named : Named s) (x : Step τ) : ∀ n ∈ told s (s.step x), n.Own s.id := by
  obtain ⟨a, acts⟩ | ⟨t, moved⟩ | emptied := step_cases named x
  · obtain ⟨-, notices, posted, own⟩ : Spoke s (s.step x) :=
      acts.keep (fun _ _ act spoke => spoke.trans (.act act)) (.refl s)
    rw [told_of_append posted]
    exact own
  · have same : (s.step x).posted = s.posted := by rw [moved]
    rw [told_of_same same]
    exact List.forall_mem_nil _
  · rw [emptied]
    unfold told
    rw [List.drop_nil]
    exact List.forall_mem_nil _

/-- So it does in all of its steps. -/
theorem own_toldOf {s : Session τ} (named : Named s) (steps : List (Step τ)) :
    ∀ n ∈ s.toldOf steps, n.Own s.id := by
  induction steps generalizing s with
  | nil => exact fun n mem => absurd mem List.not_mem_nil
  | cons x steps ih =>
    have rest := ih (named_run named [x])
    rw [(sameSession_run named [x]).id] at rest
    intro n mem
    obtain here | later := List.mem_append.1 mem
    · exact own_step named x n here
    · exact rest n later

end Session

end QuicSessions
