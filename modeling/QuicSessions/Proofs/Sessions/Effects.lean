import Mathlib.Data.List.Infix
import QuicSessions.Proofs.Sessions.Acts

/-!
# What single acts change

For each act that changes more than one stream: which fields it sets, and to what. Most acts change
nothing but how the session stands, and post news for nobody but the session visitor. Every act leaves
a session the same identity, and each stream in the table under its own identifier.
-/

set_option autoImplicit false

namespace QuicSessions

/-- News that a stream or the connection is over. -/
def SessionNews.parting : SessionNews → Bool
  | streamClosed _ => true
  | connectionClosed _ => true
  | _ => false

namespace Session

variable {τ : Type} (a : Audience)

/-! ## Fields -/

theorem conclude_of_closed {s : Session τ} (h : s.state = .closed) (reason : CloseReason) :
    s.conclude a reason = s := if_pos h

theorem conclude_eq {s : Session τ} (h : s.state ≠ .closed) (reason : CloseReason) :
    s.conclude a reason = { s with
      state := .closed
      handshakeDeadline := none
      streams := .empty
      unannounced := []
      signals := s.signals ++ [.closed reason (!s.encrypted)]
      posted := (s.conclude a reason).posted } := by
  unfold conclude
  rw [if_neg h]
  dsimp only
  rw [foldl_tellStreamClosed_eq]
  rfl

theorem handshakeComplete_eq (s : Session τ) :
    s.handshakeComplete a = { s with
      encrypted := true
      handshakeDeadline := none
      state := s.state.afterHandshake
      signals := s.signals ++ [.connected]
      posted := (s.handshakeComplete a).posted } := by
  unfold handshakeComplete
  dsimp only
  rw [tellCanCreate_eq]

theorem receiveGoaway_of_received {s : Session τ} (h : s.goawayReceived = true) :
    s.receiveGoaway a = s := if_pos h

theorem receiveGoaway_eq {s : Session τ} (h : s.goawayReceived = false) :
    s.receiveGoaway a = { s with
      goawayReceived := true
      state := if s.state = .active then .draining else s.state
      posted := (s.receiveGoaway a).posted } := by
  unfold receiveGoaway
  rw [if_neg (by rw [h]; exact Bool.false_ne_true)]
  rfl

theorem afterCredit_eq (dir : Dir) (s : Session τ) :
    s.afterCredit a dir = { s with
      blocked := s.blocked.set dir false
      posted := (s.afterCredit a dir).posted } := by
  unfold afterCredit
  dsimp only
  split <;> rfl

theorem announce_of_visitor {s : Session τ} (h : s.visitor.isSome = true) (id : StreamId) :
    s.announce a id = s.tellVisitor a (.incomingStream (s.streamHandle id)) := if_pos h

theorem announce_of_nobody {s : Session τ} (h : s.visitor = none) (id : StreamId) :
    s.announce a id = { s with unannounced := s.unannounced.filter (· ≠ id) ++ [id] } := by
  unfold announce
  rw [h]
  rfl

/-- With a visitor installed, announcing what it missed only posts. -/
theorem foldl_announce_eq (missed : List StreamId) {s : Session τ} (h : s.visitor.isSome = true) :
    missed.foldl (fun s id => if s.streams.contains id then s.announce a id else s) s =
      { s with posted := (missed.foldl (fun s id =>
        if s.streams.contains id then s.announce a id else s) s).posted } := by
  induction missed generalizing s with
  | nil => rfl
  | cons id missed ih =>
    rw [List.foldl_cons]
    by_cases present : s.streams.contains id = true
    · rw [if_pos present, announce_of_visitor a h, ih (by exact h)]
      rfl
    · rw [if_neg present]
      exact ih h

theorem setVisitor_eq (v : SessionVisitor) (s : Session τ) :
    s.setVisitor a v = { s with
      visitor := some v
      unannounced := []
      posted := (s.setVisitor a v).posted } := by
  unfold setVisitor
  dsimp only
  split
  · rw [tellCanCreate_eq, foldl_announce_eq a _ (by rfl)]
  · rw [foldl_announce_eq a _ (by rfl)]

/-- Taking a stream in puts it into the table; if nobody can be told, it is kept to be told later. -/
theorem afterTakeIn_eq (id : StreamId) (s : Session τ) :
    s.afterTakeIn a id = { s with
      streams := s.streams.insert id (.new id (.of id s.side) s.options.buffer)
      unannounced :=
        if s.visitor.isSome then s.unannounced else s.unannounced.filter (· ≠ id) ++ [id]
      posted := (s.afterTakeIn a id).posted } := by
  unfold afterTakeIn
  by_cases h : s.visitor.isSome = true
  · rw [announce_of_visitor a (by exact h), if_pos h]
    rfl
  · rw [Bool.not_eq_true, Option.isSome_eq_false_iff, Option.isNone_iff_eq_none] at h
    rw [announce_of_nobody a (by exact h), if_neg (by rw [h]; exact Bool.false_ne_true)]
    rfl

/-! ## Starting -/

theorem start_cases {s s' : Session τ} (h : s.start = .ok s') :
    s.state = .created ∧ s' = { s with state := .initialized } := by
  unfold start at h
  split at h
  · exact ⟨‹_›, (Except.ok.inj h).symm⟩
  · cases h

/-- The handshake begins once; on a client it gets a deadline if it is to be over in time. -/
theorem beginHandshake_cases {now : Instant} {s s' : Session τ} (h : s.beginHandshake now = .ok s') :
    (s.state = .initialized ∧ s' = { s with
      state := .handshakeInProgress
      handshakeDeadline :=
        if s.side.isClient then s.options.handshakeTimeout.map fun d => now + d.toNanos
        else none }) ∨
    (s.state ≠ .created ∧ s.state ≠ .initialized ∧ s' = s) := by
  unfold beginHandshake at h
  split at h
  · cases h
  split at h
  · dsimp only at h
    generalize (if s.side.isClient = true then
      s.options.handshakeTimeout.map fun d => now + d.toNanos else none) = deadline at h ⊢
    split at h
    · exact .inl ⟨‹_›, (Except.ok.inj h).symm⟩
    · cases h
  · exact .inr ⟨‹_›, ‹_›, (Except.ok.inj h).symm⟩

/-! ## Identity -/

/-- What a session is from its making on. -/
structure SameSession (s s' : Session τ) : Prop where
  id : s'.id = s.id
  connection : s'.connection = s.connection
  side : s'.side = s.side
  options : s'.options = s.options

namespace SameSession

variable {s s' s'' : Session τ}

theorem refl (s : Session τ) : SameSession s s := ⟨rfl, rfl, rfl, rfl⟩

theorem trans (h : SameSession s s') (h' : SameSession s' s'') : SameSession s s'' :=
  ⟨h'.id.trans h.id, h'.connection.trans h.connection, h'.side.trans h.side,
    h'.options.trans h.options⟩

end SameSession

theorem Quiet.sameSession {s s' : Session τ} (h : Quiet s s') : SameSession s s' := by
  rw [h.eq]
  exact ⟨rfl, rfl, rfl, rfl⟩

/-! ## News for the session visitor -/

/-- Nobody is told anything but the session visitor, and nothing of an end. -/
def Aside (s s' : Session τ) : Prop :=
  ∃ notices : List Notice, s'.posted = s.posted ++ notices ∧
    ∀ n ∈ notices, ∃ v h news, n = .session v h news ∧ news.parting = false

namespace Aside

variable {s s' s'' : Session τ}

theorem of_posted (h : s'.posted = s.posted) : Aside s s' :=
  ⟨[], by rw [h, List.append_nil], fun _ mem => by cases mem⟩

theorem trans (h : Aside s s') (h' : Aside s' s'') : Aside s s'' := by
  obtain ⟨notices, posted, to_visitor⟩ := h
  obtain ⟨notices', posted', to_visitor'⟩ := h'
  refine ⟨notices ++ notices', by rw [posted', posted, List.append_assoc], fun n mem => ?_⟩
  obtain mem | mem := List.mem_append.1 mem
  · exact to_visitor n mem
  · exact to_visitor' n mem

theorem grows (h : Aside s s') : s.posted <+: s'.posted := by
  obtain ⟨notices, posted, -⟩ := h
  exact ⟨notices, posted.symm⟩

end Aside

section Visitor

variable (s : Session τ)

theorem mem_of_heard {n : Notice} {notices : List Notice} (h : n ∈ a.heard notices) : n ∈ notices := by
  unfold Audience.heard at h
  split at h
  · exact h
  · cases h

theorem mem_visitorNotice {n : Notice} {news : SessionNews} (h : n ∈ s.visitorNotice news) :
    ∃ v, n = .session v s.sessionHandle news := by
  unfold visitorNotice at h
  split at h
  · exact ⟨_, List.mem_singleton.1 h⟩
  · cases h

theorem aside_tellVisitor {news : SessionNews} (goesOn : news.parting = false) :
    Aside s (s.tellVisitor a news) := by
  refine ⟨a.heard (s.visitorNotice news), rfl, fun n mem => ?_⟩
  obtain ⟨v, rfl⟩ := mem_visitorNotice s (mem_of_heard a mem)
  exact ⟨v, _, _, rfl, goesOn⟩

theorem aside_tellCanCreate : Aside s (s.tellCanCreate a) := by
  have first : Aside s (s.tellVisitor a (.canCreate .bi)) := aside_tellVisitor a s rfl
  unfold tellCanCreate
  dsimp only
  split
  · exact first.trans (aside_tellVisitor a _ rfl)
  · exact first

theorem aside_handshakeComplete : Aside s (s.handshakeComplete a) := by
  exact aside_tellCanCreate a { s with
    encrypted := true
    handshakeDeadline := none
    state := s.state.afterHandshake }

theorem aside_receiveGoaway : Aside s (s.receiveGoaway a) := by
  unfold receiveGoaway
  split
  · exact .of_posted rfl
  · exact aside_tellVisitor a _ rfl

theorem aside_afterCredit (dir : Dir) : Aside s (s.afterCredit a dir) := by
  unfold afterCredit
  dsimp only
  split
  · exact aside_tellVisitor a _ rfl
  · exact .of_posted rfl

theorem aside_announce (id : StreamId) : Aside s (s.announce a id) := by
  unfold announce
  split
  · exact aside_tellVisitor a _ rfl
  · exact .of_posted rfl

theorem aside_foldl_announce (missed : List StreamId) (s : Session τ) :
    Aside s (missed.foldl (fun s id => if s.streams.contains id then s.announce a id else s) s) := by
  induction missed generalizing s with
  | nil => exact .of_posted rfl
  | cons id missed ih =>
    refine Aside.trans ?_ (ih _)
    dsimp only
    split
    · exact aside_announce ..
    · exact .of_posted rfl

theorem aside_setVisitor (v : SessionVisitor) : Aside s (s.setVisitor a v) := by
  unfold setVisitor
  dsimp only
  refine Aside.trans ?_ (aside_foldl_announce ..)
  split
  · exact aside_tellCanCreate a { s with visitor := some v }
  · exact .of_posted rfl

end Visitor

/-! ## The standing of a session -/

/-- Only how the session stands changes: not what it is, its transport, its streams or how many it
opened. Nobody is told but its visitor. -/
structure Steady (s s' : Session τ) : Prop where
  same : SameSession s s'
  transport : s'.transport = s.transport
  streams : s'.streams = s.streams
  opened : s'.opened = s.opened
  aside : Aside s s'

theorem Steady.refl (s : Session τ) : Steady s s := ⟨.refl s, rfl, rfl, rfl, .of_posted rfl⟩

/-! ## Names of streams -/

theorem named_insert {s s' : Session τ} {id : StreamId} {d : Directionality} {limit : Nat}
    (h : s'.streams = s.streams.insert id (.new id d limit)) (named : Named s) : Named s' := by
  intro j x found
  rw [h, Table.get?_insert] at found
  split at found
  · rename_i e
    rw [← Option.some.inj found, e]
    rfl
  · exact named j x found

theorem named_erase {s s' : Session τ} {id : StreamId} (h : s'.streams = s.streams.erase id)
    (named : Named s) : Named s' := by
  intro j x found
  rw [h, Table.get?_erase] at found
  split at found
  · cases found
  · exact named j x found

theorem named_empty {s : Session τ} (h : s.streams = .empty) : Named s := by
  intro j x found
  rw [h, Table.get?_empty] at found
  cases found

/-! ## Every act -/

variable [Transport τ]

theorem Traffic.quiet {a : Audience} {s s' : Session τ} (h : Traffic a s s') : Quiet s s' := by
  cases h with
  | ask h => exact ⟨rfl, rfl, fun named => named⟩
  | deliver id => exact quiet_deliver a id s
  | read id limit => exact quiet_streamRead a id limit s
  | write id data fin => exact quiet_streamWrite id data fin s
  | closeStream id => exact quiet_streamClose id s
  | writable id => exact quiet_streamWritable a id s
  | setStreamVisitor id v => exact quiet_setStreamVisitor a id v s
  | acknowledged id => exact .updateWith s id _ fun _ => rfl
  | stopped id => exact .updateWith s id _ fun _ => rfl

/-- Most deeds change nothing but how the session stands. Of the others, each does one thing. -/
theorem deed_cases {s s' : Session τ} (h : Deed a s s') :
    Traffic a s s' ∨ Steady s s' ∨
      (∃ dir id t, s.refusal? dir = none ∧ Transport.openStream dir s.transport = some (id, t) ∧
        s' = s.afterOpen a dir id t) ∨
      (∃ x, s.streams.get? x.id = some x ∧ x.spent = true ∧ s' = s.dropStream a x) ∨
      (∃ reason, s.state ≠ .closed ∧ s' = s.conclude a reason) := by
  cases h with
  | traffic h => exact .inl h
  | openStream gate h => exact .inr (.inr (.inl ⟨_, _, _, gate, h, rfl⟩))
  | drop h spent => exact .inr (.inr (.inr (.inl ⟨_, h, spent, rfl⟩)))
  | conclude reason =>
    by_cases closed : s.state = .closed
    · rw [conclude_of_closed a closed]
      exact .inr (.inl (.refl s))
    · exact .inr (.inr (.inr (.inr ⟨reason, closed, rfl⟩)))
  | start h =>
    rw [(start_cases h).2]
    exact .inr (.inl ⟨⟨rfl, rfl, rfl, rfl⟩, rfl, rfl, rfl, .of_posted rfl⟩)
  | beginHandshake now h =>
    obtain ⟨-, e⟩ | ⟨-, -, e⟩ := beginHandshake_cases h <;> rw [e] <;>
      exact .inr (.inl ⟨⟨rfl, rfl, rfl, rfl⟩, rfl, rfl, rfl, .of_posted rfl⟩)
  | credit dir =>
    have aside := aside_afterCredit a s dir
    rw [afterCredit_eq] at aside ⊢
    exact .inr (.inl ⟨⟨rfl, rfl, rfl, rfl⟩, rfl, rfl, rfl, aside⟩)
  | handshakeComplete =>
    have aside := aside_handshakeComplete a s
    rw [handshakeComplete_eq] at aside ⊢
    exact .inr (.inl ⟨⟨rfl, rfl, rfl, rfl⟩, rfl, rfl, rfl, aside⟩)
  | receiveGoaway =>
    cases received : s.goawayReceived with
    | true =>
      rw [receiveGoaway_of_received a received]
      exact .inr (.inl (.refl s))
    | false =>
      have aside := aside_receiveGoaway a s
      rw [receiveGoaway_eq a received] at aside ⊢
      exact .inr (.inl ⟨⟨rfl, rfl, rfl, rfl⟩, rfl, rfl, rfl, aside⟩)
  | setVisitor v =>
    have aside := aside_setVisitor a s v
    rw [setVisitor_eq] at aside ⊢
    exact .inr (.inl ⟨⟨rfl, rfl, rfl, rfl⟩, rfl, rfl, rfl, aside⟩)
  | noCredit gate h => exact .inr (.inl ⟨⟨rfl, rfl, rfl, rfl⟩, rfl, rfl, rfl, .of_posted rfl⟩)
  | setRespectGoaway respect => exact .inr (.inl ⟨⟨rfl, rfl, rfl, rfl⟩, rfl, rfl, rfl, .of_posted rfl⟩)
  | takeSignals => exact .inr (.inl ⟨⟨rfl, rfl, rfl, rfl⟩, rfl, rfl, rfl, .of_posted rfl⟩)
  | rebase now => exact .inr (.inl ⟨⟨rfl, rfl, rfl, rfl⟩, rfl, rfl, rfl, .of_posted rfl⟩)

theorem sameSession_act {s s' : Session τ} (h : Act a s s') : SameSession s s' := by
  cases h with
  | takeIn h =>
    rw [afterTakeIn_eq]
    exact ⟨rfl, rfl, rfl, rfl⟩
  | deed h =>
    obtain traffic | steady | ⟨dir, id, t, -, -, rfl⟩ | ⟨x, -, -, rfl⟩ | ⟨reason, open_, rfl⟩ :=
      deed_cases a h
    · exact traffic.quiet.sameSession
    · exact steady.same
    · exact ⟨rfl, rfl, rfl, rfl⟩
    · exact ⟨rfl, rfl, rfl, rfl⟩
    · rw [conclude_eq a open_]
      exact ⟨rfl, rfl, rfl, rfl⟩

theorem sameSession_acts {s s' : Session τ} (h : Acts a s s') : SameSession s s' :=
  h.keep (P := fun s' => SameSession s s') (fun _ _ act same => same.trans (sameSession_act a act))
    (.refl s)

theorem named_act {s s' : Session τ} (h : Act a s s') (named : Named s) : Named s' := by
  cases h with
  | takeIn h =>
    rw [afterTakeIn_eq]
    exact named_insert rfl named
  | deed h =>
    obtain traffic | steady | ⟨dir, id, t, -, -, rfl⟩ | ⟨x, -, -, rfl⟩ | ⟨reason, open_, rfl⟩ :=
      deed_cases a h
    · exact traffic.quiet.named named
    · unfold Named
      rw [steady.streams]
      exact named
    · exact named_insert rfl named
    · exact named_erase rfl named
    · rw [conclude_eq a open_]
      exact named_empty rfl

end Session

end QuicSessions
