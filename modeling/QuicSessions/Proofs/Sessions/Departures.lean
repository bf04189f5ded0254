import Mathlib.Data.List.Nodup
import QuicSessions.Proofs.Sessions.Outcomes

/-!
# How streams leave, and how sessions end

A stream leaves the table when it is reclaimed or when its session closes, and it is told of as closed
in the same step. A session closes for the first cause that it meets, and for no other. What entered
the table in a whole run is what left it and what is still there, so every stream is told of exactly
once.
-/

set_option autoImplicit false

namespace QuicSessions

/-- The reason that a notice gives for the end of a connection. -/
def Notice.obituary? : Notice → Option CloseReason
  | session _ _ (.connectionClosed reason) => some reason
  | _ => none

/-- The reason that a signal gives for the end of a session. -/
def Signal.verdict? : Signal → Option CloseReason
  | closed reason _ => some reason
  | connected => none

namespace Session

variable {τ : Type}

/-- The streams that left the table on the way from one state of a session to another. -/
def departed (s s' : Session τ) : List LiveStream :=
  s.streams.values.filter fun x => !s'.streams.contains x.id

/-- How a session closes: every live stream is told of, lowest identifier first, and then the end of the
connection; the owner gets one signal, with the same reason. -/
structure Closing (a : Audience) (reason : CloseReason) (s s' : Session τ) : Prop where
  closed : s'.state = .closed
  emptied : s'.streams.keys = []
  all : s.streamsAscending.Perm s.streams.values
  ascending : (s.streamsAscending.map fun x => x.id.raw).Pairwise (· < ·)
  told : told s s' = if a.taken then s.streamsAscending.flatMap (s.lastNews a) ++
    s.visitor.toList.map fun v => .session v s.sessionHandle (.connectionClosed reason) else []
  signalled : signalled s s' = [.closed reason (!s.encrypted)]

/-- What happens to a session otherwise: the only streams that leave are spent, each is told of once, and
nothing is said of the end of the connection. -/
structure Staying (a : Audience) (s s' : Session τ) : Prop where
  stage : s'.state = .closed ↔ s.state = .closed
  spent : ∀ x ∈ departed s s', x.spent = true
  told : (told s s').filter Notice.parting =
    if a.taken then (departed s s').flatMap (s.lastNews a) else []
  signalled : (signalled s s').filterMap Signal.verdict? = []

/-! ## Who left -/

section Left

variable {s s' : Session τ}

theorem ids_departed (named : Named s) :
    (departed s s').map LiveStream.id = s.streams.keys.filter fun k => !s'.streams.contains k := by
  unfold departed
  rw [← named.map_id_values, List.filter_map]
  rfl

theorem departed_of_keys (named : Named s) (stays : ∀ k ∈ s.streams.keys, k ∈ s'.streams.keys) :
    departed s s' = [] := by
  refine List.filter_eq_nil_iff.2 fun x mem => ?_
  have live : x.id ∈ s.streams.keys := named.map_id_values ▸ List.mem_map_of_mem mem
  simp [Table.contains_eq_true_iff.2 (stays x.id live)]

end Left

/-! ## Reclaiming -/

section Reclaiming

variable (a : Audience)

theorem parting_lastNews (s : Session τ) (x : LiveStream) : ∀ n ∈ s.lastNews a x, n.parting = true := by
  intro n mem
  obtain ⟨v, -, rfl⟩ | ⟨v, -, rfl⟩ | ⟨l, -, rfl⟩ := (mem_lastNews a).1 mem <;> rfl

theorem posted_foldl_dropStream (gone : List LiveStream) (s : Session τ) :
    (gone.foldl (fun s x => s.dropStream a x) s).posted =
      s.posted ++ a.heard (gone.flatMap (s.lastNews a)) := by
  induction gone generalizing s with
  | nil =>
    have nothing : a.heard [] = [] := ite_self _
    rw [List.flatMap_nil, nothing, List.append_nil]
    rfl
  | cons x gone ih =>
    have first : (s.dropStream a x).posted = s.posted ++ a.heard (s.lastNews a x) := by
      rw [← streamClosedNotices_eq]
      rfl
    rw [List.foldl_cons, ih, first, List.flatMap_cons, Audience.heard_append, ← List.append_assoc]
    rfl

theorem keys_foldl_dropStream (gone : List LiveStream) (s : Session τ) :
    (gone.foldl (fun s x => s.dropStream a x) s).streams.keys =
      s.streams.keys.filter fun k => !(gone.map LiveStream.id).contains k := by
  induction gone generalizing s with
  | nil => exact (List.filter_true _).symm
  | cons x gone ih =>
    have first : (s.dropStream a x).streams.keys = s.streams.keys.filter (· ≠ x.id) :=
      Table.keys_erase ..
    rw [List.foldl_cons, ih, first, List.filter_filter]
    refine List.filter_congr fun k _ => ?_
    simp [Bool.and_comm]

/-- Dropping streams changes nothing but the table, what is to be announced and what was posted. -/
theorem foldl_dropStream_eq (gone : List LiveStream) (s : Session τ) :
    ∃ streams unannounced posted, gone.foldl (fun s x => s.dropStream a x) s =
      { s with streams := streams, unannounced := unannounced, posted := posted } := by
  induction gone generalizing s with
  | nil => exact ⟨_, _, _, rfl⟩
  | cons x gone ih =>
    obtain ⟨streams, unannounced, posted, rest⟩ := ih (s.dropStream a x)
    exact ⟨streams, unannounced, posted, rest⟩

theorem reclaim_eq (s : Session τ) : ∃ streams unannounced posted, s.reclaim a =
    { s with streams := streams, unannounced := unannounced, posted := posted } :=
  foldl_dropStream_eq a _ s

theorem keys_reclaim (s : Session τ) : (s.reclaim a).streams.keys = s.streams.keys.filter fun k =>
    !((s.streams.values.filter LiveStream.spent).map LiveStream.id).contains k :=
  keys_foldl_dropStream a _ s

theorem get?_of_foldl_dropStream {gone : List LiveStream} {s : Session τ} {id : StreamId} {x : LiveStream}
    (found : (gone.foldl (fun s x => s.dropStream a x) s).streams.get? id = some x) :
    s.streams.get? id = some x := by
  induction gone generalizing s with
  | nil => exact found
  | cons y gone ih =>
    have left : (s.dropStream a y).streams.get? id = some x := ih found
    have erased : (s.dropStream a y).streams = s.streams.erase y.id := rfl
    rw [erased, Table.get?_erase] at left
    split at left
    · cases left
    · exact left

/-- What is left was there before. -/
theorem get?_of_reclaim {s : Session τ} {id : StreamId} {x : LiveStream}
    (found : (s.reclaim a).streams.get? id = some x) : s.streams.get? id = some x :=
  get?_of_foldl_dropStream a found

/-- The streams that are reclaimed, in the order in which they are dropped. -/
theorem departed_reclaim {s : Session τ} (named : Named s) :
    departed s (s.reclaim a) = s.streams.values.filter LiveStream.spent := by
  refine List.filter_congr fun x mem => ?_
  have live : x.id ∈ s.streams.keys := named.map_id_values ▸ List.mem_map_of_mem mem
  have gone : x.id ∈ (s.streams.values.filter LiveStream.spent).map LiveStream.id ↔
      x.spent = true := by
    refine ⟨fun h => ?_, fun spent => List.mem_map_of_mem (List.mem_filter.2 ⟨mem, spent⟩)⟩
    obtain ⟨y, spent, same⟩ := List.mem_map.1 h
    obtain ⟨there, spent⟩ := List.mem_filter.1 spent
    have found := named.get?_of_mem_values there
    rw [same, named.get?_of_mem_values mem] at found
    exact Option.some.inj found ▸ spent
  have stays : (s.reclaim a).streams.contains x.id = true ↔ x.spent = false := by
    rw [Table.contains_eq_true_iff, keys_reclaim, List.mem_filter, Bool.not_eq_true', ← Bool.not_eq_true,
      List.contains_iff_mem, gone, Bool.not_eq_true]
    exact and_iff_right live
  cases spent : x.spent with
  | true =>
    rw [Bool.not_eq_true', ← Bool.not_eq_true, stays, spent]
    decide
  | false => rw [stays.2 spent]; rfl

end Reclaiming

/-! ## Closing -/

theorem ascending_streams {s : Session τ} (named : Named s) :
    (s.streamsAscending.map fun x => x.id.raw).Pairwise (· < ·) := by
  have perm : s.streamsAscending.Perm s.streams.values := List.mergeSort_perm ..
  have sorted : s.streamsAscending.Pairwise fun x y => decide (x.id.raw ≤ y.id.raw) = true :=
    List.pairwise_mergeSort (fun x y z => by simpa using Nat.le_trans)
      (fun x y => by simpa using Nat.le_total x.id.raw y.id.raw) _
  have distinct : s.streamsAscending.Pairwise fun x y => x.id ≠ y.id :=
    List.pairwise_map.1 ((perm.map LiveStream.id).nodup_iff.2 named.nodup_ids)
  refine List.pairwise_map.2 ((sorted.and distinct).imp fun {x y} h => ?_)
  have le : x.id.raw ≤ y.id.raw := of_decide_eq_true h.1
  have ne : x.id.raw ≠ y.id.raw := fun e => h.2 (congrArg StreamId.mk e)
  omega

theorem closing_conclude {a : Audience} {s : Session τ} (named : Named s) (open_ : s.state ≠ .closed)
    (t : τ) (reason : CloseReason) : Closing a reason s ({ s with transport := t }.conclude a reason) where
  closed := by rw [conclude_eq a (by exact open_)]
  emptied := by
    rw [conclude_eq a (by exact open_)]
    rfl
  all := List.mergeSort_perm ..
  ascending := ascending_streams named
  told := by
    have posted := posted_conclude a (s := { s with transport := t }) open_ reason
    rw [streamClosedNotices_eq, visitorNotice_eq] at posted
    exact told_of_append posted
  signalled := by
    refine signalled_of_append ?_
    rw [conclude_eq a (by exact open_)]

/-! ## Every outcome -/

section Outcomes

variable {a : Audience} {s s' : Session τ}

theorem Aside.told (h : Aside s s') : ∀ n ∈ told s s', n.parting = false := by
  obtain ⟨notices, posted, to_visitor⟩ := h
  intro n mem
  rw [told_of_append posted] at mem
  obtain ⟨v, h, news, rfl, goesOn⟩ := to_visitor n mem
  exact goesOn

theorem goesOn_of_same (h : s'.posted = s.posted) : ∀ n ∈ told s s', n.parting = false := by
  rw [told_of_same h]
  exact fun n mem => by cases mem

theorem no_verdict_of_same (h : s'.signals = s.signals) :
    (signalled s s').filterMap Signal.verdict? = [] := by
  rw [signalled_of_same h]
  rfl

/-- Nobody leaves, and nothing is said of an end. -/
theorem staying_of_kept (named : Named s) (stage : s'.state = .closed ↔ s.state = .closed)
    (stays : ∀ k ∈ s.streams.keys, k ∈ s'.streams.keys) (goesOn : ∀ n ∈ told s s', n.parting = false)
    (signalled : (signalled s s').filterMap Signal.verdict? = []) : Staying a s s' where
  stage := stage
  spent x mem := by
    rw [departed_of_keys named stays] at mem
    cases mem
  told := by
    rw [departed_of_keys named stays, List.flatMap_nil, ite_self]
    exact List.filter_eq_nil_iff.2 fun n mem => by rw [goesOn n mem]; decide
  signalled := signalled

theorem staying_reclaim (named : Named s) : Staying a s (s.reclaim a) where
  stage := by
    obtain ⟨streams, unannounced, posted, e⟩ := reclaim_eq a s
    rw [e]
  spent x mem := by
    rw [departed_reclaim a named] at mem
    exact (List.mem_filter.1 mem).2
  told := by
    have posted : (s.reclaim a).posted = s.posted ++
        a.heard ((s.streams.values.filter LiveStream.spent).flatMap (s.lastNews a)) :=
      posted_foldl_dropStream a _ s
    rw [departed_reclaim a named, told_of_append posted]
    refine List.filter_eq_self.2 fun n mem => ?_
    obtain ⟨x, -, mem⟩ := List.mem_flatMap.1 (mem_of_heard a mem)
    exact parting_lastNews a s x n mem
  signalled := by
    obtain ⟨streams, unannounced, posted, e⟩ := reclaim_eq a s
    rw [e]
    exact no_verdict_of_same rfl

variable [Transport τ]

theorem goesOn_afterTakeIn (id : StreamId) : ∀ n ∈ told s ((s.afterTakeIn a id).deliver a id),
    n.parting = false := by
  obtain ⟨announced, posted, to_visitor⟩ := aside_announce a (s.insertStream id) id
  obtain ⟨delivered, posted', routine⟩ := routine_traffic a (s := s.afterTakeIn a id) (.deliver id)
  have all : ((s.afterTakeIn a id).deliver a id).posted = s.posted ++
      (announced ++ a.heard (a.tellListener (.ready s.id id.handle)) ++ delivered) := by
    rw [posted', posted_afterTakeIn, posted, List.append_assoc, List.append_assoc, List.append_assoc]
    rfl
  intro n mem
  rw [told_of_append all] at mem
  obtain mem | mem := List.mem_append.1 mem
  · obtain mem | mem := List.mem_append.1 mem
    · obtain ⟨v, h, news, rfl, goesOn⟩ := to_visitor n mem
      exact goesOn
    · obtain ⟨l, rfl⟩ := mem_tellListener a (mem_of_heard a mem)
      rfl
  · exact (routine n mem).goesOn

theorem staying_outcome {cause : Option CloseReason} {opened : List (Dir × StreamId)}
    {received : List StreamId} (o : Outcome a s cause opened received s') (named : Named s)
    (later : cause = none ∨ s.state = .closed) : Staying a s s' := by
  cases o with
  | traffic h =>
    obtain ⟨quiet, signalled, routine⟩ := traffic_routine h
    refine staying_of_kept named (by rw [quiet.state]) (fun k live => quiet.keys.symm ▸ live)
      (fun n mem => (routine n mem).goesOn) ?_
    rw [signalled]
    rfl
  | unsaid h =>
    refine staying_of_kept named h.stage (fun k live => h.streams.symm ▸ live) ?_ ?_
    · rw [h.told]
      exact fun n mem => by cases mem
    · rw [h.signalled]
      rfl
  | credit dir =>
    have aside := aside_afterCredit a s dir
    rw [afterCredit_eq] at aside ⊢
    refine staying_of_kept named .rfl (fun k live => live) aside.told (no_verdict_of_same rfl)
  | completes =>
    have aside := aside_handshakeComplete a s
    rw [handshakeComplete_eq] at aside ⊢
    refine staying_of_kept named ⟨eq_closed_of_afterHandshake, fun closed => ?_⟩ (fun k live => live)
      aside.told ?_
    · show s.state.afterHandshake = _
      rw [closed]
      rfl
    · rw [signalled_of_append (by exact rfl)]
      rfl
  | goodbye t =>
    by_cases received : s.goawayReceived = true
    · rw [receiveGoaway_of_received a (by exact received)]
      exact staying_of_kept named .rfl (fun k live => live) (goesOn_of_same rfl) (no_verdict_of_same rfl)
    · rw [Bool.not_eq_true] at received
      have aside := aside_receiveGoaway a { s with transport := t }
      rw [receiveGoaway_eq a (by exact received)] at aside ⊢
      refine staying_of_kept named ?_ (fun k live => live) aside.told (no_verdict_of_same rfl)
      dsimp only
      split
      · rename_i active
        rw [active]
        exact ⟨nofun, nofun⟩
      · exact .rfl
  | visited v =>
    have aside := aside_setVisitor a s v
    rw [setVisitor_eq] at aside ⊢
    refine staying_of_kept named .rfl (fun k live => live) aside.told (no_verdict_of_same rfl)
  | reclaims => exact staying_reclaim named
  | opens gate h =>
    refine staying_of_kept named .rfl (fun k live => Table.mem_keys_insert_iff.2 (.inr live)) ?_
      (no_verdict_of_same rfl)
    intro n mem
    rw [told_of_append (by exact rfl)] at mem
    obtain ⟨l, rfl⟩ := mem_tellListener a (mem_of_heard a mem)
    rfl
  | @receives id h =>
    have quiet := quiet_deliver a id (s.afterTakeIn a id)
    refine staying_of_kept named ?_ (fun k live => ?_) (goesOn_afterTakeIn id) ?_
    · rw [quiet.state, afterTakeIn_eq]
    · rw [quiet.keys, afterTakeIn_eq]
      exact Table.mem_keys_insert_iff.2 (.inr live)
    · have same : ((s.afterTakeIn a id).deliver a id).signals = s.signals := by
        rw [quiet.eq, afterTakeIn_eq]
      exact no_verdict_of_same same
  | ends t reason =>
    have closed := later.resolve_left nofun
    rw [conclude_of_closed a (by exact closed)]
    exact staying_of_kept named .rfl (fun k live => live) (goesOn_of_same rfl) (no_verdict_of_same rfl)

/-! ## Who entered -/

/-- Afterwards the table holds what it held, less what left, and what entered. -/
theorem keys_outcome {cause : Option CloseReason} {opened : List (Dir × StreamId)}
    {received : List StreamId} (o : Outcome a s cause opened received s') :
    ∃ stays : StreamId → Bool,
      s'.streams.keys = s.streams.keys.filter stays ++ (opened.map Prod.snd ++ received) ∧
        ((∀ p ∈ opened, p.2 ∉ s.streams.keys) →
          ∀ k ∈ opened.map Prod.snd ++ received, k ∉ s.streams.keys) := by
  have kept {s' : Session τ} (same : s'.streams.keys = s.streams.keys) : ∃ stays : StreamId → Bool,
      s'.streams.keys = s.streams.keys.filter stays ++ ([] ++ []) ∧
        ((∀ p ∈ ([] : List (Dir × StreamId)), p.2 ∉ s.streams.keys) →
          ∀ k ∈ ([] : List StreamId), k ∉ s.streams.keys) := by
    refine ⟨fun _ => true, ?_, fun _ => nofun⟩
    rw [same, List.filter_true, List.append_nil, List.append_nil]
  cases o with
  | traffic h => exact kept (traffic_routine h).1.keys
  | unsaid h => exact kept (by rw [h.streams])
  | credit dir => exact kept (by rw [afterCredit_eq])
  | completes => exact kept (by rw [handshakeComplete_eq])
  | goodbye t =>
    refine kept ?_
    unfold receiveGoaway
    split <;> rfl
  | visited v => exact kept (by rw [setVisitor_eq])
  | reclaims =>
    refine ⟨fun k => !((s.streams.values.filter LiveStream.spent).map LiveStream.id).contains k, ?_, fun _ => nofun⟩
    rw [List.map_nil, List.append_nil, List.append_nil]
    exact keys_reclaim a s
  | @opens dir id t gate h =>
    refine ⟨(· ≠ id), Table.keys_insert .., fun fresh k mem => ?_⟩
    obtain rfl : k = id := List.mem_singleton.1 mem
    exact fresh (dir, k) (List.mem_singleton.2 rfl)
  | @receives id h =>
    refine ⟨(· ≠ id), ?_, fun _ k mem => ?_⟩
    · rw [(quiet_deliver a id (s.afterTakeIn a id)).keys, afterTakeIn_eq]
      exact Table.keys_insert ..
    · obtain rfl : k = id := List.mem_singleton.1 mem
      have absent := h.new
      rwa [← Bool.not_eq_true, Table.contains_eq_true_iff] at absent
  | ends t reason =>
    by_cases closed : s.state = .closed
    · rw [conclude_of_closed a (by exact closed)]
      exact kept rfl
    · rw [conclude_eq a (by exact closed)]
      exact ⟨fun _ => false, by rw [List.filter_false]; rfl, fun _ => nofun⟩

/-- Whatever is in the table after a single step was there, was opened, or was taken in. -/
theorem mem_keys_outcome {cause : Option CloseReason} {opened : List (Dir × StreamId)}
    {received : List StreamId} (o : Outcome a s cause opened received s') {k : StreamId}
    (live : k ∈ s'.streams.keys) : k ∈ s.streams.keys ∨ k ∈ opened.map Prod.snd ∨ k ∈ received := by
  obtain ⟨stays, keys, -⟩ := keys_outcome o
  rw [keys, List.mem_append, List.mem_append] at live
  exact live.imp_left fun held => (List.mem_filter.1 held).1

/-- What entered and what was there is what left and what is there. -/
theorem perm_outcome {cause : Option CloseReason} {opened : List (Dir × StreamId)}
    {received : List StreamId} (o : Outcome a s cause opened received s') (named : Named s)
    (fresh : ∀ p ∈ opened, p.2 ∉ s.streams.keys) :
    (opened.map Prod.snd ++ received ++ s.streams.keys).Perm
      ((departed s s').map LiveStream.id ++ s'.streams.keys) := by
  obtain ⟨stays, keys, new⟩ := keys_outcome o
  have left : (departed s s').map LiveStream.id = s.streams.keys.filter fun k => !stays k := by
    rw [ids_departed named]
    refine List.filter_congr fun k live => ?_
    have there : s'.streams.contains k = true ↔ stays k = true := by
      rw [Table.contains_eq_true_iff, keys, List.mem_append, List.mem_filter]
      exact ⟨fun h => (h.resolve_right fun entered => new fresh k entered live).2, fun h => .inl ⟨live, h⟩⟩
    rw [Bool.eq_iff_iff.2 there]
  have split := (List.filter_append_perm stays s.streams.keys).symm
  rw [left, keys, ← List.append_assoc]
  exact List.perm_append_comm.trans ((split.trans List.perm_append_comm).append_right _)

theorem peer_of_received {cause : Option CloseReason} {opened : List (Dir × StreamId)}
    {received : List StreamId} (o : Outcome a s cause opened received s') :
    ∀ id ∈ received, id.initiator ≠ s.side := by
  cases o with
  | receives h =>
    intro id mem
    obtain rfl := List.mem_singleton.1 mem
    exact h.peer
  | _ => exact nofun

theorem gate_of_opened {cause : Option CloseReason} {opened : List (Dir × StreamId)}
    {received : List StreamId} (o : Outcome a s cause opened received s') :
    ∀ p ∈ opened, s.refusal? p.1 = none := by
  cases o with
  | opens gate h =>
    intro p mem
    obtain rfl := List.mem_singleton.1 mem
    exact gate
  | _ => exact nofun

theorem fits_of_received {cause : Option CloseReason} {opened : List (Dir × StreamId)}
    {received : List StreamId} (o : Outcome a s cause opened received s') :
    ∀ id ∈ received, id.handle?.isSome = true := by
  cases o with
  | receives h =>
    intro id mem
    obtain rfl := List.mem_singleton.1 mem
    exact h.fits
  | _ => exact nofun

theorem closing_outcome {reason : CloseReason} {opened : List (Dir × StreamId)}
    {received : List StreamId} (o : Outcome a s (some reason) opened received s') (named : Named s)
    (open_ : s.state ≠ .closed) : Closing a reason s s' := by
  cases o with
  | ends t reason => exact closing_conclude named open_ t reason

/-- The session counts what it opens. -/
theorem opened_outcome {cause : Option CloseReason} {opened : List (Dir × StreamId)}
    {received : List StreamId} (o : Outcome a s cause opened received s') (dir : Dir) :
    s'.opened.get dir = s.opened.get dir + (opened.filter (·.1 = dir)).length := by
  cases o with
  | traffic h => rw [(traffic_routine h).1.eq]; rfl
  | unsaid h => rw [h.opened]; rfl
  | credit d => rw [afterCredit_eq]; rfl
  | completes => rw [handshakeComplete_eq]; rfl
  | goodbye t =>
    unfold receiveGoaway
    split <;> rfl
  | visited v => rw [setVisitor_eq]; rfl
  | reclaims =>
    obtain ⟨streams, unannounced, posted, e⟩ := reclaim_eq a s
    rw [e]
    rfl
  | @opens d id t gate h =>
    show (s.opened.update d (· + 1)).get dir = _
    rw [PerDir.get_update]
    by_cases same : dir = d
    · rw [if_pos same, List.filter_singleton, decide_eq_true same.symm]
      rfl
    · rw [if_neg same, List.filter_singleton, decide_eq_false fun e => same e.symm]
      rfl
  | @receives id h => rw [(quiet_deliver a id (s.afterTakeIn a id)).eq, afterTakeIn_eq]; rfl
  | ends t reason =>
    by_cases closed : s.state = .closed
    · rw [conclude_of_closed a (by exact closed)]
      rfl
    · rw [conclude_eq a (by exact closed)]
      rfl

end Outcomes

/-! ## Runs -/

variable [Transport τ]

/-- What the steps of a run contribute, one after the other. -/
def along {β : Type} (f : Session τ → Step τ → List β) : Session τ → List (Step τ) → List β
  | _, [] => []
  | s, x :: steps => f s x ++ along f (s.step x) steps

theorem along_append {β : Type} (f : Session τ → Step τ → List β) (s : Session τ)
    (before after : List (Step τ)) :
    s.along f (before ++ after) = s.along f before ++ (s.run before).along f after := by
  induction before generalizing s with
  | nil => rfl
  | cons x before ih =>
    show f s x ++ (s.step x).along f (before ++ after) = f s x ++ (s.step x).along f before ++ _
    rw [ih, List.append_assoc]
    rfl

/-- The streams that entered the table in a run. -/
def entrances (s : Session τ) (steps : List (Step τ)) : List StreamId :=
  s.along (fun s x => (x.opened s).map Prod.snd ++ x.received s) steps

/-- The streams that left it. -/
def exits (s : Session τ) (steps : List (Step τ)) : List StreamId :=
  s.along (fun s x => (departed s (s.step x)).map LiveStream.id) steps

/-- The reasons in the signals for the owner that the session is closed. -/
def verdicts (s : Session τ) (steps : List (Step τ)) : List CloseReason :=
  s.along (fun s x => (signalled s (s.step x)).filterMap Signal.verdict?) steps

/-- The reasons in the notices for the visitor that the connection is closed. -/
def obituaries (s : Session τ) (steps : List (Step τ)) : List CloseReason :=
  s.along (fun s x => (told s (s.step x)).filterMap Notice.obituary?) steps

/-- The reason of the first step that has one. -/
def firstCause : Session τ → List (Step τ) → Option CloseReason
  | _, [] => none
  | s, x :: steps => (x.cause s).or (firstCause (s.step x) steps)

/-- Each stream opened in a run has the identifier that its session expected: the transport gives them
out in their order. -/
def Numbered (s : Session τ) (steps : List (Step τ)) : Prop :=
  ∀ p ∈ s.along (fun s x => (x.opened s).map fun p => (p.2, s.nextId p.1)) steps, p.1 = p.2

instance (s : Session τ) (steps : List (Step τ)) : Decidable (s.Numbered steps) :=
  inferInstanceAs (Decidable (∀ p ∈ _, _))

/-- The live streams of this side are among those that the session opened. -/
def Counted (s : Session τ) : Prop :=
  ∀ id ∈ s.streams.keys, id.initiator = s.side → id.index < s.opened.get id.dir

section Steps

variable {s : Session τ} {x : Step τ}

omit [Transport τ] in
theorem fresh_of_counted (counted : Counted s) {dir : Dir} {id : StreamId} (next : id = s.nextId dir) :
    id ∉ s.streams.keys := by
  intro live
  have side : id.initiator = s.side := by rw [next]; exact StreamId.initiator_of ..
  have index : id.index = s.opened.get dir := by rw [next]; exact StreamId.index_of ..
  have direction : id.dir = dir := by rw [next]; exact StreamId.dir_of ..
  have less := counted id live side
  rw [index, direction] at less
  exact Nat.lt_irrefl _ less

theorem named_step (named : Named s) (x : Step τ) : Named (s.step x) := kept_named.step named named x

theorem counted_step (counted : Counted s) (named : Named s) (single : x.single = true)
    (numbered : ∀ p ∈ x.opened s, p.2 = s.nextId p.1) : Counted (s.step x) := by
  have o := outcome_step s single
  have side : (s.step x).side = s.side := ((kept_sameSession s).step named (.refl s) x).side
  intro id live own
  rw [side] at own
  rw [opened_outcome o]
  obtain held | opened | received := mem_keys_outcome o live
  · exact Nat.lt_of_lt_of_le (counted id held own) (Nat.le_add_right _ _)
  · obtain ⟨p, mem, rfl⟩ := List.mem_map.1 opened
    have index : p.2.index = s.opened.get p.1 := by rw [numbered p mem]; exact StreamId.index_of ..
    have direction : p.2.dir = p.1 := by rw [numbered p mem]; exact StreamId.dir_of ..
    have one : 0 < ((x.opened s).filter (·.1 = p.2.dir)).length := by
      refine List.length_pos_of_mem (List.mem_filter.2 ⟨mem, ?_⟩)
      exact decide_eq_true direction.symm
    rw [index, ← direction]
    exact Nat.lt_add_of_pos_right one
  · exact absurd own (peer_of_received o id received)

/-- A step with a cause closes a session that is open. Any other step lets it be. -/
theorem closing_or_staying (named : Named s) (single : x.single = true) :
    (∃ reason, x.cause s = some reason ∧ s.state ≠ .closed ∧ Closing x.audience reason s (s.step x)) ∨
      (x.cause s = none ∨ s.state = .closed) ∧ Staying x.audience s (s.step x) := by
  have o := outcome_step s single
  by_cases closed : s.state = .closed
  · exact .inr ⟨.inr closed, staying_outcome o named (.inr closed)⟩
  · cases cause : x.cause s with
    | none => exact .inr ⟨.inl rfl, staying_outcome o named (.inl cause)⟩
    | some reason =>
      rw [cause] at o
      exact .inl ⟨reason, rfl, closed, closing_outcome o named closed⟩

theorem closed_step (named : Named s) (single : x.single = true) :
    (s.step x).state = .closed ↔ s.state = .closed ∨ (x.cause s).isSome = true := by
  obtain ⟨reason, cause, -, closing⟩ | ⟨later, staying⟩ := closing_or_staying named single
  · simp [cause, closing.closed]
  · rw [staying.stage]
    obtain none_ | closed := later
    · simp [none_]
    · simp [closed]

theorem verdicts_step (named : Named s) (single : x.single = true) :
    (signalled s (s.step x)).filterMap Signal.verdict? =
      if s.state = .closed then [] else (x.cause s).toList := by
  obtain ⟨reason, cause, open_, closing⟩ | ⟨later, staying⟩ := closing_or_staying named single
  · rw [closing.signalled, if_neg open_, cause]
    rfl
  · rw [staying.signalled]
    obtain none_ | closed := later
    · rw [none_, Option.toList_none, ite_self]
    · rw [if_pos closed]

omit [Transport τ] in
theorem obituary_of_parting {n : Notice} (goesOn : n.parting = false) : n.obituary? = none := by
  cases n with
  | session v h news =>
    cases news with
    | connectionClosed reason => cases goesOn
    | _ => rfl
  | _ => rfl

omit [Transport τ] in
theorem obituaries_lastNews (a : Audience) (gone : List LiveStream) :
    (gone.flatMap (s.lastNews a)).filterMap Notice.obituary? = [] := by
  refine List.filterMap_eq_nil_iff.2 fun n mem => ?_
  obtain ⟨y, -, mem⟩ := List.mem_flatMap.1 mem
  obtain ⟨v, -, rfl⟩ | ⟨v, -, rfl⟩ | ⟨l, -, rfl⟩ := (mem_lastNews a).1 mem <;> rfl

omit [Transport τ] in
theorem obituaries_staying {s' : Session τ} {a : Audience} (staying : Staying a s s') :
    (told s s').filterMap Notice.obituary? = [] := by
  have parting : (told s s').filterMap Notice.obituary? =
      ((told s s').filter Notice.parting).filterMap Notice.obituary? := by
    rw [List.filterMap_filter]
    refine List.filterMap_congr fun n _ => ?_
    cases goesOn : n.parting with
    | true => rfl
    | false => exact obituary_of_parting goesOn
  rw [parting, staying.told]
  split
  · exact obituaries_lastNews a _
  · rfl

/-- The visitor is told of the end once at most, and for the reason that the owner is given. -/
theorem obituaries_step (named : Named s) (single : x.single = true) :
    ((told s (s.step x)).filterMap Notice.obituary?).Sublist
      ((signalled s (s.step x)).filterMap Signal.verdict?) := by
  obtain ⟨reason, -, -, closing⟩ | ⟨-, staying⟩ := closing_or_staying named single
  · rw [closing.told, closing.signalled]
    split
    · rw [List.filterMap_append, obituaries_lastNews]
      cases s.visitor with
      | some v => exact .refl _
      | none => exact List.nil_sublist _
    · exact List.nil_sublist _
  · rw [obituaries_staying staying]
    exact List.nil_sublist _

end Steps

section Runs

variable {s : Session τ} {steps : List (Step τ)}

/-- What holds of every step of a run holds of what the steps contribute. -/
theorem sublist_along {β : Type} {f g : Session τ → Step τ → List β} (named : Named s)
    (single : ∀ x ∈ steps, x.single = true)
    (step : ∀ (s : Session τ) (x : Step τ), Named s → x.single = true → (f s x).Sublist (g s x)) :
    (s.along f steps).Sublist (s.along g steps) := by
  induction steps generalizing s with
  | nil => exact .refl _
  | cons x steps ih =>
    have first := step s x named (single x (List.mem_cons_self ..))
    exact first.append (ih (named_step named x) fun y mem => single y (List.mem_cons_of_mem x mem))

/-- What entered in a run is what left and what is there in the end. -/
theorem entrances_perm (named : Named s) (counted : Counted s) (single : ∀ x ∈ steps, x.single = true)
    (numbered : s.Numbered steps) :
    (s.entrances steps ++ s.streams.keys).Perm (s.exits steps ++ (s.run steps).streams.keys) := by
  induction steps generalizing s with
  | nil => exact .refl _
  | cons x steps ih =>
    have here : ∀ p ∈ x.opened s, p.2 = s.nextId p.1 := fun p mem =>
      numbered (p.2, s.nextId p.1) (List.mem_append_left _ (List.mem_map_of_mem mem))
    have later : (s.step x).Numbered steps := fun p mem => numbered p (List.mem_append_right _ mem)
    have first := perm_outcome (outcome_step s (single x (List.mem_cons_self ..))) named
      fun p mem => fresh_of_counted counted (here p mem)
    have rest := ih (named_step named x)
      (counted_step counted named (single x (List.mem_cons_self ..)) here)
      (fun y mem => single y (List.mem_cons_of_mem x mem)) later
    have entrances : s.entrances (x :: steps) =
        (x.opened s).map Prod.snd ++ x.received s ++ (s.step x).entrances steps := rfl
    have exits : s.exits (x :: steps) =
        (departed s (s.step x)).map LiveStream.id ++ (s.step x).exits steps := rfl
    rw [entrances, exits, run_cons]
    refine List.perm_iff_count.2 fun k => ?_
    have count := List.perm_iff_count.1 first k
    have counts := List.perm_iff_count.1 rest k
    simp only [List.count_append] at count counts ⊢
    omega

/-- A session that is closed closes no more; one that is not closes for the first cause. -/
theorem verdicts_run (named : Named s) (single : ∀ x ∈ steps, x.single = true) :
    s.verdicts steps = if s.state = .closed then [] else (s.firstCause steps).toList := by
  induction steps generalizing s with
  | nil => exact (ite_self _).symm
  | cons x steps ih =>
    have alone := single x (List.mem_cons_self ..)
    have first := verdicts_step named alone
    have stage := closed_step named alone
    have rest := ih (named_step named x) fun y mem => single y (List.mem_cons_of_mem x mem)
    have verdicts : s.verdicts (x :: steps) =
        (signalled s (s.step x)).filterMap Signal.verdict? ++ (s.step x).verdicts steps := rfl
    have cause : s.firstCause (x :: steps) = (x.cause s).or ((s.step x).firstCause steps) := rfl
    rw [verdicts, first, rest, cause]
    by_cases closed : s.state = .closed
    · rw [if_pos closed, if_pos (stage.2 (.inl closed)), if_pos closed]
      rfl
    · rw [if_neg closed, if_neg closed]
      cases here : x.cause s with
      | none =>
        rw [if_neg fun ended => (stage.1 ended).elim closed (by rw [here]; decide)]
        rfl
      | some reason =>
        rw [if_pos (stage.2 (.inr (by rw [here]; rfl)))]
        rfl

end Runs

end Session

end QuicSessions
