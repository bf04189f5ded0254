import QuicSessions.Proofs.Sessions.Signals

/-!
# Introductions

A session visitor is introduced to every stream that the peer opens. A stream that comes while there is
no visitor is kept back, and the next visitor to be installed is introduced to what was kept back and is
still there. So for a stream that is live, being kept back and having been introduced add up to one.
-/

set_option autoImplicit false

namespace QuicSessions

/-- The stream to which news introduce a session visitor. -/
def SessionNews.introduction? : SessionNews → Option StreamId
  | incomingStream h => some h.stream
  | _ => none

/-- The stream to which a notice introduces a session visitor. -/
def Notice.introduction? (n : Notice) : Option StreamId := n.sessionNews?.bind SessionNews.introduction?

namespace Session

variable {τ : Type}

/-- The streams that session visitors are introduced to on the way from one state to another. -/
def introduced (s s' : Session τ) : List StreamId := (told s s').filterMap Notice.introduction?

/-- The streams that a new session visitor is to be introduced to, lowest identifier first. -/
def missed (s : Session τ) : List StreamId :=
  (s.unannounced.mergeSort fun x y => decide (x.raw ≤ y.raw)).filter fun id => s.streams.contains id

/-! ## Notices that introduce nobody -/

section Notices

variable {a : Audience} {s s' : Session τ}

theorem introduced_of_append {notices : List Notice} (h : s'.posted = s.posted ++ notices) :
    introduced s s' = notices.filterMap Notice.introduction? := by
  unfold introduced
  rw [told_of_append h]

theorem introduced_of_others {notices : List Notice} (h : s'.posted = s.posted ++ notices)
    (others : ∀ n ∈ notices, n.introduction? = none) : introduced s s' = [] := by
  rw [introduced_of_append h]
  exact List.filterMap_eq_nil_iff.2 others

theorem introduced_of_same (h : s'.posted = s.posted) : introduced s s' = [] :=
  introduced_of_append (h.trans (List.append_nil _).symm)

theorem others_of_elsewhere {n : Notice} (h : n.sessionNews? = none) : n.introduction? = none := by
  unfold Notice.introduction?
  rw [h]
  rfl

theorem others_visitorNotice {news : SessionNews} (other : news.introduction? = none) :
    ∀ n ∈ s.visitorNotice news, n.introduction? = none := by
  intro n mem
  obtain ⟨v, rfl⟩ := mem_visitorNotice s mem
  exact other

theorem others_lastNews (s : Session τ) (x : LiveStream) : ∀ n ∈ s.lastNews a x, n.introduction? = none := by
  intro n mem
  obtain ⟨v, -, rfl⟩ | ⟨v, -, rfl⟩ | ⟨l, -, rfl⟩ := (mem_lastNews a).1 mem <;> rfl

theorem others_farewells (s : Session τ) (gone : List LiveStream) :
    ∀ n ∈ a.heard (gone.flatMap (s.lastNews a)), n.introduction? = none := by
  intro n mem
  obtain ⟨x, -, mem⟩ := List.mem_flatMap.1 (mem_of_heard a mem)
  exact others_lastNews s x n mem

theorem others_tellCanCreate (s : Session τ) :
    ∃ notices, (s.tellCanCreate a).posted = s.posted ++ notices ∧
      ∀ n ∈ notices, n.introduction? = none := by
  refine ⟨_, posted_tellCanCreate s, fun n mem => ?_⟩
  obtain mem | mem := List.mem_append.1 mem
  · exact others_visitorNotice rfl n (mem_of_heard a mem)
  · split at mem
    · exact others_visitorNotice rfl n (mem_of_heard a mem)
    · cases mem

/-- Announcing a stream introduces the visitor to it, if there is one and notices are taken. -/
theorem posted_announce (s : Session τ) (id : StreamId) : (s.announce a id).posted =
    s.posted ++ a.heard (s.visitorNotice (.incomingStream (s.streamHandle id))) := by
  unfold announce
  split
  · rfl
  · rename_i alone
    rw [Bool.not_eq_true, Option.isSome_eq_false_iff, Option.isNone_iff_eq_none] at alone
    have nothing : a.heard [] = [] := ite_self _
    unfold visitorNotice
    rw [alone]
    exact (nothing ▸ List.append_nil _).symm

theorem introduction_of_visitorNotice (h : StreamHandle) :
    (a.heard (s.visitorNotice (.incomingStream h))).filterMap Notice.introduction? =
      if a.taken && s.visitor.isSome then [h.stream] else [] := by
  unfold Audience.heard visitorNotice
  cases a.taken <;> cases s.visitor <;> rfl

end Notices

/-! ## Introductions made late -/

section Late

variable {a : Audience} {s : Session τ} {v : SessionVisitor}

/-- The notice that introduces a visitor to a stream. -/
def introduction (s : Session τ) (v : SessionVisitor) (id : StreamId) : Notice :=
  .session v s.sessionHandle (.incomingStream (s.streamHandle id))

theorem posted_announces (kept : List StreamId) (visited : s.visitor = some v) :
    (kept.foldl (fun s id => if s.streams.contains id then s.announce a id else s) s).posted =
      s.posted ++ a.heard ((kept.filter fun id => s.streams.contains id).map (s.introduction v)) := by
  induction kept generalizing s with
  | nil =>
    have nothing : a.heard [] = [] := ite_self _
    show s.posted = s.posted ++ a.heard []
    rw [nothing, List.append_nil]
  | cons id kept ih =>
    rw [List.foldl_cons, List.filter_cons]
    by_cases live : s.streams.contains id = true
    · have told : s.announce a id = { s with posted := s.posted ++ a.heard [s.introduction v id] } := by
        rw [announce_of_visitor a (by rw [visited]; rfl), tellVisitor_eq]
        unfold visitorNotice
        rw [visited]
        rfl
      rw [if_pos live, if_pos live, told, ih (by exact visited), List.map_cons]
      have split : s.introduction v id :: (kept.filter fun id => s.streams.contains id).map (s.introduction v) =
          [s.introduction v id] ++ (kept.filter fun id => s.streams.contains id).map (s.introduction v) := rfl
      rw [split, Audience.heard_append, ← List.append_assoc]
      rfl
    · rw [if_neg live, if_neg live]
      exact ih visited

/-- A new visitor may be told of credit, and is introduced to what was kept back and is still there. -/
theorem posted_setVisitor (s : Session τ) : ∃ notices, (∀ n ∈ notices, n.introduction? = none) ∧
    (s.setVisitor a v).posted =
      s.posted ++ (notices ++ a.heard (s.missed.map (s.introduction v))) := by
  by_cases active : s.state = .active
  · obtain ⟨notices, credit, others⟩ := others_tellCanCreate (a := a) { s with visitor := some v }
    refine ⟨notices, others, ?_⟩
    unfold setVisitor
    dsimp only
    rw [if_pos active, tellCanCreate_eq, credit, posted_announces _ rfl]
    exact List.append_assoc ..
  · refine ⟨[], fun _ mem => absurd mem List.not_mem_nil, ?_⟩
    unfold setVisitor
    dsimp only
    rw [if_neg active, posted_announces _ rfl]
    rfl

theorem introduced_setVisitor (s : Session τ) :
    introduced s (s.setVisitor a v) = if a.taken then s.missed else [] := by
  obtain ⟨notices, others, posted⟩ := posted_setVisitor (a := a) (v := v) s
  rw [introduced_of_append posted, List.filterMap_append, List.filterMap_eq_nil_iff.2 others,
    List.nil_append]
  unfold Audience.heard
  split
  · rw [List.filterMap_map]
    exact List.filterMap_some
  · rfl

end Late

/-! ## Streams kept back -/

/-- What is kept back is live and kept once, and nothing is where there is a visitor. -/
structure Withheld (s : Session τ) : Prop where
  live : ∀ id ∈ s.unannounced, id ∈ s.streams.keys
  once : s.unannounced.Nodup
  alone : s.visitor.isSome = true → s.unannounced = []

/-- What a single step does about introductions. Streams leave, and what was kept back of them with them;
a visitor is installed and introduced to what was kept back; or the session takes in a stream of the peer,
which is introduced to the visitor or kept back. -/
inductive Acquaints (a : Audience) (s : Session τ) : List StreamId → Session τ → Prop where
  | apart {s' : Session τ} (stays : StreamId → Bool) (visitor : s'.visitor = s.visitor)
      (unannounced : s'.unannounced = s.unannounced.filter stays)
      (live : ∀ k ∈ s.streams.keys, k ∈ s'.streams.keys ↔ stays k = true)
      (silent : introduced s s' = []) : Acquaints a s [] s'
  | visited {s' : Session τ} (visitor : s'.visitor.isSome = true) (unannounced : s'.unannounced = [])
      (keys : s'.streams.keys = s.streams.keys)
      (told : introduced s s' = if a.taken then s.missed else []) : Acquaints a s [] s'
  | received {s' : Session τ} {id : StreamId} (new : id ∉ s.streams.keys)
      (visitor : s'.visitor = s.visitor)
      (unannounced : s'.unannounced =
        if s.visitor.isSome then s.unannounced else s.unannounced.filter (· ≠ id) ++ [id])
      (keys : ∀ k, k ∈ s'.streams.keys ↔ k = id ∨ k ∈ s.streams.keys)
      (told : introduced s s' = if a.taken && s.visitor.isSome then [id] else []) :
      Acquaints a s [id] s'

namespace Acquaints

variable {a : Audience} {s s' : Session τ}

theorem beside (visitor : s'.visitor = s.visitor) (unannounced : s'.unannounced = s.unannounced)
    (live : ∀ k ∈ s.streams.keys, k ∈ s'.streams.keys) (silent : introduced s s' = []) :
    Acquaints a s [] s' :=
  .apart (fun _ => true) visitor (unannounced.trans (List.filter_true _).symm)
    (fun k held => ⟨fun _ => rfl, fun _ => live k held⟩) silent

theorem unannounced_foldl_dropStream (gone : List LiveStream) (s : Session τ) :
    (gone.foldl (fun s x => s.dropStream a x) s).unannounced =
      s.unannounced.filter fun k => !(gone.map LiveStream.id).contains k := by
  induction gone generalizing s with
  | nil => exact (List.filter_true _).symm
  | cons x gone ih =>
    have first : (s.dropStream a x).unannounced = s.unannounced.filter (· ≠ x.id) := rfl
    rw [List.foldl_cons, ih, first, List.filter_filter]
    refine List.filter_congr fun k _ => ?_
    simp [Bool.and_comm]

theorem reclaim (s : Session τ) : Acquaints a s [] (s.reclaim a) := by
  have posted := posted_foldl_dropStream a (s.streams.values.filter LiveStream.spent) s
  have unannounced := unannounced_foldl_dropStream (a := a) (s.streams.values.filter LiveStream.spent) s
  have visitor : (s.reclaim a).visitor = s.visitor := by
    obtain ⟨streams, unannounced, posted, e⟩ := reclaim_eq a s
    rw [e]
  refine .apart _ visitor unannounced (fun k held => ?_) (introduced_of_others posted (others_farewells s _))
  rw [keys_reclaim, List.mem_filter]
  exact and_iff_right held

theorem conclude (t : τ) (reason : CloseReason) (s : Session τ) :
    Acquaints a s [] ({ s with transport := t }.conclude a reason) := by
  by_cases closed : s.state = .closed
  · rw [conclude_of_closed a (by exact closed)]
    exact .beside rfl rfl (fun k held => held) (introduced_of_same rfl)
  · have posted := posted_conclude a (s := { s with transport := t }) closed reason
    rw [streamClosedNotices_eq] at posted
    have silent : introduced s ({ s with transport := t }.conclude a reason) = [] := by
      refine introduced_of_others posted fun n mem => ?_
      obtain mem | mem := List.mem_append.1 (mem_of_heard a mem)
      · obtain ⟨x, -, mem⟩ := List.mem_flatMap.1 mem
        exact others_lastNews _ x n mem
      · exact others_visitorNotice rfl n mem
    rw [conclude_eq a (by exact closed)] at silent ⊢
    exact .apart (fun _ => false) rfl (List.filter_false _).symm (fun k held => ⟨nofun, nofun⟩) silent

section Outcomes

variable [Transport τ]

theorem takeIn {id : StreamId} (welcome : s.Welcome id) :
    Acquaints a s [id] ((s.afterTakeIn a id).deliver a id) := by
  have new : id ∉ s.streams.keys := by
    rw [← Table.contains_eq_true_iff, Bool.not_eq_true]
    exact welcome.new
  have quiet := quiet_deliver a id (s.afterTakeIn a id)
  obtain ⟨delivered, posted, routine⟩ := routine_traffic a (s := s.afterTakeIn a id) (.deliver id)
  rw [posted_afterTakeIn] at posted
  have others : ∀ n ∈ a.heard (a.tellListener (.ready s.id id.handle)) ++ delivered,
      n.introduction? = none := by
    intro n mem
    obtain mem | mem := List.mem_append.1 mem
    · obtain ⟨l, rfl⟩ := mem_tellListener a (mem_of_heard a mem)
      rfl
    · exact others_of_elsewhere (routine n mem).elsewhere
  refine .received new ?_ ?_ (fun k => ?_) ?_
  · rw [quiet.eq, afterTakeIn_eq]
  · rw [quiet.eq, afterTakeIn_eq]
  · rw [quiet.keys, afterTakeIn_eq]
    exact Table.mem_keys_insert_iff
  · rw [posted_announce, List.append_assoc, List.append_assoc] at posted
    rw [introduced_of_append (s := s) posted, List.filterMap_append, List.filterMap_eq_nil_iff.2 others,
      List.append_nil, introduction_of_visitorNotice]
    rfl

theorem outcome {cause : Option CloseReason} {opened : List (Dir × StreamId)} {received : List StreamId}
    (o : Outcome a s cause opened received s') : Acquaints a s received s' := by
  cases o with
  | traffic h =>
    obtain ⟨quiet, -, routine⟩ := traffic_routine h
    refine .beside (by rw [quiet.eq]) (by rw [quiet.eq]) (fun k held => quiet.keys.symm ▸ held) ?_
    exact List.filterMap_eq_nil_iff.2 fun n mem => others_of_elsewhere (routine n mem).elsewhere
  | unsaid h =>
    refine .beside h.visitor h.unannounced (fun k held => h.streams.symm ▸ held) ?_
    unfold introduced
    rw [h.told]
    rfl
  | credit dir =>
    refine .beside ?_ ?_ (fun k held => ?_) ?_
    · rw [afterCredit_eq]
    · rw [afterCredit_eq]
    · rw [afterCredit_eq]
      exact held
    · unfold afterCredit
      dsimp only
      split
      · exact introduced_of_others rfl fun n mem => others_visitorNotice rfl n (mem_of_heard a mem)
      · exact introduced_of_same rfl
  | completes =>
    have silent : introduced s (s.handshakeComplete a) = [] := by
      obtain ⟨notices, posted, others⟩ := others_tellCanCreate (a := a) { s with
        encrypted := true
        handshakeDeadline := none
        state := s.state.afterHandshake }
      exact introduced_of_others posted others
    rw [handshakeComplete_eq] at silent ⊢
    exact .beside rfl rfl (fun k held => held) silent
  | goodbye t =>
    unfold receiveGoaway
    split
    · exact .beside rfl rfl (fun k held => held) (introduced_of_same rfl)
    · refine .beside rfl rfl (fun k held => held) ?_
      exact introduced_of_others rfl fun n mem => others_visitorNotice rfl n (mem_of_heard a mem)
  | visited v =>
    have told := introduced_setVisitor (a := a) (v := v) s
    rw [setVisitor_eq] at told ⊢
    exact .visited rfl rfl rfl told
  | reclaims => exact .reclaim s
  | opens gate h =>
    refine .beside rfl rfl (fun k held => Table.mem_keys_insert_iff.2 (.inr held)) ?_
    refine introduced_of_others rfl fun n mem => ?_
    obtain ⟨l, rfl⟩ := mem_tellListener a (mem_of_heard a mem)
    rfl
  | receives h => exact .takeIn h
  | ends t reason => exact .conclude t reason s

end Outcomes

end Acquaints

/-! ## What a step keeps in balance -/

section Balance

variable {a : Audience} {s s' : Session τ}

theorem mem_missed {k : StreamId} : k ∈ s.missed ↔ k ∈ s.unannounced ∧ k ∈ s.streams.keys := by
  unfold missed
  rw [List.mem_filter, List.mem_mergeSort, Table.contains_eq_true_iff]

/-- What a new visitor is introduced to is what was kept back, sorted. -/
theorem perm_missed (withheld : Withheld s) : s.missed.Perm s.unannounced := by
  have all : s.missed = s.unannounced.mergeSort fun x y => decide (x.raw ≤ y.raw) :=
    List.filter_eq_self.2 fun id mem =>
      Table.contains_eq_true_iff.2 (withheld.live id (List.mem_mergeSort.1 mem))
  rw [all]
  exact List.mergeSort_perm ..

theorem ascending_missed (withheld : Withheld s) : s.missed.Pairwise fun x y => x.raw < y.raw := by
  have sorted : s.missed.Pairwise fun x y => decide (x.raw ≤ y.raw) = true := by
    refine List.Pairwise.filter _ (List.pairwise_mergeSort ?_ ?_ _)
    · exact fun x y z => by simpa using Nat.le_trans
    · exact fun x y => by simpa using Nat.le_total x.raw y.raw
  have distinct : s.missed.Pairwise (· ≠ ·) := (perm_missed withheld).nodup_iff.2 withheld.once
  refine (sorted.and distinct).imp fun {x y} h => ?_
  have le : x.raw ≤ y.raw := of_decide_eq_true h.1
  have ne : x.raw ≠ y.raw := fun e => h.2 (congrArg StreamId.mk e)
  omega

namespace Acquaints

variable {received : List StreamId} {k : StreamId} (acquaints : Acquaints a s received s')
include acquaints

theorem fresh (mem : k ∈ received) : k ∉ s.streams.keys := by
  cases acquaints with
  | apart stays visitor unannounced live silent => cases mem
  | visited visitor unannounced keys told => cases mem
  | received new visitor unannounced keys told => exact List.mem_singleton.1 mem ▸ new

theorem count_received (mem : k ∈ received) : received.count k = 1 := by
  cases acquaints with
  | apart stays visitor unannounced live silent => cases mem
  | visited visitor unannounced keys told => cases mem
  | received new visitor unannounced keys told =>
    rw [List.mem_singleton.1 mem]
    exact List.count_singleton_self ..

theorem visitor_stays (visited : s.visitor.isSome = true) : s'.visitor.isSome = true := by
  cases acquaints with
  | apart stays visitor unannounced live silent => exact visitor ▸ visited
  | visited visitor unannounced keys told => exact visitor
  | received new visitor unannounced keys told => exact visitor ▸ visited

theorem silent_of_alone (alone : s'.visitor = none) : introduced s s' = [] := by
  cases acquaints with
  | apart stays visitor unannounced live silent => exact silent
  | visited visitor unannounced keys told =>
    rw [alone] at visitor
    cases visitor
  | received new visitor unannounced keys told =>
    rw [told, ← visitor, alone, Option.isSome_none, Bool.and_false]
    rfl

theorem present (mem : k ∈ introduced s s') : k ∈ s'.streams.keys := by
  cases acquaints with
  | apart stays visitor unannounced live silent =>
    rw [silent] at mem
    cases mem
  | visited visitor unannounced keys told =>
    rw [told] at mem
    split at mem
    · rw [keys]
      exact (mem_missed.1 mem).2
    · cases mem
  | received new visitor unannounced keys told =>
    rw [told] at mem
    split at mem
    · exact (keys k).2 (.inl (List.mem_singleton.1 mem))
    · cases mem

/-- Who is introduced or kept back was kept back before, or was just taken in. -/
theorem source (mem : k ∈ introduced s s' ∨ k ∈ s'.unannounced) : k ∈ s.unannounced ∨ k ∈ received := by
  cases acquaints with
  | apart stays visitor unannounced live silent =>
    rw [silent, unannounced, List.mem_filter] at mem
    exact .inl (mem.resolve_left nofun).1
  | visited visitor unannounced keys told =>
    rw [told, unannounced] at mem
    have mem := mem.resolve_right nofun
    split at mem
    · exact .inl (mem_missed.1 mem).1
    · cases mem
  | @received _ id new visitor unannounced keys told =>
    rw [told, unannounced] at mem
    obtain mem | mem := mem
    · split at mem
      · exact .inr mem
      · cases mem
    · split at mem
      · exact .inl mem
      · obtain mem | mem := List.mem_append.1 mem
        · exact .inl (List.mem_filter.1 mem).1
        · exact .inr mem

variable (withheld : Withheld s)
include withheld

theorem keeps_withheld : Withheld s' := by
  cases acquaints with
  | apart stays visitor unannounced live silent =>
    refine ⟨fun id mem => ?_, ?_, fun visited => ?_⟩
    · rw [unannounced, List.mem_filter] at mem
      exact (live id (withheld.live id mem.1)).2 mem.2
    · rw [unannounced]
      exact withheld.once.filter stays
    · rw [unannounced, withheld.alone (visitor ▸ visited)]
      rfl
  | visited visitor unannounced keys told =>
    refine ⟨?_, ?_, fun _ => unannounced⟩
    · rw [unannounced]
      exact nofun
    · rw [unannounced]
      exact List.nodup_nil
  | @received _ id new visitor unannounced keys told =>
    by_cases visited : s.visitor.isSome = true
    · rw [if_pos visited] at unannounced
      have none_kept := withheld.alone visited
      refine ⟨?_, ?_, fun _ => unannounced.trans none_kept⟩
      · rw [unannounced, none_kept]
        exact nofun
      · rw [unannounced]
        exact withheld.once
    · rw [if_neg visited] at unannounced
      refine ⟨fun j mem => ?_, ?_, fun visited' => absurd (visitor ▸ visited') visited⟩
      · rw [unannounced] at mem
        obtain mem | mem := List.mem_append.1 mem
        · exact (keys j).2 (.inr (withheld.live j (List.mem_filter.1 mem).1))
        · exact (keys j).2 (.inl (List.mem_singleton.1 mem))
      · rw [unannounced, List.nodup_append]
        refine ⟨withheld.once.filter _, List.nodup_singleton id, fun x kept y mem same => ?_⟩
        have other := (List.mem_filter.1 kept).2
        rw [List.mem_singleton.1 mem] at same
        exact of_decide_eq_true other same

theorem ascending : (introduced s s').Pairwise fun x y => x.raw < y.raw := by
  cases acquaints with
  | apart stays visitor unannounced live silent =>
    rw [silent]
    exact List.Pairwise.nil
  | visited visitor unannounced keys told =>
    rw [told]
    split
    · exact ascending_missed withheld
    · exact List.Pairwise.nil
  | received new visitor unannounced keys told =>
    rw [told]
    split
    · exact List.pairwise_singleton ..
    · exact List.Pairwise.nil

/-- Of a stream that is live afterwards, the introductions that are due and what is kept back add up to
what was kept back and what was taken in. Those that are due are made if notices are taken. -/
theorem balance (live : k ∈ s'.streams.keys) :
    ∃ due, (introduced s s').count k = (if a.taken then due else 0) ∧
      due + s'.unannounced.count k = s.unannounced.count k + received.count k := by
  cases acquaints with
  | apart stays visitor unannounced stay silent =>
    refine ⟨0, by rw [silent, List.count_nil, ite_self], ?_⟩
    rw [unannounced, List.count_nil, Nat.zero_add, Nat.add_zero]
    by_cases held : k ∈ s.streams.keys
    · exact List.count_filter ((stay k held).1 live)
    · have absent : k ∉ s.unannounced := fun mem => held (withheld.live k mem)
      rw [List.count_eq_zero_of_not_mem absent,
        List.count_eq_zero_of_not_mem fun mem => absent (List.mem_filter.1 mem).1]
  | visited visitor unannounced keys told =>
    refine ⟨s.missed.count k, ?_, ?_⟩
    · rw [told]
      split <;> rfl
    · rw [unannounced, (perm_missed withheld).count_eq]
  | @received _ id new visitor unannounced keys told =>
    by_cases visited : s.visitor.isSome = true
    · refine ⟨[id].count k, ?_, ?_⟩
      · rw [told, visited, Bool.and_true]
        split <;> rfl
      · rw [unannounced, if_pos visited]
        exact Nat.add_comm ..
    · have absent : id ∉ s.unannounced := fun mem => new (withheld.live id mem)
      have same : s.unannounced.filter (· ≠ id) = s.unannounced := by
        refine List.filter_eq_self.2 fun x mem => decide_eq_true fun e => absent (e ▸ mem)
      rw [Bool.not_eq_true] at visited
      refine ⟨0, ?_, ?_⟩
      · rw [told, visited, Bool.and_false, ite_self]
        rfl
      · rw [unannounced, visited, same, Nat.zero_add]
        exact List.count_append ..

end Acquaints

end Balance

/-! ## Runs -/

section Runs

variable [Transport τ]

/-- The streams that session visitors are introduced to in a run, in order. -/
def introductions (s : Session τ) (steps : List (Step τ)) : List StreamId :=
  s.along (fun s x => introduced s (s.step x)) steps

/-- The streams of the peer that are taken in in a run. -/
def receptions (s : Session τ) (steps : List (Step τ)) : List StreamId :=
  s.along (fun s x => x.received s) steps

/-- The stream is live after each of the steps. -/
def Stays (k : StreamId) (s : Session τ) : List (Step τ) → Prop
  | [] => True
  | x :: steps => k ∈ (s.step x).streams.keys ∧ (s.step x).Stays k steps

variable {k : StreamId} {s : Session τ} {steps : List (Step τ)}

theorem acquaints_step {x : Step τ} (single : x.single = true) :
    Acquaints x.audience s (x.received s) (s.step x) := .outcome (outcome_step s single)

theorem withheld_run (single : ∀ x ∈ steps, x.single = true) (withheld : Withheld s) :
    Withheld (s.run steps) :=
  List.foldlRecOn (motive := Withheld) steps step withheld fun _ withheld x mem =>
    (acquaints_step (single x mem)).keeps_withheld withheld

theorem visited_run (single : ∀ x ∈ steps, x.single = true) (visited : s.visitor.isSome = true) :
    (s.run steps).visitor.isSome = true :=
  List.foldlRecOn (motive := fun s => s.visitor.isSome = true) steps step visited fun _ visited x mem =>
    (acquaints_step (single x mem)).visitor_stays visited

theorem introductions_of_alone (single : ∀ x ∈ steps, x.single = true)
    (alone : (s.run steps).visitor = none) : s.introductions steps = [] := by
  induction steps generalizing s with
  | nil => rfl
  | cons x steps ih =>
    have later : ∀ y ∈ steps, y.single = true := fun y mem => single y (List.mem_cons_of_mem x mem)
    have first : (s.step x).visitor = none := by
      by_contra visited
      have still := visited_run later (Option.ne_none_iff_isSome.1 visited)
      rw [run_cons] at alone
      rw [alone] at still
      cases still
    have silent := (acquaints_step (single x (List.mem_cons_self ..))).silent_of_alone first
    have split : s.introductions (x :: steps) = introduced s (s.step x) ++ (s.step x).introductions steps := rfl
    rw [split, silent, ih later alone]
    rfl

theorem receptions_of_stays (single : ∀ x ∈ steps, x.single = true) (live : k ∈ s.streams.keys)
    (stays : s.Stays k steps) : k ∉ s.receptions steps := by
  induction steps generalizing s with
  | nil => exact List.not_mem_nil
  | cons x steps ih =>
    intro mem
    obtain here | later := List.mem_append.1 mem
    · exact (acquaints_step (single x (List.mem_cons_self ..))).fresh here live
    · exact ih (fun y mem => single y (List.mem_cons_of_mem x mem)) stays.1 stays.2 later

theorem balance_run (single : ∀ x ∈ steps, x.single = true) (withheld : Withheld s)
    (stays : s.Stays k steps) :
    ∃ due, (s.introductions steps).count k ≤ due ∧
      ((∀ x ∈ steps, x.audience.taken = true) → (s.introductions steps).count k = due) ∧
      due + (s.run steps).unannounced.count k = s.unannounced.count k + (s.receptions steps).count k := by
  induction steps generalizing s with
  | nil => exact ⟨0, Nat.le_refl _, fun _ => rfl, Nat.add_comm ..⟩
  | cons x steps ih =>
    have acquaints := acquaints_step (s := s) (single x (List.mem_cons_self ..))
    obtain ⟨now, made, here⟩ := acquaints.balance withheld stays.1
    obtain ⟨later, most, all, rest⟩ := ih (fun y mem => single y (List.mem_cons_of_mem x mem))
      (acquaints.keeps_withheld withheld) stays.2
    have introduced : s.introductions (x :: steps) =
        introduced s (s.step x) ++ (s.step x).introductions steps := rfl
    have received : s.receptions (x :: steps) = x.received s ++ (s.step x).receptions steps := rfl
    rw [introduced, received, List.count_append, List.count_append, run_cons, made]
    refine ⟨now + later, ?_, fun taken => ?_, ?_⟩
    · split
      · omega
      · omega
    · rw [if_pos (taken x (List.mem_cons_self ..)),
        all fun y mem => taken y (List.mem_cons_of_mem x mem)]
    · omega

/-- A stream that is taken in and stays is introduced at most once, and if notices are taken it is once,
if there is a visitor by the end. -/
theorem introduced_of_stays {x : Step τ} (single : ∀ y ∈ x :: steps, y.single = true)
    (withheld : Withheld s) (mem : k ∈ x.received s) (stays : s.Stays k (x :: steps)) :
    let owed := if (s.run (x :: steps)).visitor.isSome then 1 else 0
    (s.introductions (x :: steps)).count k ≤ owed ∧
      ((∀ y ∈ x :: steps, y.audience.taken = true) → (s.introductions (x :: steps)).count k = owed) := by
  intro owed
  have acquaints := acquaints_step (s := s) (single x (List.mem_cons_self ..))
  obtain ⟨due, most, all, balance⟩ := balance_run single withheld stays
  -- it was not kept back before, and is taken in once: what is due and what is kept back add up to one
  have absent : k ∉ s.unannounced := fun kept => acquaints.fresh mem (withheld.live k kept)
  have once : (s.receptions (x :: steps)).count k = 1 := by
    have later := receptions_of_stays (fun y mem => single y (List.mem_cons_of_mem x mem)) stays.1 stays.2
    have split : s.receptions (x :: steps) = x.received s ++ (s.step x).receptions steps := rfl
    rw [split, List.count_append, List.count_eq_zero_of_not_mem later, acquaints.count_received mem]
  rw [List.count_eq_zero_of_not_mem absent, once] at balance
  by_cases visited : (s.run (x :: steps)).visitor.isSome = true
  · have none_kept := (withheld_run single withheld).alone visited
    rw [none_kept, List.count_nil, Nat.add_zero, Nat.zero_add] at balance
    have owes : owed = due := (if_pos visited).trans balance.symm
    exact ⟨owes ▸ most, fun taken => (all taken).trans owes.symm⟩
  · have nothing : (s.introductions (x :: steps)).count k = owed := by
      have owes : owed = 0 := if_neg visited
      rw [owes, introductions_of_alone single (Option.not_isSome_iff_eq_none.1 visited), List.count_nil]
    exact ⟨Nat.le_of_eq nothing, fun _ => nothing⟩

theorem stays_concat (s : Session τ) (steps : List (Step τ)) {y : Step τ} (stays : s.Stays k steps)
    (live : k ∈ ((s.run steps).step y).streams.keys) : s.Stays k (steps ++ [y]) := by
  induction steps generalizing s with
  | nil => exact ⟨live, trivial⟩
  | cons x steps ih => exact ⟨stays.1, ih (s.step x) stays.2 live⟩

/-- A stream that is introduced or kept back was taken in, and stayed since. -/
theorem taken_in_of_introduced {before : List (Step τ)} {y : Step τ} (nobody : s.unannounced = [])
    (single : ∀ x ∈ before ++ [y], x.single = true) (withheld : Withheld s)
    (mem : k ∈ introduced (s.run before) ((s.run before).step y) ∨
      k ∈ ((s.run before).step y).unannounced) :
    ∃ earlier x during, before ++ [y] = earlier ++ x :: during ∧ k ∈ x.received (s.run earlier) ∧
      (s.run earlier).Stays k (x :: during) := by
  have earlier {before : List (Step τ)} {y : Step τ} (single : ∀ x ∈ before ++ [y], x.single = true) :
      ∀ x ∈ before, x.single = true := fun x mem => single x (List.mem_append_left _ mem)
  have last {before : List (Step τ)} {y : Step τ} (single : ∀ x ∈ before ++ [y], x.single = true) :
      y.single = true := single y (List.mem_append_right _ (List.mem_singleton_self y))
  have live {before : List (Step τ)} {y : Step τ} (single : ∀ x ∈ before ++ [y], x.single = true)
      (mem : k ∈ introduced (s.run before) ((s.run before).step y) ∨
        k ∈ ((s.run before).step y).unannounced) : k ∈ ((s.run before).step y).streams.keys := by
    have acquaints := acquaints_step (s := s.run before) (last single)
    obtain mem | mem := mem
    · exact acquaints.present mem
    · exact (acquaints.keeps_withheld (withheld_run (earlier single) withheld)).live k mem
  -- back from the last step: what it neither took in nor dropped was kept back by the one before
  induction before using List.reverseRecOn generalizing y with
  | nil =>
    obtain kept | here := (acquaints_step (last single)).source mem
    · rw [show (s.run []).unannounced = [] from nobody] at kept
      cases kept
    · exact ⟨[], y, [], rfl, here, live single mem, trivial⟩
  | append_singleton before z ih =>
    obtain kept | here := (acquaints_step (last single)).source mem
    · rw [run_append] at kept
      obtain ⟨first, x, during, split, received, stays⟩ := ih (earlier single) (.inr kept)
      refine ⟨first, x, during ++ [y], by rw [split, List.append_assoc]; rfl, received, ?_⟩
      have reached : (s.run first).run (x :: during) = s.run (before ++ [z]) := by rw [split, run_append]
      exact stays_concat _ (x :: during) stays (reached ▸ live single mem)
    · exact ⟨before ++ [z], y, [], rfl, here, live single mem, trivial⟩

theorem taken_rounds (taken : ∀ x ∈ steps, x.audience.taken = true) :
    ∀ y ∈ s.rounds steps, y.audience.taken = true := by
  intro y mem
  obtain ⟨x, there, ⟨rfl, -⟩ | ⟨a, now, round, loop⟩⟩ := rounds_cases mem
  · exact taken y there
  · have heard : a.taken = true := by
      have heard := taken x there
      obtain ⟨op, rfl⟩ | ⟨e, rfl⟩ := loop
      · exact heard
      · exact heard
    cases round with
    | move t => rfl
    | receive id => exact heard
    | report other => exact heard

end Runs

/-! ## Whole lives -/

variable [Transport τ]

/-- A session visitor may be installed at any time of a run, replaced, or never be installed. A stream of
the peer that the session takes in is introduced once, over all visitors, if one is installed while it is
live, and otherwise not at all: as long as it stays, it was introduced once where there is a visitor by
then, and never where there is none. Only where notices are no longer taken can the introduction be
missing. Whoever is introduced was taken in and stayed since, and the session is not closed. Streams that
are introduced together come in ascending order. -/
theorem stream_introduced_once (id : SessionId) (connection : ConnectionHandle) (t : τ)
    (options : SessionOptions) (now : Instant) (steps : List (Step τ)) :
    let s : Session τ := .new id connection t options now
    let rounds := s.rounds steps
    s.run rounds = s.run steps ∧
    (∀ before x during after k, rounds = before ++ x :: (during ++ after) →
      k ∈ x.received (s.run before) → (s.run before).Stays k (x :: during) →
      let owed := if (s.run (before ++ x :: during)).visitor.isSome then 1 else 0
      ((s.run before).introductions (x :: during)).count k ≤ owed ∧
        ((∀ y ∈ x :: during, y.audience.taken = true) →
          ((s.run before).introductions (x :: during)).count k = owed)) ∧
    ∀ before y after, rounds = before ++ y :: after →
      let m := s.run before
      (m.visitor.isSome = true → (m.step y).visitor.isSome = true) ∧
      (introduced m (m.step y)).Pairwise (fun i j => i.raw < j.raw) ∧
      ∀ k ∈ introduced m (m.step y), (m.step y).state ≠ .closed ∧
        ∃ earlier x during, before ++ [y] = earlier ++ x :: during ∧ k ∈ x.received (s.run earlier) ∧
          (s.run earlier).Stays k (x :: during) := by
  intro s rounds
  have single : ∀ x ∈ rounds, x.single = true := single_rounds s steps
  have fresh : Withheld s := ⟨nofun, List.nodup_nil, fun _ => rfl⟩
  refine ⟨run_rounds s steps, ?_, ?_⟩
  · intro before x during after k split received stays
    have within : ∀ y ∈ x :: during, y ∈ rounds := by
      intro y mem
      rw [split, ← List.cons_append]
      exact List.mem_append_right _ (List.mem_append_left _ mem)
    have earlier : ∀ y ∈ before, y.single = true := fun y mem =>
      single y (split ▸ List.mem_append_left _ mem)
    rw [run_append]
    exact introduced_of_stays (fun y mem => single y (within y mem)) (withheld_run earlier fresh) received
      stays
  · intro before y after split m
    have within : ∀ x ∈ before ++ [y], x.single = true := by
      intro x mem
      refine single x ?_
      rw [split, ← List.singleton_append, ← List.append_assoc]
      exact List.mem_append_left _ mem
    have earlier : ∀ x ∈ before, x.single = true := fun x mem => within x (List.mem_append_left _ mem)
    have here : y.single = true := within y (List.mem_append_right _ (List.mem_singleton_self y))
    have acquaints := acquaints_step (s := m) here
    have withheld : Withheld m := withheld_run earlier fresh
    refine ⟨acquaints.visitor_stays, acquaints.ascending withheld, fun k mem => ⟨fun closed => ?_, ?_⟩⟩
    · have emptied : Emptied (m.step y) := emptied_outcome (outcome_step m here) (emptied_run nofun earlier)
      have live := acquaints.present mem
      rw [(emptied closed).1] at live
      cases live
    · exact taken_in_of_introduced rfl within fresh (.inl mem)

/-- The client end of a connection whose server has answered and has written on its second stream. -/
def addressedConnection : Wire.Connection :=
  answeredConnection.receive 0 ⟨0, 1, [.stream (.of .server .bi 1) 0 [104, 105] false]⟩

/-- A client that takes in both streams of its server while nobody visits it. -/
def unvisited : List (Step Wire.Connection) :=
  [.operate .silent 0 .start, .operate .silent 0 .beginHandshake, .operate .silent 0 .process]

/-- The first visitor is introduced to both in ascending order, and one that replaces it to neither. -/
theorem stream_introduced_once_late :
    let s : Session Wire.Connection := .new ⟨1⟩ ⟨0⟩ addressedConnection .standard 0
    let m := s.run unvisited
    let visit : Step Wire.Connection := .operate .silent 0 (.setVisitor default)
    (∀ x ∈ unvisited ++ [visit, visit], x.audience.taken = true) ∧
      (∀ n < 2, .of .server .bi n ∈ introduced m (m.step visit)) ∧
      (introduced m (m.step visit)).Pairwise (fun i j => i.raw < j.raw) ∧
      ∀ n < 2, ∃ earlier x during, s.rounds (unvisited ++ [visit, visit]) = earlier ++ x :: during ∧
        .of .server .bi n ∈ x.received (s.run earlier) ∧
        ((s.run earlier).introductions (x :: during)).count (.of .server .bi n) = 1 := by
  intro s m visit
  have taken : ∀ x ∈ unvisited ++ [visit, visit], x.audience.taken = true := by
    simp [unvisited, visit, Step.audience, Audience.silent]
  have told := stream_introduced_once ⟨1⟩ ⟨0⟩ addressedConnection .standard 0
    (unvisited ++ [visit, visit])
  have rounds : s.rounds (unvisited ++ [visit, visit]) = s.rounds unvisited ++ visit :: [visit] :=
    rounds_append s unvisited [visit, visit]
  have reached : s.run (s.rounds unvisited) = m := run_rounds s unvisited
  have kept : ∀ n < 2, .of .server .bi n ∈ m.unannounced ∧ .of .server .bi n ∈ m.streams.keys := by
    decide +kernel
  have introduced : ∀ n < 2, .of .server .bi n ∈ introduced m (m.step visit) := by
    intro n less
    have step : m.step visit = m.setVisitor .silent default := rfl
    rw [step, introduced_setVisitor]
    exact mem_missed.2 (kept n less)
  obtain ⟨-, stayed, each⟩ := told
  have first := each _ _ _ rounds
  rw [reached] at first
  refine ⟨taken, introduced, first.2.1, fun n less => ?_⟩
  obtain ⟨-, earlier, x, during, split, received, stays⟩ := first.2.2 _ (introduced n less)
  -- the stream is still there when the second visitor comes
  have until_then : (s.run earlier).run (x :: during) = m.step visit := by
    rw [← run_append, ← split, run_append, reached]
    rfl
  have live : .of .server .bi n ∈ ((m.step visit).step visit).streams.keys := by
    show _ ∈ ((m.setVisitor .silent default).setVisitor .silent default).streams.keys
    rw [setVisitor_eq, setVisitor_eq]
    exact (kept n less).2
  have all : s.rounds (unvisited ++ [visit, visit]) = earlier ++ x :: (during ++ [visit] ++ []) := by
    rw [rounds, List.append_nil, ← List.cons_append, ← List.append_assoc, ← split, List.append_assoc]
    rfl
  have count := (stayed earlier x (during ++ [visit]) [] _ all received
    (stays_concat _ (x :: during) stays (until_then ▸ live))).2
  rw [List.append_nil] at all
  have heard : ∀ y ∈ x :: (during ++ [visit]), y.audience.taken = true := fun y mem =>
    taken_rounds taken y (all ▸ List.mem_append_right _ mem)
  refine ⟨earlier, x, _, all, received, ?_⟩
  rw [count heard, ← all, run_rounds]
  show (if ((m.setVisitor .silent default).setVisitor .silent default).visitor.isSome then 1 else 0) = 1
  rw [setVisitor_eq]
  rfl

end Session

end QuicSessions
