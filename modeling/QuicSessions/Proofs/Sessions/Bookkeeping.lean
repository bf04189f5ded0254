import Mathlib.Data.List.Nodup
import QuicSessions.Proofs.Sessions.Postings
import QuicSessions.Proofs.Streams.Accounts

/-!
# The accounts of a session

A session on a register has an account of every stream identifier. If the transport gives out each
identifier once, and the streams that are opened from here in their order, all accounts stay in order,
whatever the session does.
-/

set_option autoImplicit false

namespace QuicSessions.Session

variable {τ : Type}

/-- What happened earlier: the notices that were collected, and the streams of the peer that were taken
in because somebody asked for them. -/
structure Past where
  posted : List Notice
  requested : List StreamId

/-- The streams that began, on request or by the transport. -/
def known (past : Past) (s : Session (Register τ)) : List StreamId := past.requested ++ s.transport.given

def account (past : Past) (s : Session (Register τ)) (j : StreamId) : Account where
  given := decide (j ∈ s.known past)
  live := s.streams.get? j
  word := word s.id j (past.posted ++ s.posted)
  reset := decide (j ∈ s.transport.resets)

/-- The session and what was told of its streams fit together. -/
structure Coherent (a : Audience) (past : Past) (s : Session (Register τ)) : Prop where
  named : Named s
  /-- The session counts the streams it opens. -/
  counted : ∀ dir, (s.transport.opened dir).length = s.opened.get dir
  /-- Every live stream has an integer. -/
  fits : ∀ id ∈ s.streams.keys, id.handle?.isSome = true
  inOrder : ∀ j, (s.account past j).InOrder a.taken

/-- No stream begins twice, and those opened from here come in the order of their identifiers. The gate
of a session trusts that order: it asks whether the next identifier has an integer, and two streams
opened out of turn could be told of under the same one. -/
structure Regular (past : Past) (s : Session (Register τ)) : Prop where
  distinct : (s.known past).Nodup
  numbered : ∀ dir, ∃ n, s.transport.opened dir = (List.range n).map (StreamId.of s.side dir)

/-- Besides, there is a listener before the first stream. -/
structure Orderly (a : Audience) (past : Past) (s : Session (Register τ)) : Prop
    extends Regular past s where
  attended : s.known past ≠ [] → a.listener.isSome = true

section Before

variable {past past' : Past} {s s' : Session (Register τ)}

theorem known_sublist (requested : past.requested <+: past'.requested)
    (entries : s.transport.entries <+: s'.transport.entries) :
    List.Sublist (s.known past) (s'.known past') := by
  have given : s.transport.given <+: s'.transport.given := entries.filterMap _
  exact requested.sublist.append given.sublist

/-- The first of what is numbered in order is numbered in order. -/
theorem numbered_of_prefix {α : Type} {f : Nat → α} {xs ys : List α} (h : xs <+: ys)
    (numbered : ∃ n, ys = (List.range n).map f) : ∃ n, xs = (List.range n).map f := by
  obtain ⟨n, rfl⟩ := numbered
  rw [List.prefix_iff_eq_take, ← List.map_take, List.take_range] at h
  exact ⟨_, h⟩

/-- What is regular was so all along. -/
theorem Regular.of_prefix (h : Regular past' s') (requested : past.requested <+: past'.requested)
    (entries : s.transport.entries <+: s'.transport.entries) (side : s'.side = s.side) :
    Regular past s := by
  refine ⟨h.distinct.sublist (known_sublist requested entries), fun dir => ?_⟩
  exact numbered_of_prefix (entries.filterMap _) (side ▸ h.numbered dir)

theorem Orderly.of_prefix {a : Audience} (h : Orderly a past s')
    (entries : s.transport.entries <+: s'.transport.entries) (side : s'.side = s.side) :
    Orderly a past s := by
  refine ⟨h.toRegular.of_prefix (List.prefix_refl _) entries side, fun some_began => h.attended ?_⟩
  intro none_began
  have fewer : List.Sublist (s.known past) (s'.known past) :=
    known_sublist (List.prefix_refl _) entries
  rw [none_began, List.sublist_nil] at fewer
  exact some_began fewer

end Before

/-! ## Deeds that no account tells of -/

variable {a : Audience} {past : Past} {s s' : Session (Register τ)}

/-- Nothing changes that an account tells of. -/
theorem Coherent.of_words (h : Coherent a past s) (id : s'.id = s.id)
    (transport : s'.transport = s.transport) (streams : s'.streams = s.streams)
    (opened : s'.opened = s.opened) (words : ∀ j, word s.id j s'.posted = word s.id j s.posted) :
    Coherent a past s' where
  named := by
    unfold Named
    rw [streams]
    exact h.named
  counted := by
    rw [transport, opened]
    exact h.counted
  fits := by
    rw [streams]
    exact h.fits
  inOrder j := by
    have same : s'.account past j = s.account past j := by
      unfold account known
      rw [id, transport, streams, word_append, word_append, words]
    rw [same]
    exact h.inOrder j

theorem Coherent.steady (h : Coherent a past s) (steady : Steady s s') : Coherent a past s' :=
  h.of_words steady.same.id steady.transport steady.streams steady.opened
    fun j => steady.aside.word j s.id

variable [Transport τ]

theorem entries_ask {r r' : Register τ} (h : Ask r r') :
    r'.entries = r.entries ∨ ∃ id, r'.entries = r.entries ++ [.accepted id] := by
  cases h with
  | poll polled => exact .inl (Register.entries_poll polled)
  | accept accepted => exact .inr ⟨_, Register.entries_acceptStream accepted⟩
  | datagram received => exact .inl (Register.entries_receiveDatagram received)
  | sendDatagram data => exact .inl rfl
  | reject id side code =>
    unfold LiveStream.reject
    dsimp only
    split <;> split <;> exact .inl rfl
  | ping => exact .inl rfl
  | close now code reason => exact .inl rfl
  | timeout now => exact .inl rfl

omit [Transport τ] in
/-- The transport notes where streams come from, and the session counts those it opened. -/
theorem Coherent.noting (h : Coherent a past s) {r : Register τ} {noted : List Entry} {n : PerDir Nat}
    (entries : r.entries = s.transport.entries ++ noted) (going : ∀ e ∈ noted, e.reset? = none)
    (counted : ∀ dir, (r.opened dir).length = n.get dir) :
    Coherent a past { s with transport := r, opened := n } where
  named := h.named
  counted := counted
  fits := h.fits
  inOrder j := by
    have same : account past { s with transport := r, opened := n } j =
        { s.account past j with given := decide (j ∈ past.requested ++ r.given) } := by
      unfold account known
      rw [Register.resets_of_entries entries, List.filterMap_eq_nil_iff.2 going, List.append_nil]
    rw [same]
    refine (h.inOrder j).begin fun before => ?_
    rw [Register.given_of_entries entries, ← List.append_assoc]
    exact decide_eq_true (List.mem_append_left _ (of_decide_eq_true before))

omit [Transport τ] in
/-- A stream of the peer begins; who says so makes no difference. -/
theorem Coherent.beginning (h : Coherent a past s) {r : Register τ} {e : Entry}
    (entries : r.entries = s.transport.entries ++ [e]) (going : e.reset? = none)
    (remote : ∀ dir, e.opened? dir = none) : Coherent a past { s with transport := r } := by
  refine h.noting entries (by simpa using going) fun dir => ?_
  rw [Register.opened_of_entries entries, List.filterMap_cons_none (remote dir), List.filterMap_nil,
    List.append_nil]
  exact h.counted dir

theorem Coherent.ask (h : Coherent a past s) {r : Register τ} (asked : Ask s.transport r) :
    Coherent a past { s with transport := r } := by
  obtain same | ⟨id, one⟩ := entries_ask asked
  · refine h.noting (same.trans (List.append_nil _).symm) (by simp) fun dir => ?_
    unfold Register.opened
    rw [same]
    exact h.counted dir
  · exact h.beginning one rfl fun _ => rfl

/-! ## Deeds on one stream -/

omit [Transport τ] in
/-- A change of one stream that leaves its read side alone. -/
theorem reads_update {t : Table StreamId LiveStream} {id : StreamId} {f : LiveStream → LiveStream}
    (same : ∀ x, t.get? id = some x →
      (f x).readClosed = x.readClosed ∧ (f x).finReported = x.finReported) (j : StreamId)
    (y : LiveStream) (there : (t.update id f).get? j = some y) :
    ∃ x, t.get? j = some x ∧ y.readClosed = x.readClosed ∧ y.finReported = x.finReported := by
  rw [Table.get?_update] at there
  split at there
  · rename_i e
    obtain ⟨x, found, rfl⟩ := Option.map_eq_some_iff.1 there
    exact ⟨x, found, same x (e ▸ found)⟩
  · exact ⟨y, there, rfl, rfl⟩

omit [Transport τ] in
theorem Coherent.change (h : Coherent a past s) (quiet : Quiet s s')
    (entries : s'.transport.entries = s.transport.entries) (posted : s'.posted = s.posted)
    (same : ∀ j y, s'.streams.get? j = some y → ∃ x, s.streams.get? j = some x ∧
      y.readClosed = x.readClosed ∧ y.finReported = x.finReported) : Coherent a past s' where
  named := quiet.named h.named
  counted dir := by
    have opened : s'.opened = s.opened := by rw [quiet.eq]
    unfold Register.opened
    rw [entries, opened]
    exact h.counted dir
  fits id live := h.fits id (quiet.keys ▸ live)
  inOrder j := by
    have changed : s'.account past j = { s.account past j with live := s'.streams.get? j } := by
      unfold account known Register.given Register.resets
      rw [entries, posted, quiet.sameSession.id]
    rw [changed]
    exact (h.inOrder j).change (same j)

omit [Transport τ] in
theorem Coherent.canWrite (h : Coherent a past s) {id : StreamId} {x : LiveStream}
    (found : s.streams.get? id = some x) (v : StreamVisitor) :
    Coherent a past
      { s with posted := s.posted ++ a.heard [.stream v (s.streamHandle id) .canWrite] } where
  named := h.named
  counted := h.counted
  fits := h.fits
  inOrder j := by
    have told : word s.id j (past.posted ++ (s.posted ++ a.heard [.stream v (s.streamHandle id) .canWrite])) =
        word s.id j (past.posted ++ s.posted) ++
          if a.taken then (if id = j then [Callback.canWrite] else []) else [] := by
      rw [← List.append_assoc, word_append, word_heard, word_visitorNews]
      rfl
    unfold account
    dsimp only
    rw [told]
    by_cases same : id = j
    · subst same
      rw [if_pos rfl]
      exact (h.inOrder id).canWrite found
    · rw [if_neg same, ite_self, List.append_nil]
      exact h.inOrder j

omit [Transport τ] in
/-- Something is sent on a stream. -/
theorem Coherent.sending (h : Coherent a past s) {id : StreamId} {x y : LiveStream}
    (found : s.streams.get? id = some x) (sent : LiveStream.SendingOnly x y) {r : Register τ}
    (entries : r.entries = s.transport.entries) :
    Coherent a past { s with transport := r, streams := s.streams.update id fun _ => y } := by
  refine h.change (.update found sent.id r s.posted) entries rfl (reads_update fun x' found' => ?_)
  rw [found] at found'
  cases found'
  exact ⟨sent.readClosed, sent.finReported⟩

theorem Coherent.streamWrite (h : Coherent a past s) (id : StreamId) (data : Bytes) (fin : Bool) :
    Coherent a past (s.streamWrite id data fin).2 := by
  unfold Session.streamWrite
  split
  · exact h
  · rename_i x found
    exact h.sending found (LiveStream.sendingOnly_write x data fin s.transport)
      (LiveStream.retains_write (Register.sending_retains s.transport.entries) x data fin rfl)

theorem Coherent.streamClose (h : Coherent a past s) (id : StreamId) :
    Coherent a past (s.streamClose id) := by
  unfold Session.streamClose
  split
  · exact h
  · rename_i x found
    exact h.sending found (LiveStream.sendingOnly_close x s.transport)
      (LiveStream.retains_close (Register.sending_retains s.transport.entries) x rfl)

theorem Coherent.streamWritable (h : Coherent a past s) (id : StreamId) :
    Coherent a past (s.streamWritable a id) := by
  cases found : s.streams.get? id with
  | none =>
    rw [streamWritable_of_absent found]
    exact h
  | some x =>
    have sent := h.sending found (LiveStream.sendingOnly_flush x s.transport)
      (LiveStream.retains_flush (Register.sending_retains s.transport.entries) x rfl)
    obtain ⟨notices, none_told | ⟨v, told⟩, e⟩ := streamWritable_cases (a := a) found
    · rw [e, none_told, List.append_nil]
      exact sent
    · rw [e, told]
      have still : (s.streams.update id fun _ => (x.flush s.transport).2.1).get? id =
          some (x.flush s.transport).2.1 := by
        rw [Table.get?_update, if_pos rfl, found]
        rfl
      exact sent.canWrite still v

/-- A pass over one stream. What it brought is told, or else only its end is. -/
theorem Coherent.pass (h : Coherent a past s) {id : StreamId} {x : LiveStream}
    (found : s.streams.get? id = some x)
    (heard : x.visitor.isSome = true ∨ a.listener.isSome = true) (limit : Nat) {told : ReadPass}
    (regions : told.regions = (x.readUpTo limit s.transport).1.regions ∨ told.regions = []) :
    Coherent a past { s with
      transport := (x.readUpTo limit s.transport).2.2
      streams := s.streams.update id fun _ => (x.readUpTo limit s.transport).2.1.takeFin.2
      posted := s.posted ++ a.heard (s.passNotices a (x.readUpTo limit s.transport).2.1.takeFin.2 told
        (x.readUpTo limit s.transport).2.1.takeFin.1) } := by
  have passed := LiveStream.passed_readUpTo x limit s.transport
  have same := LiveStream.sameStream_readUpTo_takeFin x limit s.transport
  have entries := LiveStream.entries_readUpTo x limit s.transport
  have name : x.id = id := h.named id x found
  rw [name] at entries
  revert passed same entries regions
  -- only what the lemmas say of the pass matters from here
  generalize (x.readUpTo limit s.transport).2.1.takeFin.2 = y
  generalize (x.readUpTo limit s.transport).2.1.takeFin.1 = fin
  generalize (x.readUpTo limit s.transport).2.2 = r
  generalize (x.readUpTo limit s.transport).1 = p
  intro regions passed same entries
  have quiet : Quiet s { s with
      transport := r
      streams := s.streams.update id fun _ => y
      posted := s.posted ++ a.heard (s.passNotices a y told fin) } := .update found same.id r _
  have fits : y.id.handle?.isSome = true := by
    rw [same.id, name]
    exact h.fits id (Table.mem_keys_iff.2 ⟨x, found⟩)
  have hears : y.visitor.isSome = true ∨ a.listener.isSome = true := by
    rw [same.visitor]
    exact heard
  have given : r.given = s.transport.given := by
    rw [Register.given_of_entries entries]
    unfold Entry.ofPass
    split <;> exact List.append_nil _
  have opened (dir : Dir) : r.opened dir = s.transport.opened dir := by
    rw [Register.opened_of_entries entries]
    unfold Entry.ofPass
    split <;> exact List.append_nil _
  have resets (j : StreamId) : decide (j ∈ r.resets) =
      (decide (j ∈ s.transport.resets) || (decide (j = id) && p.reset.isSome)) := by
    rw [Register.resets_of_entries entries]
    unfold Entry.ofPass
    cases p.reset <;> simp [Entry.reset?]
  refine ⟨quiet.named h.named, fun dir => ?_, fun i live => h.fits i (quiet.keys ▸ live), fun j => ?_⟩
  · rw [opened]
    exact h.counted dir
  · have told_of_j : word s.id j (past.posted ++ (s.posted ++ a.heard (s.passNotices a y told fin))) =
        word s.id j (past.posted ++ s.posted) ++
          if a.taken then (if id = j then passCallbacks told.regions fin else []) else [] := by
      rw [← List.append_assoc, word_append, word_heard, word_passNotices a j s fits hears, same.id, name]
    unfold account known
    dsimp only
    rw [told_of_j, given, resets, Table.get?_update]
    by_cases here : id = j
    · subst here
      rw [if_pos rfl, if_pos rfl, found, decide_eq_true rfl, Bool.true_and]
      exact (h.inOrder id).pass found passed regions
    · have elsewhere : ¬j = id := fun e => here e.symm
      rw [if_neg here, if_neg elsewhere, ite_self, List.append_nil, decide_eq_false elsewhere,
        Bool.false_and, Bool.or_false]
      exact h.inOrder j

theorem Coherent.deliver (h : Coherent a past s) (id : StreamId) : Coherent a past (s.deliver a id) := by
  obtain unheard | ⟨x, found, heard⟩ := unheard_or_heard a s id
  · rw [deliver_of_unheard unheard]
    exact h
  · rw [deliver_of_heard found heard]
    refine h.pass found ?_ LiveStream.unlimited (.inl rfl)
    rwa [Bool.and_eq_false_iff, Option.isNone_eq_false_iff, Option.isNone_eq_false_iff] at heard

theorem Coherent.setStreamVisitor (h : Coherent a past s) (id : StreamId) (v : StreamVisitor) :
    Coherent a past (s.setStreamVisitor a id v) := by
  unfold Session.setStreamVisitor
  split
  · exact (h.change (.visit s id v) rfl rfl (reads_update fun _ _ => ⟨rfl, rfl⟩)).deliver id
  · exact h

theorem Coherent.streamRead (h : Coherent a past s) (orderly : Orderly a past s) (id : StreamId)
    (limit : Nat) : Coherent a past (s.streamRead a id limit).2 := by
  cases found : s.streams.get? id with
  | none =>
    rw [streamRead_of_absent found]
    exact h
  | some x =>
    have began : decide (id ∈ s.known past) = true := (h.inOrder id).given_of_live found
    have attended := orderly.attended (List.ne_nil_of_mem (of_decide_eq_true began))
    rw [streamRead_eq found]
    exact h.pass found (.inr attended) limit (.inr rfl)

theorem Coherent.traffic (h : Coherent a past s) (orderly : Orderly a past s) (traffic : Traffic a s s') :
    Coherent a past s' := by
  cases traffic with
  | ask asked => exact h.ask asked
  | deliver id => exact h.deliver id
  | read id limit => exact h.streamRead orderly id limit
  | writable id => exact h.streamWritable id
  | write id data fin => exact h.streamWrite id data fin
  | closeStream id => exact h.streamClose id
  | setStreamVisitor id v => exact h.setStreamVisitor id v
  | acknowledged id =>
    exact h.change (.updateWith s id _ fun _ => rfl) rfl rfl (reads_update fun _ _ => ⟨rfl, rfl⟩)
  | stopped id =>
    exact h.change (.updateWith s id _ fun _ => rfl) rfl rfl (reads_update fun _ _ => ⟨rfl, rfl⟩)

/-! ## Streams that leave -/

omit [Transport τ] in
theorem Coherent.drop (h : Coherent a past s) {x : LiveStream}
    (found : s.streams.get? x.id = some x) : Coherent a past (s.dropStream a x) where
  named := named_erase rfl h.named
  counted := h.counted
  fits id live := h.fits id (Table.mem_keys_erase_iff.1 live).2
  inOrder j := by
    have fits := h.fits x.id (Table.mem_keys_iff.2 ⟨x, found⟩)
    have told : word s.id j (past.posted ++ (s.posted ++ a.heard (s.streamClosedNotices a x))) =
        word s.id j (past.posted ++ s.posted) ++
          if a.taken then (if x.id = j then (mourners a x).map .closed else []) else [] := by
      rw [← List.append_assoc, word_append, word_heard, word_streamClosedNotices a j s fits]
    show Account.InOrder a.taken ⟨_, (s.streams.erase x.id).get? j,
      word s.id j (past.posted ++ (s.posted ++ a.heard (s.streamClosedNotices a x))), _⟩
    rw [told, Table.get?_erase]
    by_cases here : x.id = j
    · subst here
      rw [if_pos rfl, if_pos rfl]
      exact (h.inOrder x.id).leave found (nodup_mourners a x)
    · rw [if_neg here, if_neg fun e => here e.symm, ite_self, List.append_nil]
      exact h.inOrder j

omit [Transport τ] in
theorem Coherent.conclude (h : Coherent a past s) (reason : CloseReason) :
    Coherent a past (s.conclude a reason) := by
  by_cases closed : s.state = .closed
  · rw [conclude_of_closed a closed]
    exact h
  have told (j : StreamId) := word_conclude (a := a) (j := j) h.named closed h.fits reason
  have e := conclude_eq a closed reason
  refine ⟨?_, ?_, ?_, fun j => ?_⟩
  · rw [e]
    exact named_empty rfl
  · rw [e]
    exact h.counted
  · rw [e]
    intro id live
    cases live
  · have account : (s.conclude a reason).account past j =
        { s.account past j with
          live := none
          word := word s.id j (past.posted ++ (s.conclude a reason).posted) } := by
      rw [e]
      rfl
    rw [account, word_append, told, ← List.append_assoc, ← word_append]
    cases found : s.streams.get? j with
    | none =>
      dsimp only
      rw [List.append_nil]
      exact (h.inOrder j).change fun y none_left => by cases none_left
    | some x => exact (h.inOrder j).leave found (nodup_mourners a x)

/-! ## Streams that begin -/

/-- The stream began, and nothing has come of it. -/
structure Fresh (past : Past) (s : Session (Register τ)) (id : StreamId) : Prop where
  given : id ∈ s.known past
  silent : word s.id id (past.posted ++ s.posted) = []
  going : id ∉ s.transport.resets

section Beginning

omit [Transport τ]

/-- A stream that begins now is fresh. -/
theorem Coherent.fresh (h : Coherent a past s) {id : StreamId} {r : Register τ} {e : Entry}
    (entries : r.entries = s.transport.entries ++ [e]) (begins : e.given? = some id)
    (distinct : (known past { s with transport := r }).Nodup) : Fresh past { s with transport := r } id := by
  have given : known past { s with transport := r } = s.known past ++ [id] := by
    unfold known
    rw [Register.given_of_entries entries, List.filterMap_cons_some begins, ← List.append_assoc]
    rfl
  have resets : r.resets = s.transport.resets := by
    rw [Register.resets_of_entries entries]
    cases e with
    | reset _ => cases begins
    | opened _ _ => exact List.append_nil _
    | accepted _ => exact List.append_nil _
  have unborn : id ∉ s.known past := by
    rw [given, List.nodup_append] at distinct
    exact fun mem => distinct.2.2 id mem id (List.mem_singleton_self id) rfl
  obtain ⟨-, silent, going⟩ := (h.inOrder id).unborn (decide_eq_false unborn)
  refine ⟨?_, silent, ?_⟩
  · rw [given]
    exact List.mem_append_right _ (List.mem_singleton_self id)
  · show id ∉ r.resets
    rw [resets]
    exact of_decide_eq_false going

/-- More streams are known to have begun. -/
theorem Coherent.requesting (h : Coherent a past s) (more : List StreamId) :
    Coherent a { past with requested := past.requested ++ more } s where
  named := h.named
  counted := h.counted
  fits := h.fits
  inOrder j := by
    refine (h.inOrder j).begin fun before => decide_eq_true ?_
    obtain mem | mem := List.mem_append.1 (of_decide_eq_true before)
    · exact List.mem_append_left _ (List.mem_append_left _ mem)
    · exact List.mem_append_right _ mem

/-- A stream that somebody asks for and that did not begin before is fresh. -/
theorem Coherent.fresh_requested (h : Coherent a past s) {id : StreamId}
    (distinct : (known { past with requested := past.requested ++ [id] } s).Nodup) :
    Fresh { past with requested := past.requested ++ [id] } s id := by
  have unborn : id ∉ s.known past := by
    unfold known at distinct ⊢
    rw [List.append_assoc, List.singleton_append, List.nodup_middle, List.nodup_cons] at distinct
    exact distinct.1
  obtain ⟨-, silent, going⟩ := (h.inOrder id).unborn (decide_eq_false unborn)
  refine ⟨?_, silent, of_decide_eq_false going⟩
  exact List.mem_append_left _ (List.mem_append_right _ (List.mem_singleton_self id))

/-- A fresh stream is put into the table and told to be ready. -/
theorem Coherent.insert (h : Coherent a past s) {id : StreamId} (fresh : Fresh past s id)
    (fits : id.handle?.isSome = true) (listens : a.listener.isSome = true) :
    Coherent a past ((s.insertStream id).tellListener a (.ready s.id id.handle)) where
  named := named_insert rfl h.named
  counted := h.counted
  fits i live := by
    obtain rfl | live := Table.mem_keys_insert_iff.1 live
    · exact fits
    · exact h.fits i live
  inOrder j := by
    have told : word s.id j (past.posted ++ (s.posted ++ a.heard (a.tellListener (.ready s.id id.handle)))) =
        word s.id j (past.posted ++ s.posted) ++
          if a.taken then (if id = j then [Callback.ready] else []) else [] := by
      rw [← List.append_assoc, word_append, word_heard, word_ready a j s fits listens]
    show Account.InOrder a.taken ⟨_, (s.streams.insert id _).get? j,
      word s.id j (past.posted ++ (s.posted ++ a.heard (a.tellListener (.ready s.id id.handle)))), _⟩
    rw [told, Table.get?_insert]
    by_cases here : id = j
    · subst here
      rw [if_pos rfl, if_pos rfl]
      exact Account.InOrder.ready (c := s.account past id) (decide_eq_true fresh.given) fresh.silent
        (decide_eq_false fresh.going)
    · rw [if_neg here, if_neg fun e => here e.symm, ite_self, List.append_nil]
      exact h.inOrder j

/-- The transport opened a stream, and the session counts it. -/
theorem Coherent.opening (h : Coherent a past s) {dir : Dir} {id : StreamId} {r : Register τ}
    (entries : r.entries = s.transport.entries ++ [.opened dir id]) :
    Coherent a past { s with transport := r, opened := s.opened.update dir (· + 1) } := by
  refine h.noting entries (by simp [Entry.reset?]) fun d => ?_
  rw [Register.opened_of_opened entries, List.length_append, h.counted, PerDir.get_update]
  split <;> rfl

/-- Streams numbered in order: the last one has the number of those before it. -/
theorem last_of_numbered {α : Type} {f : Nat → α} {n : Nat} {xs : List α} {x : α}
    (numbered : xs ++ [x] = (List.range n).map f) : x = f xs.length := by
  have length : n = xs.length + 1 := by
    have same := congrArg List.length numbered
    rw [List.length_append, List.length_map, List.length_range] at same
    exact same.symm
  rw [length, List.range_succ, List.map_append] at numbered
  exact (List.cons.inj (List.append_inj' numbered rfl).2).1

end Beginning

/-- A stream that is opened in its order, when the gate lets it, has an integer. -/
theorem Coherent.fits_opened (h : Coherent a past s) {dir : Dir} {id : StreamId} {r : Register τ}
    (gate : s.refusal? dir = none) (entries : r.entries = s.transport.entries ++ [.opened dir id])
    {n : Nat} (numbered : r.opened dir = (List.range n).map (StreamId.of s.side dir)) :
    id.handle?.isSome = true := by
  have opened : r.opened dir = s.transport.opened dir ++ [id] := by
    rw [Register.opened_of_opened entries, if_pos rfl]
  have next : id = s.nextId dir := by
    rw [opened] at numbered
    rw [last_of_numbered numbered, h.counted]
    rfl
  rw [next]
  exact handle_of_gate gate

theorem Coherent.openStream (h : Coherent a past s) {dir : Dir} {id : StreamId} {r : Register τ}
    (gate : s.refusal? dir = none) (opened : Transport.openStream dir s.transport = some (id, r))
    (orderly : Orderly a past (s.afterOpen a dir id r)) : Coherent a past (s.afterOpen a dir id r) := by
  have entries := Register.entries_openStream opened
  have fresh : Fresh past { s with transport := r } id := h.fresh entries rfl orderly.distinct
  have listens : a.listener.isSome = true := orderly.attended (List.ne_nil_of_mem fresh.given)
  obtain ⟨n, numbered⟩ := orderly.numbered dir
  have fits : id.handle?.isSome = true := h.fits_opened gate entries numbered
  exact (h.opening entries).insert ⟨fresh.given, fresh.silent, fresh.going⟩ fits listens

omit [Transport τ] in
theorem Coherent.takeIn (h : Coherent a past s) {id : StreamId} (fresh : Fresh past s id)
    (fits : id.handle?.isSome = true) (orderly : Orderly a past s) :
    Coherent a past (s.afterTakeIn a id) := by
  have listens : a.listener.isSome = true := orderly.attended (List.ne_nil_of_mem fresh.given)
  have inserted := h.insert fresh fits listens
  have e := afterTakeIn_eq a id s
  refine inserted.of_words ?_ ?_ ?_ ?_ fun j => ?_
  · rw [e]
    rfl
  · rw [e]
    rfl
  · rw [e]
    rfl
  · rw [e]
    rfl
  · rw [posted_afterTakeIn, word_append, (aside_announce a (s.insertStream id) id).word j]
    exact (word_append ..).symm

/-! ## Everything a session does -/

theorem Orderly.of_acts (h : Orderly a past s') (acts : Acts a s s') : Orderly a past s :=
  h.of_prefix (retains_acts (Register.retains_prefix s.transport.entries) acts (List.prefix_refl _))
    (sameSession_acts a acts).side

theorem Coherent.deed (h : Coherent a past s) (deed : Deed a s s') (orderly : Orderly a past s') :
    Coherent a past s' := by
  have before : Orderly a past s := orderly.of_acts (.one (.deed deed))
  obtain traffic | steady | ⟨dir, id, r, gate, opened, rfl⟩ | ⟨x, found, -, rfl⟩ | ⟨reason, -, rfl⟩ :=
    deed_cases a deed
  · exact h.traffic before traffic
  · exact h.steady steady
  · exact h.openStream gate opened orderly
  · exact h.drop found
  · exact h.conclude reason

theorem Coherent.deeds (h : Coherent a past s) (deeds : Deeds a s s') (orderly : Orderly a past s') :
    Coherent a past s' := by
  induction deeds with
  | refl => exact h
  | tail _ last ih => exact (ih (orderly.of_acts (.one (.deed last)))).deed last orderly

/-- A stream of the peer that just began is taken in, or it is not. -/
theorem Coherent.createIncoming (h : Coherent a past s) {id : StreamId} (fresh : Fresh past s id)
    {now : Instant} {r : Option StreamHandle} (created : s.createIncoming a now id = .ok (r, s'))
    (orderly : Orderly a past s') : Coherent a past s' := by
  have before : Orderly a past s := orderly.of_acts (acts_createIncoming a now created)
  obtain ⟨-, deeds⟩ | ⟨-, welcome, rfl⟩ := createIncoming_cases a now created
  · exact h.deeds deeds orderly
  · exact (h.takeIn fresh welcome.fits before).deliver id

theorem Coherent.passage (h : Coherent a past s) (passage : Passage a s s') (orderly : Orderly a past s') :
    Coherent a past s' := by
  cases passage with
  | deed deed => exact h.deed deed orderly
  | received accepted created =>
    have entries := Register.entries_acceptStream accepted
    have begun : Coherent a past { s with transport := _ } := h.beginning entries rfl fun _ => rfl
    have distinct := (orderly.of_acts (acts_createIncoming a _ created)).distinct
    exact begun.createIncoming (h.fresh entries rfl distinct) created orderly

/-- What a session does keeps all accounts in order, if it is orderly in the end. -/
theorem Coherent.course (h : Coherent a past s) (course : Course a s s') (orderly : Orderly a past s') :
    Coherent a past s' := by
  induction course with
  | refl => exact h
  | tail _ last ih => exact (ih (orderly.of_acts (Course.one last).acts)).passage last orderly

end QuicSessions.Session
