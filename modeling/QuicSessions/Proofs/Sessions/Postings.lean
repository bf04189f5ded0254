import Mathlib.Data.List.Basic
import Mathlib.Data.List.Infix
import QuicSessions.Proofs.Sessions.Effects
import QuicSessions.Proofs.Streams.Callbacks

/-!
# What acts post about a stream

For each act that posts: what it adds to the word of a stream. News for the session visitor add
nothing to any word. The news that a stream is ready or closed, that data came or ended, and that
there is room to write each belong to the word of one stream, provided that it has an integer.
-/

set_option autoImplicit false

namespace QuicSessions

theorem Audience.heard_append (a : Audience) (notices more : List Notice) :
    a.heard (notices ++ more) = a.heard notices ++ a.heard more := by
  unfold Audience.heard
  split
  · rfl
  · rfl

theorem Audience.tellListener_eq (a : Audience) (news : ListenerNews) :
    a.tellListener news = a.listener.toList.map fun l => .listener l news := by
  unfold Audience.tellListener
  cases a.listener <;> rfl

/-- A notice that a stream or the connection is over. -/
def Notice.parting : Notice → Bool
  | stream _ _ .closed => true
  | session _ _ news => news.parting
  | listener _ (.streamClosed _ _) => true
  | _ => false

/-- The news of a notice for a session visitor. -/
def Notice.sessionNews? : Notice → Option SessionNews
  | session _ _ news => some news
  | _ => none

/-- A notice of what goes on on a stream: that it is ready, what arrived and that there is room. -/
structure Notice.Routine (n : Notice) : Prop where
  goesOn : n.parting = false
  elsewhere : n.sessionNews? = none

namespace Session

variable {τ : Type} (a : Audience) (j : StreamId)

theorem word_heard (session : SessionId) (notices : List Notice) :
    word session j (a.heard notices) = if a.taken then word session j notices else [] := by
  unfold Audience.heard
  split <;> rfl

/-! ## News for the session visitor -/

theorem word_visitorNotice (s : Session τ) (session : SessionId) (news : SessionNews) :
    word session j (s.visitorNotice news) = [] := by
  unfold visitorNotice
  split <;> rfl

/-- Such news belong to the word of no stream. -/
theorem Aside.word {s s' : Session τ} (h : Aside s s') (session : SessionId) :
    word session j s'.posted = word session j s.posted := by
  obtain ⟨notices, posted, to_visitor⟩ := h
  have none_about : QuicSessions.word session j notices = [] := by
    refine List.filterMap_eq_nil_iff.2 fun n mem => ?_
    obtain ⟨v, h, news, rfl, -⟩ := to_visitor n mem
    rfl
  rw [posted, word_append, none_about, List.append_nil]

/-- Taking a stream in tells the listener that it is ready, after the session visitor. -/
theorem posted_afterTakeIn (s : Session τ) (id : StreamId) :
    (s.afterTakeIn a id).posted =
      ((s.insertStream id).announce a id).posted ++ a.heard (a.tellListener (.ready s.id id.handle)) := by
  unfold afterTakeIn
  by_cases visited : s.visitor.isSome = true
  · rw [announce_of_visitor a (by exact visited)]
    rfl
  · rw [Bool.not_eq_true, Option.isSome_eq_false_iff, Option.isNone_iff_eq_none] at visited
    rw [announce_of_nobody a (by exact visited)]
    rfl

/-! ## News of a stream -/

section Told

variable (s : Session τ) {id : StreamId}

/-- What a visitor of a stream is told belongs to the word of that stream. -/
theorem word_visitorNews (v : StreamVisitor) (news : StreamNews) :
    word s.id j [.stream v (s.streamHandle id) news] = if id = j then [news.callback v] else [] := by
  rw [word_singleton]
  show (if s.id = s.id ∧ id = j then some (news.callback v) else none).toList = _
  by_cases same : id = j
  · rw [if_pos ⟨rfl, same⟩, if_pos same]
    rfl
  · rw [if_neg fun both => same both.2, if_neg same]
    rfl

variable (fits : id.handle?.isSome = true)
include fits

/-- So does what the listener is told, if the stream has an integer. -/
theorem word_listenerNews {news : ListenerNews} {l : Listener} {c : Callback}
    (about : news.callback? s.id j l =
      if s.id = s.id ∧ j.handle? = some id.handle then some c else none) :
    word s.id j [.listener l news] = if id = j then [c] else [] := by
  rw [word_singleton]
  show (news.callback? s.id j l).toList = _
  rw [about]
  by_cases same : id = j
  · rw [if_pos ⟨rfl, (handle?_eq_handle j fits).2 same⟩, if_pos same]
    rfl
  · rw [if_neg fun both => same ((handle?_eq_handle j fits).1 both.2), if_neg same]
    rfl

theorem word_ready (listens : a.listener.isSome = true) :
    word s.id j (a.tellListener (.ready s.id id.handle)) = if id = j then [.ready] else [] := by
  obtain ⟨l, listens⟩ := Option.isSome_iff_exists.1 listens
  unfold Audience.tellListener
  rw [listens]
  exact word_listenerNews j s fits rfl

end Told

theorem word_regions {session : SessionId} {id : StreamId} {news : Bytes → List Notice}
    (about : ∀ bytes, word session j (news bytes) = if id = j then [.data] else [])
    (regions : List Bytes) :
    word session j (regions.flatMap news) = if id = j then regions.map fun _ => .data else [] := by
  rw [word_flatMap]
  simp only [about]
  split
  · exact List.map_eq_flatMap.symm
  · exact List.flatMap_eq_nil_iff.2 fun _ _ => rfl

theorem word_passNotices (s : Session τ) {x : LiveStream} (fits : x.id.handle?.isSome = true)
    (heard : x.visitor.isSome = true ∨ a.listener.isSome = true) (pass : ReadPass) (fin : Bool) :
    word s.id j (s.passNotices a x pass fin) = if x.id = j then passCallbacks pass.regions fin else [] := by
  unfold passNotices passCallbacks
  cases visited : x.visitor with
  | some v =>
    dsimp only
    rw [List.map_eq_flatMap, word_append, word_regions j fun bytes => word_visitorNews j s v (.data bytes)]
    cases fin with
    | true => 
      rw [if_pos rfl, word_visitorNews j s v .fin]
      split <;> rfl
    | false => split <;> rfl
  | none =>
    obtain ⟨l, listens⟩ := Option.isSome_iff_exists.1 (heard.resolve_left (by rw [visited]; decide))
    unfold Audience.tellListener
    rw [listens]
    dsimp only
    rw [word_append, word_regions j fun bytes => word_listenerNews j s fits rfl]
    cases fin with
    | true =>
      rw [if_pos rfl, word_listenerNews j s fits rfl]
      split <;> rfl
    | false => split <;> rfl

/-! ## Streams that leave -/

/-- What is said of a stream when it leaves: to its own visitor, to the visitor of the session, and to the
listener, as far as there are any. -/
def lastNews (s : Session τ) (x : LiveStream) : List Notice :=
  x.visitor.toList.map (fun v => .stream v (s.streamHandle x.id) .closed) ++
  s.visitor.toList.map (fun v => .session v s.sessionHandle (.streamClosed x.id.handle)) ++
  a.listener.toList.map fun l => .listener l (.streamClosed s.id x.id.handle)

theorem visitorNotice_eq (s : Session τ) (news : SessionNews) :
    s.visitorNotice news = s.visitor.toList.map fun v => .session v s.sessionHandle news := by
  unfold visitorNotice
  cases s.visitor <;> rfl

theorem streamClosedNotices_eq (s : Session τ) : s.streamClosedNotices a = s.lastNews a := by
  funext x
  unfold streamClosedNotices lastNews
  rw [visitorNotice_eq, Audience.tellListener_eq]
  cases x.visitor <;> rfl

theorem mem_lastNews {s : Session τ} {x : LiveStream} {n : Notice} : n ∈ s.lastNews a x ↔
    (∃ v, x.visitor = some v ∧ n = .stream v (s.streamHandle x.id) .closed) ∨
    (∃ v, s.visitor = some v ∧ n = .session v s.sessionHandle (.streamClosed x.id.handle)) ∨
    ∃ l, a.listener = some l ∧ n = .listener l (.streamClosed s.id x.id.handle) := by
  unfold lastNews
  rw [List.mem_append, List.mem_append, or_assoc]
  simp only [List.mem_map, Option.mem_toList, eq_comm]

/-- Who is told that a stream is closed. -/
def mourners (x : LiveStream) : List Recipient :=
  x.visitor.toList.map .visitor ++ a.listener.toList.map .listener

theorem nodup_mourners (x : LiveStream) : (mourners a x).Nodup := by
  unfold mourners
  cases x.visitor <;> cases a.listener <;> simp

theorem word_streamClosedNotices (s : Session τ) {x : LiveStream} (fits : x.id.handle?.isSome = true) :
    word s.id j (s.streamClosedNotices a x) = if x.id = j then (mourners a x).map .closed else [] := by
  have listener : word s.id j (a.tellListener (.streamClosed s.id x.id.handle)) =
      if x.id = j then (a.listener.toList.map .listener).map .closed else [] := by
    unfold Audience.tellListener
    cases a.listener with
    | some l => exact word_listenerNews j s fits rfl
    | none => exact (ite_self _).symm
  unfold streamClosedNotices mourners
  rw [word_append, word_append, word_visitorNotice, listener, List.append_nil]
  cases x.visitor with
  | some v =>
    dsimp only
    rw [word_visitorNews j s v .closed]
    split <;> rfl
  | none => rfl

theorem posted_foldl_tellStreamClosed (gone : List LiveStream) (s : Session τ) :
    (gone.foldl (fun s x => s.tellStreamClosed a x) s).posted =
      s.posted ++ a.heard (gone.flatMap (s.streamClosedNotices a)) := by
  induction gone generalizing s with
  | nil =>
    have nothing : a.heard [] = [] := ite_self _
    rw [List.flatMap_nil, nothing, List.append_nil]
    rfl
  | cons x gone ih =>
    rw [List.foldl_cons, ih, List.flatMap_cons, Audience.heard_append, ← List.append_assoc]
    rfl

/-- The streams that were live are told of, lowest identifier first, and then the end of the
connection. -/
theorem posted_conclude {s : Session τ} (open_ : s.state ≠ .closed) (reason : CloseReason) :
    (s.conclude a reason).posted = s.posted ++ a.heard
      (s.streamsAscending.flatMap (s.streamClosedNotices a) ++
        s.visitorNotice (.connectionClosed reason)) := by
  rw [Audience.heard_append, ← List.append_assoc]
  unfold conclude
  rw [if_neg open_]
  dsimp only
  rw [tellVisitor_eq, foldl_tellStreamClosed_eq, posted_foldl_tellStreamClosed]
  rfl

/-- Among streams with distinct identifiers at most one has the identifier `j`. -/
theorem flatMap_of_id {β : Type} {xs : List LiveStream} (distinct : (xs.map LiveStream.id).Nodup)
    {x : LiveStream} (mem : x ∈ xs) (f : LiveStream → List β) :
    (xs.flatMap fun y => if y.id = x.id then f y else []) = f x := by
  induction xs with
  | nil => cases mem
  | cons y xs ih =>
    rw [List.map_cons, List.nodup_cons] at distinct
    rw [List.flatMap_cons]
    obtain rfl | mem := List.mem_cons.1 mem
    · have others : (xs.flatMap fun z => if z.id = x.id then f z else []) = [] := by
        refine List.flatMap_eq_nil_iff.2 fun z hz => if_neg fun same => distinct.1 ?_
        exact List.mem_map.2 ⟨z, hz, same⟩
      rw [if_pos rfl, others, List.append_nil]
    · have other : y.id ≠ x.id := fun same => distinct.1 (List.mem_map.2 ⟨x, mem, same.symm⟩)
      rw [if_neg other, List.nil_append]
      exact ih distinct.2 mem

variable {a j} in
theorem word_conclude {s : Session τ} (named : Named s) (open_ : s.state ≠ .closed)
    (fits : ∀ id ∈ s.streams.keys, id.handle?.isSome = true) (reason : CloseReason) :
    word s.id j (s.conclude a reason).posted = word s.id j s.posted ++
      match s.streams.get? j with
      | some x => if a.taken then (mourners a x).map .closed else []
      | none => [] := by
  have perm : s.streamsAscending.Perm s.streams.values := List.mergeSort_perm ..
  have distinct : (s.streamsAscending.map LiveStream.id).Nodup :=
    (perm.map LiveStream.id).nodup_iff.2 named.nodup_ids
  have held : ∀ x ∈ s.streamsAscending, s.streams.get? x.id = some x := fun x hx =>
    named.get?_of_mem_values (perm.mem_iff.1 hx)
  have each : word s.id j (s.streamsAscending.flatMap (s.streamClosedNotices a)) =
      s.streamsAscending.flatMap fun x => if x.id = j then (mourners a x).map .closed else [] := by
    rw [word_flatMap]
    refine List.flatMap_congr fun x hx => word_streamClosedNotices a j s (fits x.id ?_)
    exact Table.mem_keys_iff.2 ⟨x, held x hx⟩
  rw [posted_conclude a open_, word_append, word_heard, word_append, word_visitorNotice,
    List.append_nil, each]
  cases found : s.streams.get? j with
  | some x =>
    have mem : x ∈ s.streamsAscending := by
      refine perm.mem_iff.2 (List.mem_map.2 ⟨(j, x), Table.mem_of_get?_eq_some found, rfl⟩)
    obtain rfl : x.id = j := named j x found
    rw [flatMap_of_id distinct mem]
  | none =>
    have nothing : (s.streamsAscending.flatMap fun x =>
        if x.id = j then (mourners a x).map Callback.closed else []) = [] := by
      refine List.flatMap_eq_nil_iff.2 fun x hx => if_neg fun same => ?_
      have found' := held x hx
      rw [same, found] at found'
      cases found'
    rw [nothing, ite_self]

/-! ## Nothing that was posted is lost -/

variable [Transport τ]

omit j in
theorem mem_tellListener {n : Notice} {news : ListenerNews} (h : n ∈ a.tellListener news) :
    ∃ l, n = .listener l news := by
  unfold Audience.tellListener at h
  split at h
  · exact ⟨_, List.mem_singleton.1 h⟩
  · cases h

omit j [Transport τ] in
theorem routine_passNotices (s : Session τ) (x : LiveStream) (pass : ReadPass) (fin : Bool) :
    ∀ n ∈ s.passNotices a x pass fin, n.Routine := by
  intro n mem
  unfold passNotices at mem
  split at mem
  · obtain mem | mem := List.mem_append.1 mem
    · obtain ⟨bytes, -, rfl⟩ := List.mem_map.1 mem
      exact ⟨rfl, rfl⟩
    · split at mem
      · obtain rfl := List.mem_singleton.1 mem
        exact ⟨rfl, rfl⟩
      · cases mem
  · obtain mem | mem := List.mem_append.1 mem
    · obtain ⟨bytes, -, mem⟩ := List.mem_flatMap.1 mem
      obtain ⟨l, rfl⟩ := mem_tellListener a mem
      exact ⟨rfl, rfl⟩
    · split at mem
      · obtain ⟨l, rfl⟩ := mem_tellListener a mem
        exact ⟨rfl, rfl⟩
      · cases mem

omit j in
/-- Traffic posts nothing but what goes on on streams. -/
theorem routine_traffic {s s' : Session τ} (h : Traffic a s s') :
    ∃ notices, s'.posted = s.posted ++ notices ∧ ∀ n ∈ notices, n.Routine := by
  have nothing {s' : Session τ} (same : s'.posted = s.posted) :
      ∃ notices, s'.posted = s.posted ++ notices ∧ ∀ n ∈ notices, n.Routine :=
    ⟨[], by rw [same, List.append_nil], fun n mem => by cases mem⟩
  have pass (s : Session τ) (x : LiveStream) (pass : ReadPass) (fin : Bool) :
      ∀ n ∈ a.heard (s.passNotices a x pass fin), n.Routine := fun n mem =>
    routine_passNotices a s x pass fin n (mem_of_heard a mem)
  have deliver (s : Session τ) (id : StreamId) :
      ∃ notices, (s.deliver a id).posted = s.posted ++ notices ∧ ∀ n ∈ notices, n.Routine := by
    unfold deliver
    split
    · exact ⟨[], (List.append_nil _).symm, List.forall_mem_nil _⟩
    · split
      · exact ⟨[], (List.append_nil _).symm, List.forall_mem_nil _⟩
      · exact ⟨_, rfl, pass _ _ _ _⟩
  cases h with
  | ask asked => exact nothing rfl
  | deliver id => exact deliver s id
  | setStreamVisitor id v =>
    unfold setStreamVisitor
    split
    · exact deliver _ id
    · exact nothing rfl
  | read id limit =>
    unfold streamRead
    split
    · exact nothing rfl
    · exact ⟨_, rfl, pass _ _ _ _⟩
  | write id data fin =>
    unfold streamWrite
    split <;> exact nothing rfl
  | closeStream id =>
    unfold streamClose
    split <;> exact nothing rfl
  | writable id =>
    cases found : s.streams.get? id with
    | none => exact nothing (by rw [streamWritable_of_absent found])
    | some x =>
      obtain ⟨notices, told, e⟩ := streamWritable_cases (a := a) found
      refine ⟨notices, by rw [e], fun n mem => ?_⟩
      obtain rfl | ⟨v, rfl⟩ := told
      · cases mem
      · obtain rfl := List.mem_singleton.1 (mem_of_heard a mem)
        exact ⟨rfl, rfl⟩
  | acknowledged id => exact nothing rfl
  | stopped id => exact nothing rfl

omit j in
theorem posted_traffic {s s' : Session τ} (h : Traffic a s s') : s.posted <+: s'.posted := by
  obtain ⟨notices, posted, -⟩ := routine_traffic a h
  exact ⟨notices, posted.symm⟩

omit j in
theorem posted_act {s s' : Session τ} (h : Act a s s') : s.posted <+: s'.posted := by
  cases h with
  | takeIn h =>
    rw [posted_afterTakeIn]
    exact (aside_announce a (s.insertStream _) _).grows.trans (List.prefix_append ..)
  | deed h =>
    obtain traffic | steady | ⟨dir, id, t, -, -, rfl⟩ | ⟨x, -, -, rfl⟩ | ⟨reason, open_, rfl⟩ :=
      deed_cases a h
    · exact posted_traffic a traffic
    · exact steady.aside.grows
    · exact List.prefix_append ..
    · exact List.prefix_append ..
    · rw [posted_conclude a open_]
      exact List.prefix_append ..

omit j in
theorem posted_acts {s s' : Session τ} (h : Acts a s s') : s.posted <+: s'.posted :=
  h.keep (P := fun s' => s.posted <+: s'.posted) (fun _ _ act sofar => sofar.trans (posted_act a act))
    (List.prefix_refl _)

end Session

end QuicSessions
