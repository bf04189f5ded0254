import QuicSessions.Proofs.Dispatchers.Lives

/-!
# The share of a session in a stroke

For each session, what a stroke of its dispatcher comes to: the steps that it takes, the signals that are
taken from it and whether its connection is removed. A stroke is work on one session at most, and what is
posted in it is what that session told, what the client visitor is told about its signals, and the news of
its removal.
-/

set_option autoImplicit false

namespace QuicSessions.Dispatcher

open Session (Named)

variable {ε τ π : Type} [Transport τ] [Endpoint ε τ π]

/-- The steps that the session of a number takes in a stroke. -/
def life (n : SessionId) (d : Dispatcher ε τ π) (x : Stroke ε τ π) : List (Session.Step τ) :=
  match d.sessions.get? n with
  | none => []
  | some s =>
    match x with
    | .deliver now id packet =>
      if id = n then [.transport (Endpoint.deliver (ε := ε) now packet s.transport)] else []
    | .request now id ops => if id = n then asking d.audience now (ops d.audience s) ++ [.collect] else []
    | .drive now id =>
      if id = n then
        d.driving now s ++ taking now d.audience ++ d.reacting now (s.run (d.driving now s)).signals
      else []
    | _ => []

/-- The session that a stroke registers. -/
def begun (d : Dispatcher ε τ π) : Stroke ε τ π → List (Session τ)
  | .register now handle t => [.begun d.nextSession handle t d.options now]
  | _ => []

/-- The connection that a stroke removes, if it is registered. -/
def removed? (d : Dispatcher ε τ π) : Stroke ε τ π → Option ConnectionHandle
  | .remove handle => some handle
  | .drive now id =>
    match d.sessions.get? id with
    | none => none
    | some s =>
      if Transport.isDrained (s.run (d.driving now s)).transport then some s.connection else none
  | _ => none

/-- The signals that the dispatcher takes from a session in a stroke. -/
def taken (n : SessionId) (d : Dispatcher ε τ π) (x : Stroke ε τ π) : List Signal :=
  match d.sessions.get? n, x with
  | some s, .drive now id => if id = n then (s.run (d.driving now s)).signals else []
  | _, _ => []

section Drive

variable {now : Instant} {n : SessionId} {s : Session τ} {d : Dispatcher ε τ π}

theorem life_drive (found : d.sessions.get? n = some s) :
    d.life n (.drive now n) = d.driving now s ++ taking now d.audience ++
      d.reacting now (s.run (d.driving now s)).signals := by
  unfold life
  rw [found]
  exact if_pos rfl

theorem taken_drive (found : d.sessions.get? n = some s) :
    d.taken n (.drive now n) = (s.run (d.driving now s)).signals := by
  unfold taken
  rw [found]
  exact if_pos rfl

end Drive

/-- Only driving takes the signals of a session. -/
theorem taken_request {now : Instant} {id n : SessionId}
    {ops : Audience → Session τ → List Session.Operation} (d : Dispatcher ε τ π) :
    d.taken n (.request now id ops) = [] := by
  unfold taken
  cases d.sessions.get? n <;> rfl

/-- Whether a stroke is work on the sessions that are there, or on none. -/
def Stroke.ordinary : Stroke ε τ π → Bool
  | .register _ _ _ => false
  | .shut => false
  | .ended => false
  | .adjust _ => false
  | .collect => false
  | _ => true

/-- The dispatcher without a connection. -/
def without (handle : Option ConnectionHandle) (d : Dispatcher ε τ π) : Dispatcher ε τ π :=
  match handle with
  | some handle => d.connectionClosed handle
  | none => d

/-- The session that a stroke is work on. -/
def Stroke.subject? : Stroke ε τ π → Option SessionId
  | .deliver _ id _ => some id
  | .request _ id _ => some id
  | .drive _ id => some id
  | _ => none

/-- In work on another session, a session does nothing. -/
theorem idle_of_subject {x : Stroke ε τ π} {n : SessionId} (other : x.subject? ≠ some n)
    (d : Dispatcher ε τ π) : d.life n x = [] ∧ d.taken n x = [] := by
  unfold life taken
  cases d.sessions.get? n with
  | none => exact ⟨rfl, rfl⟩
  | some s =>
    cases x with
    | deliver now id packet => exact ⟨if_neg fun e => other (congrArg some e), rfl⟩
    | request now id ops => exact ⟨if_neg fun e => other (congrArg some e), rfl⟩
    | drive now id =>
      exact ⟨if_neg fun e => other (congrArg some e), if_neg fun e => other (congrArg some e)⟩
    | _ => exact ⟨rfl, rfl⟩

theorem others_of_subject {x : Stroke ε τ π} {id : SessionId} (subject : x.subject? = some id)
    (d : Dispatcher ε τ π) : ∀ n, n ≠ id → d.life n x = [] ∧ d.taken n x = [] :=
  fun n other => idle_of_subject (by rw [subject]; exact fun same => other (Option.some.inj same).symm) d

theorem idle_of_absent {n : SessionId} {d : Dispatcher ε τ π} (absent : d.sessions.get? n = none)
    (x : Stroke ε τ π) : d.life n x = [] ∧ d.taken n x = [] := by
  unfold life taken
  rw [absent]
  exact ⟨rfl, rfl⟩

/-- An ordinary stroke: one session takes its steps, and then a connection may be removed. -/
structure Parts (x : Stroke ε τ π) (id : SessionId) (notices : List Notice) (d d₁ d' : Dispatcher ε τ π) :
    Prop where
  lived : Lived id (d.life id x) notices d d₁
  others : ∀ n, n ≠ id → d.life n x = [] ∧ d.taken n x = []
  result : d' = d₁.without (d.removed? x)
  absent : d.sessions.get? id = none → notices = []
  clean : ∀ s, d.sessions.get? id = some s → s.posted = [] → (s.run (d.life id x)).posted = []
  client : ∀ s, d.sessions.get? id = some s → Attended d →
    notices.filterMap Notice.clientNews? = (d.taken id x).filterMap (newsOf s.sessionHandle)
  server : ∀ s, d.sessions.get? id = some s → d.role = .server →
    notices = s.toldOf (s.rounds (d.life id x)) ∧ ∀ n ∈ notices, n.Own id

/-- A stroke without notices in which no session does anything but move its transport. -/
theorem Parts.quiet {x : Stroke ε τ π} {id : SessionId} {d d₁ d' : Dispatcher ε τ π}
    (lived : Lived id (d.life id x) [] d d₁) (others : ∀ n, n ≠ id → d.life n x = [] ∧ d.taken n x = [])
    (result : d' = d₁.without (d.removed? x)) (taken : d.taken id x = [])
    (moves : ∀ y ∈ d.life id x, ∃ t, y = .transport t) : Parts x id [] d d₁ d' := by
  have still (s : Session τ) : (s.run (d.life id x)).posted = s.posted ∧ s.toldOf (s.rounds (d.life id x)) = [] := by
    generalize d.life id x = steps at moves
    induction steps generalizing s with
    | nil => exact ⟨rfl, rfl⟩
    | cons y steps ih =>
      obtain ⟨t, rfl⟩ := moves y (List.mem_cons_self ..)
      obtain ⟨posted, told⟩ := ih { s with transport := t } fun z mem => moves z (List.mem_cons_of_mem _ mem)
      have nothing : Session.told s { s with transport := t } = [] := Session.told_of_same rfl
      refine ⟨posted, ?_⟩
      show Session.told s { s with transport := t } ++ Session.toldOf { s with transport := t } _ = []
      rw [nothing]
      exact told
  refine ⟨lived, others, result, fun _ => rfl, fun s _ clean => (still s).1.trans clean, fun s _ _ => ?_,
    fun s _ _ => ⟨(still s).2.symm, List.forall_mem_nil _⟩⟩
  rw [taken]
  rfl

/-- A stroke that is work on no session. -/
theorem Parts.apart {x : Stroke ε τ π} {d d₁ d' : Dispatcher ε τ π} (subject : x.subject? = none)
    (lived : Lived ⟨0⟩ [] [] d d₁) (result : d' = d₁.without (d.removed? x)) : Parts x ⟨0⟩ [] d d₁ d' := by
  have idle : ∀ n, d.life n x = [] ∧ d.taken n x = [] := fun n =>
    idle_of_subject (by rw [subject]; exact nofun) d
  have none_taken := (idle ⟨0⟩).2
  refine .quiet ?_ (fun n _ => idle n) result none_taken fun y mem => ?_
  · rw [(idle ⟨0⟩).1]
    exact lived
  · rw [(idle ⟨0⟩).1] at mem
    cases mem

theorem parts_deliver {now : Instant} {id : SessionId} {packet : π} {d d' : Dispatcher ε τ π}
    (h : d.apply (.deliver now id packet) = .ok d') :
    ∃ d₁, Parts (.deliver now id packet) id [] d d₁ d' := by
  cases h
  refine ⟨{ d with sessions := d.sessions.update id fun s =>
      { s with transport := Endpoint.deliver (ε := ε) now packet s.transport } }, .quiet
    ⟨⟨rfl, rfl, rfl, rfl, rfl, rfl, rfl⟩, rfl, rfl, rfl, fun n => ?_, (List.append_nil _).symm⟩
    (others_of_subject rfl d) rfl ?_ ?_⟩
  · show (d.sessions.update id _).get? n = _
    rw [Table.get?_update]
    by_cases mine : n = id
    · rw [if_pos mine, if_pos mine, mine]
      unfold life
      cases found : d.sessions.get? id with
      | none => rfl
      | some s =>
        dsimp only
        rw [if_pos rfl]
        rfl
    · rw [if_neg mine, if_neg mine]
  · unfold taken
    cases d.sessions.get? id <;> rfl
  · intro y mem
    unfold life at mem
    cases found : d.sessions.get? id with
    | none =>
      rw [found] at mem
      cases mem
    | some s =>
      rw [found] at mem
      dsimp only at mem
      rw [if_pos rfl] at mem
      exact ⟨_, List.mem_singleton.1 mem⟩

theorem parts_request {now : Instant} {id : SessionId}
    {ops : Audience → Session τ → List Session.Operation} {d d' : Dispatcher ε τ π}
    (residents : ∀ s, d.sessions.get? id = some s → s.id = id ∧ Resident d s)
    (h : d.apply (.request now id ops) = .ok d') :
    ∃ notices d₁, Parts (.request now id ops) id notices d d₁ d' := by
  obtain ⟨⟨r, d₁⟩, done, rfl⟩ := ok_of_map h
  have others := others_of_subject (x := Stroke.request now id ops) rfl d
  have taken : d.taken id (.request now id ops) = [] := taken_request d
  cases found : d.sessions.get? id with
  | none =>
    have same : d₁ = d := by
      rw [onSession_of_absent found] at done
      cases done
      rfl
    have life := (idle_of_absent found (Stroke.request now id ops)).1
    refine ⟨[], d, .quiet ?_ others same taken fun y mem => ?_⟩
    · rw [life]
      exact .refl id d
    · rw [life] at mem
      cases mem
  | some s =>
    obtain ⟨rfl, resident⟩ := residents s found
    have life : d.life s.id (.request now s.id ops) = asking d.audience now (ops d.audience s) ++ [.collect] := by
      unfold Dispatcher.life
      rw [found]
      exact if_pos rfl
    have lived : Lived s.id (asking d.audience now (ops d.audience s) ++ [.collect])
        (s.run (asking d.audience now (ops d.audience s))).posted d d₁ := by
      refine lived_onSession resident (fun r s' did => ?_) done
      obtain ⟨s'', did, e⟩ := ok_of_bind did
      cases e
      exact run_asking did
    refine ⟨_, d₁, ⟨life ▸ lived, others, rfl, fun absent => ?_, fun s' found' _ => ?_, fun s' found' _ => ?_,
      fun s' found' _ => ?_⟩⟩
    · rw [found] at absent
      cases absent
    · rw [life, collected]
    · rw [taken]
      exact resident.silent _
    · cases found.symm.trans found'
      refine ⟨?_, Session.own_run resident.named resident.collected _⟩
      rw [life, Session.toldOf_collected]
      exact Session.posted_rounds resident.named resident.collected (asking_leaves _ now _)

theorem parts_drive {now : Instant} {id : SessionId} {d d' : Dispatcher ε τ π}
    (residents : ∀ s, d.sessions.get? id = some s → s.id = id ∧ Resident d s)
    (h : d.apply (.drive now id) = .ok d') : ∃ notices d₁, Parts (.drive now id) id notices d d₁ d' := by
  have others := others_of_subject (x := Stroke.drive now id) rfl d
  cases found : d.sessions.get? id with
  | none =>
    have same : d' = d := (Except.ok.inj ((drive_of_absent found).symm.trans h)).symm
    obtain ⟨life, taken⟩ := idle_of_absent found (Stroke.drive now id)
    have kept : d.removed? (.drive now id) = none := by
      unfold removed?
      dsimp only
      rw [found]
    refine ⟨[], d, .quiet ?_ others ?_ taken fun y mem => ?_⟩
    · rw [life]
      exact .refl id d
    · rw [kept, same]
      rfl
    · rw [life] at mem
      cases mem
  | some s =>
    obtain ⟨rfl, resident⟩ := residents s found
    obtain ⟨d₁, d₂, first, reacted, result⟩ := drive_parts resident h
    have took := run_driven s now d
    have here : Resident d₁ (s.run (d.driving now s ++ taking now d.audience)) :=
      first.resident resident (by rw [took])
    have same := Session.sameSession_run resident.named (d.driving now s ++ taking now d.audience)
    rw [← same.id] at reacted
    obtain ⟨notices, second, news, silent⟩ := lived_reactions now here reacted
    rw [same.id, first.fixed.reacting] at second
    have life : d.life s.id (.drive now s.id) = _ := life_drive found
    have taken : d.taken s.id (.drive now s.id) = _ := taken_drive found
    have gone : d.removed? (.drive now s.id) =
        if Transport.isDrained (s.run (d.driving now s)).transport then some s.connection else none := by
      unfold removed?
      dsimp only
      rw [found]
    have handle := sessionHandle_run resident.named (d.driving now s ++ taking now d.audience)
    refine ⟨_, d₂, ⟨life ▸ first.trans second, others, ?_, fun absent => ?_, fun s' found' _ => ?_,
      fun s' found' attended => ?_, fun s' found' server => ?_⟩⟩
    · rw [gone, result]
      split <;> rfl
    · rw [found] at absent
      cases absent
    · cases found.symm.trans found'
      rw [life, Session.run_append]
      refine collected_reacting _ ?_
      rw [took]
    · cases found.symm.trans found'
      rw [List.filterMap_append, resident.silent, news (first.fixed.attended attended), taken, handle]
      rfl
    · cases found.symm.trans found'
      have nothing := silent (first.fixed.role.trans server)
      rw [nothing, List.append_nil]
      refine ⟨?_, Session.own_run resident.named resident.collected _⟩
      rw [life, reacting_of_server now server, List.append_nil, Session.rounds_append]
      unfold Session.toldOf
      rw [Session.along_append, Session.run_rounds]
      have taking := (run_taking (s.run (d.driving now s)) now d.audience).2
      unfold Session.toldOf at taking
      rw [taking, List.append_nil]
      exact Session.posted_rounds resident.named resident.collected fun x mem => (driving_leaves now d s x mem).2

/-- Every ordinary stroke has these parts; if it is work on no session, nothing is posted. -/
theorem parts_apply {x : Stroke ε τ π} {d d' : Dispatcher ε τ π} (ordinary : x.ordinary = true)
    (residents : ∀ id s, d.sessions.get? id = some s → s.id = id ∧ Resident d s)
    (h : d.apply x = .ok d') :
    ∃ id notices d₁, Parts x id notices d d₁ d' ∧
      (x.subject? = some id ∨ x.subject? = none ∧ notices = []) := by
  cases x with
  | register now handle t => cases ordinary
  | shut => cases ordinary
  | ended => cases ordinary
  | adjust c => cases ordinary
  | collect => cases ordinary
  | endpoint e =>
    cases h
    exact ⟨_, _, { d with endpoint := e },
      .apart rfl (.idle ⟨0⟩ ⟨rfl, rfl, rfl, rfl, rfl, rfl, rfl⟩ rfl rfl rfl rfl rfl) rfl, .inr ⟨rfl, rfl⟩⟩
  | answer packets =>
    cases h
    exact ⟨_, _, _, .apart rfl (.sent ⟨0⟩ packets d) rfl, .inr ⟨rfl, rfl⟩⟩
  | poll =>
    rw [eq_of_poll h]
    exact ⟨_, _, _, .apart rfl (.refl ⟨0⟩ d) rfl, .inr ⟨rfl, rfl⟩⟩
  | remove handle =>
    cases h
    exact ⟨_, _, _, .apart rfl (.refl ⟨0⟩ d) rfl, .inr ⟨rfl, rfl⟩⟩
  | deliver now id packet =>
    obtain ⟨d₁, parts⟩ := parts_deliver h
    exact ⟨_, _, _, parts, .inl rfl⟩
  | request now id ops =>
    obtain ⟨notices, d₁, parts⟩ := parts_request (residents id) h
    exact ⟨_, _, _, parts, .inl rfl⟩
  | drive now id =>
    obtain ⟨notices, d₁, parts⟩ := parts_drive (residents id) h
    exact ⟨_, _, _, parts, .inl rfl⟩

end QuicSessions.Dispatcher
