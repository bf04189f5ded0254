import QuicSessions.Proofs.Dispatchers.Strokes
import QuicSessions.Proofs.Sessions.Signals
import QuicSessions.Proofs.Sessions.Voices

/-!
# The life of a session in a run of its dispatcher

From its registration to its removal a session takes steps of its own in the strokes that concern it, and in
no others. The steps of a run's strokes make up its life: what the table holds under its number is the
session as it was registered, after the steps of its life, and what was posted about it is what it told in
them.
-/

set_option autoImplicit false

namespace QuicSessions.Dispatcher

open Session (Named)

variable {ε τ π : Type} [Transport τ]

/-! ## Work on one session -/

/-- The session of a number took some steps, some notices were posted, and nothing else changed that
concerns sessions. -/
structure Lived (id : SessionId) (steps : List (Session.Step τ)) (notices : List Notice)
    (d d' : Dispatcher ε τ π) : Prop where
  fixed : Fixed d d'
  nextSession : d'.nextSession = d.nextSession
  shutDown : d'.shutDown = d.shutDown
  connections : d'.connections = d.connections
  sessions : ∀ n, d'.sessions.get? n =
    if n = id then (d.sessions.get? n).map fun s => s.run steps else d.sessions.get? n
  posted : d'.posted = d.posted ++ notices

namespace Lived

variable {id : SessionId} {steps more : List (Session.Step τ)} {notices further : List Notice}
  {d d' d'' : Dispatcher ε τ π} {s : Session τ}

/-- Nothing is told, and no session does anything. -/
theorem idle (id : SessionId) (fixed : Fixed d d') (nextSession : d'.nextSession = d.nextSession)
    (shutDown : d'.shutDown = d.shutDown) (connections : d'.connections = d.connections)
    (sessions : d'.sessions = d.sessions) (posted : d'.posted = d.posted) : Lived id [] [] d d' where
  fixed := fixed
  nextSession := nextSession
  shutDown := shutDown
  connections := connections
  sessions n := by
    rw [sessions]
    split
    · exact Option.map_id'.symm
    · rfl
  posted := by rw [posted, List.append_nil]

theorem refl (id : SessionId) (d : Dispatcher ε τ π) : Lived id [] [] d d :=
  .idle id (.refl d) rfl rfl rfl rfl rfl

theorem trans (h : Lived id steps notices d d') (h' : Lived id more further d' d'') :
    Lived id (steps ++ more) (notices ++ further) d d'' where
  fixed := h.fixed.trans h'.fixed
  nextSession := h'.nextSession.trans h.nextSession
  shutDown := h'.shutDown.trans h.shutDown
  connections := h'.connections.trans h.connections
  sessions n := by
    rw [h'.sessions n, h.sessions n]
    split
    · rw [Option.map_map]
      refine congrArg (fun f => (d.sessions.get? n).map f) (funext fun s => ?_)
      exact (Session.run_append s steps more).symm
    · rfl
  posted := by rw [h'.posted, h.posted, List.append_assoc]

theorem found (h : Lived id steps notices d d') (found : d.sessions.get? id = some s) :
    d'.sessions.get? id = some (s.run steps) := by
  rw [h.sessions id, if_pos rfl, found]
  rfl

/-- A session that took steps is put back. -/
theorem put (s' : Session τ) (found : d.sessions.get? id = some s) (key : s'.id = id)
    (took : s.run steps = { s' with posted := [] }) : Lived id steps s'.posted d (d.putSession s') where
  fixed := .putSession s' d
  nextSession := rfl
  shutDown := rfl
  connections := rfl
  sessions n := by
    show (d.sessions.update s'.id fun _ => { s' with posted := [] }).get? n = _
    rw [Table.get?_update]
    by_cases mine : n = id
    · rw [if_pos (mine.trans key.symm), if_pos mine, mine, found]
      exact congrArg some took.symm
    · rw [if_neg fun same => mine (same.trans key), if_neg mine]
  posted := rfl

theorem sent (id : SessionId) (packets : List (Outgoing π)) (d : Dispatcher ε τ π) :
    Lived id [] [] d (d.send packets) := by
  have fixed : Fixed d (d.send packets) := .send packets d
  rw [send_eq] at fixed ⊢
  exact .idle id fixed rfl rfl rfl rfl rfl

end Lived

/-! ## Requests -/

theorem sessionHandle_run {s : Session τ} (named : Named s) (steps : List (Session.Step τ)) :
    (s.run steps).sessionHandle = s.sessionHandle := by
  have same := Session.sameSession_run named steps
  unfold Session.sessionHandle
  rw [same.id, same.connection, same.side]

/-- A session in the table under its own number, with nothing posted that is not collected. -/
structure Resident (d : Dispatcher ε τ π) (s : Session τ) : Prop where
  found : d.sessions.get? s.id = some s
  named : Named s
  collected : s.posted = []

omit [Transport τ] in
theorem Resident.sessionHandle {d : Dispatcher ε τ π} {s : Session τ} (resident : Resident d s) :
    d.sessionHandle s.id = some s.sessionHandle := by
  unfold Dispatcher.sessionHandle
  rw [resident.found]
  rfl

theorem Lived.resident {steps : List (Session.Step τ)} {notices : List Notice} {d d' : Dispatcher ε τ π}
    {s : Session τ} (h : Lived s.id steps notices d d') (resident : Resident d s)
    (collected : (s.run steps).posted = []) : Resident d' (s.run steps) where
  found := by
    rw [(Session.sameSession_run resident.named steps).id]
    exact h.found resident.found
  named := Session.named_run resident.named steps
  collected := collected

/-- The steps of operations. -/
def asking (a : Audience) (now : Instant) (ops : List Session.Operation) : List (Session.Step τ) :=
  ops.map (.operate a now)

omit [Transport τ] in
theorem asking_leaves (a : Audience) (now : Instant) (ops : List Session.Operation) :
    ∀ x ∈ asking (τ := τ) a now ops, x.collects = false := by
  intro x mem
  obtain ⟨op, -, rfl⟩ := List.mem_map.1 mem
  rfl

theorem run_asking {a : Audience} {now : Instant} {ops : List Session.Operation} {s s' : Session τ}
    (h : s.operate a now ops = .ok s') : s.run (asking a now ops) = s' := by
  induction ops generalizing s with
  | nil => exact Except.ok.inj h
  | cons op ops ih =>
    obtain ⟨⟨r, s₁⟩, done, h⟩ := ok_of_bind h
    show (s.step (.operate a now op)).run (asking a now ops) = s'
    rw [Session.step_of_run done]
    exact ih h

theorem collected (s : Session τ) (steps : List (Session.Step τ)) :
    s.run (steps ++ [.collect]) = { s.run steps with posted := [] } := Session.run_append s steps [.collect]

theorem lived_onSession {α : Type} {op : Audience → Session τ → Except Fault (α × Session τ)}
    {steps : List (Session.Step τ)} {s : Session τ} {d d' : Dispatcher ε τ π} {r : Option α}
    (resident : Resident d s) (took : ∀ r s', op d.audience s = .ok (r, s') → s.run steps = s')
    (h : d.onSession s.id op = .ok (r, d')) :
    Lived s.id (steps ++ [.collect]) (s.run steps).posted d d' := by
  unfold onSession at h
  rw [resident.found] at h
  obtain ⟨⟨r', s'⟩, done, h⟩ := ok_of_bind h
  cases h
  have took := took r' s' done
  have key : s'.id = s.id := by
    rw [← took]
    exact (Session.sameSession_run resident.named steps).id
  rw [took]
  refine .put s' resident.found key ?_
  rw [collected, took]

/-- What a session posts by itself is nothing for the client visitor. -/
theorem Resident.silent {d : Dispatcher ε τ π} {s : Session τ} (resident : Resident d s)
    (steps : List (Session.Step τ)) : (s.run steps).posted.filterMap Notice.clientNews? = [] :=
  List.filterMap_eq_nil_iff.2 fun n mem =>
    Notice.clientNews?_of_spoken (Session.own_run resident.named resident.collected steps n mem).spoken

/-! ## Signals -/

/-- The steps of a session when its dispatcher reacts to its signals. -/
def reacting (now : Instant) (d : Dispatcher ε τ π) (signals : List Signal) : List (Session.Step τ) :=
  signals.flatMap fun
    | .connected =>
      if d.role.isClient && d.openOnConnect then [.operate d.audience now (.openStream .bi), .collect] else []
    | .closed _ _ => []

omit [Transport τ] in
theorem reacting_cons (now : Instant) (d : Dispatcher ε τ π) (x : Signal) (signals : List Signal) :
    d.reacting (τ := τ) now (x :: signals) = d.reacting now [x] ++ d.reacting now signals := by
  unfold reacting
  rw [List.flatMap_cons, List.flatMap_cons, List.flatMap_nil, List.append_nil]

omit [Transport τ] in
theorem Fixed.reacting {d d' : Dispatcher ε τ π} (h : Fixed d d') (now : Instant) (signals : List Signal) :
    d'.reacting now signals = d.reacting now signals := by
  unfold Dispatcher.reacting
  rw [h.role, h.openOnConnect, h.audience]

/-- What a client's visitor is told about the signal of a session. -/
def newsOf (h : SessionHandle) : Signal → Option ClientNews
  | .connected => some (.connected h)
  | .closed reason true => some (.connectionFailed reason)
  | .closed _ false => none

/-- Somebody takes what the client visitor is told. -/
def Attended (d : Dispatcher ε τ π) : Prop :=
  d.role = .client ∧ d.clientVisitor.isSome = true ∧ d.audience.taken = true

omit [Transport τ] in
theorem Fixed.attended {d d' : Dispatcher ε τ π} (h : Fixed d d') (attended : Attended d) : Attended d' :=
  ⟨h.role.trans attended.1, by rw [h.clientVisitor]; exact attended.2.1,
    by rw [h.audience]; exact attended.2.2⟩

theorem lived_tellClient (id : SessionId) (d : Dispatcher ε τ π) (news : ClientNews) :
    ∃ notices, Lived id [] notices d (d.tellClient news) ∧
      (Attended d → notices.filterMap Notice.clientNews? = [news]) := by
  have fixed : Fixed d (d.tellClient news) := .tellClient news d
  cases visitor : d.clientVisitor with
  | none =>
    have told : d.tellClient news = d := by
      unfold tellClient
      rw [visitor]
    rw [told]
    refine ⟨[], .refl id d, fun attended => ?_⟩
    have visited := attended.2.1
    rw [visitor] at visited
    cases visited
  | some v =>
    have told : d.tellClient news = d.post [.client v news] := by
      unfold tellClient
      rw [visitor]
    rw [told] at fixed ⊢
    refine ⟨d.audience.heard [.client v news], ⟨fixed, rfl, rfl, rfl, (Lived.refl id d).sessions, rfl⟩, ?_⟩
    intro attended
    unfold Audience.heard
    rw [attended.2.2]
    rfl

/-- A client's dispatcher tells its visitor of a signal, and may open a stream; a server's does nothing. -/
theorem lived_react (now : Instant) {s : Session τ} {signal : Signal} {d d' : Dispatcher ε τ π}
    (resident : Resident d s) (h : d.react s.id signal = .ok d') :
    ∃ notices, Lived s.id (d.reacting now [signal]) notices d d' ∧
      (Attended d → notices.filterMap Notice.clientNews? = (newsOf s.sessionHandle signal).toList) ∧
      (d.role = .server → notices = []) := by
  by_cases client : d.role.isClient = true
  · have not_server (server : d.role = .server) {p : Prop} : p := by
      rw [server] at client
      cases client
    cases signal with
    | connected =>
      obtain ⟨first, told, news⟩ := lived_tellClient s.id d (.connected s.sessionHandle)
      unfold react at h
      rw [if_pos client, resident.sessionHandle] at h
      dsimp only at h
      rw [told.fixed.openOnConnect] at h
      cases opens : d.openOnConnect with
      | false =>
        rw [opens, if_neg nofun] at h
        cases h
        have quiet : d.reacting (τ := τ) now [.connected] = [] := by
          unfold reacting
          rw [client, opens]
          rfl
        rw [quiet]
        exact ⟨first, told, news, fun server => not_server server⟩
      | true =>
        rw [opens, if_pos rfl] at h
        obtain ⟨⟨r, d₂⟩, opened, h⟩ := ok_of_bind h
        cases h
        have steps : d.reacting (τ := τ) now [.connected] =
            [.operate d.audience now (.openStream .bi)] ++ [.collect] := by
          unfold reacting
          rw [client, opens]
          rfl
        have here : Resident (d.tellClient (.connected s.sessionHandle)) s :=
          told.resident resident resident.collected
        have opening : Lived s.id ([.operate d.audience now (.openStream .bi)] ++ [.collect])
            (s.run [.operate d.audience now (.openStream .bi)]).posted
            (d.tellClient (.connected s.sessionHandle)) d₂ := by
          refine lived_onSession here (fun r s' done => ?_) opened
          rw [told.fixed.audience] at done
          refine Session.step_of_run (r := .stream (r.map StreamHandle.stream)) ?_
          show (s.openBidirectional d.audience >>= _) = _
          rw [done]
          rfl
        refine ⟨_, steps ▸ told.trans opening, fun attended => ?_, fun server => not_server server⟩
        rw [List.filterMap_append, news attended, resident.silent]
        rfl
    | closed reason during =>
      have reacted : d.react s.id (.closed reason during) =
          .ok (if d.role.isClient && during then d.tellClient (.connectionFailed reason) else d) := rfl
      rw [reacted, client, Bool.true_and] at h
      cases during with
      | true =>
        rw [if_pos rfl] at h
        cases h
        obtain ⟨notices, told, news⟩ := lived_tellClient s.id d (.connectionFailed reason)
        exact ⟨notices, told, news, fun server => not_server server⟩
      | false =>
        rw [if_neg nofun] at h
        cases h
        exact ⟨[], .refl s.id d, fun _ => rfl, fun _ => rfl⟩
  · have unattended (attended : Attended d) {p : Prop} : p := by
      rw [attended.1] at client
      exact absurd rfl client
    have same : d' = d := by
      cases signal <;> unfold react at h
      · rw [if_neg client] at h
        exact (Except.ok.inj h).symm
      · rw [Bool.eq_false_iff.2 client] at h
        exact (Except.ok.inj h).symm
    have quiet : d.reacting (τ := τ) now [signal] = [] := by
      unfold reacting
      rw [Bool.eq_false_iff.2 client]
      cases signal <;> rfl
    rw [same, quiet]
    exact ⟨[], .refl s.id d, fun attended => unattended attended, fun _ => rfl⟩

/-- The session is clean again after the reaction. -/
theorem collected_reacting {now : Instant} {d : Dispatcher ε τ π} (signals : List Signal) {s : Session τ}
    (collected : s.posted = []) : (s.run (d.reacting now signals)).posted = [] := by
  induction signals generalizing s with
  | nil => exact collected
  | cons x signals ih =>
    rw [reacting_cons, Session.run_append]
    refine ih ?_
    unfold reacting
    rw [List.flatMap_cons, List.flatMap_nil, List.append_nil]
    cases x with
    | closed reason during => exact collected
    | connected =>
      dsimp only
      split
      · rfl
      · exact collected

/-- A client's dispatcher tells its visitor of each signal in turn. -/
theorem lived_reactions (now : Instant) {s : Session τ} {signals : List Signal} {d d' : Dispatcher ε τ π}
    (resident : Resident d s) (h : signals.foldlM (react s.id) d = .ok d') :
    ∃ notices, Lived s.id (d.reacting now signals) notices d d' ∧
      (Attended d → notices.filterMap Notice.clientNews? = signals.filterMap (newsOf s.sessionHandle)) ∧
      (d.role = .server → notices = []) := by
  induction signals generalizing d s with
  | nil =>
    cases h
    exact ⟨[], .refl s.id _, fun _ => rfl, fun _ => rfl⟩
  | cons x signals ih =>
    rw [List.foldlM_cons] at h
    obtain ⟨d₁, reacted, h⟩ := ok_of_bind h
    obtain ⟨first, lived, news, silent⟩ := lived_react now resident reacted
    have same := Session.sameSession_run resident.named (d.reacting now [x])
    have here := lived.resident resident (collected_reacting [x] resident.collected)
    rw [← same.id] at h
    obtain ⟨rest, lived', news', silent'⟩ := ih here h
    have handle := sessionHandle_run resident.named (d.reacting now [x])
    rw [same.id, lived.fixed.reacting] at lived'
    refine ⟨first ++ rest, ?_, fun attended => ?_, fun server => ?_⟩
    · rw [reacting_cons]
      exact lived.trans lived'
    · rw [List.filterMap_append, news attended, news' (lived.fixed.attended attended), handle,
        List.filterMap_cons]
      cases newsOf s.sessionHandle x <;> rfl
    · rw [silent server, silent' (lived.fixed.role.trans server)]
      rfl

omit [Transport τ] in
theorem reacting_of_server (now : Instant) {d : Dispatcher ε τ π} (server : d.role = .server)
    (signals : List Signal) : d.reacting (τ := τ) now signals = [] := by
  refine List.flatMap_eq_nil_iff.2 fun x _ => ?_
  cases x with
  | closed reason during => rfl
  | connected =>
    dsimp only
    rw [server]
    rfl

/-! ## Driving -/

section Driving

variable [Endpoint ε τ π]

/-- The steps of a session that is driven, before its signals are taken: it takes the reports, settles with
the endpoint, takes the reports again, sends, and drops spent streams. -/
def driving (now : Instant) (d : Dispatcher ε τ π) (s : Session τ) : List (Session.Step τ) :=
  let s₁ := s.step (.operate d.audience now .process)
  let t := (Endpoint.settle s₁.connection s₁.transport d.endpoint).1
  let s₂ := { s₁ with transport := t }.step (.operate d.audience now .process)
  [.operate d.audience now .process, .transport t, .operate d.audience now .process,
    .transport (Endpoint.transmit (ε := ε) now s₂.transport).2, .operate d.audience now .reclaim]

/-- The signals are taken, and what was posted is collected. -/
def taking (now : Instant) (a : Audience) : List (Session.Step τ) := [.operate a now .takeSignals, .collect]

theorem step_process {a : Audience} {now : Instant} {s s' : Session τ} (h : s.process a now = .ok s') :
    s.step (.operate a now .process) = s' := by
  refine Session.step_of_run (r := .done) ?_
  show s.process a now >>= _ = _
  rw [h]
  rfl

/-- Driving a session is three things: its steps up to where its signals are taken, the reaction to them,
and its removal if its closing is over by then. -/
theorem drive_parts {now : Instant} {s : Session τ} {d d' : Dispatcher ε τ π} (resident : Resident d s)
    (h : d.drive now s.id = .ok d') :
    ∃ d₁ d₂, Lived s.id (d.driving now s ++ taking now d.audience) (s.run (d.driving now s)).posted d d₁ ∧
      (s.run (d.driving now s)).signals.foldlM (react s.id) d₁ = .ok d₂ ∧
      d' = if Transport.isDrained (s.run (d.driving now s)).transport then d₂.connectionClosed s.connection
        else d₂ := by
  unfold drive at h
  rw [resident.found] at h
  obtain ⟨s₁, first, h⟩ := ok_of_bind h
  have first := step_process first
  rcases settling : Endpoint.settle s₁.connection s₁.transport d.endpoint with ⟨t, e⟩
  rw [settling] at h
  obtain ⟨s₂, second, h⟩ := ok_of_bind h
  have second := step_process second
  rcases sending : Endpoint.transmit (ε := ε) now s₂.transport with ⟨packets, t'⟩
  rw [sending] at h
  dsimp only at h
  have driven : s.run (d.driving now s) = { s₂ with transport := t' }.reclaim d.audience := by
    unfold driving
    dsimp only
    rw [first, settling, second, sending]
    show ({ ((({ s.step (.operate d.audience now .process) with transport := t } : Session τ)).step
      (.operate d.audience now .process)) with transport := t' } : Session τ).reclaim d.audience = _
    rw [first, second]
  rw [← driven] at h
  obtain ⟨d₂, reacted, h⟩ := ok_of_bind h
  have same := Session.sameSession_run resident.named (d.driving now s)
  have settled : Lived s.id [] [] d { d with endpoint := e } :=
    .idle s.id ⟨rfl, rfl, rfl, rfl, rfl, rfl, rfl⟩ rfl rfl rfl rfl rfl
  have flushed := settled.trans (.sent s.id packets { d with endpoint := e })
  have put : Lived s.id (d.driving now s ++ taking now d.audience) (s.run (d.driving now s)).posted
      ({ d with endpoint := e }.send packets)
      (({ d with endpoint := e }.send packets).putSession { s.run (d.driving now s) with signals := [] }) := by
    refine .put { s.run (d.driving now s) with signals := [] }
      (flushed.found resident.found) same.id ?_
    rw [Session.run_append]
    rfl
  refine ⟨_, d₂, flushed.trans put, reacted, ?_⟩
  rw [← Except.ok.inj h, same.connection]

omit [Endpoint ε τ π] in
theorem run_taking (s : Session τ) (now : Instant) (a : Audience) :
    s.run (taking now a) = { s with signals := [], posted := [] } ∧
      s.toldOf (s.rounds (taking now a)) = [] := by
  have first : Session.told s (s.step (.operate a now .takeSignals)) = [] := Session.told_of_same rfl
  refine ⟨rfl, ?_⟩
  show Session.told s (s.step (.operate a now .takeSignals)) ++ (List.drop _ [] ++ []) = []
  rw [first, List.drop_nil]
  rfl

theorem run_driven (s : Session τ) (now : Instant) (d : Dispatcher ε τ π) :
    s.run (d.driving now s ++ taking now d.audience) =
      { s.run (d.driving now s) with signals := [], posted := [] } := by
  rw [Session.run_append, (run_taking ..).1]

theorem driving_leaves (now : Instant) (d : Dispatcher ε τ π) (s : Session τ) :
    ∀ x ∈ d.driving now s, x.takes = false ∧ x.collects = false := by
  unfold driving
  dsimp only
  intro x mem
  simp only [List.mem_cons, List.not_mem_nil, or_false] at mem
  obtain rfl | rfl | rfl | rfl | rfl := mem <;> exact ⟨rfl, rfl⟩

end Driving

end QuicSessions.Dispatcher
