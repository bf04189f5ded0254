import QuicSessions.Proofs.Dispatchers.Shutdowns
import QuicSessions.Scenario.Bare
import QuicSessions.Wire.Station

/-!
# What a server's visitor is told

A server's visitor is told of every session when it is registered and when it is gone. Of all that is posted
about a session the first is that it is there, then comes what the session tells by itself, and the last is
that it is gone, of which the listener hears after the visitor. The news of the end is the last that a server
posts.
-/

set_option autoImplicit false

namespace QuicSessions.Dispatcher

open Session (Named)

variable {ε τ π : Type}

/-! ## A visitor all along -/

def Controls.Serves (v : ServerVisitor) (c : Controls) : Prop :=
  c.serverVisitor = some v ∧ c.audience.taken = true

structure Serving (v : ServerVisitor) (d : Dispatcher ε τ π) : Prop where
  server : d.role = .server
  visitor : d.serverVisitor = some v
  taken : d.audience.taken = true

/-- What is told of a session that is gone: to the visitor, and at once to the listener, if there is one. -/
def departed (v : ServerVisitor) (a : Audience) (h : SessionHandle) : List Notice :=
  .server v (.sessionClosed h.id h.connection) ::
    a.listener.toList.map fun l => .listener l (.sessionClosed h.id)

section Notices

variable {v : ServerVisitor} {d d' : Dispatcher ε τ π}

theorem Fixed.serving (h : Fixed d d') (serving : Serving v d) : Serving v d' where
  server := h.role.trans serving.server
  visitor := h.serverVisitor.trans serving.visitor
  taken := by
    rw [h.audience]
    exact serving.taken

theorem Serving.adjusted {c : Controls} (serving : Serving v d) (serves : c.Serves v) :
    Serving v (d.adjust c) := ⟨serving.server, serves.1, serves.2⟩

theorem Serving.notices (serving : Serving v d) (news : ServerNews) :
    d.serverNotices news = [.server v news] := by
  unfold serverNotices Audience.heard
  rw [serving.visitor, serving.taken]
  rfl

theorem Serving.leaving (serving : Serving v d) {handle : ConnectionHandle} {id : SessionId}
    (registered : d.connections.get? handle = some id) :
    d.leaving handle = .server v (.sessionClosed id handle) ::
      d.audience.listener.toList.map fun l => .listener l (.sessionClosed id) := by
  unfold Dispatcher.leaving Audience.heard
  rw [registered]
  dsimp only
  rw [serving.notices, serving.taken, Audience.tellListener_eq]
  rfl

end Notices

variable [Transport τ] [Endpoint ε τ π]

/-! ## All that is posted about a session -/

section Log

variable {v : ServerVisitor} {d d' : Dispatcher ε τ π} {strokes : List (Stroke ε τ π)} {n : SessionId}
  {s : Session τ}

/-- While nothing is collected, everything that strokes post is there. -/
theorem posted_perform (inOrder : InOrder d) (vacant : d.Throughout Vacant strokes)
    (stays : .collect ∉ strokes) (h : d.perform strokes = .ok d') :
    d'.posted = d.posted ++ d.gather said strokes := by
  induction strokes generalizing d with
  | nil =>
    cases h
    exact (List.append_nil _).symm
  | cons x strokes ih =>
    obtain ⟨first, rest⟩ := perform_cons_cases h
    have here : x ≠ .collect := fun e => stays (e ▸ List.mem_cons_self ..)
    rw [ih (inOrder.apply vacant.1 first) vacant.2 (fun mem => stays (List.mem_cons_of_mem x mem)) rest,
      posted_apply inOrder here first, gather_cons, List.append_assoc]

theorem names_of_absent (inOrder : InOrder d) (vacant : d.Throughout Vacant strokes)
    (always : d.Throughout (fun d _ => Serving v d) strokes) (h : d.perform strokes = .ok d')
    (absent : d.sessions.get? n = none) (unborn : Unborn n d strokes) :
    (d.gather said strokes).filter (names n) = [] := by
  rw [map_gather List.filter_nil fun _ _ => List.filter_append ..]
  refine gather_of_absent (fun inOrder serving applied absent unborn => ?_) inOrder vacant always h absent unborn
  rw [names_said inOrder serving.server applied unborn, absent]

/-- What is posted about a session that is there is what it tells, and that it is gone once it is. This comes
last in the stroke in which it leaves, and the listener that is installed then hears of it. -/
theorem names_of_life (inOrder : InOrder d) (vacant : d.Throughout Vacant strokes)
    (always : d.Throughout (fun d _ => Serving v d) strokes) (h : d.perform strokes = .ok d')
    (found : d.sessions.get? n = some s) (unborn : Unborn n d strokes) :
    ∃ last, (d.gather said strokes).filter (names n) =
        s.toldOf (s.rounds (d.gather (life n) strokes)) ++ last ∧
      if d'.sessions.get? n = none then ∃ e x, Leaves n d strokes e x ∧
        last = departed v e.audience s.sessionHandle ∧ last <:+ e.said x
      else last = [] := by
  rw [map_gather List.filter_nil fun _ _ => List.filter_append ..]
  refine gather_of_life (g := fun s steps => s.toldOf (s.rounds steps)) (fun _ => rfl)
    (fun s before after => ?_) (fun inOrder serving applied absent unborn => ?_) ?_ inOrder vacant always h
    found rfl unborn
  · unfold Session.toldOf
    rw [Session.rounds_append, Session.along_append, Session.run_rounds]
  · rw [names_said inOrder serving.server applied unborn, absent]
  · intro d d' x s' inOrder serving applied found same unborn
    refine ⟨_, by rw [names_said inOrder serving.server applied unborn, found], ?_⟩
    by_cases removed : d.removed? x = some s'.connection
    · rw [if_pos removed, if_pos removed]
      have registered := (inOrder.inverse s'.connection n).2 ⟨s', found, rfl⟩
      have key : s'.id = n := (inOrder.filed n s' found).1
      refine ⟨?_, leaving_said inOrder applied removed⟩
      rw [serving.leaving registered, ← same, ← key]
      rfl
    · rw [if_neg removed, if_neg removed]

/-- On a server everything but the news of the end names a session. -/
theorem about_said {x : Stroke ε τ π} (inOrder : InOrder d) (server : d.role = .server) (other : x ≠ .ended)
    (h : d.apply x = .ok d') : ∀ y ∈ d.said x, y.about?.isSome = true := by
  have announced : ∀ y ∈ d.announced x, y.about?.isSome = true := by
    have removal (x : Stroke ε τ π) : ∀ y ∈ d.departures x, y.about?.isSome = true := by
      intro y mem
      unfold departures at mem
      split at mem
      · rename_i handle _
        cases registered : d.connections.get? handle with
        | none =>
          unfold leaving at mem
          rw [registered] at mem
          cases mem
        | some id =>
          rw [about_leaving registered y mem]
          rfl
      · cases mem
    intro y mem
    cases x with
    | register now handle t =>
      rw [about_serverNotices (fun v => rfl) y mem]
      rfl
    | ended => exact absurd rfl other
    | _ =>
      unfold Dispatcher.announced at mem
      exact removal _ y mem
  cases ordinary : x.ordinary with
  | false =>
    rw [said_extraordinary ordinary h]
    exact announced
  | true =>
    obtain ⟨id, notices, d₁, parts, -⟩ := parts_apply ordinary inOrder.residents h
    rw [said_of_posted h (posted_parts ordinary parts)]
    intro y mem
    obtain mem | mem := List.mem_append.1 mem
    · cases found : d.sessions.get? id with
      | none =>
        rw [parts.absent found] at mem
        cases mem
      | some s =>
        rw [((parts.server s found server).2 y mem).about]
        rfl
    · exact announced y mem

theorem about_gather (inOrder : InOrder d) (vacant : d.Throughout Vacant strokes)
    (always : d.Throughout (fun d _ => Serving v d) strokes) (others : ∀ x ∈ strokes, x ≠ .ended)
    (h : d.perform strokes = .ok d') : ∀ y ∈ d.gather said strokes, y.about?.isSome = true := by
  induction strokes generalizing d with
  | nil => exact fun y mem => absurd mem List.not_mem_nil
  | cons x strokes ih =>
    obtain ⟨first, rest⟩ := perform_cons_cases h
    intro y mem
    obtain here | later := List.mem_append.1 mem
    · exact about_said inOrder always.1.server (others x (List.mem_cons_self ..)) first y here
    · exact ih (inOrder.apply vacant.1 first) vacant.2 always.2
        (fun z mem => others z (List.mem_cons_of_mem x mem)) rest y later

end Log

/-! ## The account of a session -/

def Birth.told (b : Birth ε τ π) : List Notice := b.session.toldOf b.rounds

/-- What is posted about a session. The visitor is told of it first, and then the session tells what it has
to tell itself. As long as it is there, this is all. Once it is gone, it had closed: it had told of every
stream and of the end of the connection. Then, in the stroke in which it leaves the table and as the last
news of that stroke, the visitor is told that it is gone, and the listener that is installed, and this is
all. -/
structure Account (v : ServerVisitor) (log : List Notice) (d : Dispatcher ε τ π) (b : Birth ε τ π) : Prop where
  own : ∀ y ∈ b.told, y.Own b.session.id
  there : ∀ s, d.sessions.get? b.session.id = some s → s = b.session.run b.life ∧
    log.filter (names b.session.id) = .server v (.session b.session.sessionHandle) :: b.told
  gone : d.sessions.get? b.session.id = none → ∃ e x, Leaves b.session.id b.later b.after e x ∧
    log.filter (names b.session.id) =
      .server v (.session b.session.sessionHandle) ::
        (b.told ++ departed v e.audience b.session.sessionHandle) ∧
    departed v e.audience b.session.sessionHandle <:+ e.said x
  closed : d.sessions.get? b.session.id = none →
    (b.session.run b.life).state = .closed ∧ (b.session.run b.life).streams.keys = [] ∧
    ∃ before x after reason, b.rounds = before ++ x :: after ∧
      Session.Closing x.audience reason (b.session.run before) ((b.session.run before).step x) ∧
      ∀ y ∈ ((b.session.run before).step x).toldOf after, y.parting = false

section Accounts

variable {v : ServerVisitor} {d₀ d : Dispatcher ε τ π} {strokes : List (Stroke ε τ π)} {b : Birth ε τ π}

/-- A number that is given out once belongs to no session before, and to none afterwards. -/
theorem unborn_of_distinct (mem : b ∈ d₀.births strokes) (h : d₀.perform strokes = .ok d)
    (distinct : ((d₀.births strokes).map fun b => b.session.id).Nodup) :
    (∀ before, d₀.perform before = .ok b.earlier → strokes = before ++ b.stroke :: b.after →
      Unborn b.session.id d₀ before) ∧ b.Single := by
  obtain ⟨before, now, handle, t, split, passed, registers, -, e⟩ := mem_births mem h
  have here : b.earlier.begun b.stroke = [b.session] := by
    rw [registers, e]
    rfl
  have apart {before : List (Stroke ε τ π)} (passed : d₀.perform before = .ok b.earlier)
      (split : strokes = before ++ b.stroke :: b.after) :
      b.session.id ∉ (d₀.gather begun before).map Session.id ∧
        b.session.id ∉ (b.later.gather begun b.after).map Session.id := by
    have numbers : ((d₀.births strokes).map fun b => b.session.id) = (d₀.gather begun strokes).map Session.id := by
      rw [← map_session_births, List.map_map]
      rfl
    rw [numbers, split, gather_append _ passed, gather_cons, here, List.map_append, List.map_append] at distinct
    have pairs := List.nodup_append.1 distinct
    exact ⟨fun early => pairs.2.2 _ early _ (List.mem_cons_self ..) rfl, (List.nodup_cons.1 pairs.2.1).1⟩
  refine ⟨fun before passed split s mem same => ?_, fun s mem same => ?_⟩
  · exact (apart passed split).1 (same ▸ List.mem_map_of_mem mem)
  · exact (apart passed split).2 (same ▸ List.mem_map_of_mem mem)

/-- In a run that begins without sessions and gives each number out once, every session has its account. -/
theorem account_of_births (empty : Vacated d₀) (inOrder : InOrder d₀) (vacant : d₀.Throughout Vacant strokes)
    (always : d₀.Throughout (fun d _ => Serving v d) strokes)
    (parted : d₀.Throughout (Parted fun s => s.state = .closed) strokes) (h : d₀.perform strokes = .ok d)
    (distinct : ((d₀.births strokes).map fun b => b.session.id).Nodup) (mem : b ∈ d₀.births strokes)
    (forCause : b.session.ClosesForCause b.life) : Account v (d₀.gather said strokes) d b := by
  obtain ⟨inOrder', rest, found, named, state, -, -⟩ := begins_of_births mem h inOrder vacant
  obtain ⟨early, single⟩ := unborn_of_distinct mem h distinct
  have vacant' := throughout_births mem h vacant
  have open_ : b.session.state ≠ .closed := by
    rw [state]
    exact nofun
  have rounds : ∀ x ∈ b.rounds, x.single = true := Session.single_rounds b.session b.life
  obtain ⟨last, told, ending⟩ := names_of_life inOrder' vacant' (throughout_births mem h always) rest found single
  -- the log is what was posted before the registration, by it, and afterwards
  obtain ⟨before, now, handle, t, split, passed, registers, registered, e⟩ := mem_births mem h
  have log : (d₀.gather said strokes).filter (names b.session.id) =
      .server v (.session b.session.sessionHandle) :: (b.told ++ last) := by
    rw [split] at vacant always
    have absent : d₀.sessions.get? b.session.id = none := by
      refine Table.get?_eq_none_iff.2 ?_
      rw [empty.sessions]
      exact List.not_mem_nil
    have silent := names_of_absent inOrder ((throughout_append passed _).1 vacant).1
      ((throughout_append passed _).1 always).1 passed absent (early before passed split)
    have serving : Serving v b.earlier := ((throughout_append passed _).1 always).2.1
    have announcement : b.earlier.said b.stroke = [.server v (.session b.session.sessionHandle)] := by
      have extraordinary : b.stroke.ordinary = false := by
        rw [registers]
        rfl
      rw [said_extraordinary extraordinary registered, registers, e]
      exact serving.notices _
    have heard : (b.earlier.said b.stroke).filter (names b.session.id) =
        [.server v (.session b.session.sessionHandle)] := by
      rw [announcement]
      exact List.filter_cons_of_pos (decide_eq_true rfl)
    rw [split, gather_append _ passed, gather_cons, List.filter_append, List.filter_append, silent, heard]
    exact congrArg (List.cons (.server v (.session b.session.sessionHandle))) told
  refine ⟨?_, fun s there => ?_, fun gone => ?_, fun gone => ?_⟩
  · exact Session.own_toldOf named b.rounds
  · rw [there, if_neg nofun] at ending
    rw [log, ending, List.append_nil]
    obtain stays | ⟨gone, -⟩ := life_perform inOrder' vacant' rest found single
    · rw [there] at stays
      exact ⟨Option.some.inj stays, rfl⟩
    · rw [there] at gone
      cases gone
  · rw [if_pos gone] at ending
    obtain ⟨e, x, leaves, rfl, last⟩ := ending
    exact ⟨e, x, leaves, log, last⟩
  · have cause := cause_of_removed (fun _ closed => closed) inOrder' vacant' (throughout_births mem h parted)
      rest found open_ single forCause gone
    have closed : (b.session.run b.rounds).state = .closed := (Session.closed_run named rounds).2 (.inr cause)
    have emptied := Session.emptied_run (fun closed => absurd closed open_) rounds closed
    have same : b.session.run b.rounds = b.session.run b.life := Session.run_rounds b.session b.life
    rw [same] at closed emptied
    exact ⟨closed, emptied.1, Session.closing_of_cause named rounds open_ cause⟩

end Accounts

/-! ## The end -/

section End

variable {v : ServerVisitor} {d : Dispatcher ε τ π}

theorem said_ended (serving : Serving v d) : d.said .ended = [.server v .ended] :=
  (said_extraordinary rfl rfl).trans (serving.notices .ended)

/-- What the owner keeps installed is there after a move. -/
theorem serving_step {x : Move π} (serving : Serving v d) (serves : ∀ c, x = .adjust c → c.Serves v) :
    d.Throughout (fun d _ => Serving v d) (d.made x) ∧ Serving v (d.step x) := by
  have whole := throughout_strokes Fixed.serving Serving.adjusted serving fun c (mem : .adjust c ∈ [x]) =>
    serves c (List.mem_singleton.1 mem).symm
  exact ⟨((throughout_append (perform_made d x) _).1 whole.1).1, whole.2⟩

theorem connecting_run {moves : List (Move π)} (connecting : d.connecting = none)
    (settings : ∀ c, .adjust c ∈ moves → c.connecting = none) : (d.run moves).connecting = none := by
  have whole := throughout_strokes (I := fun d : Dispatcher ε τ π => d.connecting = none)
    (Q := fun c => c.connecting = none) (fun fixed none_ => fixed.connecting.trans none_) (fun _ none_ => none_)
    connecting settings
  exact whole.2

theorem shutdown_deserts (inOrder : InOrder d) (connecting : d.connecting = none)
    (before : d.shutDown = true → Deserted d) (now : Instant) :
    ∃ d', d.attempt (.shutdown now) = .ok d' ∧ Deserted d' := by
  cases on : d.shutDown with
  | true =>
    have unchanged : d.attempt (.shutdown now) = .ok d := by
      show d.shutdown now = .ok d
      unfold shutdown
      rw [if_pos on]
    exact ⟨d, unchanged, before on⟩
  | false =>
    obtain ⟨d', front, shutting, -, -, shut, vacated⟩ := shutting_vacates inOrder on now
    have attempted : d.attempt (.shutdown now) = .ok d' := (attempt_eq d _).trans shutting
    have same : d.run [.shutdown now] = d' := by
      show d.step (.shutdown now) = d'
      unfold step
      rw [attempted]
    refine ⟨d', attempted, vacated, shut, ?_⟩
    rw [← same]
    exact connecting_run connecting fun c mem => by cases List.mem_singleton.1 mem

/-- The shutdown of a server that is not shut down yet posts the news of the end, and posts it last. -/
theorem said_shutdown {now : Instant} (inOrder : InOrder d) (serving : Serving v d)
    (vacant : d.Throughout Vacant (d.made (.shutdown now))) (on : d.shutDown = false) :
    (d.step (.shutdown now)).shutDown = true ∧ Vacated (d.step (.shutdown now)) ∧
      ∃ front, d.gather said (d.made (.shutdown now)) = front ++ [.server v .ended] ∧
        ∀ y ∈ front, y.about?.isSome = true := by
  have always := (serving_step (x := .shutdown now) serving fun c e => by cases e).1
  obtain ⟨d', front, performed, plan, others, shut, vacated⟩ := shutting_vacates inOrder on now
  have attempted : d.attempt (.shutdown now) = .ok d' := (attempt_eq d _).trans performed
  have stepped : d.step (.shutdown now) = d' := by
    unfold step
    rw [attempted]
  have made : d.made (.shutdown now) = front ++ [.ended] := by
    rw [made_of_attempt attempted]
    exact plan
  rw [made] at vacant always
  rw [plan, perform_append] at performed
  obtain ⟨d₁, closing, -⟩ := ok_of_bind performed
  have serving₁ : Serving v d₁ := ((throughout_append closing _).1 always).2.1
  rw [stepped, made, gather_append _ closing]
  refine ⟨shut, vacated, d.gather said front, ?_, ?_⟩
  · show _ ++ (d₁.said .ended ++ []) = _
    rw [said_ended serving₁]
    rfl
  · exact about_gather inOrder ((throughout_append closing _).1 vacant).1
      ((throughout_append closing _).1 always).1 others closing

/-- Any other move posts notices about sessions, and shuts nothing down. -/
theorem said_otherwise {x : Move π} (inOrder : InOrder d) (serving : Serving v d)
    (serves : ∀ c, x = .adjust c → c.Serves v) (vacant : d.Throughout Vacant (d.made x))
    (other : x.shuts = false) :
    (d.step x).shutDown = d.shutDown ∧ ∀ y ∈ d.gather said (d.made x), y.about?.isSome = true := by
  have performed := perform_made d x
  have elsewhere {y : Stroke ε τ π} (mem : y ∈ d.made x) : y.shuts = false ∧ y ≠ .ended := by
    have stems := from_course (mem_made mem)
    cases y with
    | shut =>
      obtain ⟨now, rfl⟩ := stems
      cases other
    | ended =>
      obtain ⟨now, rfl⟩ := stems
      cases other
    | _ => exact ⟨rfl, nofun⟩
  refine ⟨?_, about_gather inOrder vacant (serving_step serving serves).1 (fun y mem => (elsewhere mem).2) performed⟩
  have unshut : (d.made x).any Stroke.shuts = false :=
    List.any_eq_false.2 fun y mem => Bool.eq_false_iff.1 (elsewhere mem).1
  rw [shutDown_perform performed, unshut, Bool.or_false]

/-- The news of the end is posted in a run if there is a shutdown, once, and as the last. -/
theorem ending_of_run {moves : List (Move π)} (inOrder : InOrder d) (serving : Serving v d)
    (vacant : d.Throughout Vacant (d.strokes moves)) (serves : ∀ c, .adjust c ∈ moves → c.Serves v)
    (connecting : d.connecting = none) (settings : ∀ c, .adjust c ∈ moves → c.connecting = none)
    (on : d.shutDown = false) :
    if moves.any Move.shuts then
      Deserted (d.run moves) ∧ ∃ front, d.gather said (d.strokes moves) = front ++ [.server v .ended] ∧
        ∀ y ∈ front, y.about?.isSome = true
    else (d.run moves).shutDown = false ∧ ∀ y ∈ d.gather said (d.strokes moves), y.about?.isSome = true := by
  induction moves generalizing d with
  | nil =>
    rw [List.any_nil, if_neg Bool.false_ne_true]
    exact ⟨on, fun y mem => absurd mem List.not_mem_nil⟩
  | cons x moves ih =>
    have performed := perform_made d x
    obtain ⟨here, later⟩ := (throughout_append performed _).1 vacant
    have serves' : ∀ c, x = .adjust c → c.Serves v := fun c e => serves c (e ▸ List.mem_cons_self ..)
    have settings' : ∀ c, .adjust c ∈ moves → c.connecting = none := fun c mem =>
      settings c (List.mem_cons_of_mem x mem)
    have log : d.gather said (d.strokes (x :: moves)) =
        d.gather said (d.made x) ++ (d.step x).gather said ((d.step x).strokes moves) :=
      gather_append _ performed _
    have unsettled : (d.run [x]).connecting = none := connecting_run connecting fun c mem =>
      settings c (List.mem_cons.2 (.inl (List.mem_singleton.1 mem)))
    rw [log, List.any_cons]
    cases shuts : x.shuts with
    | true =>
      obtain ⟨now, rfl⟩ : ∃ now, x = .shutdown now := by
        cases x with
        | shutdown now => exact ⟨now, rfl⟩
        | _ => cases shuts
      obtain ⟨shut, vacated, front, posted, others⟩ := said_shutdown inOrder serving here on
      have deserted : Deserted (d.step (.shutdown now)) := ⟨vacated, shut, unsettled⟩
      obtain ⟨last, silent, -⟩ := deserted.run settings'
      rw [Bool.true_or, if_pos rfl, posted, silent, List.append_nil]
      exact ⟨last, front, rfl, others⟩
    | false =>
      obtain ⟨same, others⟩ := said_otherwise inOrder serving serves' here shuts
      have rest := ih (inOrder.perform here performed) (serving_step serving serves').2 later
        (fun c mem => serves c (List.mem_cons_of_mem x mem)) unsettled settings' (same.trans on)
      rw [Bool.false_or]
      split at rest
      · obtain ⟨last, front, posted, abouts⟩ := rest
        rw [if_pos ‹_›]
        refine ⟨last, d.gather said (d.made x) ++ front, ?_, fun y mem => ?_⟩
        · rw [posted, List.append_assoc]
        · exact (List.mem_append.1 mem).elim (others y) (abouts y)
      · rw [if_neg ‹_›]
        exact ⟨rest.1, fun y mem => (List.mem_append.1 mem).elim (others y) (rest.2 y)⟩

end End

/-! ## Every run -/

/-- In a run of a server with a visitor, in which no connection gets a handle or a number that is in use, no
number is given out twice and none is removed by hand before its session is closed: what is posted about a
session of which the transport has no reason to be done but closing or loss has its account. If the server
has no settings to begin connections, it can be shut down at any time, which empties its tables; the news of
the end is posted once there is a shutdown, once, and last of all; after the first shutdown nothing is posted
any more, and no session is registered. -/
theorem server_told_of_sessions (endpoint : ε) (address : SocketAddress) (options : SessionOptions)
    (v : ServerVisitor) (c : Controls) (moves : List (Move π)) :
    let d₀ : Dispatcher ε τ π := (new .server endpoint address options).adjust c
    let course := d₀.strokes moves
    let log := d₀.gather said course
    let d := d₀.run moves
    c.Serves v → (∀ c', .adjust c' ∈ moves → c'.Serves v) →
    (∀ before handle after, moves = before ++ .connectionClosed handle :: after →
      Parted (fun s => s.state = .closed) (d₀.run before) (.remove handle)) →
    d₀.Throughout Vacant course → ((d₀.births course).map fun b => b.session.id).Nodup →
      (.collect ∉ moves → d.posted = log) ∧
      (∀ b ∈ d₀.births course, b.session.ClosesForCause b.life → Account v log d b) ∧
      (c.connecting = none → (∀ c', .adjust c' ∈ moves → c'.connecting = none) →
        (∀ now, ∃ d', d.attempt (.shutdown now) = .ok d' ∧ Deserted d') ∧
        (if moves.any Move.shuts then ∃ front, log = front ++ [.server v .ended] ∧ .server v .ended ∉ front
          else .server v .ended ∉ log) ∧
        ∀ before after, moves = before ++ after → before.any Move.shuts = true →
          Deserted d ∧ (d₀.run before).gather said ((d₀.run before).strokes after) = [] ∧
            (d₀.run before).births ((d₀.run before).strokes after) = []) := by
  intro d₀ course log d serves serves' byHand vacant distinct
  have inOrder : InOrder d₀ := (InOrder.new .server endpoint address options).of_same rfl rfl
  have empty : Vacated d₀ := ⟨rfl, rfl⟩
  have serving : Serving v d₀ := ⟨rfl, serves.1, serves.2⟩
  have performed : d₀.perform course = .ok d := perform_strokes d₀ moves
  obtain ⟨always, last⟩ := throughout_strokes Fixed.serving Serving.adjusted serving serves'
  have parted : d₀.Throughout (Parted fun s => s.state = .closed) course :=
    parted_strokes (fun s shut => shut.1) inOrder vacant byHand
  have silent {y : Notice} (about : y.about?.isSome = true) : y ≠ .server v .ended := by
    rintro rfl
    cases about
  refine ⟨fun uncollected => ?_, fun b mem forCause => ?_, fun connecting settings => ⟨fun now => ?_, ?_, ?_⟩⟩
  · have stays : .collect ∉ course := by
      intro mem
      obtain ⟨x, made, stems⟩ := from_strokes mem
      obtain rfl : x = .collect := stems
      exact uncollected made
    exact posted_perform inOrder vacant stays performed
  · exact account_of_births empty inOrder vacant always parted performed distinct mem forCause
  · have ending := ending_of_run inOrder serving vacant serves' connecting settings rfl
    refine shutdown_deserts (inOrder.perform vacant performed)
      (connecting_run connecting settings) (fun on => ?_) now
    split at ending
    · exact ending.1
    · have off : d.shutDown = false := ending.1
      rw [off] at on
      cases on
  · have ending := ending_of_run inOrder serving vacant serves' connecting settings rfl
    split at ending
    · obtain ⟨-, front, posted, others⟩ := ending
      rw [if_pos ‹_›]
      exact ⟨front, posted, fun mem => silent (others _ mem) rfl⟩
    · rw [if_neg ‹_›]
      exact fun mem => silent (ending.2 _ mem) rfl
  · intro before after split shuts
    have mem {c' : Controls} : .adjust c' ∈ before ∨ .adjust c' ∈ after → .adjust c' ∈ moves := fun h => by
      rw [split]
      exact List.mem_append.2 h
    have early : d₀.Throughout Vacant (d₀.strokes before) := by
      have whole : d₀.Throughout Vacant (d₀.strokes moves) := vacant
      rw [split, strokes_append] at whole
      exact ((throughout_append (perform_strokes d₀ before) _).1 whole).1
    have ending := ending_of_run inOrder serving early (fun c' h => serves' c' (mem (.inl h))) connecting
      (fun c' h => settings c' (mem (.inl h))) rfl
    rw [if_pos shuts] at ending
    obtain ⟨deserted, said, begun⟩ := ending.1.run fun c' (h : .adjust c' ∈ after) =>
      settings c' (mem (.inr h))
    have same : d = (d₀.run before).run after := by
      rw [← run_append, ← split]
    have unborn : (d₀.run before).births ((d₀.run before).strokes after) = [] := by
      rw [← List.map_eq_nil_iff, map_session_births]
      exact begun
    exact ⟨same ▸ deserted, said, unborn⟩

def host : Controls := ⟨none, ⟨some default, true⟩, some default, none, false, 8, 32, false⟩

def knock (now : Instant) (link : Nat) : Move Wire.Payload :=
  .receive now Scenario.clientAddress
    (.packet ⟨link, 0, [.hello Scenario.commonSettings.streams Scenario.commonSettings.idle]⟩)

/-- One client sends a few bytes on a stream and closes its connection. The next comes just before the
server is shut down, and one more after that. -/
def visits : List (Move Wire.Payload) :=
  [knock 0 0, .operate 0 ⟨1⟩ [.setVisitor default],
    .receive 0 Scenario.clientAddress (.packet ⟨0, 1, [.complete]⟩),
    .receive 0 Scenario.clientAddress (.packet ⟨0, 2, [.stream (.of .client .bi 0) 0 [104, 105] true]⟩),
    .receive 0 Scenario.clientAddress (.packet ⟨0, 3, [.applicationClose 7 []]⟩), .timeout (millis 10000),
    knock (millis 10000) 1, .shutdown (millis 10000), knock (millis 10000) 2, .shutdown (millis 10000)]

theorem server_told_of_sessions_two :
    let d₀ : Dispatcher Wire.Station Wire.Connection Wire.Payload :=
      (new .server (.server Scenario.commonSettings) Scenario.serverAddress .standard).adjust host
    let log := d₀.gather said (d₀.strokes visits)
    (∀ b ∈ d₀.births (d₀.strokes visits), Account default log (d₀.run visits) b) ∧
      (d₀.births (d₀.strokes visits)).map (fun b => b.session.id) = [⟨1⟩, ⟨2⟩] ∧
      (d₀.run visits).posted = log ∧ Deserted (d₀.run visits) ∧
      (∃ front, log = front ++ [.server default .ended] ∧ .server default .ended ∉ front) ∧
      log.filter (names ⟨2⟩) = [.server default (.session ⟨⟨2⟩, ⟨0⟩, .server⟩),
        .server default (.sessionClosed ⟨2⟩ ⟨0⟩), .listener default (.sessionClosed ⟨2⟩)] := by
  intro d₀ log
  have adjusts : ∀ c, .adjust c ∉ visits := by
    intro c mem
    simp [visits, knock] at mem
  have byHand : ∀ before handle after, visits = before ++ .connectionClosed handle :: after →
      Parted (fun s => s.state = .closed) (d₀.run before) (.remove handle) := by
    intro before handle after split
    have mem : .connectionClosed handle ∈ visits := by simp [split]
    simp [visits, knock] at mem
  have vacant : d₀.Throughout Vacant (d₀.strokes visits) := by decide +kernel
  have distinct : ((d₀.births (d₀.strokes visits)).map fun b => b.session.id).Nodup := by decide +kernel
  have forCause : ∀ b ∈ d₀.births (d₀.strokes visits), b.session.ClosesForCause b.life := by decide +kernel
  have told := server_told_of_sessions (Wire.Station.server Scenario.commonSettings) Scenario.serverAddress
    .standard default host visits ⟨rfl, rfl⟩ (fun c mem => absurd mem (adjusts c)) byHand vacant distinct
  obtain ⟨posted, accounts, ending⟩ := told
  obtain ⟨-, last, after⟩ := ending rfl fun c mem => absurd mem (adjusts c)
  refine ⟨fun b mem => accounts b mem (forCause b mem), by decide +kernel, posted ?_, ?_, last, by decide +kernel⟩
  · intro mem
    simp [visits, knock] at mem
  · exact (after (visits.take 8) (visits.drop 8) rfl rfl).1

/-- The listener hears that a session is gone after the visitor was told so. -/
theorem listener_told_after_visitor :
    let d₀ : Dispatcher Wire.Station Wire.Connection Wire.Payload :=
      (new .server (.server Scenario.commonSettings) Scenario.serverAddress .standard).adjust host
    ¬ ∀ front back, d₀.gather said (d₀.strokes visits) =
        front ++ .server default (.sessionClosed ⟨1⟩ ⟨0⟩) :: back → ∀ y ∈ back, y.about? ≠ some ⟨1⟩ := by
  intro d₀ nothing
  let log := d₀.gather said (d₀.strokes visits)
  have split : log = log.take 10 ++ .server default (.sessionClosed ⟨1⟩ ⟨0⟩) :: log.drop 11 := by
    decide +kernel
  have later : .listener default (.sessionClosed ⟨1⟩) ∈ log.drop 11 := by decide +kernel
  exact nothing (log.take 10) (log.drop 11) split _ later rfl

end QuicSessions.Dispatcher
