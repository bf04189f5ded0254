import QuicSessions.Proofs.Dispatchers.Biographies

/-!
# Who is told what in a stroke

A stroke posts what its session told, what the client visitor is told about the signals that were taken
from the session, and what only the dispatcher can tell: that a session is there, that one is gone, and that
the end has come. From this the share of every receiver in a stroke is known.
-/

set_option autoImplicit false

namespace QuicSessions.Dispatcher

open Session (Named)

variable {ε τ π : Type}

/-! ## What the dispatcher tells by itself -/

/-- What the server visitor is told, if there is one. -/
def serverNotices (news : ServerNews) (d : Dispatcher ε τ π) : List Notice :=
  match d.serverVisitor with
  | some v => d.audience.heard [.server v news]
  | none => []

/-- What is told when a connection is removed: first the server visitor, and then the listener. -/
def leaving (handle : ConnectionHandle) (d : Dispatcher ε τ π) : List Notice :=
  match d.connections.get? handle with
  | none => []
  | some id => d.serverNotices (.sessionClosed id handle) ++
      d.audience.heard (d.audience.tellListener (.sessionClosed id))

theorem posted_tellServer (news : ServerNews) (d : Dispatcher ε τ π) :
    (d.tellServer news).posted = d.posted ++ d.serverNotices news := by
  unfold tellServer serverNotices
  cases d.serverVisitor with
  | none => exact (List.append_nil _).symm
  | some v => rfl

theorem posted_connectionClosed (handle : ConnectionHandle) (d : Dispatcher ε τ π) :
    (d.connectionClosed handle).posted = d.posted ++ d.leaving handle := by
  cases registered : d.connections.get? handle with
  | none =>
    rw [connectionClosed_of_unregistered registered]
    unfold leaving
    rw [registered]
    exact (List.append_nil _).symm
  | some id =>
    unfold connectionClosed leaving
    rw [registered]
    dsimp only
    show (tellServer _ _).posted ++ (tellServer _ _).audience.heard _ = _
    rw [posted_tellServer, tellServer_eq, List.append_assoc]
    rfl

theorem Lived.leaving {τ : Type} [Transport τ] {id : SessionId} {steps : List (Session.Step τ)}
    {notices : List Notice} {d d' : Dispatcher ε τ π} (lived : Lived id steps notices d d')
    (handle : ConnectionHandle) : d'.leaving handle = d.leaving handle := by
  unfold Dispatcher.leaving serverNotices
  rw [lived.connections, lived.fixed.audience, lived.fixed.serverVisitor]

variable [Transport τ] [Endpoint ε τ π]

/-- What is told in a stroke of the connection that it removes. -/
def departures (d : Dispatcher ε τ π) (x : Stroke ε τ π) : List Notice :=
  match d.removed? x with
  | some handle => d.leaving handle
  | none => []

/-- What is told in a stroke by nobody but the dispatcher. -/
def announced (d : Dispatcher ε τ π) (x : Stroke ε τ π) : List Notice :=
  match x with
  | .register now handle t =>
    d.serverNotices (.session (Session.begun d.nextSession handle t d.options now).sessionHandle)
  | .ended => d.serverNotices .ended
  | x => d.departures x

/-- What a stroke posts. -/
def said (d : Dispatcher ε τ π) (x : Stroke ε τ π) : List Notice :=
  (d.stroke x).posted.drop d.posted.length

section Single

variable {d d' : Dispatcher ε τ π} {x : Stroke ε τ π}

theorem said_of_posted {notices : List Notice} (h : d.apply x = .ok d')
    (posted : d'.posted = d.posted ++ notices) : d.said x = notices := by
  unfold said
  rw [stroke_of_apply h, posted, List.drop_left]

theorem posted_extraordinary (extraordinary : x.ordinary = false) (stays : x ≠ .collect)
    (h : d.apply x = .ok d') : d'.posted = d.posted ++ d.announced x := by
  cases x with
  | register now handle t =>
    obtain ⟨⟨id, d₁⟩, registered, rfl⟩ := ok_of_map h
    obtain ⟨rfl, rfl⟩ := createSession_cases registered
    exact posted_tellServer _ _
  | shut => cases h; exact (List.append_nil _).symm
  | ended => cases h; exact posted_tellServer _ d
  | adjust c => cases h; exact (List.append_nil _).symm
  | collect => exact absurd rfl stays
  | _ => cases extraordinary

theorem announced_ordinary (ordinary : x.ordinary = true) (d : Dispatcher ε τ π) :
    d.announced x = d.departures x := by
  cases x with
  | register => cases ordinary
  | ended => cases ordinary
  | _ => rfl

theorem posted_parts {id : SessionId} {notices : List Notice} {d₁ : Dispatcher ε τ π}
    (ordinary : x.ordinary = true) (parts : Parts x id notices d d₁ d') :
    d'.posted = d.posted ++ (notices ++ d.announced x) := by
  rw [announced_ordinary ordinary, parts.result]
  unfold departures
  cases d.removed? x with
  | none =>
    show d₁.posted = d.posted ++ (notices ++ [])
    rw [List.append_nil]
    exact parts.lived.posted
  | some handle =>
    show (d₁.connectionClosed handle).posted = d.posted ++ (notices ++ d.leaving handle)
    rw [posted_connectionClosed, parts.lived.posted, parts.lived.leaving, List.append_assoc]

/-- Unless the notices are collected, what is posted is what was posted and what the stroke posts. -/
theorem posted_apply (inOrder : InOrder d) (stays : x ≠ .collect) (h : d.apply x = .ok d') :
    d'.posted = d.posted ++ d.said x := by
  cases ordinary : x.ordinary with
  | false =>
    have posted := posted_extraordinary ordinary stays h
    rw [said_of_posted h posted, posted]
  | true =>
    obtain ⟨id, notices, d₁, parts, -⟩ := parts_apply ordinary inOrder.residents h
    have posted := posted_parts ordinary parts
    rw [said_of_posted h posted, posted]

theorem said_extraordinary (extraordinary : x.ordinary = false) (h : d.apply x = .ok d') :
    d.said x = d.announced x := by
  by_cases stays : x = .collect
  · subst stays
    cases h
    show [].drop _ = []
    exact List.drop_nil
  · exact said_of_posted h (posted_extraordinary extraordinary stays h)

end Single

/-! ## The client visitor -/

/-- What is posted in the strokes that are work on the session of a number, or on none. -/
def saidOf (subject : Option SessionId) (d : Dispatcher ε τ π) (x : Stroke ε τ π) : List Notice :=
  if x.subject? = subject then d.said x else []

omit [Transport τ] [Endpoint ε τ π] in
theorem clientNews_serverNotices (news : ServerNews) (d : Dispatcher ε τ π) :
    (d.serverNotices news).filterMap Notice.clientNews? = [] := by
  unfold serverNotices Audience.heard
  cases d.serverVisitor <;> cases d.audience.taken <;> rfl

omit [Transport τ] [Endpoint ε τ π] in
theorem clientNews_leaving (handle : ConnectionHandle) (d : Dispatcher ε τ π) :
    (d.leaving handle).filterMap Notice.clientNews? = [] := by
  unfold leaving
  cases d.connections.get? handle with
  | none => rfl
  | some id =>
    rw [List.filterMap_append, clientNews_serverNotices]
    unfold Audience.heard Audience.tellListener
    cases d.audience.taken <;> cases d.audience.listener <;> rfl

theorem clientNews_announced (x : Stroke ε τ π) (d : Dispatcher ε τ π) :
    (d.announced x).filterMap Notice.clientNews? = [] := by
  have removal (y : Stroke ε τ π) : (d.departures y).filterMap Notice.clientNews? = [] := by
    unfold departures
    cases d.removed? y with
    | none => rfl
    | some handle => exact clientNews_leaving handle d
  cases x with
  | register now handle t => exact clientNews_serverNotices _ d
  | ended => exact clientNews_serverNotices _ d
  | _ =>
    unfold announced
    exact removal _

section Client

variable {d d' : Dispatcher ε τ π} {x : Stroke ε τ π} {n : SessionId} {s : Session τ}

omit [Transport τ] [Endpoint ε τ π] in
theorem ordinary_of_subject (subject : x.subject? = some n) : x.ordinary = true := by
  cases x with
  | deliver | request | drive => rfl
  | _ => cases subject

/-- In work on a session, the client visitor is told of the signals that are taken from it. -/
theorem clientNews_saidOf (inOrder : InOrder d) (attended : Attended d) (h : d.apply x = .ok d')
    (found : d.sessions.get? n = some s) :
    (d.saidOf (some n) x).filterMap Notice.clientNews? = (d.taken n x).filterMap (newsOf s.sessionHandle) := by
  unfold saidOf
  by_cases subject : x.subject? = some n
  · have ordinary := ordinary_of_subject subject
    obtain ⟨id, notices, d₁, parts, named | ⟨none_, -⟩⟩ := parts_apply ordinary inOrder.residents h
    · obtain rfl : id = n := Option.some.inj (named.symm.trans subject)
      rw [if_pos subject, said_of_posted h (posted_parts ordinary parts), List.filterMap_append,
        parts.client s found attended, clientNews_announced, List.append_nil]
    · rw [subject] at none_
      cases none_
  · rw [if_neg subject, (idle_of_subject subject d).2]
    rfl

/-- Work on a session that is not there tells nobody anything. -/
theorem saidOf_of_absent (inOrder : InOrder d) (h : d.apply x = .ok d') (absent : d.sessions.get? n = none) :
    d.saidOf (some n) x = [] := by
  unfold saidOf
  by_cases subject : x.subject? = some n
  · have ordinary := ordinary_of_subject subject
    obtain ⟨id, notices, d₁, parts, named | ⟨none_, -⟩⟩ := parts_apply ordinary inOrder.residents h
    · obtain rfl : id = n := Option.some.inj (named.symm.trans subject)
      have stays : d.removed? x = none := by
        cases x with
        | drive now id' =>
          cases subject
          unfold removed?
          dsimp only
          rw [absent]
        | deliver | request => rfl
        | _ => cases subject
      rw [if_pos subject, said_of_posted h (posted_parts ordinary parts), parts.absent absent,
        announced_ordinary ordinary]
      unfold departures
      rw [stays]
      rfl
    · rw [subject] at none_
      cases none_
  · exact if_neg subject

/-- In a stroke that is work on no session, the client visitor is told nothing. -/
theorem clientNews_saidOf_none (inOrder : InOrder d) (h : d.apply x = .ok d') :
    (d.saidOf none x).filterMap Notice.clientNews? = [] := by
  unfold saidOf
  by_cases apart : x.subject? = none
  · rw [if_pos apart]
    cases ordinary : x.ordinary with
    | false =>
      rw [said_extraordinary ordinary h]
      exact clientNews_announced x d
    | true =>
      obtain ⟨id, notices, d₁, parts, named | ⟨-, rfl⟩⟩ := parts_apply ordinary inOrder.residents h
      · rw [apart] at named
        cases named
      · rw [said_of_posted h (posted_parts ordinary parts)]
        exact clientNews_announced x d
  · rw [if_neg apart]
    rfl

end Client

/-! ## What is said about a session -/

/-- Whether a notice names the session of a number. -/
def names (n : SessionId) (x : Notice) : Bool := decide (x.about? = some n)

theorem filter_names {notices : List Notice} {named : Option SessionId}
    (about : ∀ y ∈ notices, y.about? = named) (n : SessionId) :
    notices.filter (names n) = if named = some n then notices else [] := by
  by_cases same : named = some n
  · rw [if_pos same]
    exact List.filter_eq_self.2 fun y mem => decide_eq_true ((about y mem).trans same)
  · rw [if_neg same]
    refine List.filter_eq_nil_iff.2 fun y mem spoken => same ?_
    exact (about y mem).symm.trans (of_decide_eq_true spoken)

section Server

variable {d d' : Dispatcher ε τ π} {x : Stroke ε τ π} {n : SessionId} {s : Session τ}

omit [Transport τ] [Endpoint ε τ π] in
theorem about_serverNotices {news : ServerNews} {named : Option SessionId}
    (about : ∀ v, (Notice.server v news).about? = named) : ∀ y ∈ d.serverNotices news, y.about? = named := by
  intro y mem
  unfold serverNotices at mem
  cases visitor : d.serverVisitor with
  | none =>
    rw [visitor] at mem
    cases mem
  | some v =>
    rw [visitor] at mem
    obtain rfl := List.mem_singleton.1 (Session.mem_of_heard _ mem)
    exact about v

omit [Transport τ] [Endpoint ε τ π] in
theorem about_leaving {handle : ConnectionHandle} {m : SessionId}
    (registered : d.connections.get? handle = some m) : ∀ y ∈ d.leaving handle, y.about? = some m := by
  intro y mem
  unfold leaving at mem
  rw [registered] at mem
  obtain mem | mem := List.mem_append.1 mem
  · exact about_serverNotices (fun v => rfl) y mem
  · obtain ⟨l, rfl⟩ := Session.mem_tellListener _ (Session.mem_of_heard _ mem)
    rfl

/-- Of a removal, what is told names the session that is removed. -/
theorem names_departures (inOrder : InOrder d) (x : Stroke ε τ π) (n : SessionId) :
    (d.departures x).filter (names n) =
      match d.sessions.get? n with
      | some s => if d.removed? x = some s.connection then d.leaving s.connection else []
      | none => [] := by
  have there (handle : ConnectionHandle) := inOrder.inverse handle n
  unfold departures
  cases d.removed? x with
  | none =>
    rw [List.filter_nil]
    cases d.sessions.get? n with
    | none => rfl
    | some s => exact (if_neg nofun).symm
  | some handle =>
    dsimp only
    cases registered : d.connections.get? handle with
    | none =>
      have silent : d.leaving handle = [] := by
        unfold leaving
        rw [registered]
      rw [silent, List.filter_nil]
      cases found : d.sessions.get? n with
      | none => rfl
      | some s =>
        refine (if_neg fun on => ?_).symm
        have on := Option.some.inj on
        rw [(there handle).2 ⟨s, found, on.symm⟩] at registered
        cases registered
    | some m =>
      rw [filter_names (about_leaving registered)]
      cases found : d.sessions.get? n with
      | none =>
        refine if_neg fun same => ?_
        obtain ⟨s, found', -⟩ := (there handle).1 (registered.trans same)
        rw [found] at found'
        cases found'
      | some s =>
        dsimp only
        by_cases same : some m = some n
        · obtain ⟨s', found', on⟩ := (there handle).1 (registered.trans same)
          cases found.symm.trans found'
          rw [if_pos same, on, if_pos rfl]
        · rw [if_neg same]
          refine (if_neg fun on => same ?_).symm
          have on := (there handle).2 ⟨s, found, (Option.some.inj on).symm⟩
          exact registered.symm.trans on

/-- Of what a session posts in a stroke, everything names the session itself. -/
theorem names_notices {id : SessionId} {notices : List Notice} {d₁ : Dispatcher ε τ π}
    (parts : Parts x id notices d d₁ d') (server : d.role = .server) (n : SessionId) :
    notices.filter (names n) =
      match d.sessions.get? n with
      | some s => s.toldOf (s.rounds (d.life n x))
      | none => [] := by
  cases present : d.sessions.get? id with
  | none =>
    rw [parts.absent present, List.filter_nil]
    cases found : d.sessions.get? n with
    | none => rfl
    | some s =>
      have other : n ≠ id := by
        rintro rfl
        rw [found] at present
        cases present
      dsimp only
      rw [(parts.others n other).1]
      rfl
  | some s' =>
    obtain ⟨told, own⟩ := parts.server s' present server
    rw [filter_names fun y mem => (own y mem).about]
    by_cases same : id = n
    · subst same
      rw [if_pos rfl, present]
      exact told
    · rw [if_neg fun e => same (Option.some.inj e)]
      cases d.sessions.get? n with
      | none => rfl
      | some s =>
        dsimp only
        rw [(parts.others n fun e => same e.symm).1]
        rfl

/-- The news of a removal are the last that a stroke posts. -/
theorem leaving_said {handle : ConnectionHandle} (inOrder : InOrder d) (h : d.apply x = .ok d')
    (removed : d.removed? x = some handle) : d.leaving handle <:+ d.said x := by
  have ordinary : x.ordinary = true := by
    cases x with
    | remove | drive => rfl
    | _ => cases removed
  obtain ⟨id, notices, d₁, parts, -⟩ := parts_apply ordinary inOrder.residents h
  have last : d.announced x = d.leaving handle := by
    rw [announced_ordinary ordinary]
    unfold departures
    rw [removed]
  rw [said_of_posted h (posted_parts ordinary parts), last]
  exact List.suffix_append ..

/-- On a server, what a stroke posts about a session that is there is what the session told in its steps,
and the news of its removal. -/
theorem names_said (inOrder : InOrder d) (server : d.role = .server) (h : d.apply x = .ok d')
    (unborn : ∀ s ∈ d.begun x, s.id ≠ n) :
    (d.said x).filter (names n) =
      match d.sessions.get? n with
      | some s => s.toldOf (s.rounds (d.life n x)) ++
          if d.removed? x = some s.connection then d.leaving s.connection else []
      | none => [] := by
  cases ordinary : x.ordinary with
  | true =>
    obtain ⟨id, notices, d₁, parts, -⟩ := parts_apply ordinary inOrder.residents h
    rw [said_of_posted h (posted_parts ordinary parts), announced_ordinary ordinary, List.filter_append,
      names_notices parts server, names_departures inOrder]
    cases d.sessions.get? n <;> rfl
  | false =>
    have idle := (idle_of_extraordinary ordinary (d := d) n).1
    have quiet : (d.said x).filter (names n) = [] := by
      rw [said_extraordinary ordinary h]
      cases x with
      | register now handle t =>
        have other : d.nextSession ≠ n := unborn _ (List.mem_singleton.2 rfl)
        show (d.serverNotices _).filter (names n) = []
        rw [filter_names (about_serverNotices fun v => rfl)]
        exact if_neg fun e => other (Option.some.inj e)
      | ended =>
        show (d.serverNotices _).filter (names n) = []
        rw [filter_names (about_serverNotices fun v => rfl)]
        exact if_neg nofun
      | shut | adjust | collect => rfl
      | _ => cases ordinary
    rw [quiet]
    cases d.sessions.get? n with
    | none => rfl
    | some s =>
      dsimp only
      rw [idle, (sessions_of_extraordinary ordinary h unborn).2, if_neg nofun]
      rfl

end Server

end QuicSessions.Dispatcher
