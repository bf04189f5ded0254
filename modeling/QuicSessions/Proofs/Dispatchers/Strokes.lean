import QuicSessions.Proofs.Dispatchers.Runs

/-!
# Moves stroke by stroke

A move of a dispatcher may concern many sessions: a timeout all that are due, a shutdown all there are. It
consists of strokes, each of which concerns one session at most: a session is registered, is handed a packet,
is asked for operations, is driven or is removed. The course of a move lists its strokes, and carrying them
out one after the other is the move. What is said about a single session is said stroke by stroke.
-/

set_option autoImplicit false

namespace QuicSessions.Dispatcher

variable {ε τ π : Type}

/-- One thing that a dispatcher does, to one session at most. -/
inductive Stroke (ε τ π : Type) where
  /-- The endpoint moves. -/
  | endpoint (e : ε)
  /-- Packets are handed to the socket. -/
  | answer (packets : List (Outgoing π))
  /-- A session is made for a new connection. -/
  | register (now : Instant) (handle : ConnectionHandle) (t : τ)
  | deliver (now : Instant) (id : SessionId) (packet : π)
  /-- A session is asked for operations, which are chosen by looking at it. -/
  | request (now : Instant) (id : SessionId) (ops : Audience → Session τ → List Session.Operation)
  | drive (now : Instant) (id : SessionId)
  /-- Every session is asked for its deadline. -/
  | poll
  | remove (handle : ConnectionHandle)
  /-- No more connections are taken. -/
  | shut
  /-- The server visitor is told of the end. -/
  | ended
  | adjust (c : Controls)
  | collect

variable [Transport τ] [Endpoint ε τ π]

/-- What a stroke makes of a dispatcher, if it is no mistake. -/
def apply (d : Dispatcher ε τ π) : Stroke ε τ π → Except Fault (Dispatcher ε τ π)
  | .endpoint e => .ok { d with endpoint := e }
  | .answer packets => .ok (d.send packets)
  | .register now handle t => (d.createSession now handle t).map Prod.snd
  | .deliver now id packet => .ok { d with sessions := d.sessions.update id fun s =>
      { s with transport := Endpoint.deliver (ε := ε) now packet s.transport } }
  | .request now id ops =>
    (d.onSession id fun a s => return ((), ← s.operate a now (ops a s))).map Prod.snd
  | .drive now id => d.drive now id
  | .poll => d.pollTimeout.map fun _ => d
  | .remove handle => .ok (d.connectionClosed handle)
  | .shut => .ok { d with shutDown := true }
  | .ended => .ok (d.tellServer .ended)
  | .adjust c => .ok (d.adjust c)
  | .collect => .ok { d with posted := [], sent := [] }

/-- Strokes one after the other; the first mistake ends it. -/
def perform (d : Dispatcher ε τ π) (strokes : List (Stroke ε τ π)) : Except Fault (Dispatcher ε τ π) :=
  strokes.foldlM apply d

/-! ## The course of a move -/

/-- A session is asked for operations and driven. -/
def Stroke.exchange (now : Instant) (ops : Audience → Session τ → List Session.Operation)
    (id : SessionId) : List (Stroke ε τ π) := [.request now id ops, .drive now id]

/-- A new connection is registered, and its session driven. -/
def Stroke.opening (now : Instant) (id : SessionId) (handle : ConnectionHandle) (t : τ) (e : ε) :
    List (Stroke ε τ π) := [.endpoint e, .register now handle t, .drive now id]

/-- The operations by which bytes are written to a stream by its integer. -/
def writing (stream : UInt32) (data : Bytes) (a : Audience) (s : Session τ) : List Session.Operation :=
  .getOrOpen (.ofHandle stream) ::
    match s.getOrOpen a (.ofHandle stream) with
    | .ok (some id, _) => [.write id data false]
    | _ => []

/-- The operation by which a session is closed when the dispatcher shuts down. -/
def farewellOp (role : Side) : Session.Operation := .close (farewell role).1 (farewell role).2

/-- The strokes that close every session for good. -/
def farewells (now : Instant) (d : Dispatcher ε τ π) : List (Stroke ε τ π) :=
  .shut :: d.sessionIds.flatMap (Stroke.exchange now fun _ _ => [farewellOp d.role])

/-- The strokes of a grant. -/
def granting (now : Instant) (source : SocketAddress) (packet : π) (d : Dispatcher ε τ π) :
    List (Stroke ε τ π) :=
  if d.shutDown || decide (d.maxSessions ≤ d.sessionCount) then
    [.endpoint (Endpoint.refuse source packet d.endpoint).2,
      .answer (Endpoint.refuse source packet d.endpoint).1]
  else
    match Endpoint.accept now source packet d.endpoint with
    | (.error answer, e) => [.endpoint e, .answer answer]
    | (.ok (handle, t), e) => Stroke.opening now d.nextSession handle t e

/-- The strokes of beginning a connection. -/
def beginning (now : Instant) (remote : SocketAddress) (name : String) (d : Dispatcher ε τ π) :
    List (Stroke ε τ π) :=
  match d.connecting with
  | none => []
  | some settings =>
    match Endpoint.connect now settings remote name d.endpoint with
    | .error _ => []
    | .ok (handle, t, e) => Stroke.opening now d.nextSession handle t e

/-- The strokes of an arrival. -/
def arriving (now : Instant) (source : SocketAddress) (packet : π) (d : Dispatcher ε τ π) :
    List (Stroke ε τ π) :=
  match Endpoint.arrival now source packet d.endpoint with
  | (.connection handle, e) =>
    match d.connections.get? handle with
    | none => [.endpoint e]
    | some id => [.endpoint e, .deliver now id packet, .drive now id]
  | (.request, e) => .endpoint e :: granting now source packet { d with endpoint := e }
  | (.answer packets, e) => [.endpoint e, .answer packets]
  | (.ignored, e) => [.endpoint e]

/-- The strokes of a shutdown. -/
def shutting (now : Instant) (d : Dispatcher ε τ π) : List (Stroke ε τ π) :=
  if d.shutDown then []
  else
    match d.perform (d.farewells now) with
    | .error _ => d.farewells now
    | .ok d' => d.farewells now ++ (d'.connections.keys.map .remove ++ [.ended])

/-- The strokes that a move consists of. -/
def course (d : Dispatcher ε τ π) : Move π → List (Stroke ε τ π)
  | .connect now remote name => d.beginning now remote name
  | .receive now source packet => d.arriving now source packet
  | .timeout now => .poll :: (d.due now).flatMap (Stroke.exchange now fun _ _ => [.timeout 0])
  | .drive now id => [.drive now id]
  | .driveAll now => d.sessionIds.map (.drive now)
  | .operate now id ops => Stroke.exchange now (fun _ _ => ops) id
  | .touch now id ops => [.request now id fun _ _ => ops]
  | .send now id stream data => Stroke.exchange now (writing stream data) id
  | .connectionClosed handle => [.remove handle]
  | .shutdown now => d.shutting now
  | .adjust c => [.adjust c]
  | .collect => [.collect]

/-! ## A move is its course -/

theorem perform_cons (d : Dispatcher ε τ π) (x : Stroke ε τ π) (strokes : List (Stroke ε τ π)) :
    d.perform (x :: strokes) = d.apply x >>= fun d => d.perform strokes := List.foldlM_cons

theorem perform_append (d : Dispatcher ε τ π) (before after : List (Stroke ε τ π)) :
    d.perform (before ++ after) = d.perform before >>= fun d => d.perform after := List.foldlM_append

theorem perform_one (d : Dispatcher ε τ π) (x : Stroke ε τ π) : d.perform [x] = d.apply x := by
  rw [perform_cons]
  exact bind_pure (d.apply x)

theorem perform_flatMap (f : SessionId → List (Stroke ε τ π)) (ids : List SessionId)
    (d : Dispatcher ε τ π) :
    d.perform (ids.flatMap f) = ids.foldlM (fun d id => d.perform (f id)) d := by
  induction ids generalizing d with
  | nil => rfl
  | cons id ids ih =>
    rw [List.flatMap_cons, perform_append, List.foldlM_cons]
    exact congrArg _ (funext ih)

omit [Transport τ] [Endpoint ε τ π] in
theorem onSession_of_absent {α : Type} {id : SessionId}
    {op : Audience → Session τ → Except Fault (α × Session τ)} {d : Dispatcher ε τ π}
    (absent : d.sessions.get? id = none) : d.onSession id op = .ok (none, d) := by
  unfold onSession
  rw [absent]

theorem drive_of_absent {now : Instant} {id : SessionId} {d : Dispatcher ε τ π}
    (absent : d.sessions.get? id = none) : d.drive now id = .ok d := by
  unfold drive
  rw [absent]

omit [Transport τ] [Endpoint ε τ π] in
/-- What an operation answers makes no difference to the dispatcher. -/
theorem onSession_snd {α β : Type} {id : SessionId}
    {op : Audience → Session τ → Except Fault (α × Session τ)}
    {op' : Audience → Session τ → Except Fault (β × Session τ)} (d : Dispatcher ε τ π)
    (same : ∀ a s, (op a s).map Prod.snd = (op' a s).map Prod.snd) :
    (d.onSession id op).map Prod.snd = (d.onSession id op').map Prod.snd := by
  unfold onSession
  cases d.sessions.get? id with
  | none => rfl
  | some s =>
    have same := same d.audience s
    dsimp only
    cases h : op d.audience s <;> cases h' : op' d.audience s <;> rw [h, h'] at same
    · cases same
      rfl
    · cases same
    · cases same
    · have same := Except.ok.inj same
      show Except.ok (d.putSession _) = Except.ok (d.putSession _)
      rw [same]

/-- An operation on a session that is then driven is an exchange. -/
theorem sessionOp_snd {α : Type} {now : Instant} {id : SessionId}
    {op : Audience → Session τ → Except Fault (α × Session τ)}
    {ops : Audience → Session τ → List Session.Operation} (d : Dispatcher ε τ π)
    (same : ∀ a s, (op a s).map Prod.snd = s.operate a now (ops a s)) :
    (d.sessionOp now id op).map Prod.snd = d.perform (Stroke.exchange now ops id) := by
  have request : d.apply (.request now id ops) = (d.onSession id op).map Prod.snd := by
    refine onSession_snd d fun a s => ?_
    rw [same]
    cases s.operate a now (ops a s) <;> rfl
  unfold Stroke.exchange
  rw [perform_cons, request]
  unfold sessionOp
  cases found : d.sessions.get? id with
  | none =>
    have driven : d.apply (.drive now id) = .ok d := drive_of_absent found
    rw [onSession_of_absent found]
    exact ((perform_one d _).trans driven).symm
  | some s =>
    unfold onSession
    rw [found]
    dsimp only
    cases op d.audience s with
    | error fault => rfl
    | ok result =>
      obtain ⟨r, s'⟩ := result
      show ((d.putSession s').drive now id >>= _).map Prod.snd = (d.putSession s').perform [.drive now id]
      rw [perform_one]
      show _ = (d.putSession s').drive now id
      cases (d.putSession s').drive now id <;> rfl

/-- An operation on a session that is driven in any case is an exchange, too. -/
theorem onSession_drive {α : Type} {now : Instant} {id : SessionId}
    {op : Audience → Session τ → Except Fault (α × Session τ)}
    {ops : Audience → Session τ → List Session.Operation} (d : Dispatcher ε τ π)
    (same : ∀ a s, (op a s).map Prod.snd = s.operate a now (ops a s)) :
    (d.onSession id op >>= fun r => r.2.drive now id) = d.perform (Stroke.exchange now ops id) := by
  have request : d.apply (.request now id ops) = (d.onSession id op).map Prod.snd := by
    refine onSession_snd d fun a s => ?_
    rw [same]
    cases s.operate a now (ops a s) <;> rfl
  unfold Stroke.exchange
  rw [perform_cons, request]
  cases d.onSession id op with
  | error fault => rfl
  | ok result =>
    show result.2.drive now id = result.2.perform [.drive now id]
    rw [perform_one]
    rfl

theorem sessionTimeout_eq (now : Instant) (d : Dispatcher ε τ π) (id : SessionId) :
    d.sessionTimeout now id = d.perform (Stroke.exchange now (fun _ _ => [.timeout 0]) id) := by
  refine onSession_drive d fun a s => ?_
  show (s.handleTimeout a now >>= _).map _ = (s.handleTimeout a now >>= _) >>= _
  cases s.handleTimeout a now <;> rfl

theorem shutSession_eq (now : Instant) (d : Dispatcher ε τ π) (id : SessionId) :
    d.shutSession now id = d.perform (Stroke.exchange now (fun _ _ => [farewellOp d.role]) id) :=
  onSession_drive d fun _ _ => rfl

/-- A write by integer is an exchange: the stream is looked up or opened, and then written. -/
theorem sendTo_eq (now : Instant) (id : SessionId) (stream : UInt32) (data : Bytes)
    (d : Dispatcher ε τ π) :
    (return (← d.sendTo now id stream data).2 : Except Fault (Dispatcher ε τ π)) =
      d.perform (Stroke.exchange now (writing stream data) id) := by
  unfold sendTo
  rw [← sessionOp_snd d]
  · cases d.sessionOp now id _ <;> rfl
  · intro a s
    show Except.map Prod.snd (s.getOrOpen a (.ofHandle stream) >>= _) =
      (Session.Operation.getOrOpen (.ofHandle stream)).run a now s >>= _
    cases opened : s.getOrOpen a (.ofHandle stream) with
    | error fault =>
      show _ = (s.getOrOpen a (.ofHandle stream) >>= _) >>= _
      rw [opened]
      rfl
    | ok result =>
      obtain ⟨found, s'⟩ := result
      show _ = (s.getOrOpen a (.ofHandle stream) >>= _) >>= _
      rw [opened]
      cases found <;> rfl

theorem createSession_drive (now : Instant) (handle : ConnectionHandle) (t : τ) (d : Dispatcher ε τ π)
    (e : ε) :
    ({ d with endpoint := e }.createSession now handle t >>= fun r => r.2.drive now r.1) =
      d.perform (Stroke.opening now d.nextSession handle t e) := by
  unfold Stroke.opening
  rw [perform_cons]
  show _ = ({ d with endpoint := e } : Dispatcher ε τ π).perform _
  rw [perform_cons]
  show _ = (({ d with endpoint := e } : Dispatcher ε τ π).createSession now handle t).map Prod.snd >>= _
  cases registered : ({ d with endpoint := e } : Dispatcher ε τ π).createSession now handle t with
  | error fault => rfl
  | ok result =>
    obtain ⟨id, d'⟩ := result
    have number : id = d.nextSession := (createSession_cases registered).1
    show d'.drive now id = d'.perform [.drive now d.nextSession]
    rw [perform_one, number]
    rfl

theorem accept_eq (now : Instant) (source : SocketAddress) (packet : π) (d : Dispatcher ε τ π) :
    d.accept now source packet = d.perform (d.granting now source packet) := by
  unfold accept granting
  split
  · rfl
  · rcases Endpoint.accept now source packet d.endpoint with ⟨_ | ⟨handle, t⟩, e⟩
    · rfl
    · exact createSession_drive now handle t d e

theorem connect_eq (now : Instant) (remote : SocketAddress) (name : String) (d : Dispatcher ε τ π) :
    (d.connect now remote name).map Prod.snd = d.perform (d.beginning now remote name) := by
  unfold connect
  split
  · rename_i missing
    unfold beginning
    rw [missing]
    rfl
  · rename_i settings present
    have plan : d.beginning now remote name =
        match Endpoint.connect now settings remote name d.endpoint with
        | .error _ => []
        | .ok (handle, t, e) => Stroke.opening now d.nextSession handle t e := by
      unfold beginning
      rw [present]
    rw [plan]
    rcases Endpoint.connect now settings remote name d.endpoint with _ | ⟨handle, t, e⟩
    · rfl
    · dsimp only
      rw [← createSession_drive]
      cases ({ d with endpoint := e } : Dispatcher ε τ π).createSession now handle t with
      | error fault => rfl
      | ok result =>
        show (result.2.drive now result.1 >>= _).map _ = result.2.drive now result.1
        cases result.2.drive now result.1 <;> rfl

theorem receive_eq (now : Instant) (source : SocketAddress) (packet : π) (d : Dispatcher ε τ π) :
    d.receive now source packet = d.perform (d.arriving now source packet) := by
  unfold receive arriving
  rcases Endpoint.arrival now source packet d.endpoint with ⟨handle | _ | packets | _, e⟩
  · dsimp only
    cases d.connections.get? handle with
    | none => rfl
    | some id =>
      dsimp only
      rw [perform_cons]
      show _ = ({ d with endpoint := e } : Dispatcher ε τ π).perform _
      rw [perform_cons]
      exact (perform_one _ (.drive now id)).symm
  · exact accept_eq now source packet { d with endpoint := e }
  · rfl
  · rfl

theorem ok_of_map {α β : Type} {x : Except Fault α} {f : α → β} {b : β} (h : x.map f = .ok b) :
    ∃ a, x = .ok a ∧ f a = b := by
  cases x with
  | error fault => cases h
  | ok a => exact ⟨a, rfl, Except.ok.inj h⟩

theorem eq_of_poll {d d' : Dispatcher ε τ π} (h : d.apply .poll = .ok d') : d' = d := by
  obtain ⟨deadline, -, same⟩ := ok_of_map h
  exact same.symm

/-! ## What strokes leave alone -/

/-- Nothing changed but the endpoint, the tables and what is handed on. -/
def Works (d d' : Dispatcher ε τ π) : Prop :=
  d' = { d with
    endpoint := d'.endpoint
    sessions := d'.sessions
    connections := d'.connections
    sent := d'.sent
    posted := d'.posted }

namespace Works

variable {d d' d'' : Dispatcher ε τ π}

omit [Transport τ] [Endpoint ε τ π]

theorem refl (d : Dispatcher ε τ π) : Works d d := rfl

theorem trans (h : Works d d') (h' : Works d' d'') : Works d d'' := by
  unfold Works at h h' ⊢
  rw [h] at h'
  exact h'

theorem tellServer (news : ServerNews) (d : Dispatcher ε τ π) : Works d (d.tellServer news) := by
  rw [tellServer_eq]
  rfl

theorem tellClient (news : ClientNews) (d : Dispatcher ε τ π) : Works d (d.tellClient news) := by
  rw [tellClient_eq]
  rfl

theorem send (packets : List (Outgoing π)) (d : Dispatcher ε τ π) : Works d (d.send packets) := by
  rw [send_eq]
  rfl

theorem putSession (s : Session τ) (d : Dispatcher ε τ π) : Works d (d.putSession s) := rfl

theorem removed (handle : ConnectionHandle) (d : Dispatcher ε τ π) :
    Works d (d.connectionClosed handle) := by
  cases registered : d.connections.get? handle with
  | none =>
    rw [connectionClosed_of_unregistered registered]
    exact .refl d
  | some id =>
    rw [connectionClosed_eq registered]
    rfl

theorem onSession {α : Type} {id : SessionId}
    {op : Audience → Session τ → Except Fault (α × Session τ)} {r : Option α}
    (h : d.onSession id op = .ok (r, d')) : Works d d' := by
  unfold Dispatcher.onSession at h
  split at h
  · cases h
    exact .refl d
  · obtain ⟨_, -, h⟩ := ok_of_bind h
    cases h
    exact .putSession _ d

end Works

omit [Endpoint ε τ π] in
theorem works_react {id : SessionId} {signal : Signal} {d d' : Dispatcher ε τ π}
    (h : d.react id signal = .ok d') : Works d d' := by
  cases signal with
  | connected =>
    have opens {told : Dispatcher ε τ π} (first : Works d told)
        (rest : (if told.openOnConnect then
            (told.onSession id fun a s => s.openBidirectional a) >>= fun opened => .ok opened.2
          else .ok told) = .ok d') : Works d d' := by
      split at rest
      · obtain ⟨⟨r, d''⟩, opened, rest⟩ := ok_of_bind rest
        cases rest
        exact first.trans (.onSession opened)
      · exact Except.ok.inj rest ▸ first
    unfold react at h
    by_cases client : d.role.isClient = true
    · rw [if_pos client] at h
      cases handle : d.sessionHandle id with
      | none =>
        rw [handle] at h
        exact opens (.refl d) h
      | some handle =>
        rw [handle] at h
        exact opens (.tellClient _ d) h
    · rw [if_neg client] at h
      exact Except.ok.inj h ▸ .refl d
  | closed reason during =>
    unfold react at h
    rw [← Except.ok.inj h]
    split
    · exact .tellClient _ d
    · exact .refl d

theorem works_drive {now : Instant} {id : SessionId} {d d' : Dispatcher ε τ π}
    (h : d.drive now id = .ok d') : Works d d' := by
  unfold drive at h
  split at h
  · cases h
    exact .refl d
  · obtain ⟨s₁, -, h⟩ := ok_of_bind h
    obtain ⟨s₂, -, h⟩ := ok_of_bind h
    obtain ⟨d₁, told, h⟩ := ok_of_bind h
    have settled :
        Works d { d with endpoint := (Endpoint.settle s₁.connection s₁.transport d.endpoint).2 } := rfl
    have signalled := foldlM_ok Works.refl Works.trans (fun reacted => works_react reacted) told
    have driven := ((settled.trans (.send _ _)).trans (.putSession _ _)).trans signalled
    rw [← Except.ok.inj h]
    split
    · exact driven.trans (.removed _ _)
    · exact driven

/-- Whether a stroke is work on what is there. -/
def Stroke.works : Stroke ε τ π → Bool
  | .register _ _ _ => false
  | .shut => false
  | .adjust _ => false
  | _ => true

theorem works_apply {x : Stroke ε τ π} {d d' : Dispatcher ε τ π} (h : d.apply x = .ok d')
    (works : x.works = true) : Works d d' := by
  cases x with
  | register => cases works
  | shut => cases works
  | adjust => cases works
  | endpoint e => cases h; rfl
  | answer packets => cases h; exact .send packets d
  | deliver now id packet => cases h; rfl
  | request now id ops =>
    obtain ⟨⟨r, d₁⟩, done, rfl⟩ := ok_of_map h
    exact .onSession done
  | drive now id => exact works_drive h
  | poll =>
    rw [eq_of_poll h]
    exact .refl d
  | remove handle => cases h; exact .removed handle d
  | ended => cases h; exact .tellServer _ d
  | collect => cases h; rfl

/-- What the owner set is as it was. -/
structure Fixed (d d' : Dispatcher ε τ π) : Prop where
  role : d'.role = d.role
  connecting : d'.connecting = d.connecting
  options : d'.options = d.options
  audience : d'.audience = d.audience
  serverVisitor : d'.serverVisitor = d.serverVisitor
  clientVisitor : d'.clientVisitor = d.clientVisitor
  openOnConnect : d'.openOnConnect = d.openOnConnect

omit [Transport τ] [Endpoint ε τ π] in
theorem Works.fixed {d d' : Dispatcher ε τ π} (h : Works d d') : Fixed d d' := by
  rw [h]
  exact ⟨rfl, rfl, rfl, rfl, rfl, rfl, rfl⟩

namespace Fixed

variable {d d' d'' : Dispatcher ε τ π}

omit [Transport τ] [Endpoint ε τ π]

theorem refl (d : Dispatcher ε τ π) : Fixed d d := (Works.refl d).fixed

theorem trans (h : Fixed d d') (h' : Fixed d' d'') : Fixed d d'' where
  role := h'.role.trans h.role
  connecting := h'.connecting.trans h.connecting
  options := h'.options.trans h.options
  audience := h'.audience.trans h.audience
  serverVisitor := h'.serverVisitor.trans h.serverVisitor
  clientVisitor := h'.clientVisitor.trans h.clientVisitor
  openOnConnect := h'.openOnConnect.trans h.openOnConnect

theorem tellClient (news : ClientNews) (d : Dispatcher ε τ π) : Fixed d (d.tellClient news) :=
  (Works.tellClient news d).fixed

theorem send (packets : List (Outgoing π)) (d : Dispatcher ε τ π) : Fixed d (d.send packets) :=
  (Works.send packets d).fixed

theorem putSession (s : Session τ) (d : Dispatcher ε τ π) : Fixed d (d.putSession s) :=
  (Works.putSession s d).fixed

end Fixed

/-- Whether the owner sets something. -/
def Stroke.adjusts : Stroke ε τ π → Bool
  | .adjust _ => true
  | _ => false

theorem fixed_apply {x : Stroke ε τ π} {d d' : Dispatcher ε τ π} (h : d.apply x = .ok d')
    (other : x.adjusts = false) : Fixed d d' := by
  cases x with
  | adjust c => cases other
  | register now handle t =>
    obtain ⟨⟨id, d₁⟩, registered, rfl⟩ := ok_of_map h
    obtain ⟨-, e⟩ := createSession_eq registered
    rw [e]
    exact ⟨rfl, rfl, rfl, rfl, rfl, rfl, rfl⟩
  | shut => cases h; exact ⟨rfl, rfl, rfl, rfl, rfl, rfl, rfl⟩
  | _ => exact (works_apply h rfl).fixed

/-- What the owner sets keeps, no stroke undoes. -/
theorem kept_of_fixed {I : Dispatcher ε τ π → Prop} {Q : Controls → Prop}
    (fixed : ∀ {d d' : Dispatcher ε τ π}, Fixed d d' → I d → I d')
    (adjusted : ∀ {d : Dispatcher ε τ π} {c : Controls}, I d → Q c → I (d.adjust c))
    {x : Stroke ε τ π} {d d' : Dispatcher ε τ π} (holds : I d) (sets : ∀ c, x = .adjust c → Q c)
    (h : d.apply x = .ok d') : I d' := by
  cases adjusts : x.adjusts with
  | false => exact fixed (fixed_apply h adjusts) holds
  | true =>
    cases x with
    | adjust c =>
      cases h
      exact adjusted holds (sets c rfl)
    | _ => cases adjusts

/-! ## Shutting down -/

theorem exchange_cases {now : Instant} {ops : Audience → Session τ → List Session.Operation}
    {id : SessionId} {d d' : Dispatcher ε τ π} (h : d.perform (Stroke.exchange now ops id) = .ok d') :
    ∃ d₁, d.apply (.request now id ops) = .ok d₁ ∧ d₁.apply (.drive now id) = .ok d' := by
  unfold Stroke.exchange at h
  rw [perform_cons] at h
  obtain ⟨d₁, asked, driven⟩ := ok_of_bind h
  rw [perform_one] at driven
  exact ⟨d₁, asked, driven⟩

theorem foldlM_shutSession (now : Instant) (role : Side) (ids : List SessionId) (d : Dispatcher ε τ π)
    (same : d.role = role) :
    ids.foldlM (shutSession now) d =
      d.perform (ids.flatMap (Stroke.exchange now fun _ _ => [farewellOp role])) := by
  induction ids generalizing d with
  | nil => rfl
  | cons id ids ih =>
    rw [List.foldlM_cons, List.flatMap_cons, perform_append, shutSession_eq, same]
    generalize closed : d.perform (Stroke.exchange now (fun _ _ => [farewellOp role]) id) = result
    cases result with
    | error fault => rfl
    | ok d' =>
      -- the role is the same all along
      obtain ⟨d₁, asked, driven⟩ := exchange_cases closed
      have fixed : Fixed d d' := (fixed_apply asked rfl).trans (fixed_apply driven rfl)
      exact ih d' (fixed.role.trans same)

theorem perform_removals (handles : List ConnectionHandle) (d : Dispatcher ε τ π) :
    d.perform (handles.map .remove) = .ok (handles.foldl (fun d handle => d.connectionClosed handle) d) := by
  induction handles generalizing d with
  | nil => rfl
  | cons handle handles ih => exact ih (d.connectionClosed handle)

theorem shutdown_eq (now : Instant) (d : Dispatcher ε τ π) :
    d.shutdown now = d.perform (d.shutting now) := by
  have closing : d.perform (d.farewells now) =
      d.sessionIds.foldlM (shutSession now) { d with shutDown := true } := by
    rw [foldlM_shutSession now d.role d.sessionIds { d with shutDown := true } rfl]
    rfl
  unfold shutdown shutting
  split
  · rfl
  · rw [← closing]
    cases closed : d.perform (d.farewells now) with
    | error fault => exact closed.symm
    | ok d' =>
      have removed := perform_removals d'.connections.keys d'
      show Except.ok (Dispatcher.tellServer .ended _) = d.perform (_ ++ (_ ++ _))
      rw [perform_append, closed]
      show _ = d'.perform (_ ++ _)
      rw [perform_append, removed]
      exact (perform_one _ .ended).symm

/-! ## Every move -/

/-- A move is its course, carried out stroke by stroke. -/
theorem attempt_eq (d : Dispatcher ε τ π) (x : Move π) : d.attempt x = d.perform (d.course x) := by
  cases x with
  | connect now remote name =>
    show _ = d.perform (d.beginning now remote name)
    rw [← connect_eq]
    show d.connect now remote name >>= _ = _
    cases d.connect now remote name <;> rfl
  | receive now source packet => exact receive_eq now source packet d
  | timeout now =>
    show (d.pollTimeout >>= fun _ => (d.due now).foldlM (sessionTimeout now) d) =
      d.perform (.poll :: (d.due now).flatMap _)
    have told : d.perform ((d.due now).flatMap (Stroke.exchange now fun _ _ => [.timeout 0])) =
        (d.due now).foldlM (sessionTimeout now) d := by
      rw [perform_flatMap]
      exact congrArg (fun f => (d.due now).foldlM f d)
        (funext fun d => funext fun id => (sessionTimeout_eq now d id).symm)
    rw [perform_cons]
    show _ = d.pollTimeout.map _ >>= _
    cases d.pollTimeout with
    | error fault => rfl
    | ok deadline => exact told.symm
  | drive now id => exact (perform_one d (.drive now id)).symm
  | driveAll now =>
    show d.sessionIds.foldlM _ d = (d.sessionIds.map (Stroke.drive now)).foldlM apply d
    rw [List.foldlM_map]
    rfl
  | operate now id ops =>
    let op (a : Audience) (s : Session τ) : Except Fault (Unit × Session τ) :=
      return ((), ← s.operate a now ops)
    have same : (d.sessionOp now id op).map Prod.snd = d.perform (Stroke.exchange now (fun _ _ => ops) id) := by
      refine sessionOp_snd d fun a s => ?_
      show (s.operate a now ops >>= _).map _ = _
      cases s.operate a now ops <;> rfl
    show _ = d.perform (Stroke.exchange now (fun _ _ => ops) id)
    rw [← same]
    show d.sessionOp now id op >>= _ = _
    cases d.sessionOp now id op <;> rfl
  | touch now id ops =>
    show d.onSession id _ >>= _ = d.perform [.request now id fun _ _ => ops]
    rw [perform_one]
    show _ = (d.onSession id _).map _
    cases d.onSession id _ <;> rfl
  | send now id stream data => exact sendTo_eq now id stream data d
  | connectionClosed handle => rfl
  | shutdown now => exact shutdown_eq now d
  | adjust c => rfl
  | collect => rfl

/-! ## The strokes of a run -/

/-- The strokes that were made in a move: a mistake leaves the dispatcher as it was. -/
def made (d : Dispatcher ε τ π) (x : Move π) : List (Stroke ε τ π) :=
  match d.attempt x with
  | .ok _ => d.course x
  | .error _ => []

theorem perform_made (d : Dispatcher ε τ π) (x : Move π) : d.perform (d.made x) = .ok (d.step x) := by
  unfold made step
  cases done : d.attempt x with
  | error fault => rfl
  | ok d' => exact (attempt_eq d x).symm.trans done

theorem made_of_attempt {x : Move π} {d d' : Dispatcher ε τ π} (h : d.attempt x = .ok d') :
    d.made x = d.course x := by
  unfold made
  rw [h]

theorem mem_made {x : Move π} {y : Stroke ε τ π} {d : Dispatcher ε τ π} (mem : y ∈ d.made x) :
    y ∈ d.course x := by
  unfold made at mem
  split at mem
  · exact mem
  · cases mem

/-- The strokes of the moves that were no mistakes, one after the other. -/
def strokes (d : Dispatcher ε τ π) : List (Move π) → List (Stroke ε τ π)
  | [] => []
  | x :: moves => d.made x ++ (d.step x).strokes moves

/-- The strokes of a run lead where the run leads. -/
theorem perform_strokes (d : Dispatcher ε τ π) (moves : List (Move π)) :
    d.perform (d.strokes moves) = .ok (d.run moves) := by
  induction moves generalizing d with
  | nil => rfl
  | cons x moves ih =>
    unfold strokes
    rw [perform_append, perform_made]
    exact ih (d.step x)

theorem strokes_append (d : Dispatcher ε τ π) (before after : List (Move π)) :
    d.strokes (before ++ after) = d.strokes before ++ (d.run before).strokes after := by
  induction before generalizing d with
  | nil => rfl
  | cons x before ih =>
    show d.made x ++ (d.step x).strokes (before ++ after) = (d.made x ++ _) ++ _
    rw [ih, List.append_assoc]
    rfl

/-- The dispatcher after a stroke. -/
def stroke (d : Dispatcher ε τ π) (x : Stroke ε τ π) : Dispatcher ε τ π :=
  match d.apply x with
  | .ok d' => d'
  | .error _ => d

theorem stroke_of_apply {x : Stroke ε τ π} {d d' : Dispatcher ε τ π} (h : d.apply x = .ok d') :
    d.stroke x = d' := by
  unfold stroke
  rw [h]

/-- The first stroke of a course, and the rest. -/
theorem perform_cons_cases {x : Stroke ε τ π} {strokes : List (Stroke ε τ π)} {d d' : Dispatcher ε τ π}
    (h : d.perform (x :: strokes) = .ok d') :
    d.apply x = .ok (d.stroke x) ∧ (d.stroke x).perform strokes = .ok d' := by
  rw [perform_cons] at h
  obtain ⟨d₁, first, rest⟩ := ok_of_bind h
  rw [stroke_of_apply first]
  exact ⟨first, rest⟩

/-- What strokes contribute, one after the other. -/
def gather {β : Type} (f : Dispatcher ε τ π → Stroke ε τ π → List β) :
    Dispatcher ε τ π → List (Stroke ε τ π) → List β
  | _, [] => []
  | d, x :: strokes => f d x ++ gather f (d.stroke x) strokes

theorem gather_append {β : Type} (f : Dispatcher ε τ π → Stroke ε τ π → List β) {d d' : Dispatcher ε τ π}
    {before : List (Stroke ε τ π)} (h : d.perform before = .ok d') (after : List (Stroke ε τ π)) :
    d.gather f (before ++ after) = d.gather f before ++ d'.gather f after := by
  induction before generalizing d with
  | nil =>
    cases h
    rfl
  | cons x before ih =>
    obtain ⟨-, rest⟩ := perform_cons_cases h
    show f d x ++ gather f (d.stroke x) (before ++ after) = (f d x ++ gather f (d.stroke x) before) ++ _
    rw [ih rest, List.append_assoc]

/-- What respects concatenation may be applied stroke by stroke. -/
theorem map_gather {β γ : Type} {g : List β → List γ} (empty : g [] = [])
    (append : ∀ xs ys, g (xs ++ ys) = g xs ++ g ys) (f : Dispatcher ε τ π → Stroke ε τ π → List β)
    (d : Dispatcher ε τ π) (strokes : List (Stroke ε τ π)) :
    g (d.gather f strokes) = d.gather (fun d y => g (f d y)) strokes := by
  induction strokes generalizing d with
  | nil => exact empty
  | cons x strokes ih =>
    show g (f d x ++ (d.stroke x).gather f strokes) = g (f d x) ++ _
    rw [append, ih]

/-- Something holds at every stroke. -/
def Throughout (P : Dispatcher ε τ π → Stroke ε τ π → Prop) :
    Dispatcher ε τ π → List (Stroke ε τ π) → Prop
  | _, [] => True
  | d, x :: strokes => P d x ∧ Throughout P (d.stroke x) strokes

instance Throughout.decidable {P : Dispatcher ε τ π → Stroke ε τ π → Prop}
    [∀ d x, Decidable (P d x)] (d : Dispatcher ε τ π) (strokes : List (Stroke ε τ π)) :
    Decidable (d.Throughout P strokes) :=
  match strokes with
  | [] => isTrue trivial
  | x :: strokes =>
    have := Throughout.decidable (P := P) (d.stroke x) strokes
    inferInstanceAs (Decidable (_ ∧ _))

theorem throughout_append {P : Dispatcher ε τ π → Stroke ε τ π → Prop} {d d' : Dispatcher ε τ π}
    {before : List (Stroke ε τ π)} (h : d.perform before = .ok d') (after : List (Stroke ε τ π)) :
    d.Throughout P (before ++ after) ↔ d.Throughout P before ∧ d'.Throughout P after := by
  induction before generalizing d with
  | nil =>
    cases h
    exact ⟨fun h => ⟨trivial, h⟩, And.right⟩
  | cons x before ih =>
    obtain ⟨-, rest⟩ := perform_cons_cases h
    show P d x ∧ Throughout P (d.stroke x) (before ++ after) ↔
      (P d x ∧ Throughout P (d.stroke x) before) ∧ _
    rw [ih rest, and_assoc]

theorem throughout_mono {P Q : Dispatcher ε τ π → Stroke ε τ π → Prop} (weaker : ∀ d x, P d x → Q d x)
    {d : Dispatcher ε τ π} {strokes : List (Stroke ε τ π)} (h : d.Throughout P strokes) :
    d.Throughout Q strokes := by
  induction strokes generalizing d with
  | nil => exact trivial
  | cons x strokes ih => exact ⟨weaker d x h.1, ih h.2⟩

/-- What strokes of a kind keep holds throughout, if all are of the kind. -/
theorem throughout_of_kept {I : Dispatcher ε τ π → Prop} {Q : Stroke ε τ π → Prop}
    (keeps : ∀ {d d' : Dispatcher ε τ π} {x : Stroke ε τ π}, I d → Q x → d.apply x = .ok d' → I d')
    {d d' : Dispatcher ε τ π} {strokes : List (Stroke ε τ π)} (first : I d) (all : ∀ x ∈ strokes, Q x)
    (h : d.perform strokes = .ok d') : d.Throughout (fun d x => I d ∧ Q x) strokes ∧ I d' := by
  induction strokes generalizing d with
  | nil =>
    cases h
    exact ⟨trivial, first⟩
  | cons x strokes ih =>
    obtain ⟨applied, rest⟩ := perform_cons_cases h
    have here := all x (List.mem_cons_self ..)
    obtain ⟨always, last⟩ := ih (keeps first here applied) (fun y mem => all y (List.mem_cons_of_mem x mem)) rest
    exact ⟨⟨⟨first, here⟩, always⟩, last⟩

end QuicSessions.Dispatcher
