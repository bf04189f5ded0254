import QuicSessions.Proofs.Dispatchers.Roster

/-!
# Runs of a dispatcher

A dispatcher lives through connections that are begun, packets that arrive, timeouts, operations on
its sessions, news of closed connections and its shutdown, in any order. A mistake leaves it as it
was. As long as fewer connections are made than there are numbers, and no handle is given out while it
is in use, every registration has a connection and a number of its own.
-/

set_option autoImplicit false

namespace QuicSessions.Dispatcher

open Session (Becomes)

variable {ε τ π : Type}

/-! ## Moves -/

/-- What the owner of a dispatcher may set at any time. -/
structure Controls where
  connecting : Option Settings
  audience : Audience
  serverVisitor : Option ServerVisitor
  clientVisitor : Option ClientVisitor
  openOnConnect : Bool
  maxSessions : Nat
  maxReads : Nat
  writerBroken : Bool

def adjust (c : Controls) (d : Dispatcher ε τ π) : Dispatcher ε τ π :=
  { d with
    connecting := c.connecting
    audience := c.audience
    serverVisitor := c.serverVisitor
    clientVisitor := c.clientVisitor
    openOnConnect := c.openOnConnect
    maxSessions := c.maxSessions
    maxReads := c.maxReads
    writerBroken := c.writerBroken }

/-- Something that happens to a dispatcher. -/
inductive Move (π : Type) where
  | connect (now : Instant) (remote : SocketAddress) (name : String)
  | receive (now : Instant) (source : SocketAddress) (packet : π)
  | timeout (now : Instant)
  | drive (now : Instant) (id : SessionId)
  | driveAll (now : Instant)
  /-- Operations on a session, which is driven after them. -/
  | operate (now : Instant) (id : SessionId) (ops : List Session.Operation)
  /-- Operations on a session that is left to be driven later. -/
  | touch (now : Instant) (id : SessionId) (ops : List Session.Operation)
  | send (now : Instant) (id : SessionId) (stream : UInt32) (data : Bytes)
  | connectionClosed (handle : ConnectionHandle)
  | shutdown (now : Instant)
  | adjust (c : Controls)
  /-- The owner takes the notices and the packets. -/
  | collect

variable [Transport τ] [Endpoint ε τ π]

/-- What a move makes of a dispatcher, if it is no mistake. -/
def attempt (d : Dispatcher ε τ π) : Move π → Except Fault (Dispatcher ε τ π)
  | .connect now remote name => return (← d.connect now remote name).2
  | .receive now source packet => d.receive now source packet
  | .timeout now => d.timeout now
  | .drive now id => d.drive now id
  | .driveAll now => d.driveAll now
  | .operate now id ops =>
    return (← d.sessionOp now id fun a s => return ((), ← s.operate a now ops)).2
  | .touch now id ops => return (← d.onSession id fun a s => return ((), ← s.operate a now ops)).2
  | .send now id stream data => return (← d.sendTo now id stream data).2
  | .connectionClosed handle => .ok (d.connectionClosed handle)
  | .shutdown now => d.shutdown now
  | .adjust c => .ok (d.adjust c)
  | .collect => .ok { d with posted := [], sent := [] }

/-- The dispatcher after a move. -/
def step (d : Dispatcher ε τ π) (x : Move π) : Dispatcher ε τ π :=
  match d.attempt x with
  | .ok d' => d'
  | .error _ => d

def run (d : Dispatcher ε τ π) (moves : List (Move π)) : Dispatcher ε τ π := moves.foldl step d

theorem run_append (d : Dispatcher ε τ π) (before after : List (Move π)) :
    d.run (before ++ after) = (d.run before).run after := List.foldl_append

/-! ## Registrations in a run -/

/-- Fewer connections were made than there are numbers, and no handle was given out while in use. -/
structure Fresh (d : Dispatcher (Tally (Roster ε)) τ π) : Prop where
  few : d.endpoint.made < UInt32.size
  distinct : d.endpoint.inner.clashes = []

/-- What a run brings. -/
structure Advances (d d' : Dispatcher (Tally (Roster ε)) τ π) : Prop where
  grows : Grows d d'
  fresh : Fresh d' → Fresh d
  changes : Fresh d' → Numbered d → Guarded d → Changes d d' ∧ Guarded d'
  /-- A session is one that was there, or it has a number given out since. -/
  stems : Counts d → ∀ id s', d'.sessions.get? id = some s' →
    (∃ s, d.sessions.get? id = some s ∧ Becomes s s') ∨
      ∃ m, d.endpoint.made ≤ m ∧ m < d'.endpoint.made ∧ id = .nth m

namespace Advances

variable {d d' d'' : Dispatcher (Tally (Roster ε)) τ π}

omit [Endpoint ε τ π] in
theorem of_minds (minds : Minds d d') (keeps : Keeps d d') : Advances d d' where
  grows := keeps.grows
  fresh fresh := ⟨keeps.made ▸ fresh.few, minds.clashes ▸ fresh.distinct⟩
  changes _ _ guarded := ⟨minds.tends.changes, minds.guarded guarded⟩
  stems _ _ _ found := .inl (minds.tends.becomes found)

omit [Endpoint ε τ π] in
theorem refl (d : Dispatcher (Tally (Roster ε)) τ π) : Advances d d := of_minds (.refl d) (.refl d)

omit [Endpoint ε τ π] in
theorem trans (h : Advances d d') (h' : Advances d' d'') : Advances d d'' where
  grows := h.grows.trans h'.grows
  fresh fresh := h.fresh (h'.fresh fresh)
  changes fresh numbered guarded := by
    obtain ⟨first, guarded⟩ := h.changes (h'.fresh fresh) numbered guarded
    obtain ⟨second, guarded⟩ := h'.changes fresh (numbered.grows h.grows) guarded
    exact ⟨first.trans second, guarded⟩
  stems counts id s'' found := by
    have le := h.grows.made
    have le' := h'.grows.made
    obtain ⟨s', found, later⟩ | ⟨m, low, high, e⟩ := h'.stems (h.grows.counts counts) id s'' found
    · obtain ⟨s, found, earlier⟩ | ⟨m, low, high, e⟩ := h.stems counts id s' found
      · exact .inl ⟨s, found, earlier.trans later⟩
      · exact .inr ⟨m, low, by omega, e⟩
    · exact .inr ⟨m, by omega, high, e⟩

omit [Endpoint ε τ π] in
/-- A session that is there all the time is the same session. -/
theorem becomes (h : Advances d d') (fresh : Fresh d') (numbered : Numbered d) {id : SessionId}
    {s s' : Session τ} (found : d.sessions.get? id = some s) (found' : d'.sessions.get? id = some s') :
    Becomes s s' := by
  obtain ⟨s₀, found₀, becomes⟩ | ⟨m, low, high, rfl⟩ := h.stems numbered.counts id s' found'
  · rw [found] at found₀
    exact Option.some.inj found₀ ▸ becomes
  · -- the number would have come back before its turn
    obtain ⟨n, given, same⟩ := numbered.keys _ (Table.mem_keys_iff.2 ⟨s, found⟩)
    have round := SessionId.round_of_nth_eq (m := n) (n := m) (by omega) same.symm
    have few := fresh.few
    omega

end Advances

/-- A session is registered for a connection that was just made, and driven. -/
theorem advances_createSession (final : Endpoint.OverForGood ε (τ := τ) (π := π)) {now : Instant}
    {handle : ConnectionHandle} {t : τ} {id : SessionId} {endpoint : Tally (Roster ε)}
    {d d₁ d' : Dispatcher (Tally (Roster ε)) τ π} (filed : Filed d)
    (made : endpoint.made = d.endpoint.made + 1)
    (gave : ∃ inner, endpoint.inner = d.endpoint.inner.gave handle inner)
    (registered : { d with endpoint := endpoint }.createSession now handle t = .ok (id, d₁))
    (driven : d₁.drive now id = .ok d') : Filed d' ∧ Advances d d' := by
  obtain ⟨inner, gave⟩ := gave
  obtain ⟨number, e⟩ := createSession_eq registered
  have connections : d₁.connections = d.connections.insert handle id := by rw [e]
  have sessions : d₁.sessions = d.sessions.insert id (.begun id handle t d.options now) := by rw [e]
  have same : d₁.endpoint = endpoint := by rw [e]
  have moved : Upkeep d { d with endpoint := endpoint } := .of_eq rfl rfl
  have filed₁ : Filed d₁ := (moved.filed filed).added registered
  have minds : Minds d₁ d' := minds_drive final filed₁ driven
  have keeps : Keeps d₁ d' := keeps_drive driven
  refine ⟨minds.filed filed₁, (grows_createSession made registered).trans keeps.grows, ?_, ?_, ?_⟩
  · intro fresh
    have few := fresh.few
    rw [keeps.made, same, made] at few
    have distinct := fresh.distinct
    rw [minds.clashes, same, gave] at distinct
    exact ⟨by omega, (Roster.clashes_gave distinct).1⟩
  · intro fresh numbered guarded
    have distinct := fresh.distinct
    rw [minds.clashes, same, gave] at distinct
    have unused : handle ∉ d.connections.keys :=
      fun mem => (Roster.clashes_gave distinct).2 (guarded handle mem)
    have new : id ∉ d.sessions.keys := by
      intro mem
      obtain ⟨m, given, again⟩ := numbered.keys id mem
      have round := SessionId.round_of_nth_eq given
        ((again.symm.trans number).trans numbered.counts)
      have few := fresh.few
      rw [keeps.made, same, made] at few
      omega
    have guarded₁ : Guarded d₁ := by
      intro other mem
      rw [connections] at mem
      rw [same, gave]
      obtain rfl | mem := Table.mem_keys_insert_iff.1 mem
      · exact List.mem_cons_self ..
      · exact List.mem_cons_of_mem _ (guarded other mem)
    have added : Changes { d with endpoint := endpoint } d₁ := .single (.added unused new registered)
    exact ⟨((Tends.upkeep moved).changes.trans added).trans minds.tends.changes, minds.guarded guarded₁⟩
  · intro counts n s' found
    obtain ⟨s₁, found₁, becomes⟩ := minds.tends.becomes found
    rw [sessions, Table.get?_insert] at found₁
    split at found₁
    · rename_i mine
      refine .inr ⟨d.endpoint.made, Nat.le_refl _, ?_, (mine.trans number).trans counts⟩
      rw [keeps.made, same, made]
      exact Nat.lt_succ_self _
    · exact .inl ⟨s₁, found₁, becomes⟩

omit [Endpoint ε τ π] in
/-- The endpoint moves without making a connection. -/
theorem Advances.moved {d : Dispatcher (Tally (Roster ε)) τ π} {e : Tally (Roster ε)}
    (made : e.made = d.endpoint.made) (inner : ∃ inner, e.inner = d.endpoint.inner.moved inner) :
    Advances d { d with endpoint := e } := by
  obtain ⟨inner, inner_eq⟩ := inner
  refine .of_minds (.upkeep (.of_eq rfl rfl) ?_ ?_) (.of_eq made rfl rfl)
  · show e.inner.inUse = _
    rw [inner_eq]
    rfl
  · show e.inner.clashes = _
    rw [inner_eq]
    rfl

theorem covering_advances (final : Endpoint.OverForGood ε (τ := τ) (π := π)) :
    Covering fun d d' : Dispatcher (Tally (Roster ε)) τ π => Filed d → Filed d' ∧ Advances d d' where
  same same filed := by
    have minds : Minds _ _ := .of_upkeep (.of_eq same.connections same.sessions) same.endpoint
    exact ⟨minds.filed filed, .of_minds minds (.of_same same)⟩
  trans first second filed := by
    obtain ⟨filed, first⟩ := first filed
    obtain ⟨filed, second⟩ := second filed
    exact ⟨filed, first.trans second⟩
  onSession doing done filed := by
    have minds := minds_onSession doing.lawful filed done
    exact ⟨minds.filed filed, .of_minds minds (keeps_onSession done)⟩
  drive driven filed := by
    have minds := minds_drive final filed driven
    exact ⟨minds.filed filed, .of_minds minds (keeps_drive driven)⟩
  removed d handle filed :=
    ⟨filed.removed handle, .of_minds (.removed d handle) (keeps_connectionClosed handle d)⟩
  arrived arrived filed := ⟨filed, .moved (Tally.made_arrival arrived) (Roster.moved_arrival arrived)⟩
  refused source packet d filed := ⟨filed, .moved rfl ⟨_, rfl⟩⟩
  declined declined filed := ⟨filed, .moved (Tally.made_declined declined) (Roster.accept_cases declined)⟩
  delivered {now packet id d d'} driven filed := by
    have handed : Upkeep d { d with sessions := d.sessions.update id fun s =>
        { s with transport := Endpoint.deliver (ε := ε) now packet s.transport } } := by
      refine ⟨rfl, Table.keys_update .., fun n s' found' => ?_⟩
      have found' := (Table.get?_update ..).symm.trans found'
      split at found'
      · obtain ⟨s, found, rfl⟩ := Option.map_eq_some_iff.1 found'
        exact ⟨s, found, .transport s _⟩
      · exact ⟨s', found', .refl s'⟩
    have minds := minds_drive final (handed.filed filed) driven
    have first : Advances d _ :=
      .of_minds (.of_upkeep handed rfl) (.of_eq rfl rfl (Table.keys_update ..))
    exact ⟨minds.filed (handed.filed filed), first.trans (.of_minds minds (keeps_drive driven))⟩
  begun connected registered driven filed :=
    advances_createSession final filed (Tally.made_connect connected) (Roster.gave_connect connected)
      registered driven
  accepted granted registered driven filed :=
    advances_createSession final filed (Tally.made_accept granted) (Roster.accept_cases granted)
      registered driven

/-! ## Every move -/

theorem lawful_operate (now : Instant) (ops : List Session.Operation) :
    Lawful fun (a : Audience) (s : Session τ) => return ((), ← s.operate a now ops) := by
  intro a s s' r named done
  obtain ⟨s₁, done, e⟩ := ok_of_bind done
  cases e
  exact .acts (Session.acts_operate named done)

/-- A relation that covers what a dispatcher does covers a move, if it does so where the owner asks a
session for operations or changes the controls. -/
theorem Covering.attempt {R : Dispatcher ε τ π → Dispatcher ε τ π → Prop} (h : Covering R) {x : Move π}
    {d d' : Dispatcher ε τ π}
    (operates : ∀ now id ops, x = .operate now id ops ∨ x = .touch now id ops →
      ∀ {d d' : Dispatcher ε τ π} {r : Option Unit},
        d.onSession id (fun a s => return ((), ← s.operate a now ops)) = .ok (r, d') → R d d')
    (adjusts : ∀ c, x = .adjust c → R d (d.adjust c)) (done : d.attempt x = .ok d') : R d d' := by
  cases x with
  | connect now remote name =>
    obtain ⟨⟨r, d₁⟩, connected, done⟩ := ok_of_bind done
    cases done
    exact h.connect connected
  | receive now source packet => exact h.receive done
  | timeout now => exact h.timeout done
  | drive now id => exact h.drive done
  | driveAll now => exact h.driveAll done
  | operate now id ops =>
    obtain ⟨⟨r, d₁⟩, operated, done⟩ := ok_of_bind done
    cases done
    exact h.sessionOp (operates now id ops (.inl rfl)) operated
  | touch now id ops =>
    obtain ⟨⟨r, d₁⟩, operated, done⟩ := ok_of_bind done
    cases done
    exact operates now id ops (.inr rfl) operated
  | send now id stream data =>
    obtain ⟨⟨r, d₁⟩, sent, done⟩ := ok_of_bind done
    cases done
    exact h.sendTo sent
  | connectionClosed handle =>
    cases done
    exact h.removed d handle
  | shutdown now => exact h.shutdown done
  | adjust c =>
    cases done
    exact adjusts c rfl
  | collect =>
    cases done
    exact h.same ⟨rfl, rfl, rfl, rfl, rfl⟩

theorem advances_step (final : Endpoint.OverForGood ε (τ := τ) (π := π)) {x : Move π}
    {d : Dispatcher (Tally (Roster ε)) τ π} (filed : Filed d) :
    Filed (d.step x) ∧ Advances d (d.step x) := by
  unfold step
  split
  · rename_i d' done
    refine (covering_advances final).attempt (fun now id ops _ d d' r operated filed => ?_)
      (fun c _ filed => ?_) done filed
    · have minds := minds_onSession (lawful_operate now ops) filed operated
      exact ⟨minds.filed filed, .of_minds minds (keeps_onSession operated)⟩
    · exact ⟨filed, .of_minds (.of_upkeep (.of_eq rfl rfl) rfl) (.of_eq rfl rfl rfl)⟩
  · exact ⟨filed, .refl d⟩

theorem advances_run (final : Endpoint.OverForGood ε (τ := τ) (π := π))
    {d : Dispatcher (Tally (Roster ε)) τ π} (filed : Filed d) (moves : List (Move π)) :
    Filed (d.run moves) ∧ Advances d (d.run moves) := by
  induction moves generalizing d with
  | nil => exact ⟨filed, .refl d⟩
  | cons x moves ih =>
    have first := advances_step final (x := x) filed
    have rest := ih first.1
    exact ⟨rest.1, first.2.trans rest.2⟩

end QuicSessions.Dispatcher
