import Mathlib.Data.List.Perm.Subperm
import QuicSessions.Proofs.Dispatchers.Attendance

/-!
# Admission to a server

A porter is an endpoint that notes what becomes of each request for a connection. A server with a fixed limit
never has more sessions than that. It refuses a request exactly if it is full or shut down, and a session
takes up room until its connection is removed, whatever its state. A request that is not granted leaves no
trace in the tables, the numbers and what was posted.
-/

set_option autoImplicit false

namespace QuicSessions

/-- What becomes of a request for a connection. -/
inductive Reception where
  | granted
  | refused
  /-- The endpoint did not make a connection of it. -/
  | failed
  deriving DecidableEq

/-- An endpoint with what became of the requests, in order. -/
structure Porter (ε : Type) where
  inner : ε
  receptions : List Reception

namespace Porter

variable {ε τ π : Type}

def moved (e : Porter ε) (inner : ε) : Porter ε := { e with inner := inner }

def noted (e : Porter ε) (r : Reception) (inner : ε) : Porter ε := ⟨inner, e.receptions ++ [r]⟩

instance [Endpoint ε τ π] : Endpoint (Porter ε) τ π where
  serving settings := ⟨Endpoint.serving settings, []⟩
  calling := ⟨Endpoint.calling, []⟩
  connect now settings remote name e :=
    (Endpoint.connect now settings remote name e.inner).map fun x => (x.1, x.2.1, e.moved x.2.2)
  arrival now source packet e :=
    let x := Endpoint.arrival now source packet e.inner
    (x.1, e.moved x.2)
  accept now source packet e :=
    let x := Endpoint.accept now source packet e.inner
    (x.1, e.noted (if x.1.isOk then .granted else .failed) x.2)
  refuse source packet e :=
    let x := Endpoint.refuse source packet e.inner
    (x.1, e.noted .refused x.2)
  deliver now packet t := Endpoint.deliver (ε := ε) now packet t
  settle handle t e :=
    let x := Endpoint.settle handle t e.inner
    (x.1, e.moved x.2)
  transmit now t := Endpoint.transmit (ε := ε) now t

end Porter

/-- A connection that is accepted is the end of a server. -/
def Endpoint.AcceptsAsServer (ε : Type) {τ π : Type} [Transport τ] [Endpoint ε τ π] : Prop :=
  ∀ {now : Instant} {source : SocketAddress} {packet : π} {e e' : ε} {handle : ConnectionHandle} {t : τ},
    Endpoint.accept now source packet e = (.ok (handle, t), e') → Transport.side t = .server

theorem Porter.acceptsAsServer {ε τ π : Type} [Transport τ] [Endpoint ε τ π]
    (serving : Endpoint.AcceptsAsServer ε (τ := τ) (π := π)) :
    Endpoint.AcceptsAsServer (Porter ε) (τ := τ) (π := π) := by
  intro now source packet e e' handle t accepted
  have given : (Endpoint.accept now source packet e.inner).1 = .ok (handle, t) :=
    congrArg Prod.fst accepted
  exact serving (Prod.ext given rfl)

namespace Table

variable {K V W : Type}

theorem size_le_of_keys {t : Table K V} {u : Table K W} (within : ∀ k ∈ t.keys, k ∈ u.keys) :
    t.size ≤ u.size := by
  have le := (List.subperm_of_subset t.keys_nodup within).length_le
  simpa [keys_length] using le

theorem size_le_succ_of_keys {t : Table K V} {u : Table K W} (new : K)
    (within : ∀ k ∈ t.keys, k = new ∨ k ∈ u.keys) : t.size ≤ u.size + 1 := by
  have among : t.keys ⊆ new :: u.keys := fun k mem => List.mem_cons.2 (within k mem)
  have le := (List.subperm_of_subset t.keys_nodup among).length_le
  simpa [keys_length] using le

end Table

namespace Dispatcher

/-! ## The number of sessions, stroke by stroke -/

section Count

variable {ε τ π : Type} [Transport τ] [Endpoint ε τ π] {d d' : Dispatcher ε τ π} {x : Stroke ε τ π}
  {strokes : List (Stroke ε τ π)}

def Stroke.registers : Stroke ε τ π → Bool
  | .register _ _ _ => true
  | _ => false

/-- How a stroke keeps count of the sessions. It adds one at most, and this only by registering it where
there is room. None is lost unless the stroke removes a connection: by hand, or because its closing is over
when its session was driven. -/
structure Counted (d : Dispatcher ε τ π) (x : Stroke ε τ π) : Prop where
  room : x.registers = true → d.shutDown = false ∧ d.sessionCount < d.maxSessions
  most : (d.stroke x).sessionCount ≤ d.sessionCount + if x.registers then 1 else 0
  least : d.removed? x = none → d.sessionCount ≤ (d.stroke x).sessionCount

/-- Sessions are registered only where there is room. -/
def Roomy (d : Dispatcher ε τ π) (x : Stroke ε τ π) : Prop :=
  x.registers = true → d.shutDown = false ∧ d.sessionCount < d.maxSessions

omit [Endpoint ε τ π] in
theorem keys_lived {id : SessionId} {steps : List (Session.Step τ)} {notices : List Notice}
    (lived : Lived id steps notices d d') (n : SessionId) : n ∈ d'.sessions.keys ↔ n ∈ d.sessions.keys := by
  simp only [Table.mem_keys_iff, lived.sessions n]
  split <;> simp

omit [Transport τ] [Endpoint ε τ π] in
theorem keys_without (handle : Option ConnectionHandle) {n : SessionId}
    (mem : n ∈ (d.without handle).sessions.keys) : n ∈ d.sessions.keys := by
  cases handle with
  | none => exact mem
  | some handle =>
    obtain ⟨s, found⟩ := Table.mem_keys_iff.1 mem
    exact Table.mem_keys_iff.2 ⟨s, get?_connectionClosed found⟩

theorem counted_ordinary (ordinary : x.ordinary = true) (housed : Housed d) (h : d.apply x = .ok d') :
    Counted d x := by
  obtain ⟨id, notices, d₁, parts, -⟩ := parts_apply ordinary housed.residents h
  have stays : d.stroke x = d₁.without (d.removed? x) := (stroke_of_apply h).trans parts.result
  have unregistering : x.registers = false := by
    cases x with
    | register => cases ordinary
    | _ => rfl
  refine ⟨fun registers => ?_, ?_, fun kept => ?_⟩
  · rw [unregistering] at registers
    cases registers
  · refine Nat.le_add_right_of_le (Table.size_le_of_keys fun n mem => ?_)
    rw [stays] at mem
    exact (keys_lived parts.lived n).1 (keys_without _ mem)
  · rw [stays, kept]
    exact Table.size_le_of_keys fun n mem => (keys_lived parts.lived n).2 mem

theorem counted_apply (housed : Housed d) (roomy : Roomy d x) (h : d.apply x = .ok d') : Counted d x := by
  have unchanged (registers : x.registers = false) (same : d'.sessions = d.sessions) : Counted d x := by
    have count : (d.stroke x).sessionCount = d.sessionCount := by
      rw [stroke_of_apply h]
      unfold sessionCount
      rw [same]
    exact ⟨fun e => (by simp [registers] at e), by simp [count], fun _ => by simp [count]⟩
  cases x with
  | register now handle t =>
    obtain ⟨⟨id, d₁⟩, registered, rfl⟩ := ok_of_map h
    obtain ⟨-, e⟩ := createSession_eq registered
    have sessions : d₁.sessions = d.sessions.insert id (.begun id handle t d.options now) := by rw [e]
    refine ⟨roomy, ?_, fun _ => ?_⟩ <;> rw [stroke_of_apply h]
    · refine Table.size_le_succ_of_keys id fun n mem => ?_
      rw [sessions] at mem
      exact Table.mem_keys_insert_iff.1 mem
    · refine Table.size_le_of_keys fun n mem => ?_
      rw [sessions]
      exact Table.mem_keys_insert_iff.2 (.inr mem)
  | shut => cases h; exact unchanged rfl rfl
  | ended =>
    cases h
    exact unchanged rfl (by rw [tellServer_eq])
  | adjust c => cases h; exact unchanged rfl rfl
  | collect => cases h; exact unchanged rfl rfl
  | _ => exact counted_ordinary rfl housed h

theorem counted_perform (housed : Housed d) (roomy : d.Throughout Roomy strokes)
    (h : d.perform strokes = .ok d') : d.Throughout Counted strokes := by
  induction strokes generalizing d with
  | nil => exact trivial
  | cons x strokes ih =>
    obtain ⟨first, rest⟩ := perform_cons_cases h
    exact ⟨counted_apply housed roomy.1 first, ih (housed.apply first) roomy.2 rest⟩

/-! ## The limit -/

/-- The limit is `limit`, and it is kept. -/
def Limited (limit : Nat) (d : Dispatcher ε τ π) : Prop :=
  d.maxSessions = limit ∧ d.sessionCount ≤ limit

theorem limited_apply {limit : Nat} (limited : Limited limit d) (counted : Counted d x)
    (sets : ∀ c, x = .adjust c → c.maxSessions = limit) (h : d.apply x = .ok d') : Limited limit d' := by
  obtain ⟨here, kept⟩ := limited
  have most := counted.most
  rw [stroke_of_apply h] at most
  cases x with
  | register now handle t =>
    have room := (counted.room rfl).2
    obtain ⟨⟨id, d₁⟩, registered, rfl⟩ := ok_of_map h
    obtain ⟨-, e⟩ := createSession_eq registered
    simp only [Stroke.registers, if_true] at most
    refine ⟨by rw [e]; exact here, ?_⟩
    dsimp only at most ⊢
    omega
  | shut =>
    cases h
    exact ⟨here, kept⟩
  | adjust c =>
    cases h
    exact ⟨sets c rfl, kept⟩
  | _ => exact ⟨(congrArg maxSessions (works_apply h rfl)).trans here, Nat.le_trans most kept⟩

theorem limited_perform {limit : Nat} (limited : Limited limit d) (counted : d.Throughout Counted strokes)
    (sets : ∀ c, .adjust c ∈ strokes → c.maxSessions = limit) (h : d.perform strokes = .ok d') :
    Limited limit d' := by
  induction strokes generalizing d with
  | nil =>
    cases h
    exact limited
  | cons x strokes ih =>
    obtain ⟨first, rest⟩ := perform_cons_cases h
    have limited' := limited_apply limited counted.1 (fun c e => sets c (e ▸ List.mem_cons_self ..)) first
    exact ih limited' counted.2 (fun c mem => sets c (List.mem_cons_of_mem x mem)) rest

/-! ## Room in every course -/

omit [Transport τ] [Endpoint ε τ π] in
theorem roomy_of_unregistering (quiet : x.registers = false) : Roomy d x := by
  intro registers
  rw [quiet] at registers
  cases registers

theorem roomy_granting (now : Instant) (source : SocketAddress) (packet : π) (d : Dispatcher ε τ π) :
    d.Throughout Roomy (d.granting now source packet) := by
  unfold granting
  split
  · exact ⟨nofun, nofun, trivial⟩
  · rename_i open_
    simp only [Bool.or_eq_true, decide_eq_true_eq, not_or, Nat.not_le] at open_
    split
    · exact ⟨nofun, nofun, trivial⟩
    · exact ⟨nofun, fun _ => ⟨Bool.eq_false_iff.2 open_.1, open_.2⟩, nofun, trivial⟩

theorem roomy_arriving (now : Instant) (source : SocketAddress) (packet : π) (d : Dispatcher ε τ π) :
    d.Throughout Roomy (d.arriving now source packet) := by
  unfold arriving
  split
  · split
    · exact ⟨nofun, trivial⟩
    · exact ⟨nofun, nofun, nofun, trivial⟩
  · exact ⟨nofun, roomy_granting now source packet _⟩
  · exact ⟨nofun, nofun, trivial⟩
  · exact ⟨nofun, trivial⟩

/-- Without settings to begin connections, only packets that arrive lead to registrations. -/
theorem unregistering_course {y : Stroke ε τ π} {x : Move π} (settings : d.connecting = none)
    (other : ∀ now source packet, x ≠ .receive now source packet) (mem : y ∈ d.course x) :
    y.registers = false := by
  have exchanged {now : Instant} {ops : Audience → Session τ → List Session.Operation} {id : SessionId}
      (mem : y ∈ (Stroke.exchange now ops id : List (Stroke ε τ π))) : y.registers = false := by
    simp only [Stroke.exchange, List.mem_cons, List.not_mem_nil, or_false] at mem
    obtain rfl | rfl := mem <;> rfl
  have farewell {now : Instant} (mem : y ∈ d.farewells now) : y.registers = false := by
    obtain rfl | mem := List.mem_cons.1 mem
    · rfl
    · obtain ⟨id, -, mem⟩ := List.mem_flatMap.1 mem
      exact exchanged mem
  cases x with
  | connect now remote name => simp [course, beginning, settings] at mem
  | receive now source packet => exact absurd rfl (other now source packet)
  | timeout now =>
    obtain rfl | mem := List.mem_cons.1 mem
    · rfl
    · obtain ⟨id, -, mem⟩ := List.mem_flatMap.1 mem
      exact exchanged mem
  | driveAll now =>
    obtain ⟨id, -, rfl⟩ := List.mem_map.1 mem
    rfl
  | operate now id ops => exact exchanged mem
  | send now id stream data => exact exchanged mem
  | shutdown now =>
    change y ∈ d.shutting now at mem
    unfold shutting at mem
    split at mem
    · cases mem
    · split at mem
      · exact farewell mem
      · simp only [List.mem_append, List.mem_map, List.mem_singleton] at mem
        obtain mem | ⟨handle, -, rfl⟩ | rfl := mem
        · exact farewell mem
        · rfl
        · rfl
  | drive | touch | connectionClosed | adjust | collect =>
    obtain rfl := List.mem_singleton.1 mem
    rfl

theorem roomy_made (settings : d.connecting = none) (x : Move π) : d.Throughout Roomy (d.made x) := by
  unfold made
  split
  · by_cases arrives : ∃ now source packet, x = .receive now source packet
    · obtain ⟨now, source, packet, rfl⟩ := arrives
      exact roomy_arriving now source packet d
    · have other : ∀ now source packet, x ≠ .receive now source packet :=
        fun now source packet e => arrives ⟨now, source, packet, e⟩
      have quiet : ∀ y ∈ d.course x, y.registers = false := fun y => unregistering_course settings other
      generalize d.course x = strokes at quiet
      exact throughout_of_forall (fun _ y mem => roomy_of_unregistering (quiet y mem)) d
  · exact trivial

/-! ## Runs -/

/-- A server that keeps its limit, and has no settings to begin connections of its own. -/
structure Serves (limit : Nat) (d : Dispatcher ε τ π) : Prop where
  housed : Housed d
  server : d.role = .server
  connecting : d.connecting = none
  limited : Limited limit d

/-- Controls of such a server. -/
def Controls.Limits (limit : Nat) (c : Controls) : Prop := c.connecting = none ∧ c.maxSessions = limit

theorem serves_step {limit : Nat} (serves : Serves limit d) {x : Move π}
    (sets : ∀ c, x = .adjust c → c.Limits limit) :
    d.Throughout Counted (d.made x) ∧ Serves limit (d.step x) := by
  have performed := perform_made d x
  have sets' : ∀ c, .adjust c ∈ d.made x → c.Limits limit := by
    intro c mem
    have stems : x = .adjust c := from_course (mem_made mem)
    exact sets c stems
  have counted := counted_perform serves.housed (roomy_made serves.connecting x) performed
  have limited := limited_perform serves.limited counted (fun c mem => (sets' c mem).2) performed
  have one : ∀ c, .adjust c ∈ [x] → c.Limits limit := fun c mem => sets c (List.mem_singleton.1 mem).symm
  have fixed := throughout_strokes (I := fun d : Dispatcher ε τ π => d.role = .server ∧ d.connecting = none)
    (Q := Controls.Limits limit) (fun fixed h => ⟨fixed.role.trans h.1, fixed.connecting.trans h.2⟩)
    (fun h sets => ⟨h.1, sets.1⟩) ⟨serves.server, serves.connecting⟩ one
  exact ⟨counted, serves.housed.perform performed, fixed.2.1, fixed.2.2, limited⟩

theorem serves_run {limit : Nat} (serves : Serves limit d) {moves : List (Move π)}
    (sets : ∀ c, .adjust c ∈ moves → c.Limits limit) :
    d.Throughout Counted (d.strokes moves) ∧ Serves limit (d.run moves) := by
  induction moves generalizing d with
  | nil => exact ⟨trivial, serves⟩
  | cons x moves ih =>
    obtain ⟨here, serves'⟩ := serves_step serves (x := x) fun c e => sets c (e ▸ List.mem_cons_self ..)
    obtain ⟨later, last⟩ := ih serves' fun c mem => sets c (List.mem_cons_of_mem x mem)
    exact ⟨(throughout_append (perform_made d x) _).2 ⟨here, later⟩, last⟩

/-- A dispatcher is shut down by a shutdown and by nothing else. -/
theorem shutDown_step (housed : Housed d) (x : Move π) :
    (d.step x).shutDown = (d.shutDown || x.shuts) := by
  have performed := perform_made d x
  rw [shutDown_perform performed]
  cases shuts : x.shuts with
  | false =>
    have unshut : (d.made x).any Stroke.shuts = false := by
      refine List.any_eq_false.2 fun y mem shut => ?_
      have stems := from_course (mem_made mem)
      cases y with
      | shut =>
        obtain ⟨now, rfl⟩ := stems
        cases shuts
      | _ => cases shut
    rw [unshut]
  | true =>
    cases on : d.shutDown with
    | true => simp
    | false =>
      obtain ⟨now, rfl⟩ : ∃ now, x = .shutdown now := by
        cases x with
        | shutdown now => exact ⟨now, rfl⟩
        | _ => cases shuts
      obtain ⟨d₁, -, plan, done⟩ := shutting_plan housed on now
      have attempted : d.attempt (.shutdown now) = _ := (attempt_eq d _).trans done
      have course : d.course (.shutdown now) = _ := plan
      rw [made_of_attempt attempted, course]
      simp [farewells, Stroke.shuts]

theorem shutDown_run {limit : Nat} (serves : Serves limit d) {moves : List (Move π)}
    (sets : ∀ c, .adjust c ∈ moves → c.Limits limit) :
    (d.run moves).shutDown = (d.shutDown || moves.any Move.shuts) := by
  induction moves generalizing d with
  | nil => simp [run]
  | cons x moves ih =>
    obtain ⟨-, serves'⟩ := serves_step serves (x := x) fun c e => sets c (e ▸ List.mem_cons_self ..)
    have rest := ih serves' fun c mem => sets c (List.mem_cons_of_mem x mem)
    rw [shutDown_step serves.housed x, Bool.or_assoc] at rest
    exact rest

end Count

/-! ## Requests -/

/-- The tables, the next number and what was posted are as they were. -/
structure Traceless {ε τ π : Type} (d d' : Dispatcher ε τ π) : Prop where
  sessions : d'.sessions = d.sessions
  connections : d'.connections = d.connections
  nextSession : d'.nextSession = d.nextSession
  posted : d'.posted = d.posted

section Requests

variable {ε τ π : Type} [Transport τ] [Endpoint ε τ π] {d d' : Dispatcher (Porter ε) τ π}

theorem receptions_drive {now : Instant} {id : SessionId} (housed : Housed d) (h : d.drive now id = .ok d') :
    d'.endpoint.receptions = d.endpoint.receptions := by
  obtain rfl | ⟨s, s₁, s₂, s₃, -, driven⟩ := drive_cases housed.filed h
  · rfl
  · obtain ⟨d₁, -, settled, rfl⟩ := driven.result
    have same : d₁.endpoint.receptions = d.endpoint.receptions := by rw [settled]; rfl
    split
    · rw [endpoint_connectionClosed]
      exact same
    · exact same

/-- What becomes of a request. -/
structure Answered (r : Reception) (d d' : Dispatcher (Porter ε) τ π) : Prop where
  receptions : d'.endpoint.receptions = d.endpoint.receptions ++ [r]
  refused : r = .refused ↔ d.shutDown = true ∨ d.maxSessions ≤ d.sessionCount
  traceless : r ≠ .granted → Traceless d d'
  granted : r = .granted → d'.nextSession = d.nextSession.next

omit [Endpoint ε τ π] in
theorem createSession_of_server (now : Instant) (handle : ConnectionHandle) {t : τ}
    (server : Transport.side t = .server) (d : Dispatcher ε τ π) :
    ∃ r, d.createSession now handle t = .ok r := by
  let s := Session.new d.nextSession handle t d.options now
  have started : s.start = .ok { s with state := .initialized } := if_pos rfl
  have begun : { s with state := .initialized }.beginHandshake now =
      .ok { s with state := .handshakeInProgress, handshakeDeadline := none } := by
    have isServer : s.side.isClient = false := by
      show (Transport.side t).isClient = false
      rw [server]
      rfl
    simp [Session.beginHandshake, isServer]
  show ∃ r, (s.start >>= fun s => s.beginHandshake now >>= _) = .ok r
  rw [started]
  show ∃ r, (Session.beginHandshake now { s with state := .initialized } >>= _) = .ok r
  rw [begun]
  exact ⟨_, rfl⟩

theorem answered_granting (accepting : Endpoint.AcceptsAsServer ε (τ := τ) (π := π)) (housed : Housed d)
    (now : Instant) (source : SocketAddress) (packet : π) :
    ∃ d' r, d.perform (d.granting now source packet) = .ok d' ∧ Answered r d d' := by
  unfold granting
  split
  · rename_i full
    simp only [Bool.or_eq_true, decide_eq_true_eq] at full
    refine ⟨_, .refused, rfl, ?_, iff_of_true rfl full, fun _ => ?_, nofun⟩
    · rw [send_eq]
      rfl
    · rw [send_eq]
      exact ⟨rfl, rfl, rfl, rfl⟩
  · rename_i room
    simp only [Bool.or_eq_true, decide_eq_true_eq] at room
    rcases accepted : Endpoint.accept now source packet d.endpoint with ⟨connection, e⟩
    have noted : e.receptions = d.endpoint.receptions ++ [if connection.isOk then .granted else .failed] := by
      cases accepted
      rfl
    cases connection with
    | error answer =>
      refine ⟨_, .failed, rfl, ?_, iff_of_false nofun room, fun _ => ?_, nofun⟩
      · rw [send_eq]
        exact noted
      · rw [send_eq]
        exact ⟨rfl, rfl, rfl, rfl⟩
    | ok connection =>
      obtain ⟨handle, t⟩ := connection
      have side : Transport.side t = .server := Porter.acceptsAsServer accepting accepted
      obtain ⟨⟨id, d₁⟩, registered⟩ := createSession_of_server now handle side { d with endpoint := e }
      obtain ⟨number, same⟩ := createSession_eq registered
      have housed₁ : Housed d₁ := Housed.registered (d := { d with endpoint := e }) (housed.of_same rfl) registered
      obtain ⟨d', driven⟩ := drive_of_housed housed₁ now id
      refine ⟨d', .granted, ?_, ?_, iff_of_false nofun room, fun e => absurd rfl e, fun _ => ?_⟩
      · dsimp only
        rw [← createSession_drive, registered]
        exact driven
      · rw [receptions_drive housed₁ driven, same]
        exact noted
      · have kept := congrArg nextSession (works_drive driven)
        rw [show d'.nextSession = d₁.nextSession from kept, same, number]

/-- A packet that is no request makes no reception. -/
theorem answered_arriving (accepting : Endpoint.AcceptsAsServer ε (τ := τ) (π := π)) (housed : Housed d)
    (now : Instant) (source : SocketAddress) (packet : π) :
    ∃ d', d.attempt (.receive now source packet) = .ok d' ∧
      ((Endpoint.arrival now source packet d.endpoint).1 = .request → ∃ r, Answered r d d') ∧
      ((Endpoint.arrival now source packet d.endpoint).1 ≠ .request →
        d'.endpoint.receptions = d.endpoint.receptions) := by
  rw [attempt_eq]
  show ∃ d', d.perform (d.arriving now source packet) = .ok d' ∧ _
  unfold arriving
  rcases arrived : Endpoint.arrival now source packet d.endpoint with ⟨arrival, e⟩
  have noted : e.receptions = d.endpoint.receptions := by
    cases arrived
    rfl
  have housed₁ : Housed { d with endpoint := e } := housed.of_same rfl
  cases arrival with
  | request =>
    obtain ⟨d', r, granted, answered⟩ := answered_granting accepting housed₁ now source packet
    refine ⟨d', granted, fun _ => ⟨r, ?_⟩, fun other => absurd rfl other⟩
    refine ⟨?_, answered.refused, fun other => ?_, answered.granted⟩
    · rw [answered.receptions]
      exact congrArg (· ++ [r]) noted
    · obtain ⟨sessions, connections, nextSession, posted⟩ := answered.traceless other
      exact ⟨sessions, connections, nextSession, posted⟩
  | answer packets =>
    refine ⟨_, rfl, nofun, fun _ => ?_⟩
    rw [send_eq]
    exact noted
  | ignored => exact ⟨_, rfl, nofun, fun _ => noted⟩
  | connection handle =>
    dsimp only
    cases registered : d.connections.get? handle with
    | none => exact ⟨_, rfl, nofun, fun _ => noted⟩
    | some id =>
      have handed : { d with endpoint := e }.apply (.deliver now id packet) = .ok _ := rfl
      have housed₂ := housed₁.apply handed
      obtain ⟨d', driven⟩ := drive_of_housed housed₂ now id
      refine ⟨d', ?_, nofun, fun _ => ?_⟩
      · dsimp only
        exact (perform_one _ (.drive now id)).trans driven
      · exact (receptions_drive housed₂ driven).trans noted

/-- In a run of a server with a fixed limit, and without settings to begin connections of its own: the
sessions never exceed the limit, and each counts until its connection is removed. A packet that asks for a
connection is refused exactly if the limit is reached or the server was shut down; unless the request is
granted, the tables, the next number and what was posted are as before. -/
theorem request_refused_iff_full (accepting : Endpoint.AcceptsAsServer ε (τ := τ) (π := π)) (endpoint : ε) (address : SocketAddress) (options : SessionOptions)
    (limit : Nat) (c : Controls) (moves : List (Move π)) :
    let d₀ : Dispatcher (Porter ε) τ π := (new .server ⟨endpoint, []⟩ address options).adjust c
    let d := d₀.run moves
    c.Limits limit → (∀ c', .adjust c' ∈ moves → c'.Limits limit) →
      d.sessionCount ≤ limit ∧ d₀.Throughout Counted (d₀.strokes moves) ∧
      d.shutDown = moves.any Move.shuts ∧
      ∀ now source packet, ∃ d', d.attempt (.receive now source packet) = .ok d' ∧
        ((Endpoint.arrival now source packet d.endpoint).1 = .request →
          ∃ r, d'.endpoint.receptions = d.endpoint.receptions ++ [r] ∧
            (r = .refused ↔ moves.any Move.shuts = true ∨ d.sessionCount = limit) ∧
            (r = .granted → d'.nextSession = d.nextSession.next) ∧
            (r ≠ .granted → d'.sessions = d.sessions ∧ d'.connections = d.connections ∧
              d'.nextSession = d.nextSession ∧ d'.posted = d.posted)) ∧
        ((Endpoint.arrival now source packet d.endpoint).1 ≠ .request →
          d'.endpoint.receptions = d.endpoint.receptions) := by
  intro d₀ d limits sets
  have housed : Housed d₀ := (InOrder.new .server ⟨endpoint, []⟩ address options).housed.of_same rfl
  have serves₀ : Serves limit d₀ := ⟨housed, rfl, limits.1, limits.2, Nat.zero_le _⟩
  obtain ⟨counted, serves⟩ := serves_run serves₀ sets
  have shut : d.shutDown = moves.any Move.shuts := shutDown_run serves₀ sets
  obtain ⟨here, kept⟩ := serves.limited
  refine ⟨kept, counted, shut, fun now source packet => ?_⟩
  obtain ⟨d', received, requested, other⟩ := answered_arriving accepting serves.housed now source packet
  refine ⟨d', received, fun asks => ?_, other⟩
  obtain ⟨r, answered⟩ := requested asks
  refine ⟨r, answered.receptions, ?_, answered.granted, fun ungranted => ?_⟩
  · rw [answered.refused, here, shut]
    have full : limit ≤ d.sessionCount ↔ d.sessionCount = limit := by
      change d.sessionCount ≤ limit at kept
      omega
    exact or_congr_right full
  · obtain ⟨sessions, connections, nextSession, posted⟩ := answered.traceless ungranted
    exact ⟨sessions, connections, nextSession, posted⟩

end Requests

end Dispatcher

/-! ## The in-memory engine -/

namespace Wire

namespace Connection

theorem side_receiveFrame {f : Frame} {c c' : Connection} (h : c.receiveFrame f = .ok c') :
    c'.side = c.side := by
  have moved {r : Except Violation Streams} (h : c.withStreams r = .ok c') : c'.side = c.side := by
    cases r with
    | error => cases h
    | ok streams => cases h; rfl
  cases f with
  | stream | reset | stop | maxStreamData => exact moved h
  | hello streams idle =>
    simp only [receiveFrame] at h
    split at h <;> (cases h; rfl)
  | welcome streams idle =>
    simp only [receiveFrame] at h
    split at h
    · split at h
      · cases h
      · cases h; rfl
    · cases h; rfl
  | complete =>
    simp only [receiveFrame] at h
    split at h <;> (cases h; rfl)
  | _ => cases h; rfl

theorem side_receiveLive (now : Instant) (p : Packet) (c : Connection) :
    (c.receiveLive now p).side = c.side := by
  have restarted : ({ c.restartIdle now with quiet := true } : Connection).side = c.side := by
    unfold restartIdle
    split <;> rfl
  unfold receiveLive
  dsimp only
  split
  · exact restarted
  · exact restarted
  · split
    · exact restarted
    · rename_i c' received
      have same : c'.side = ({ c.restartIdle now with quiet := true } : Connection).side :=
        foldlM_ok (R := fun c c' : Connection => c'.side = c.side) (fun _ => rfl)
          (fun first second => second.trans first) (fun received => side_receiveFrame received) received
      exact same.trans restarted

theorem side_receive (now : Instant) (p : Packet) (c : Connection) : (c.receive now p).side = c.side := by
  unfold receive
  dsimp only
  split
  · rfl
  · rfl
  · split <;> rfl
  · split
    · exact side_receiveLive now p _
    · rfl

end Connection

theorem Station.acceptsAsServer :
    Endpoint.AcceptsAsServer Station (τ := Connection) (π := Payload) := by
  intro now source packet e e' handle t accepted
  change Station.accept now source packet e = _ at accepted
  unfold Station.accept at accepted
  split at accepted
  · cases accepted
    exact Connection.side_receive now _ _
  · cases accepted

end Wire

namespace Dispatcher

/-- A client comes in, and closes its connection. -/
def visit : List (Move Wire.Payload) :=
  [knock 0 0, .receive 0 Scenario.clientAddress (.packet ⟨0, 1, [.complete]⟩),
    .receive 0 Scenario.clientAddress (.packet ⟨0, 2, [.applicationClose 7 []]⟩)]

/-- There is room for one, and the one session is closed but still there: the next client is refused. -/
theorem request_refused_iff_full_closed :
    let d₀ : Dispatcher (Porter Wire.Station) Wire.Connection Wire.Payload :=
      (new .server ⟨.server Scenario.commonSettings, []⟩ Scenario.serverAddress .standard).adjust
        { host with maxSessions := 1 }
    let d := d₀.run visit
    (d.sessions.get? ⟨1⟩).map Session.state = some .closed ∧
      ∃ d', d.attempt (knock 0 1) = .ok d' ∧ d'.endpoint.receptions = [.granted, .refused] ∧
        d'.sessions = d.sessions ∧ d'.connections = d.connections ∧ d'.nextSession = ⟨2⟩ ∧
        d'.posted = d.posted := by
  intro d₀ d
  have adjusts : ∀ c, .adjust c ∉ visit := by
    intro c mem
    simp [visit, knock] at mem
  obtain ⟨-, -, -, answers⟩ := request_refused_iff_full Wire.Station.acceptsAsServer
    (.server Scenario.commonSettings) Scenario.serverAddress .standard 1 { host with maxSessions := 1 } visit
    ⟨rfl, rfl⟩ fun c mem => absurd mem (adjusts c)
  obtain ⟨d', received, requested, -⟩ := answers 0 Scenario.clientAddress
    (.packet ⟨1, 0, [.hello Scenario.commonSettings.streams Scenario.commonSettings.idle]⟩)
  have arrival (p : Wire.Payload) (e : Porter Wire.Station) : (Endpoint.arrival 0 Scenario.clientAddress p e).1 =
      e.inner.arrival Scenario.clientAddress p := rfl
  have unknown : d.endpoint.inner.slotOf? 1 = none := by decide +kernel
  have serving : d.endpoint.inner.serving.isSome = true := by decide +kernel
  have asks : (Endpoint.arrival 0 Scenario.clientAddress
      (.packet ⟨1, 0, [.hello Scenario.commonSettings.streams Scenario.commonSettings.idle]⟩) d.endpoint).1 =
        .request := by
    rw [arrival]
    simp [Wire.Station.arrival, unknown, serving, Wire.Station.begins]
  obtain ⟨r, receptions, refused, -, traceless⟩ := requested asks
  have full : d.sessionCount = 1 := by decide +kernel
  obtain rfl : r = .refused := refused.2 (.inr full)
  obtain ⟨sessions, connections, nextSession, posted⟩ := traceless fun granted => by cases granted
  have earlier : d.endpoint.receptions = [.granted] := by decide +kernel
  have number : d.nextSession = ⟨2⟩ := by decide +kernel
  refine ⟨by decide +kernel, d', received, ?_, sessions, connections, nextSession.trans number, posted⟩
  rw [receptions]
  exact congrArg (· ++ [.refused]) earlier

end Dispatcher

end QuicSessions
