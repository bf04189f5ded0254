import QuicSessions.Proofs.Dispatchers.Openings
import QuicSessions.Proofs.Instances.Queues
import QuicSessions.Wire.Station

/-!
# Listening and starting

A call that launches a dispatcher installs it last, when nothing can fail any more. A call that fails leaves
the instance as it was, or as the tasks that were posted before it leave it; a call that succeeds found
nothing installed, and adds one dispatcher and the loop of its socket. The one failure that costs more is a
handshake whose end the clock cannot hold: it takes the worker with it.
-/

set_option autoImplicit false

namespace QuicSessions

variable {ν ε τ π : Type} {k : Side}

/-! ## Threads -/

/-- What a thread makes of a launch. -/
inductive IoThread.Launching {α : Type} (occupied : TransportError) (held : List SocketAddress)
    (wanted : SocketAddress)
    (make : SocketAddress → Except Fault (Except TransportError (α × Dispatcher ε τ π)))
    (t : IoThread ε τ π) : Except Fault (Except TransportError α × IoThread ε τ π) → Prop where
  | occupied (there : t.installed.isSome = true) :
    Launching occupied held wanted make t (.ok (.error occupied, t))
  | unbound {e : IoError} (bound : Net.bind held wanted = .error e) :
    Launching occupied held wanted make t (.ok (.error (.ofIo e), t))
  | unmade {a : SocketAddress} {e : TransportError} (bound : Net.bind held wanted = .ok a)
      (made : make a = .ok (.error e)) : Launching occupied held wanted make t (.ok (.error e, t))
  | fault {a : SocketAddress} {f : Fault} (vacant : t.installed = none) (bound : Net.bind held wanted = .ok a)
      (made : make a = .error f) : Launching occupied held wanted make t (.error f)
  | installed {a : SocketAddress} {r : α} {d : Dispatcher ε τ π} (vacant : t.installed = none)
      (bound : Net.bind held wanted = .ok a) (made : make a = .ok (.ok (r, d))) :
    Launching occupied held wanted make t (.ok (.ok r, t.install d))

theorem IoThread.launching_launch {α : Type} (occupied : TransportError) (held : List SocketAddress)
    (wanted : SocketAddress)
    (make : SocketAddress → Except Fault (Except TransportError (α × Dispatcher ε τ π)))
    (t : IoThread ε τ π) : Launching occupied held wanted make t (t.launch occupied held wanted make) := by
  unfold launch
  split
  · rename_i there
    exact .occupied there
  · rename_i vacant
    have vacant : t.installed = none := Option.not_isSome_iff_eq_none.1 vacant
    cases bound : Net.bind held wanted with
    | error e => exact .unbound bound
    | ok a =>
      dsimp only
      cases made : make a with
      | error f => exact .fault vacant bound made
      | ok result =>
        cases result with
        | error e => exact .unmade bound made
        | ok result => exact .installed vacant bound made

/-- What was held is never bound again. -/
theorem Net.not_mem_of_bind {held : List SocketAddress} {wanted a : SocketAddress}
    (bound : Net.bind held wanted = .ok a) : a ∉ held := by
  intro mem
  have free := List.all_eq_true.1 (Net.isFree_of_bind bound) a mem
  have same : a.ip.covers a.ip = true := by
    cases a <;> simp [SocketAddress.ip, IpAddress.covers]
  simp [SocketAddress.clashes, same] at free

theorem Table.keys_eq_singleton {K V : Type} {t : Table K V} {key : K} (only : ∀ other ∈ t.keys, other = key)
    (there : key ∈ t.keys) : t.keys = [key] := by
  refine List.perm_singleton.1 ((List.perm_ext_iff_of_nodup t.keys_nodup (List.nodup_singleton key)).2 ?_)
  intro other
  rw [List.mem_singleton]
  exact ⟨only other, fun same => same ▸ there⟩

/-! ## New dispatchers -/

namespace Launch

variable [Transport τ] [Endpoint ε τ π]

omit [Transport τ] in
theorem dispatcher_eq (l : Launch (VisitorOf k)) (address : SocketAddress) :
    let d : Dispatcher ε τ π := l.dispatcher address
    d.localAddress = address ∧ d.sessions = .empty ∧ d.options = l.options ∧ d.nextSession = ⟨1⟩ := by
  cases k <;> exact ⟨rfl, rfl, rfl, rfl⟩

/-- What comes of making a dispatcher for an address. -/
inductive Makes (now : Instant) (l : Launch (VisitorOf k)) (address : SocketAddress) :
    Except Fault (Except TransportError ((SocketAddress × Option SessionHandle) × Dispatcher ε τ π)) →
      Prop where
  | alone (untargeted : l.target = none) :
    Makes now l address (.ok (.ok ((address, none), l.dispatcher address)))
  | refused (e : TransportError) (targeted : l.target.isSome = true) : Makes now l address (.ok (.error e))
  | overflow {t : τ} {settings : Settings} {remote : SocketAddress} {name : String} {e e' : ε}
      {handle : ConnectionHandle} (targeted : l.target.isSome = true)
      (begun : Endpoint.connect now settings remote name e = .ok (handle, t, e'))
      (overflows : l.options.Overflows t now) : Makes now l address (.error .clockOverflow)
  | connected {h : SessionHandle} {d : Dispatcher ε τ π} {t : τ} {settings : Settings}
      {remote : SocketAddress} {name : String} {e e' : ε} {handle : ConnectionHandle}
      (targeted : l.target.isSome = true)
      (begun : Endpoint.connect now settings remote name e = .ok (handle, t, e'))
      (fits : ¬ l.options.Overflows t now) (bound : d.localAddress = address)
      (settled : d.connecting = (l.dispatcher address : Dispatcher ε τ π).connecting)
      (sessions : d.sessions.keys = [h.id]) : Makes now l address (.ok (.ok ((address, some h), d)))

theorem makes_make (now : Instant) (l : Launch (VisitorOf k)) (address : SocketAddress) :
    Makes now l address (l.make now address : Except Fault (Except TransportError
      ((SocketAddress × Option SessionHandle) × Dispatcher ε τ π))) := by
  obtain ⟨bound, sessions, options, next⟩ := dispatcher_eq (ε := ε) (τ := τ) (π := π) l address
  have housed : Dispatcher.Housed (l.dispatcher address : Dispatcher ε τ π) := by
    refine ⟨fun id s found => ?_, fun id s found => ?_, fun id s found => ?_⟩ <;>
    · rw [sessions] at found
      cases found
  unfold make
  cases targeted : l.target with
  | none => exact .alone targeted
  | some target =>
    obtain ⟨remote, name⟩ := target
    have targeted : l.target.isSome = true := by rw [targeted]; rfl
    dsimp only
    have begins := Dispatcher.begins_connect housed now remote name
    generalize (l.dispatcher address : Dispatcher ε τ π).connect now remote name = result at begins
    cases begins with
    | refused e => exact .refused _ targeted
    | overflow begun overflows => exact .overflow targeted begun (options ▸ overflows)
    | @begun settings handle t endpoint d' begun fits kept settled housed' fresh =>
      dsimp only [bind, Except.bind]
      cases there : d'.sessionHandle (l.dispatcher address : Dispatcher ε τ π).nextSession with
      | none => exact .refused _ targeted
      | some h =>
        obtain ⟨s, found, rfl⟩ := Option.map_eq_some_iff.1 there
        refine .connected targeted begun (options ▸ fits) (kept.trans bound) settled ?_
        have named : s.id = (l.dispatcher address : Dispatcher ε τ π).nextSession :=
          (housed'.filed _ _ found).1
        have there : d'.sessions.get? s.id = some s := by rw [named]; exact found
        refine Table.keys_eq_singleton (fun n mem => ?_) (Table.mem_keys_iff.2 ⟨s, there⟩)
        obtain first | old := fresh n mem
        · exact first.trans named.symm
        · rw [sessions] at old
          cases old

end Launch

namespace Instance

variable [Transport τ] [Endpoint ε τ π]

/-- An instance on which nothing is left to do can launch. -/
def Ready (now : Instant) (held : List SocketAddress) (l : Launch (VisitorOf k))
    (w : Instance (VisitorOf k) ε τ π) : Prop :=
  w.io.serving = true ∧ w.thread.installed = none ∧
    ∃ a r d, Net.bind (w.thread.sockets ++ held) l.bindTo = .ok a ∧
      (l.make now a : Except Fault (Except TransportError
        ((SocketAddress × Option SessionHandle) × Dispatcher ε τ π))) = .ok (.ok (r, d))

/-- What a launch leaves on an instance on which nothing is left to do. -/
inductive Outcome (now : Instant) (held : List SocketAddress) (l : Launch (VisitorOf k))
    (w : Instance (VisitorOf k) ε τ π) : Launched × Instance (VisitorOf k) ε τ π → Prop where
  | refused (e : TransportError) (unready : ¬ Ready now held l w) : Outcome now held l w (.error e, w)
  | lost {a : SocketAddress} {f : Fault} (unready : ¬ Ready now held l w) (vacant : w.thread.installed = none)
      (made : (l.make now a : Except Fault (Except TransportError
        ((SocketAddress × Option SessionHandle) × Dispatcher ε τ π))) = .error f) :
    Outcome now held l w (.error .runnerStopped, w.crash)
  | installed {a : SocketAddress} {r : SocketAddress × Option SessionHandle} {d : Dispatcher ε τ π}
      (ready : Ready now held l w) (bound : Net.bind (w.thread.sockets ++ held) l.bindTo = .ok a)
      (made : l.make now a = .ok (.ok (r, d))) :
    Outcome now held l w (.ok r, { w with thread := w.thread.install d }.collect)

theorem outcome_settled (now : Instant) (held : List SocketAddress) (l : Launch (VisitorOf k))
    {w : Instance (VisitorOf k) ε τ π} (rested : Rested w) : Outcome now held l w (settled now held l w) := by
  have same : { w with thread := w.thread }.collect = w := collect_of_collected rested.collected
  unfold settled
  split
  · rename_i serving
    have launching := IoThread.launching_launch l.occupied (w.thread.sockets ++ held) l.bindTo
      (l.make now) w.thread
    generalize w.thread.launch l.occupied (w.thread.sockets ++ held) l.bindTo (l.make now) = launched
      at launching
    cases launching with
    | occupied there =>
      dsimp only
      rw [same]
      refine .refused _ fun ⟨_, vacant, _⟩ => ?_
      rw [vacant] at there
      cases there
    | unbound bound =>
      dsimp only
      rw [same]
      refine .refused _ fun ⟨_, _, a, _, _, free, _⟩ => ?_
      cases bound.symm.trans free
    | unmade bound made =>
      dsimp only
      rw [same]
      refine .refused _ fun ⟨_, _, a, _, _, free, makes⟩ => ?_
      cases bound.symm.trans free
      cases made.symm.trans makes
    | fault vacant bound made =>
      refine .lost (fun ⟨_, _, a, _, _, free, makes⟩ => ?_) vacant made
      cases bound.symm.trans free
      cases made.symm.trans makes
    | installed vacant bound made => exact .installed ⟨serving, vacant, _, _, _, bound, made⟩ bound made
  · rename_i stopped
    exact .refused _ fun ready => stopped ready.1

theorem outcome_launch {i : Instance (VisitorOf k) ε τ π} (reached : Reached i) (now : Instant)
    (held : List SocketAddress) (l : Launch (VisitorOf k)) :
    Outcome now held (i.snapshot l) (i.work now held) (i.launch now held l) := by
  rw [launch_eq reached.rested]
  exact outcome_settled now held _ (reached.rested.work now held)

/-- From `w` to `w'` one dispatcher is installed where there was none, with these sessions, and one loop is
added, for its socket. -/
def Installs (w w' : Instance (VisitorOf k) ε τ π) (address : SocketAddress) (sessions : List SessionId) :
    Prop :=
  w.thread.installed = none ∧ address ∉ w.thread.sockets ∧
    ∃ d, d.localAddress = address ∧ d.sessions.keys = sessions ∧
      w' = { w with thread := w.thread.install d }.collect

namespace Outcome

variable {now : Instant} {held : List SocketAddress} {l : Launch (VisitorOf k)}
  {w : Instance (VisitorOf k) ε τ π} {result : Launched × Instance (VisitorOf k) ε τ π}

/-- What is installed is the dispatcher that was made, with the session that is answered. -/
theorem installs (outcome : Outcome now held l w result) {address : SocketAddress} {h : Option SessionHandle}
    (answered : result.1 = .ok (address, h)) :
    Installs w result.2 address (h.map SessionHandle.id).toList ∧ h.isSome = l.target.isSome := by
  cases outcome with
  | refused => cases answered
  | lost => cases answered
  | @installed a _ d ready bound made =>
    cases answered
    have fresh : a ∉ w.thread.sockets := fun mem =>
      Net.not_mem_of_bind bound (List.mem_append_left held mem)
    have makes := Launch.makes_make (ε := ε) (τ := τ) (π := π) now l a
    rw [made] at makes
    cases makes with
    | alone untargeted =>
      obtain ⟨there, sessions, -⟩ := Launch.dispatcher_eq (ε := ε) (τ := τ) (π := π) l address
      exact ⟨⟨ready.2.1, fresh, _, there, by rw [sessions]; rfl, rfl⟩, by rw [untargeted]; rfl⟩
    | connected targeted _ _ there _ sessions =>
      exact ⟨⟨ready.2.1, fresh, d, there, sessions, rfl⟩, targeted.symm⟩

theorem made (outcome : Outcome now held l w result) {r : SocketAddress × Option SessionHandle}
    (answered : result.1 = .ok r) : ∃ a d, Launch.Makes now l a (.ok (.ok (r, d))) ∧
      result.2.thread.installed = some { d with posted := [] } := by
  cases outcome with
  | refused => cases answered
  | lost => cases answered
  | installed _ _ made =>
    cases answered
    exact ⟨_, _, made ▸ Launch.makes_make now l _, rfl⟩

/-- A launch that fails changes nothing, unless the clock cannot hold the end of a handshake. -/
theorem failed (outcome : Outcome now held l w result) {e : TransportError} (answered : result.1 = .error e) :
    result.2 = w ∨ result.2 = w.crash ∧ w.thread.installed = none ∧ l.target.isSome = true ∧
      ∃ within, l.options.handshakeTimeout = some within ∧
        ¬ Instant.Representable (now + within.toNanos) := by
  cases outcome with
  | refused => exact .inl rfl
  | @lost a f unready vacant made =>
    have makes := Launch.makes_make (ε := ε) (τ := τ) (π := π) now l a
    rw [made] at makes
    cases makes with
    | overflow targeted begun overflows => exact .inr ⟨rfl, vacant, targeted, overflows.2⟩
  | installed => cases answered

end Outcome

end Instance

/-! ## The calls -/

open Instance (Reached Ready Installs)

section Calls

variable [Transport τ] [Endpoint ε τ π] (now : Instant) (held : List SocketAddress)

theorem Server.listen_of_refused (s : Server ε τ π) (port : UInt16) {e : QuicError}
    (refused : s.identity.settings s.config = .error e) :
    s.listen now held port = (.error (.ofQuic e), s) := by
  unfold listen
  rw [refused]

theorem Server.listen_of_known (s : Server ε τ π) (port : UInt16) {settings : Settings}
    (known : s.identity.settings s.config = .ok settings) :
    let launched := s.running.launch now held (launchOf s.config settings port)
    s.listen now held port = (launched.1.map fun l => l.1.port, { s with running := launched.2 }) := by
  unfold listen
  rw [known]

theorem Client.start_of_unprepared (s : Client ε τ π) {host : String} {port : UInt16} {e : TransportError}
    (unprepared : s.prepare host port = .error e) : s.start now held host port = (.error e, s) := by
  unfold start
  rw [unprepared]

theorem Client.start_of_prepared (s : Client ε τ π) {host : String} {port : UInt16} {remote : SocketAddress}
    {settings : Settings} (prepared : s.prepare host port = .ok (remote, settings)) :
    let launched := s.running.launch now held (launchOf s.config settings remote)
    s.start now held host port = (match launched.1 with
      | .ok (_, some h) => .ok h
      | .ok (_, none) => .error .runnerStopped
      | .error e => .error e, { s with running := launched.2 }) := by
  unfold start
  rw [prepared]
  dsimp only
  generalize Instance.launch now held (launchOf s.config settings remote) s.running = launched
  obtain ⟨answer, running⟩ := launched
  cases answer with
  | error e => rfl
  | ok r =>
    obtain ⟨address, h⟩ := r
    cases h <;> rfl

end Calls

end QuicSessions
