import QuicSessions.Proofs.Instances.Runs
import QuicSessions.Scenario.Bare
import QuicSessions.Wire.Station

/-!
# Handles of sessions that are gone

A handle carries no more than the number of its session. Once the session is gone, requests through
the handle do nothing as long as no session is registered under that number. Within the life of one
dispatcher the number comes back only after a full round of numbers; but each dispatcher numbers its
sessions from one, and so the handle reaches a session of the next dispatcher.
-/

set_option autoImplicit false

namespace QuicSessions

open Dispatcher (Keeps Grows Numbered)

variable {ε τ π : Type} {k : Side}

theorem keeps_install (v : Option (VisitorOf k)) (d : Dispatcher (Tally ε) τ π) :
    Keeps d (Installable.install v d) := by
  cases k <;> exact .of_eq rfl rfl rfl

/-! ## What becomes of the installed dispatcher -/

/-- What a move does to what is installed: it lets it go on, takes it out, or installs a new one. -/
inductive Passes : Option (Dispatcher (Tally ε) τ π) → Option (Dispatcher (Tally ε) τ π) → Prop where
  | empty : Passes none none
  | goesOn {d d' : Dispatcher (Tally ε) τ π} (h : Grows d d') : Passes (some d) (some d')
  | taken (d : Dispatcher (Tally ε) τ π) : Passes (some d) none
  | installed {d : Dispatcher (Tally ε) τ π} (h : Numbered d) : Passes none (some d)

namespace Passes

variable {installed installed' installed'' : Option (Dispatcher (Tally ε) τ π)}

theorem refl (installed : Option (Dispatcher (Tally ε) τ π)) : Passes installed installed := by
  cases installed with
  | none => exact .empty
  | some d => exact .goesOn (.refl d)

theorem of_rel (h : Option.Rel Keeps installed installed') : Passes installed installed' := by
  cases h with
  | none => exact .empty
  | some keeps => exact .goesOn keeps.grows

/-- A change that makes no session may follow. -/
theorem then_keeps (h : Passes installed installed') {f : Dispatcher (Tally ε) τ π → Dispatcher (Tally ε) τ π}
    (keeps : ∀ d, Keeps d (f d)) : Passes installed (installed'.map f) := by
  cases h with
  | empty => exact .empty
  | goesOn h => exact .goesOn (h.trans (keeps _).grows)
  | taken d => exact .taken d
  | installed h => exact .installed (h.grows (keeps _).grows)

end Passes

namespace Instance

variable {i i' : Instance (VisitorOf k) (Tally ε) τ π}

theorem installed_collect (i : Instance (VisitorOf k) (Tally ε) τ π) :
    i.collect.thread.installed = i.thread.installed.map fun d => { d with posted := [] } := by
  unfold collect
  cases h : i.thread.installed with
  | none => exact h
  | some d => rfl

theorem passes_collect {installed : Option (Dispatcher (Tally ε) τ π)}
    (h : Passes installed i.thread.installed) : Passes installed i.collect.thread.installed := by
  rw [installed_collect]
  exact h.then_keeps fun _ => .of_eq rfl rfl rfl

theorem installed_wake (t : IoThread (Tally ε) τ π) : t.wake.installed = t.installed := by
  unfold IoThread.wake
  split <;> rfl

theorem passes_operate {α : Type} {r : α}
    {op : Option (Dispatcher (Tally ε) τ π) → Except Fault (α × Option (Dispatcher (Tally ε) τ π))}
    (keeps : ∀ {installed r installed'}, op installed = .ok (r, installed') →
      Option.Rel Keeps installed installed')
    (h : i.operate op = .ok (r, i')) : Passes i.thread.installed i'.thread.installed := by
  obtain ⟨⟨_, thread⟩, operated, h⟩ := ok_of_bind h
  obtain ⟨⟨_, installed⟩, done, operated⟩ := ok_of_bind operated
  cases operated
  cases h
  refine passes_collect ?_
  dsimp only
  rw [installed_wake]
  exact .of_rel (keeps done)

theorem passes_change {f : Dispatcher (Tally ε) τ π → Dispatcher (Tally ε) τ π}
    (keeps : ∀ d, Keeps d (f d)) (h : i.change f = .ok i') :
    Passes i.thread.installed i'.thread.installed := by
  obtain ⟨⟨_, i''⟩, operated, h⟩ := ok_of_bind h
  cases h
  refine passes_operate (fun {installed _ _} done => ?_) operated
  cases done
  cases installed with
  | none => exact .none
  | some d => exact .some (keeps d)

theorem passes_launch {α : Type} {occupied : TransportError} {held : List SocketAddress}
    {wanted : SocketAddress}
    {make : SocketAddress → Except Fault (Except TransportError (α × Dispatcher (Tally ε) τ π))}
    {t t' : IoThread (Tally ε) τ π} {r : Except TransportError α}
    (numbered : ∀ {address r d}, make address = .ok (.ok (r, d)) → Numbered d)
    (h : t.launch occupied held wanted make = .ok (r, t')) : Passes t.installed t'.installed := by
  unfold IoThread.launch at h
  split at h
  · cases h
    exact .refl _
  · rename_i vacant
    have none_ : t.installed = none := by simpa using vacant
    split at h
    · cases h
      exact .refl _
    · obtain ⟨made, making, h⟩ := ok_of_bind h
      cases made with
      | error e =>
        cases h
        exact .refl _
      | ok made =>
        cases h
        rw [none_]
        exact .installed (numbered making)

end Instance

/-! ## New dispatchers -/

variable [Endpoint ε τ π]

theorem nextSession_dispatcher (l : Launch (VisitorOf k)) (address : SocketAddress) :
    (l.dispatcher address : Dispatcher (Tally ε) τ π).nextSession = ⟨1⟩ := by
  unfold Launch.dispatcher
  rw [(keeps_install _ _).next]
  rfl

theorem numbered_dispatcher (l : Launch (VisitorOf k)) (address : SocketAddress) :
    Numbered (l.dispatcher address : Dispatcher (Tally ε) τ π) := by
  have unmade : (l.dispatcher address : Dispatcher (Tally ε) τ π).endpoint.made = 0 := by
    unfold Launch.dispatcher
    rw [(keeps_install _ _).made]
    dsimp only [Dispatcher.setMaxReads, Dispatcher.new]
    split <;> rfl
  refine ⟨?_, fun id mem => ?_⟩
  · unfold Dispatcher.Counts
    rw [unmade, nextSession_dispatcher]
    rfl
  · have none_ := (keeps_install _ _).keys id mem
    cases none_

variable [Transport τ]

theorem numbered_make {now : Instant} {l : Launch (VisitorOf k)} {address : SocketAddress}
    {r : SocketAddress × Option SessionHandle} {d : Dispatcher (Tally ε) τ π}
    (h : l.make now address = .ok (.ok (r, d))) : Numbered d := by
  unfold Launch.make at h
  split at h
  · cases h
    exact numbered_dispatcher l address
  · rename_i remote name target
    obtain ⟨⟨connected, d'⟩, begun, h⟩ := ok_of_bind h
    have grows := Dispatcher.covering_grows.connect begun
    cases connected with
    | error e => cases h
    | ok id =>
      dsimp only at h
      split at h
      · cases h
        exact (numbered_dispatcher l address).grows grows
      · cases h

/-! ## Moves -/

namespace Instance

variable {i i' : Instance (VisitorOf k) (Tally ε) τ π}

theorem passes_stop {now : Instant} {t t' : IoThread (Tally ε) τ π}
    {taken : Option (Dispatcher (Tally ε) τ π)} (h : t.stop now = .ok (taken, t')) :
    Passes t.installed t'.installed := by
  unfold IoThread.stop at h
  split at h
  · cases h
    exact .refl _
  · rename_i d installed
    obtain ⟨d', -, h⟩ := ok_of_bind h
    cases h
    rw [installed]
    exact .taken d

theorem passes_perform {now : Instant} {held : List SocketAddress} {task : Task (VisitorOf k)}
    (h : i.perform now held task = .ok i') : Passes i.thread.installed i'.thread.installed := by
  cases task with
  | useVisitor v => exact passes_change (keeps_install (some v)) h
  | useListener l =>
    exact passes_change (f := Dispatcher.setListener (some l)) (fun _ => .of_eq rfl rfl rfl) h
  | launch l =>
    obtain ⟨⟨r, thread⟩, launched, h⟩ := ok_of_bind h
    cases h
    exact passes_collect (passes_launch numbered_make launched)
  | stop =>
    obtain ⟨⟨taken, thread⟩, stopped, h⟩ := ok_of_bind h
    cases h
    exact passes_stop stopped
  | send session stream data =>
    obtain ⟨⟨sent, i''⟩, operated, h⟩ := ok_of_bind h
    cases h
    refine passes_operate (fun {installed _ _} done => ?_) operated
    cases installed with
    | none =>
      cases done
      exact .none
    | some d =>
      dsimp only at done
      obtain ⟨⟨_, d'⟩, sending, done⟩ := ok_of_bind done
      cases done
      exact .some (Dispatcher.spanning_keeps.sendTo sending)

theorem grows_serve {now : Instant} {w : Wakeup π} {d d' : Dispatcher (Tally ε) τ π}
    (h : IoThread.serve now w d = .ok d') : Grows d d' := by
  cases w with
  | packets arrived => exact Dispatcher.covering_grows.loop Dispatcher.covering_grows.receive h
  | deadline => exact (Dispatcher.spanning_keeps.timeout h).grows
  | told =>
    cases h
    exact .refl d

theorem passes_resume {now : Instant} {socket : SocketAddress} {w : Wakeup π}
    {t t' : IoThread (Tally ε) τ π} (h : t.resume now socket w = .ok t') :
    Passes t.installed t'.installed := by
  unfold IoThread.resume at h
  split at h
  · obtain ⟨installed, served, h⟩ := ok_of_bind h
    obtain ⟨looked, -, h⟩ := ok_of_bind h
    cases h
    cases was : t.installed with
    | none =>
      rw [was] at served
      cases served
      exact .empty
    | some d =>
      rw [was] at served
      have served : (IoThread.serve now w d >>= fun d' => .ok (some d')) = .ok installed := served
      obtain ⟨d', done, served⟩ := ok_of_bind served
      cases served
      exact .goesOn (grows_serve done)
  · cases h
    exact .refl _

theorem passes_step (i : Instance (VisitorOf k) (Tally ε) τ π) (x : Move k π) :
    Passes i.thread.installed (i.step x).thread.installed := by
  have crashed : Passes i.thread.installed (none : Option (Dispatcher (Tally ε) τ π)) := by
    cases i.thread.installed with
    | none => exact .empty
    | some d => exact .taken d
  cases x with
  | keepVisitor v => exact .refl _
  | keepListener l => exact .refl _
  | post task => exact .refl _
  | work now held =>
    unfold step workOne
    dsimp only
    split
    · exact .refl _
    · split
      · rename_i done
        have passed := passes_perform done
        exact passed
      · exact crashed
  | resume now socket w =>
    unfold step Instance.resume
    dsimp only
    split
    · rename_i resumed
      exact passes_collect (passes_resume resumed)
    · exact crashed
  | session now h r =>
    unfold step
    dsimp only
    split
    · rename_i operated
      exact passes_operate Scenario.SessionRequest.keeps_run operated
    · exact .refl _
  | stream now h r =>
    unfold step
    dsimp only
    split
    · rename_i operated
      exact passes_operate Scenario.StreamRequest.keeps_run operated
    · exact .refl _
  | deliver => exact .refl _
  | takeLaunched => exact .refl _
  | transmit => exact Passes.then_keeps (.refl _) fun _ => .of_eq rfl rfl rfl
  | close => exact .refl _
  | leave => exact crashed
  | crash => exact crashed

/-! ## Runs -/

/-- At some point of the moves a new dispatcher is installed. -/
def Relaunched (i : Instance (VisitorOf k) (Tally ε) τ π) (moves : List (Move k π)) : Prop :=
  ∃ before x after, moves = before ++ x :: after ∧ (i.run before).thread.installed = none ∧
    ((i.run before).step x).thread.installed.isSome = true

theorem Relaunched.cons {x : Move k π} {moves : List (Move k π)}
    (h : (i.step x).Relaunched moves) : i.Relaunched (x :: moves) := by
  obtain ⟨before, y, after, rfl, vacant, filled⟩ := h
  exact ⟨x :: before, y, after, rfl, vacant, filled⟩

theorem Relaunched.append {moves : List (Move k π)} (h : i.Relaunched moves)
    (later : List (Move k π)) : i.Relaunched (moves ++ later) := by
  obtain ⟨before, y, after, rfl, vacant, filled⟩ := h
  exact ⟨before, y, after ++ later, by simp, vacant, filled⟩

theorem Relaunched.after {moves : List (Move k π)} {earlier : List (Move k π)}
    (h : (i.run earlier).Relaunched moves) : i.Relaunched (earlier ++ moves) := by
  obtain ⟨before, y, after, rfl, vacant, filled⟩ := h
  refine ⟨earlier ++ before, y, after, by simp, ?_, ?_⟩
  · rw [run_append]
    exact vacant
  · rw [run_append]
    exact filled

theorem numbered_run (numbered : ∀ d, i.thread.installed = some d → Numbered d)
    (moves : List (Move k π)) :
    ∀ d, (i.run moves).thread.installed = some d → Numbered d := by
  induction moves generalizing i with
  | nil => exact numbered
  | cons x moves ih =>
    refine ih fun d installed => ?_
    have passes := passes_step i x
    rw [installed] at passes
    generalize was : i.thread.installed = installed' at passes
    cases passes with
    | goesOn grows => exact (numbered _ was).grows grows
    | installed h => exact h

/-- Unless a new dispatcher is installed, what is there at the end goes on from what was there at the
beginning. -/
theorem run_cases (i : Instance (VisitorOf k) (Tally ε) τ π) (moves : List (Move k π)) :
    i.Relaunched moves ∨ (i.run moves).thread.installed = none ∨
      ∃ d d', i.thread.installed = some d ∧ (i.run moves).thread.installed = some d' ∧ Grows d d' := by
  induction moves generalizing i with
  | nil =>
    cases installed : i.thread.installed with
    | none => exact .inr (.inl installed)
    | some d => exact .inr (.inr ⟨d, d, rfl, installed, .refl d⟩)
  | cons x moves ih =>
    obtain relaunched | none_ | ⟨d, d', was, is, grows⟩ := ih (i.step x)
    · exact .inl relaunched.cons
    · exact .inr (.inl none_)
    · have passes := passes_step i x
      rw [was] at passes
      generalize first : i.thread.installed = installed at passes
      cases passes with
      | goesOn grows' => exact .inr (.inr ⟨_, d', rfl, is, grows'.trans grows⟩)
      | installed h => exact .inl ⟨[], x, moves, rfl, first, by simp [run, was]⟩

/-- A number that was given up is given out again only by a new dispatcher, or after a full round. -/
theorem round_of_registered {id : SessionId} {during later : List (Move k π)}
    (numbered : ∀ d, i.thread.installed = some d → Numbered d)
    (there : Registered id i.thread.installed) (gone : ¬ Registered id (i.run during).thread.installed)
    (back : Registered id ((i.run during).run later).thread.installed) :
    i.Relaunched (during ++ later) ∨
      ∃ d, ((i.run during).run later).thread.installed = some d ∧ UInt32.size < d.endpoint.made := by
  obtain ⟨d, first, there⟩ := there
  obtain ⟨d'', last, back⟩ := back
  obtain relaunched | none_ | ⟨e', e'', middle, end_, grows'⟩ := run_cases (i.run during) later
  · exact .inl relaunched.after
  · rw [none_] at last
    cases last
  · obtain relaunched | none_ | ⟨e, e₁, beginning, middle', grows⟩ := run_cases i during
    · exact .inl (relaunched.append later)
    · rw [none_] at middle
      cases middle
    -- one dispatcher throughout: its numbers went round
    · obtain rfl : e = d := Option.some.inj (beginning.symm.trans first)
      obtain rfl : e' = e₁ := Option.some.inj (middle.symm.trans middle')
      obtain rfl : e'' = d'' := Option.some.inj (end_.symm.trans last)
      have absent : id ∉ e'.sessions.keys := fun mem => gone ⟨e', middle, mem⟩
      exact .inr ⟨e'', last, (numbered e first).round grows grows' there absent back⟩

/-- Take any run of an instance during which a session is removed. Whatever happens later, requests
through its handles do nothing if and only if no session has its number; and one has only if a new
dispatcher was installed since, or if the dispatcher made more connections than there are numbers. -/
theorem stale_handle_inert_iff (name : String) (before during later : List (Move k π))
    (id : SessionId) :
    let i := (Instance.new name : Instance (VisitorOf k) (Tally ε) τ π).run before
    let i' := (i.run during).run later
    Registered id i.thread.installed → ¬ Registered id (i.run during).thread.installed →
      (Inert id i'.thread.installed ↔ ¬ Registered id i'.thread.installed) ∧
      (Registered id i'.thread.installed → i.Relaunched (during ++ later) ∨
        ∃ d, i'.thread.installed = some d ∧ UInt32.size < d.endpoint.made) := by
  intro i i' there gone
  refine ⟨inert_iff, round_of_registered (fun d installed => ?_) there gone⟩
  refine numbered_run (fun d installed => ?_) before d installed
  cases installed

/-! ## A client that starts again -/

/-- Starting a client whose server is on the same host. -/
def loopbackStart : List (Move .client Wire.Payload) :=
  [.post (.launch (Client.launchOf .default Scenario.commonSettings Scenario.serverAddress)),
    .work 0 []]

def stopNow : List (Move .client Wire.Payload) := [.post .stop, .work 0 []]

/-- The client after its first start. -/
def loopbackClient : Instance (VisitorOf .client) (Tally Wire.Station) Wire.Connection Wire.Payload :=
  (Instance.new "client").run loopbackStart

/-- The handle of the first session does nothing after the stop, and does something again after the
next start. -/
theorem stale_handle_inert_iff_loopback :
    Registered ⟨1⟩ loopbackClient.thread.installed ∧
      ¬ Registered ⟨1⟩ (loopbackClient.run stopNow).thread.installed ∧
      Inert ⟨1⟩ (loopbackClient.run stopNow).thread.installed ∧
      ¬ Inert ⟨1⟩ ((loopbackClient.run stopNow).run loopbackStart).thread.installed ∧
      loopbackClient.Relaunched (stopNow ++ loopbackStart) := by
  have there : Registered ⟨1⟩ loopbackClient.thread.installed := by decide +kernel
  have gone : ¬ Registered ⟨1⟩ (loopbackClient.run stopNow).thread.installed := by decide +kernel
  have back : Registered ⟨1⟩ ((loopbackClient.run stopNow).run loopbackStart).thread.installed := by
    decide +kernel
  have one : (((loopbackClient.run stopNow).run loopbackStart).thread.installed.map
      fun d => d.endpoint.made) = some 1 := by decide +kernel
  have started : (Instance.new "client").run loopbackStart = loopbackClient := rfl
  have again :=
    stale_handle_inert_iff (ε := Wire.Station) "client" loopbackStart stopNow loopbackStart ⟨1⟩
  dsimp only at again
  rw [started] at again
  obtain ⟨inert_iff', renumbered⟩ := again there gone
  refine ⟨there, gone, inert_iff.2 gone, fun inert => inert_iff'.1 inert back, ?_⟩
  obtain relaunched | ⟨d, installed, round⟩ := renumbered back
  · exact relaunched
  · rw [installed] at one
    have made : d.endpoint.made = 1 := Option.some.inj one
    rw [made] at round
    exact absurd round (by decide)

/-- The handle of the first session tells the stage of the second one. -/
theorem stale_handle_reaches_next_session :
    let handle : SessionHandle := ⟨⟨1⟩, ⟨0⟩, .client⟩
    let answer (i : Instance (VisitorOf .client) (Tally Wire.Station) Wire.Connection Wire.Payload) :=
      (handle.state 0 i.thread.installed).toOption.map Prod.fst
    (loopbackClient.launched.bind Except.toOption).bind Prod.snd = some handle ∧
      answer (loopbackClient.run stopNow) = some .closed ∧
      answer ((loopbackClient.run stopNow).run loopbackStart) = some .handshakeInProgress := by
  decide +kernel

end Instance

end QuicSessions
