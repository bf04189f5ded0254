import QuicSessions.Proofs.Sessions.Retention
import QuicSessions.Wire.Connection

/-!
# Grants of credit

The peer grants credit for more streams, and the transport counts it. A session that waits for credit has
to be told of every grant. That the in-memory engine does so is proved here: it counts a grant and queues
the report of it at once, keeps the reports until they are taken, and gives out all of them in turn.
-/

set_option autoImplicit false

namespace QuicSessions

/-! ## Calls -/

namespace Transport

variable {τ : Type} [Transport τ]

/-- A call of a session to its transport, other than for the next report. -/
inductive Call : τ → τ → Prop where
  | openStream {dir : Dir} {id : StreamId} {t t' : τ} (h : openStream dir t = some (id, t')) : Call t t'
  | acceptStream {dir : Dir} {id : StreamId} {t t' : τ} (h : acceptStream dir t = some (id, t')) :
      Call t t'
  | write {id : StreamId} {data : Bytes} {t t' : τ} {answer : WriteAnswer data.length}
      (h : write id data t = (answer, t')) : Call t t'
  | finish {id : StreamId} {t t' : τ} {answer : FinishAnswer} (h : finish id t = (answer, t')) : Call t t'
  | reset (id : StreamId) (code : Nat) (t : τ) : Call t (reset id code t)
  | stop (id : StreamId) (code : Nat) (t : τ) : Call t (stop id code t)
  | beginRead {id : StreamId} {t t' : τ} (h : beginRead id t = some t') : Call t t'
  | nextRegion {id : StreamId} {limit : Nat} {t t' : τ} {answer : ReadAnswer limit}
      (h : nextRegion id limit t = (answer, t')) : Call t t'
  | endRead (id : StreamId) (t : τ) : Call t (endRead id t)
  | receiveDatagram {data : Bytes} {t t' : τ} (h : receiveDatagram t = some (data, t')) : Call t t'
  | sendDatagram (data : Bytes) (t : τ) : Call t (sendDatagram data t).2
  | ping (t : τ) : Call t (ping t)
  | close (now : Instant) (code : Nat) (reason : Bytes) (t : τ) : Call t (close now code reason t)
  | timeout (now : Instant) (t : τ) : Call t (timeout now t)

/-- Any number of calls, one after the other. -/
def Calls : τ → τ → Prop := Relation.ReflTransGen Call

namespace Calls

theorem refl (t : τ) : Calls t t := Relation.ReflTransGen.refl

theorem trans {t t' t'' : τ} (h : Calls t t') (h' : Calls t' t'') : Calls t t'' :=
  Relation.ReflTransGen.trans h h'

theorem one {t t' : τ} (h : Call t t') : Calls t t' := Relation.ReflTransGen.single h

theorem then_call {t t' t'' : τ} (h : Calls t t') (h' : Call t' t'') : Calls t t'' :=
  Relation.ReflTransGen.tail h h'

end Calls

theorem retaining_calls (t : τ) : ReactingRetains (Calls t) where
  write h calls := calls.then_call (.write h)
  finish h calls := calls.then_call (.finish h)
  beginRead h calls := calls.then_call (.beginRead h)
  nextRegion h calls := calls.then_call (.nextRegion h)
  endRead calls := calls.then_call (.endRead _ _)
  acceptStream h calls := calls.then_call (.acceptStream h)
  reset calls := calls.then_call (.reset _ _ _)
  stop calls := calls.then_call (.stop _ _ _)
  receiveDatagram h calls := calls.then_call (.receiveDatagram h)
  close calls := calls.then_call (.close _ _ _ _)

/-! ## Transports that tell of every grant -/

/-- The report waits: it is the next that the session takes, or it comes after that one. -/
inductive Waits (e : Event) : τ → Prop where
  | next {t t' : τ} (h : poll t = some (e, t')) : Waits e t
  | later {t t' : τ} {e' : Event} (h : poll t = some (e', t')) (rest : Waits e t') : Waits e t

/-- Of two reports that wait, the session takes one first. -/
theorem Waits.after {t t' : τ} {e e' : Event} (waits : Waits e t) (polled : poll t = some (e', t'))
    (other : e' ≠ e) : Waits e t' := by
  cases waits with
  | next h =>
    rw [polled] at h
    cases h
    exact absurd rfl other
  | later h rest =>
    rw [polled] at h
    cases h
    exact rest

/-- From one state to another no credit is raised without a report of it, and no such report is lost. -/
structure Announced (t t' : τ) : Prop where
  raised : ∀ dir, openStream dir t = none → openStream dir t' ≠ none → Waits (.available dir) t'
  kept : ∀ dir, Waits (.available dir) t → Waits (.available dir) t'

/-- The peer's grants come with a report each: no call of the session raises its credit silently or loses
a report of more, and taking a report raises nothing. -/
class GrantsAloud (τ : Type) [Transport τ] : Prop where
  calls : ∀ {t t' : τ}, Call t t' → Announced t t'
  polls : ∀ {t t' : τ} {e : Event} {dir : Dir}, poll t = some (e, t') → openStream dir t = none →
    openStream dir t' = none

/-- In this direction there is no credit, or a report of more waits. -/
def Settled (dir : Dir) (t : τ) : Prop := openStream dir t = none ∨ Waits (.available dir) t

theorem Announced.settled {t t' : τ} {dir : Dir} (announced : Announced t t') (settled : Settled dir t) :
    Settled dir t' := by
  obtain dry | waits := settled
  · by_cases still : openStream dir t' = none
    · exact .inl still
    · exact .inr (announced.raised dir dry still)
  · exact .inr (announced.kept dir waits)

section Grants

variable [GrantsAloud τ] {t t' : τ} {dir : Dir}

theorem Calls.keeps_waiting (calls : Calls t t') (waits : Waits (.available dir) t) :
    Waits (.available dir) t' := by
  induction calls with
  | refl => exact waits
  | tail _ call ih => exact (GrantsAloud.calls call).kept dir ih

theorem Calls.settled (calls : Calls t t') (settled : Settled dir t) : Settled dir t' := by
  induction calls with
  | refl => exact settled
  | tail _ call ih => exact (GrantsAloud.calls call).settled ih

/-- Taking another report changes nothing about the credit. -/
theorem settled_of_poll {e : Event} (polled : poll t = some (e, t')) (other : e ≠ .available dir)
    (settled : Settled dir t) : Settled dir t' := by
  obtain dry | waits := settled
  · exact .inl (GrantsAloud.polls polled dry)
  · exact .inr (waits.after polled other)

end Grants

end Transport

/-! ## The streams of the engine -/

namespace Wire

namespace Streams

/-- The same reports are queued, the same credit is granted, and no less of it is used up. -/
structure SameGrants (s s' : Streams) : Prop where
  events : s'.events = s.events
  allowed : s'.allowed = s.allowed
  opened : ∀ dir, s.opened.get dir ≤ s'.opened.get dir

namespace SameGrants

variable {s s' s'' : Streams}

theorem of_eq (events : s'.events = s.events) (allowed : s'.allowed = s.allowed)
    (opened : s'.opened = s.opened) : SameGrants s s' :=
  ⟨events, allowed, fun dir => Nat.le_of_eq (congrArg (PerDir.get · dir) opened.symm)⟩

theorem refl (s : Streams) : SameGrants s s := of_eq rfl rfl rfl

theorem trans (h : SameGrants s s') (h' : SameGrants s' s'') : SameGrants s s'' :=
  ⟨h'.events.trans h.events, h'.allowed.trans h.allowed,
    fun dir => Nat.le_trans (h.opened dir) (h'.opened dir)⟩

theorem freeRecv (id : StreamId) (s : Streams) : SameGrants s (s.freeRecv id) := by
  unfold Streams.freeRecv replaceRemote
  dsimp only
  split
  · split <;> exact of_eq rfl rfl rfl
  · exact of_eq rfl rfl rfl

theorem openStream {dir : Dir} {id : StreamId} (h : s.openStream dir = some (id, s')) :
    SameGrants s s' := by
  unfold Streams.openStream at h
  dsimp only at h
  split at h
  · cases h
    refine ⟨rfl, rfl, fun dir' => ?_⟩
    dsimp only
    rw [PerDir.get_set]
    split
    · rename_i same
      rw [same]
      exact Nat.le_succ _
    · exact Nat.le_refl _
  · cases h

theorem acceptStream {dir : Dir} {id : StreamId} (h : s.acceptStream dir = some (id, s')) :
    SameGrants s s' := by
  unfold Streams.acceptStream at h
  dsimp only at h
  split at h
  · cases h
    exact of_eq rfl rfl rfl
  · cases h

theorem writable (id : StreamId) (s : Streams) : SameGrants s (s.writable id).2 := by
  unfold Streams.writable
  split
  · exact refl s
  · split
    · split <;> exact of_eq rfl rfl rfl
    · split
      · exact refl s
      · split
        · exact refl s
        · split <;> exact refl s

theorem append (id : StreamId) (data : Bytes) (s : Streams) : SameGrants s (s.append id data) := by
  unfold Streams.append
  split <;> exact of_eq rfl rfl rfl

theorem write (id : StreamId) (data : Bytes) (s : Streams) : SameGrants s (s.write id data).2 := by
  have first := writable id s
  unfold Streams.write
  split
  · rename_i found
    rwa [found] at first
  · rename_i found
    rwa [found] at first
  · rename_i found
    rwa [found] at first
  · rename_i found
    rw [found] at first
    split
    · exact first.trans (append ..)
    · exact first

theorem finish (id : StreamId) (s : Streams) : SameGrants s (s.finish id).2 := by
  unfold Streams.finish
  split
  · exact refl s
  · split
    · exact refl s
    · split <;> exact of_eq rfl rfl rfl

theorem reset (id : StreamId) (code : Nat) (s : Streams) : SameGrants s (s.reset id code).2 := by
  unfold Streams.reset
  split
  · exact refl s
  · split <;> exact of_eq rfl rfl rfl

theorem stop (id : StreamId) (code : Nat) (s : Streams) : SameGrants s (s.stop id code).2 := by
  unfold Streams.stop
  split
  · exact refl s
  · rename_i h _
    split
    · exact refl s
    · have marked : SameGrants s (if h.reset.isNone then
          { s.setRecv id { h with stopped := true, segments := [] } with
            control := s.control ++ [.stop id code] }
          else s.setRecv id { h with stopped := true, segments := [] }) := by
        split <;> exact of_eq rfl rfl rfl
      dsimp only
      split
      · exact marked
      · exact marked.trans (freeRecv id _)

theorem beginRead {id : StreamId} (h : s.beginRead id = some s') : SameGrants s s' := by
  unfold Streams.beginRead at h
  split at h
  · cases h
  · split at h <;> cases h
    exact refl s

theorem nextRegion (id : StreamId) (limit : Nat) (s : Streams) :
    SameGrants s (s.nextRegion id limit).2 := by
  unfold Streams.nextRegion
  split
  · exact refl s
  · split
    · split
      · exact of_eq rfl rfl rfl
      · split
        · exact freeRecv id s
        · split
          · exact freeRecv id s
          · exact refl s
    · exact refl s

theorem noteStreams (s : Streams) : SameGrants s s.noteStreams := by
  unfold Streams.noteStreams Dir.all
  simp only [List.foldl_cons, List.foldl_nil]
  split <;> split <;> exact of_eq rfl rfl rfl

theorem endRead (id : StreamId) (s : Streams) : SameGrants s (s.endRead id) := by
  have noted := noteStreams s
  unfold Streams.endRead
  dsimp only
  split
  · exact noted
  · split
    · exact noted.trans (of_eq rfl rfl rfl)
    · exact noted

end SameGrants

/-- How many reports a transport can still make at most before something else happens. -/
def due (s : Streams) : Nat :=
  s.events.length + s.waiting.length + s.newcomers.bi.toNat + s.newcomers.uni.toNat

/-- Waking a stream touches nothing but who waits. -/
theorem wake_frame (waiting : List StreamId) (s : Streams) :
    (wake waiting s).2.events = s.events ∧ (wake waiting s).2.allowed = s.allowed ∧
      (wake waiting s).2.opened = s.opened ∧ (wake waiting s).2.newcomers = s.newcomers ∧
      (wake waiting s).2.waiting.length + (wake waiting s).1.isSome.toNat ≤ waiting.length := by
  induction waiting generalizing s with
  | nil => exact ⟨rfl, rfl, rfl, rfl, Nat.le_refl _⟩
  | cons id rest ih =>
    unfold wake
    split
    · obtain ⟨events, allowed, opened, newcomers, less⟩ := ih s
      exact ⟨events, allowed, opened, newcomers, Nat.le_succ_of_le less⟩
    · rename_i h _
      dsimp only
      split
      · exact ⟨rfl, rfl, rfl, rfl, Nat.le_refl _⟩
      · obtain ⟨events, allowed, opened, newcomers, less⟩ := ih (s.setSend id { h with waiting := false })
        exact ⟨events, allowed, opened, newcomers, Nat.le_succ_of_le less⟩

/-- A report is taken off the queue, or it is of something else than a grant and the queue stays. -/
structure Polled (e : Event) (s s' : Streams) : Prop where
  queue : s.events = e :: s'.events ∨ s'.events = s.events ∧ ∀ dir, e ≠ .available dir
  allowed : s'.allowed = s.allowed
  opened : s'.opened = s.opened
  less : s'.due < s.due

theorem polled_events {s s' : Streams} {e : Event} (h : s.pollEvents = some (e, s')) : Polled e s s' := by
  unfold pollEvents at h
  split at h
  · cases h
  · rename_i e' rest events
    cases h
    refine ⟨.inl events, rfl, rfl, ?_⟩
    unfold due
    rw [events, List.length_cons]
    dsimp only
    omega

theorem polled_poll {s s' : Streams} {e : Event} (h : s.poll = some (e, s')) : Polled e s s' := by
  unfold poll at h
  split at h
  · rename_i bi
    cases h
    refine ⟨.inr ⟨rfl, nofun⟩, rfl, rfl, ?_⟩
    unfold due PerDir.set
    dsimp only
    rw [bi, Bool.toNat_true, Bool.toNat_false]
    omega
  split at h
  · rename_i uni
    cases h
    refine ⟨.inr ⟨rfl, nofun⟩, rfl, rfl, ?_⟩
    unfold due PerDir.set
    dsimp only
    rw [uni, Bool.toNat_true, Bool.toNat_false]
    omega
  split at h
  · obtain ⟨events, allowed, opened, newcomers, less⟩ := wake_frame s.waiting s
    split at h
    · rename_i id s₁ woken
      rw [woken] at events allowed opened newcomers less
      cases h
      refine ⟨.inr ⟨events, nofun⟩, allowed, opened, ?_⟩
      dsimp only at events newcomers less
      rw [Option.isSome_some, Bool.toNat_true] at less
      unfold due
      rw [events, newcomers]
      omega
    · rename_i s₁ asleep
      rw [asleep] at events allowed opened newcomers less
      have polled := polled_events h
      dsimp only at events newcomers allowed opened less
      have same : s₁.due ≤ s.due := by
        unfold due
        rw [events, newcomers]
        omega
      exact ⟨events ▸ polled.queue, polled.allowed.trans allowed, polled.opened.trans opened,
        Nat.lt_of_lt_of_le polled.less same⟩
  · exact polled_events h

theorem events_of_poll_none {s : Streams} (h : s.poll = none) : s.events = [] := by
  have empty {s : Streams} (h : s.pollEvents = none) : s.events = [] := by
    unfold pollEvents at h
    split at h
    · assumption
    · cases h
  unfold poll at h
  split at h
  · cases h
  split at h
  · cases h
  split at h
  · have frame := (wake_frame s.waiting s).1
    split at h
    · cases h
    · rename_i s₁ asleep
      rw [asleep] at frame
      exact frame.symm.trans (empty h)
  · exact empty h

end Streams

/-! ## The engine -/

namespace Connection

/-- The reports that are queued, first those about the connection. -/
def queued (c : Connection) : List Event := c.reports ++ c.streams.events

/-- The same reports are queued, and no more credit is left. -/
structure SameGrants (c c' : Connection) : Prop where
  reports : c'.reports = c.reports
  streams : c.streams.SameGrants c'.streams
  closed : c.isClosed = true → c'.isClosed = true

namespace SameGrants

variable {c c' c'' : Connection}

theorem refl (c : Connection) : SameGrants c c := ⟨rfl, .refl _, fun closed => closed⟩

theorem trans (h : SameGrants c c') (h' : SameGrants c' c'') : SameGrants c c'' :=
  ⟨h'.reports.trans h.reports, h.streams.trans h'.streams, fun closed => h'.closed (h.closed closed)⟩

theorem of_streams {streams : Streams} (h : c.streams.SameGrants streams) :
    SameGrants c { c with streams := streams } := ⟨rfl, h, fun closed => closed⟩

theorem queued (h : SameGrants c c') : c'.queued = c.queued := by
  unfold Connection.queued
  rw [h.reports, h.streams.events]

end SameGrants

theorem openStream_eq_none_iff {c : Connection} {dir : Dir} :
    c.openStream dir = none ↔ c.isClosed = true ∨ c.streams.allowed.get dir ≤ c.streams.opened.get dir := by
  unfold openStream Streams.openStream
  dsimp only
  split
  · simp [*]
  · split
    · simp [*]
    · simp [*]
      omega

theorem SameGrants.openStream {c c' : Connection} {dir : Dir} (h : SameGrants c c')
    (dry : c.openStream dir = none) : c'.openStream dir = none := by
  rw [openStream_eq_none_iff] at dry ⊢
  obtain closed | full := dry
  · exact .inl (h.closed closed)
  · rw [h.streams.allowed]
    exact .inr (Nat.le_trans full (h.streams.opened dir))

theorem sameGrants_close (now : Instant) (code : Nat) (reason : Bytes) (c : Connection) :
    SameGrants c (c.close now code reason) := by
  unfold close
  split
  · exact ⟨rfl, .refl _, fun closed => closed⟩
  · exact ⟨rfl, .refl _, fun _ => rfl⟩

theorem sameGrants_timeout (now : Instant) (c : Connection) : SameGrants c (c.timeout now) := by
  have probed : SameGrants c (if Connection.due c.probeAt now then c.probe else c) := by
    split
    · exact ⟨rfl, .refl _, fun closed => closed⟩
    · exact .refl c
  unfold timeout
  dsimp only
  generalize (if Connection.due c.probeAt now then c.probe else c) = c₁ at probed ⊢
  have dropped : SameGrants c (if Connection.due c₁.idleAt now then c₁.drop .timedOut else c₁) := by
    split
    · exact probed.trans ⟨rfl, .refl _, fun _ => rfl⟩
    · exact probed
  generalize (if Connection.due c₁.idleAt now then c₁.drop .timedOut else c₁) = c₂ at dropped ⊢
  split
  · exact dropped.trans ⟨rfl, .refl _, fun _ => rfl⟩
  · exact dropped

/-- No call raises the credit of the engine, and none touches its queue. -/
theorem sameGrants_call {c c' : Connection} (call : Transport.Call c c') : SameGrants c c' := by
  cases call with
  | openStream h =>
    have opened : c.openStream _ = some (_, c') := h
    unfold openStream at opened
    split at opened
    · cases opened
    · obtain ⟨⟨id, streams⟩, made, same⟩ := Option.map_eq_some_iff.1 opened
      cases same
      exact .of_streams (.openStream made)
  | acceptStream h =>
    obtain ⟨⟨id, streams⟩, accepted, same⟩ := Option.map_eq_some_iff.1 h
    cases same
    exact .of_streams (.acceptStream accepted)
  | @write id data _ _ answer h =>
    have written : c.write id data = (answer, c') := h
    unfold write at written
    split at written
    · cases written
      exact .refl c
    · cases written
      exact .of_streams (.write id data _)
  | @finish id _ _ answer h =>
    cases h
    exact .of_streams (.finish id _)
  | reset id code => exact .of_streams (.reset id code _)
  | stop id code => exact .of_streams (.stop id code _)
  | beginRead h =>
    obtain ⟨streams, begun, rfl⟩ := Option.map_eq_some_iff.1 h
    exact .of_streams (.beginRead begun)
  | @nextRegion id limit _ _ answer h =>
    cases h
    exact .of_streams (.nextRegion id limit _)
  | endRead id => exact .of_streams (.endRead id _)
  | @receiveDatagram data _ _ h =>
    have received : c.receiveDatagram = some (data, c') := h
    unfold receiveDatagram at received
    split at received
    · cases received
    · cases received
      exact ⟨rfl, .refl _, fun closed => closed⟩
  | sendDatagram data =>
    show SameGrants c (c.sendDatagram data).2
    unfold sendDatagram
    split
    · exact ⟨rfl, .refl _, fun closed => closed⟩
    · exact .refl c
  | ping => exact ⟨rfl, .refl _, fun closed => closed⟩
  | close now code reason => exact sameGrants_close now code reason c
  | timeout now => exact sameGrants_timeout now c

/-! ## Reports of the engine -/

/-- Taking a report takes it off the queue, or it is of something else than a grant. Nothing is granted
and nothing is used up by it, and the reports come to an end. -/
theorem poll_cases {c c' : Connection} {e : Event} (h : c.poll = some (e, c')) :
    (c.queued = e :: c'.queued ∨ c'.queued = c.queued ∧ ∀ dir, e ≠ .available dir) ∧
      (∀ dir, c.openStream dir = none → c'.openStream dir = none) ∧
      c'.reports.length + c'.streams.due + c'.cause.isSome.toNat <
        c.reports.length + c.streams.due + c.cause.isSome.toNat := by
  unfold poll at h
  split at h
  · rename_i e' rest reports
    cases h
    refine ⟨.inl ?_, fun dir dry => ?_, ?_⟩
    · unfold queued
      rw [reports]
      rfl
    · rw [openStream_eq_none_iff] at dry ⊢
      exact dry
    · rw [reports, List.length_cons]
      dsimp only
      omega
  · rename_i reports
    split at h
    · rename_i e' streams polled
      cases h
      obtain ⟨queue, allowed, opened, less⟩ := Streams.polled_poll polled
      refine ⟨?_, fun dir dry => ?_, ?_⟩
      · unfold queued
        rw [reports]
        exact queue
      · rw [openStream_eq_none_iff] at dry ⊢
        dsimp only
        rw [allowed, opened]
        exact dry
      · dsimp only
        omega
    · obtain ⟨cause, lost, same⟩ := Option.map_eq_some_iff.1 h
      cases same
      refine ⟨.inr ⟨rfl, nofun⟩, fun dir dry => ?_, ?_⟩
      · rw [openStream_eq_none_iff] at dry ⊢
        exact dry
      · rw [lost]
        dsimp only
        rw [Option.isSome_some, Option.isSome_none, Bool.toNat_true, Bool.toNat_false]
        omega

theorem queued_of_poll_none {c : Connection} (h : c.poll = none) : c.queued = [] := by
  unfold poll at h
  split at h
  · cases h
  · rename_i reports
    split at h
    · cases h
    · rename_i none_polled
      unfold queued
      rw [reports, Streams.events_of_poll_none none_polled]
      rfl

/-- The report of a grant waits as long as it is queued. -/
theorem waits_iff_queued {dir : Dir} {c : Connection} :
    Transport.Waits (.available dir) c ↔ .available dir ∈ c.queued := by
  constructor
  · intro waits
    induction waits with
    | next h =>
      obtain queue | ⟨-, other⟩ := (poll_cases h).1
      · rw [queue]
        exact List.mem_cons_self ..
      · exact absurd rfl (other dir)
    | later h rest ih =>
      obtain queue | ⟨queue, -⟩ := (poll_cases h).1
      · rw [queue]
        exact List.mem_cons_of_mem _ ih
      · exact queue ▸ ih
  · intro mem
    -- the queue is emptied in finitely many polls
    induction size : c.reports.length + c.streams.due + c.cause.isSome.toNat using Nat.strong_induction_on
      generalizing c with
    | _ n ih =>
      cases polled : c.poll with
      | none =>
        rw [queued_of_poll_none polled] at mem
        cases mem
      | some next =>
        obtain ⟨e, c'⟩ := next
        obtain ⟨queue, -, less⟩ := poll_cases polled
        have rest (mem : .available dir ∈ c'.queued) : Transport.Waits (.available dir) c :=
          .later polled (ih _ (size ▸ less) mem rfl)
        obtain queue | ⟨queue, -⟩ := queue
        · rw [queue] at mem
          obtain here | later := List.mem_cons.1 mem
          · exact .next (here ▸ polled)
          · exact rest later
        · exact rest (queue ▸ mem)

theorem announced_of_queued {c c' : Connection} (kept : c.queued ⊆ c'.queued)
    (raised : ∀ dir, c.openStream dir = none → c'.openStream dir ≠ none → .available dir ∈ c'.queued) :
    Transport.Announced c c' := by
  refine ⟨fun dir dry credit => ?_, fun dir waits => ?_⟩
  · exact waits_iff_queued.2 (raised dir dry credit)
  · exact waits_iff_queued.2 (kept (waits_iff_queued.1 waits))

/-- The in-memory engine tells of every grant. -/
instance : Transport.GrantsAloud Connection where
  calls call := by
    have same := sameGrants_call call
    refine announced_of_queued ?_ fun dir dry credit => absurd (same.openStream dry) credit
    rw [same.queued]
    exact List.Subset.refl _
  polls polled dry := (poll_cases polled).2.1 _ dry

end Connection

end Wire

end QuicSessions
