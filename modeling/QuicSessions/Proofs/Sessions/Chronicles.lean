import QuicSessions.Proofs.Sessions.Bookkeeping
import QuicSessions.Proofs.Sessions.Namespaces

/-!
# What is told about a stream in a whole run

A chronicle follows a session, those who hear of it and everything that was posted, however often the
owner collects it. The listener may be installed and replaced at any time, and at some time notices may
be taken no more. If the listener is there before the first stream, every stream is told in order.
-/

set_option autoImplicit false

namespace QuicSessions

open Callback Session

/-- Something that happens to a session or to those who hear of it. -/
inductive Happening (τ : Type) where
  /-- An operation is asked for. -/
  | operate (now : Instant) (op : Operation)
  /-- One report of the transport is handled. -/
  | report (now : Instant) (e : Event)
  /-- The transport moves by itself, or its endpoint moves it. -/
  | transport (t : τ)
  /-- The owner takes over what was posted. -/
  | collect
  /-- The listener is installed or replaced. -/
  | listener (l : Listener)
  /-- From here on no notices are taken. -/
  | silence

/-- A session with those who hear of it, and what happened earlier. -/
structure Chronicle (τ : Type) where
  audience : Audience
  past : Past
  session : Session (Register τ)

namespace Chronicle

variable {τ : Type}

/-- A new session. -/
def new [Transport τ] (a : Audience) (id : SessionId) (connection : ConnectionHandle) (t : τ)
    (options : SessionOptions) (now : Instant) : Chronicle τ where
  audience := a
  past := ⟨[], []⟩
  session := .new id connection ⟨t, []⟩ options now

/-- Everything that was posted. -/
def told (c : Chronicle τ) : List Notice := c.past.posted ++ c.session.posted

/-- The callbacks about the stream `id`, in the order in which they were posted. -/
def word (c : Chronicle τ) (id : StreamId) : List Callback := QuicSessions.word c.session.id id c.told

/-- The streams that began. -/
def known (c : Chronicle τ) : List StreamId := c.session.known c.past

/-- No stream began twice, and those opened from here came in the order of their identifiers. -/
def Regular (c : Chronicle τ) : Prop := c.session.Regular c.past

/-- The session and what was told of its streams fit together. -/
def Coherent (c : Chronicle τ) : Prop := c.session.Coherent c.audience c.past

variable [Transport τ]

def step (c : Chronicle τ) : Happening τ → Chronicle τ
  | .operate now op =>
    match op.run c.audience now c.session with
    | .ok (answer, s) =>
      { c with session := s, past := { c.past with requested := c.past.requested ++ op.tookIn answer } }
    | .error _ => c
  | .report now e =>
    match c.session.react c.audience now e with
    | .ok s => { c with session := s }
    | .error _ => c
  | .transport t => { c with session := { c.session with transport := c.session.transport.moved t } }
  | .collect =>
    { c with
      past := { c.past with posted := c.told }
      session := { c.session with posted := [] } }
  | .listener l => { c with audience := { c.audience with listener := some l } }
  | .silence => { c with audience := { c.audience with taken := false } }

section Step

variable {c : Chronicle τ} {now : Instant} {op : Operation} {e : Event} {answer : Answer}
  {s : Session (Register τ)} {fault : Fault}

theorem step_operate (done : op.run c.audience now c.session = .ok (answer, s)) :
    c.step (.operate now op) =
      { c with session := s, past := { c.past with requested := c.past.requested ++ op.tookIn answer } } := by
  unfold step
  dsimp only
  rw [done]

theorem step_operate_of_fault (done : op.run c.audience now c.session = .error fault) :
    c.step (.operate now op) = c := by
  unfold step
  dsimp only
  rw [done]

theorem step_report (done : c.session.react c.audience now e = .ok s) :
    c.step (.report now e) = { c with session := s } := by
  unfold step
  dsimp only
  rw [done]

theorem step_report_of_fault (done : c.session.react c.audience now e = .error fault) :
    c.step (.report now e) = c := by
  unfold step
  dsimp only
  rw [done]

end Step

def run (c : Chronicle τ) (happened : List (Happening τ)) : Chronicle τ := happened.foldl step c

theorem run_append (c : Chronicle τ) (before after : List (Happening τ)) :
    c.run (before ++ after) = (c.run before).run after := List.foldl_append

/-! ## What grows -/

/-- Later in a run: more was posted, and more is known of where streams come from. -/
structure Later (c c' : Chronicle τ) : Prop where
  id : c'.session.id = c.session.id
  side : c'.session.side = c.session.side
  told : c.told <+: c'.told
  requested : c.past.requested <+: c'.past.requested
  entries : c.session.transport.entries <+: c'.session.transport.entries
  attended : c.audience.listener.isSome = true → c'.audience.listener.isSome = true

namespace Later

variable {c c' c'' : Chronicle τ}

omit [Transport τ]

theorem refl (c : Chronicle τ) : Later c c :=
  ⟨rfl, rfl, List.prefix_refl _, List.prefix_refl _, List.prefix_refl _, fun h => h⟩

theorem trans (h : Later c c') (h' : Later c' c'') : Later c c'' :=
  ⟨h'.id.trans h.id, h'.side.trans h.side, h.told.trans h'.told, h.requested.trans h'.requested,
    h.entries.trans h'.entries, fun listens => h'.attended (h.attended listens)⟩

theorem known (h : Later c c') : List.Sublist c.known c'.known := known_sublist h.requested h.entries

theorem known_nil (h : Later c c') (none_began : c'.known = []) : c.known = [] := by
  have fewer := h.known
  rw [none_began, List.sublist_nil] at fewer
  exact fewer

theorem regular (h : Later c c') (regular : c'.Regular) : c.Regular :=
  Session.Regular.of_prefix regular h.requested h.entries h.side

theorem word (h : Later c c') (j : StreamId) : c.word j <+: c'.word j := by
  unfold Chronicle.word
  rw [h.id]
  exact h.told.filterMap _

end Later

theorem later_of_acts {c : Chronicle τ} {s : Session (Register τ)} (acts : Acts c.audience c.session s)
    {requested : List StreamId} (more : c.past.requested <+: requested) :
    Later c { c with session := s, past := { c.past with requested := requested } } where
  id := (sameSession_acts _ acts).id
  side := (sameSession_acts _ acts).side
  told := (List.prefix_append_right_inj _).2 (posted_acts _ acts)
  requested := more
  entries := retains_acts (Register.retains_prefix _) acts (List.prefix_refl _)
  attended listens := listens

theorem later_step {c : Chronicle τ} (named : c.session.Named) (x : Happening τ) :
    Later c (c.step x) := by
  cases x with
  | operate now op =>
    cases done : op.run c.audience now c.session with
    | error fault =>
      rw [step_operate_of_fault done]
      exact .refl c
    | ok result =>
      rw [step_operate done]
      exact later_of_acts (acts_run _ now named done) (List.prefix_append ..)
  | report now e =>
    cases done : c.session.react c.audience now e with
    | error fault =>
      rw [step_report_of_fault done]
      exact .refl c
    | ok s =>
      rw [step_report done]
      exact later_of_acts (course_react _ now done).acts (List.prefix_refl _)
  | transport t =>
    exact ⟨rfl, rfl, List.prefix_refl _, List.prefix_refl _, List.prefix_refl _, fun h => h⟩
  | collect =>
    exact ⟨rfl, rfl, List.prefix_append .., List.prefix_refl _, List.prefix_refl _, fun h => h⟩
  | listener l =>
    exact ⟨rfl, rfl, List.prefix_refl _, List.prefix_refl _, List.prefix_refl _, fun _ => rfl⟩
  | silence =>
    exact ⟨rfl, rfl, List.prefix_refl _, List.prefix_refl _, List.prefix_refl _, fun h => h⟩

/-- To the session itself a step is a sequence of acts, a move of the transport or a collection. -/
theorem step_cases {c : Chronicle τ} (named : c.session.Named) (x : Happening τ) :
    Acts c.audience c.session (c.step x).session ∨
      (∃ t, (c.step x).session = { c.session with transport := c.session.transport.moved t }) ∨
      (c.step x).session = { c.session with posted := [] } := by
  cases x with
  | operate now op =>
    refine .inl ?_
    cases done : op.run c.audience now c.session with
    | error fault =>
      rw [step_operate_of_fault done]
      exact .refl c.session
    | ok result =>
      rw [step_operate done]
      exact acts_run _ now named done
  | report now e =>
    refine .inl ?_
    cases done : c.session.react c.audience now e with
    | error fault =>
      rw [step_report_of_fault done]
      exact .refl c.session
    | ok s =>
      rw [step_report done]
      exact (course_react _ now done).acts
  | transport t => exact .inr (.inl ⟨t, rfl⟩)
  | collect => exact .inr (.inr rfl)
  | listener l => exact .inl (.refl c.session)
  | silence => exact .inl (.refl c.session)

theorem named_step {c : Chronicle τ} (named : c.session.Named) (x : Happening τ) :
    (c.step x).session.Named := by
  obtain acts | ⟨t, moved⟩ | collected := step_cases named x
  · exact kept_named.acts acts named
  · exact moved ▸ named
  · exact collected ▸ named

theorem named_run {c : Chronicle τ} (named : c.session.Named) (happened : List (Happening τ)) :
    (c.run happened).session.Named := by
  induction happened generalizing c with
  | nil => exact named
  | cons x happened ih => exact ih (named_step named x)

theorem later_run {c : Chronicle τ} (named : c.session.Named) (happened : List (Happening τ)) :
    Later c (c.run happened) := by
  induction happened generalizing c with
  | nil => exact .refl c
  | cons x happened ih => exact (later_step named x).trans (ih (named_step named x))

/-! ## One step keeps the accounts in order -/

variable {c : Chronicle τ}

/-- An operation is a course, unless it takes in a stream that it was asked for. -/
theorem operate_cases {a : Audience} {now : Instant} {op : Operation} {s s' : Session (Register τ)}
    {answer : Answer} (named : s.Named) (h : op.run a now s = .ok (answer, s')) :
    Course a s s' ∨ ∃ id stream, op.tookIn answer = [id] ∧
      s.createIncoming a now id = .ok (some stream, s') := by
  obtain course | ⟨id, stream, rfl, rfl, created⟩ := course_run a now named h
  · exact .inl course
  · cases stream with
    | some stream => exact .inr ⟨id, stream, rfl, created⟩
    | none =>
      obtain ⟨-, deeds⟩ | ⟨taken, -⟩ := createIncoming_cases a now created
      · exact .inl (.deeds deeds)
      · cases taken

theorem coherent_operate (h : c.Coherent) {now : Instant} {op : Operation} {answer : Answer}
    {s : Session (Register τ)} (done : op.run c.audience now c.session = .ok (answer, s))
    (orderly : Orderly c.audience { c.past with requested := c.past.requested ++ op.tookIn answer } s) :
    s.Coherent c.audience { c.past with requested := c.past.requested ++ op.tookIn answer } := by
  obtain course | ⟨id, stream, took, created⟩ := operate_cases h.named done
  · have h' := Session.Coherent.requesting h (op.tookIn answer)
    exact h'.course course orderly
  · rw [took] at orderly ⊢
    have before := orderly.of_acts (acts_createIncoming _ now created)
    have fresh := Session.Coherent.fresh_requested h before.distinct
    exact (Session.Coherent.requesting h [id]).createIncoming fresh created orderly

theorem coherent_step (h : c.Coherent) {x : Happening τ} (regular : (c.step x).Regular)
    (attended : (c.step x).known ≠ [] → c.audience.listener.isSome = true) : (c.step x).Coherent := by
  cases x with
  | operate now op =>
    cases done : op.run c.audience now c.session with
    | error fault =>
      rw [step_operate_of_fault done]
      exact h
    | ok result =>
      rw [step_operate done] at regular attended ⊢
      exact coherent_operate h done ⟨regular, attended⟩
  | report now e =>
    cases done : c.session.react c.audience now e with
    | error fault =>
      rw [step_report_of_fault done]
      exact h
    | ok s =>
      rw [step_report done] at regular attended ⊢
      exact Session.Coherent.course h (course_react _ now done) ⟨regular, attended⟩
  | transport t =>
    exact Session.Coherent.noting h (List.append_nil _).symm (by simp) h.counted
  | collect =>
    refine ⟨h.named, h.counted, h.fits, fun j => ?_⟩
    have same : account ⟨c.told, c.past.requested⟩ { c.session with posted := [] } j =
        c.session.account c.past j := by
      unfold account told
      rw [List.append_nil]
      rfl
    show (account ⟨c.told, c.past.requested⟩ { c.session with posted := [] } j).InOrder _
    rw [same]
    exact h.inOrder j
  | listener l => exact ⟨h.named, h.counted, h.fits, h.inOrder⟩
  | silence => exact ⟨h.named, h.counted, h.fits, fun j => (h.inOrder j).silenced⟩

/-! ## Runs -/

/-- A run keeps the accounts in order, if it is regular and no stream begins without a listener. -/
theorem coherent_run (h : c.Coherent) {happened : List (Happening τ)}
    (regular : (c.run happened).Regular)
    (attended : (c.run happened).known = [] ∨ c.audience.listener.isSome = true) :
    (c.run happened).Coherent := by
  induction happened generalizing c with
  | nil => exact h
  | cons x happened ih =>
    have first : Later c (c.step x) := later_step h.named x
    have rest : Later (c.step x) ((c.step x).run happened) := later_run (named_step h.named x) happened
    refine ih (coherent_step h (rest.regular regular) fun some_began => ?_) regular ?_
    · exact attended.resolve_left fun none_began => some_began (rest.known_nil none_began)
    · exact attended.imp_right first.attended

omit [Transport τ] in
theorem regular_of_known_nil (none_began : c.known = []) : c.Regular := by
  have distinct : c.known.Nodup := none_began ▸ List.nodup_nil
  refine ⟨distinct, fun dir => ⟨0, ?_⟩⟩
  refine List.eq_nil_iff_forall_not_mem.2 fun i opened => ?_
  have began : i ∈ c.known := List.mem_append_right _ (Register.given_of_opened opened)
  rw [none_began] at began
  cases began

theorem coherent_new (a : Audience) (id : SessionId) (connection : ConnectionHandle) (t : τ)
    (options : SessionOptions) (now : Instant) : (new a id connection t options now).Coherent := by
  refine ⟨named_empty rfl, fun dir => ?_, fun i live => ?_, fun j => .blank⟩
  · cases dir <;> rfl
  · cases live

/-- If the listener is there before the first stream, each stream is told in order, whatever becomes of
its session: first that it is ready, then data and room to write, the end of the data at most once and
no data after it, and at last that it is closed, once to each recipient. The end is never told of a
stream that the peer gave up. A stream is told to be ready as soon as it is live. -/
theorem stream_callbacks_grammatical (a : Audience) (id : SessionId) (connection : ConnectionHandle)
    (t : τ) (options : SessionOptions) (now : Instant) (before after : List (Happening τ))
    (l : Listener) :
    let start := new a id connection t options now
    let c := start.run (before ++ .listener l :: after)
    (start.run before).known = [] → c.Regular → ∀ j,
      Grammatical (c.word j) ∧ (j ∈ c.session.transport.resets → Callback.fin ∉ c.word j) ∧
      ∀ sofar later, after = sofar ++ later →
        let m := start.run (before ++ .listener l :: sofar)
        m.audience.taken = true → j ∈ m.session.streams.keys →
          Underway (m.word j) ∧ m.word j <+: c.word j := by
  intro start c none_began regular j
  have split (happened : List (Happening τ)) : start.run (before ++ .listener l :: happened) =
      ((start.run before).step (.listener l)).run happened := by
    rw [run_append]
    rfl
  have unattended : (start.run before).Coherent :=
    coherent_run (coherent_new a id connection t options now) (regular_of_known_nil none_began)
      (.inl none_began)
  have installed : ((start.run before).step (.listener l)).Coherent :=
    coherent_step unattended (regular_of_known_nil none_began) fun some_began =>
      absurd none_began some_began
  -- the listener stays, so every later chronicle that is regular is coherent
  have coherent (happened : List (Happening τ))
      (regular : (start.run (before ++ .listener l :: happened)).Regular) :
      (start.run (before ++ .listener l :: happened)).Coherent := by
    rw [split] at regular ⊢
    exact coherent_run installed regular (.inr rfl)
  have inOrder := (coherent after regular).inOrder j
  refine ⟨inOrder.grammatical, fun gone => inOrder.apart (decide_eq_true gone), ?_⟩
  intro sofar later e m taken live
  have further : Later m c := by
    have rest : c = m.run later := by
      show start.run (before ++ .listener l :: after) = _
      rw [e, ← List.cons_append, ← List.append_assoc, run_append]
    rw [rest]
    exact later_run (named_run (named_empty rfl) _) later
  obtain ⟨x, found⟩ := Table.mem_keys_iff.1 live
  exact ⟨((coherent sofar (further.regular regular)).inOrder j).underway taken x found, further.word j⟩

/-! ## A stream that is opened, answered and closed -/

/-- A client begins its handshake. -/
def beginning : List (Happening Wire.Connection) := [.operate 0 .start, .operate 0 .beginHandshake]

/-- The handshake ends, and a stream is opened. -/
def opening : List (Happening Wire.Connection) :=
  [.transport answeredConnection, .operate 0 .process, .operate 0 (.openStream .bi)]

/-- The peer answers on the stream, and the session closes. -/
def answering (t : Wire.Connection) : List (Happening Wire.Connection) :=
  [.transport (t.receive 0 ⟨0, 1, [.stream (.of .client .bi 0) 0 [104, 105] true]⟩),
    .operate 0 .process, .collect, .operate 0 (.close 0 "")]

/-- A listener that is installed during the handshake hears all of the first stream. -/
theorem stream_callbacks_grammatical_answered :
    let start := new .silent ⟨1⟩ ⟨0⟩ Scenario.unmadeConnection .standard 0
    let m := start.run (beginning ++ .listener default :: opening)
    let c := start.run
      (beginning ++ .listener default :: (opening ++ answering m.session.transport.inner))
    (start.run beginning).known = [] ∧ c.Regular ∧ Grammatical (c.word (.of .client .bi 0)) ∧
      c.word (.of .client .bi 0) = [.ready, .data, .fin, .closed (.listener default)] := by
  intro start m c
  have none_began : (start.run beginning).known = [] := by decide +kernel
  have numbered (dir : Dir) : ∃ n, c.session.transport.opened dir =
      (List.range n).map (StreamId.of c.session.side dir) := by
    cases dir with
    | bi => exact ⟨1, by decide +kernel⟩
    | uni => exact ⟨0, by decide +kernel⟩
  have regular : c.Regular := ⟨by decide +kernel, numbered⟩
  have told := stream_callbacks_grammatical .silent ⟨1⟩ ⟨0⟩ Scenario.unmadeConnection .standard 0
    beginning (opening ++ answering m.session.transport.inner) default none_began regular
    (.of .client .bi 0)
  exact ⟨none_began, regular, told.1, by decide +kernel⟩

end Chronicle

end QuicSessions
