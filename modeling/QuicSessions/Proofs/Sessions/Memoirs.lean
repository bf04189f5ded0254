import QuicSessions.Proofs.Sessions.Departures
import QuicSessions.Proofs.Streams.Journal

/-!
# What is known of a stream since it came

The memoir of a stream holds the marks that its transport made of it, the reports about its ends, and whether
there was something to read it from when it was read, all since it entered the table. Every single step adds
to it what the step brings. Each side of a live stream that is over is explained by its memoir.
-/

set_option autoImplicit false

namespace QuicSessions.Session

open LiveStream (Explained SameEnds missing)
open Journal (Adds marksOf)

variable {τ : Type} [Transport τ]

/-! ## What a step brings -/

namespace Step

/-- The streams that a step puts into the table. -/
def entering (s : Session τ) (x : Step τ) : List StreamId := (x.opened s).map Prod.snd ++ x.received s

/-- What is known of the ends of a stream without its transport having marked it: a report, or that there is
nothing to read the stream from. -/
def brings (s : Session (Journal τ)) : Step (Journal τ) → List (StreamId × Mark)
  | .report _ _ (.finished id) => [(id, .acknowledged)]
  | .report _ _ (.stopped id _) => [(id, .stopped)]
  | .report _ _ (.readable id) => (missing id s.transport).map (Prod.mk id)
  | .operate _ _ (.read id _) => (missing id s.transport).map (Prod.mk id)
  | .operate _ _ (.setStreamVisitor id _) => (missing id s.transport).map (Prod.mk id)
  | .operate _ _ (.createIncoming id) => (missing id s.transport).map (Prod.mk id)
  | _ => []

/-- What the transport marked in a step of its session. -/
def marked (s : Session (Journal τ)) : Step (Journal τ) → List (StreamId × Mark)
  | .transport _ => []
  | x => (s.step x).transport.marks.drop s.transport.marks.length

/-- What a single step adds to what is known of the stream `id`. -/
def notes (id : StreamId) (s : Session (Journal τ)) (x : Step (Journal τ)) : List Mark :=
  marksOf id (x.brings s ++ x.marked s)

end Step

/-- The memoir of the stream `id` after single steps, if it was `log` before. It starts anew with a step in
which the stream enters the table. -/
def memoir (id : StreamId) : List Mark → Session (Journal τ) → List (Step (Journal τ)) → List Mark
  | log, _, [] => log
  | log, s, x :: steps =>
    memoir id ((if id ∈ x.entering s then [] else log) ++ x.notes id s) (s.step x) steps

/-! ## One step -/

omit [Transport τ] in
/-- The stream `id` before a step makes anything of it: it is new, if it enters the table in the step. -/
def former (entering : List StreamId) (id : StreamId) (s : Session τ) : Option LiveStream :=
  if id ∈ entering then some (.new id (.of id s.side) s.options.buffer) else s.streams.get? id

/-- Of the streams that a session has after a step, what became of the stream `i` is explained by what the
transport marked and by what is known besides; the others are what they were. -/
structure Concerns (i : StreamId) (known noted : List Mark) (entering : List StreamId)
    (s s' : Session (Journal τ)) : Prop where
  adds : Adds i noted s.transport s'.transport
  explained : ∀ k x', s'.streams.get? k = some x' →
    ∃ x, s.former entering k = some x ∧ Explained (if k = i then known ++ noted else []) x x'

namespace Concerns

variable {i : StreamId} {known noted : List Mark} {s s' : Session (Journal τ)}

section Tables

omit [Transport τ]

/-- Streams may leave; nothing else happens to them. -/
theorem fewer (streams : ∀ k x, s'.streams.get? k = some x → s.streams.get? k = some x)
    (marks : s'.transport.marks = s.transport.marks) : Concerns i [] [] [] s s' where
  adds := .of_same i marks
  explained k x found := ⟨x, streams k x found, by rw [List.append_nil, ite_self]; exact .refl x⟩

theorem same (streams : s'.streams = s.streams) (marks : s'.transport.marks = s.transport.marks) :
    Concerns i [] [] [] s s' := fewer (fun _ _ found => streams ▸ found) marks

theorem idle : Concerns i [] [] [] s s := same rfl rfl

theorem updated {f : LiveStream → LiveStream} (streams : s'.streams = s.streams.update i f)
    (adds : Adds i noted s.transport s'.transport)
    (explained : ∀ x, s.streams.get? i = some x → Explained (known ++ noted) x (f x)) :
    Concerns i known noted [] s s' where
  adds := adds
  explained k x' found := by
    rw [streams, Table.get?_update] at found
    split at found
    · rename_i own
      subst own
      obtain ⟨x, there, rfl⟩ := Option.map_eq_some_iff.1 found
      rw [if_pos rfl]
      exact ⟨x, there, explained x there⟩
    · rename_i other
      rw [if_neg other]
      exact ⟨x', found, .refl x'⟩

end Tables

/-- That a stream could not be read is known, and nothing comes of it. -/
theorem unread : Concerns i (missing i s.transport) [] [] s s where
  adds := .of_same i rfl
  explained k x there := by
    refine ⟨x, there, .of_same ⟨rfl, rfl, rfl, rfl⟩ fun m mem => ?_⟩
    split at mem
    · rw [List.append_nil] at mem
      exact LiveStream.mem_missing mem
    · cases mem

omit [Transport τ] in
/-- Of a stream that is not there, anything may be marked. -/
theorem apart (absent : s.streams.get? i = none) (streams : s'.streams = s.streams)
    (adds : Adds i noted s.transport s'.transport) : Concerns i known noted [] s s' where
  adds := adds
  explained k x found := by
    rw [streams] at found
    have other : k ≠ i := by
      rintro rfl
      exact Option.some_ne_none x (found.symm.trans absent)
    rw [if_neg other]
    exact ⟨x, found, .refl x⟩

omit [Transport τ] in
/-- Of a stream that is not there, anything may be known. -/
theorem of_absent {more : List Mark} (absent : s.streams.get? i = none) (h : Concerns i known noted [] s s') :
    Concerns i more noted [] s s' where
  adds := h.adds
  explained k x' found := by
    obtain ⟨x, there, explained⟩ := h.explained k x' found
    have other : k ≠ i := by
      rintro rfl
      exact Option.some_ne_none x (there.symm.trans absent)
    rw [if_neg other] at explained ⊢
    exact ⟨x, there, explained⟩

omit [Transport τ] in
/-- A step that begins with the streams that the table has once `i` entered. -/
theorem entered {m : Session (Journal τ)} (streams : m.streams =
      s.streams.insert i (.new i (.of i s.side) s.options.buffer))
    (marks : m.transport.marks = s.transport.marks) (h : Concerns i known noted [] m s') :
    Concerns i known noted [i] s s' where
  adds := (Adds.of_same i marks).trans h.adds
  explained k x' found := by
    obtain ⟨x, there, explained⟩ := h.explained k x' found
    refine ⟨x, ?_, explained⟩
    have there : m.streams.get? k = some x := there
    rw [streams, Table.get?_insert] at there
    unfold former
    split at there
    · rename_i own
      rw [if_pos (List.mem_singleton.2 own), own]
      exact there
    · rename_i other
      rw [if_neg fun mem => other (List.mem_singleton.1 mem)]
      exact there

end Concerns

section Streams

variable {s s' : Session (Journal τ)} {a : Audience} {i : StreamId}

omit [Transport τ] in
/-- A stream that becomes what it is made of. -/
theorem Concerns.became {x x' : LiveStream} {known noted : List Mark} (found : s.streams.get? i = some x)
    (streams : s'.streams = s.streams.update i fun _ => x')
    (adds : Adds i noted s.transport s'.transport) (explained : Explained (known ++ noted) x x') :
    Concerns i known noted [] s s' := by
  refine .updated streams adds fun y there => ?_
  obtain rfl : x = y := Option.some.inj (found.symm.trans there)
  exact explained

theorem concerns_streamWrite (named : Named s) (data : Bytes) (fin : Bool) :
    ∃ noted, Concerns i [] noted [] s (s.streamWrite i data fin).2 := by
  unfold streamWrite
  split
  · exact ⟨[], .idle⟩
  · rename_i x found
    obtain ⟨noted, adds, explained⟩ := LiveStream.explained_write x data fin s.transport
    rw [named i x found] at adds
    exact ⟨noted, .became found rfl adds explained⟩

theorem concerns_streamClose (named : Named s) : ∃ noted, Concerns i [] noted [] s (s.streamClose i) := by
  unfold streamClose
  split
  · exact ⟨[], .idle⟩
  · rename_i x found
    obtain ⟨noted, adds, explained⟩ := LiveStream.explained_close x s.transport
    rw [named i x found] at adds
    exact ⟨noted, .became found rfl adds explained⟩

theorem concerns_streamWritable (named : Named s) :
    ∃ noted, Concerns i [] noted [] s (s.streamWritable a i) := by
  cases found : s.streams.get? i with
  | none =>
    rw [streamWritable_of_absent found]
    exact ⟨[], .idle⟩
  | some x =>
    obtain ⟨notices, -, e⟩ := streamWritable_cases (a := a) found
    obtain ⟨noted, adds, explained⟩ := LiveStream.explained_flush x s.transport
    rw [named i x found] at adds
    rw [e]
    exact ⟨noted, .became found rfl adds explained⟩

theorem concerns_streamRead (named : Named s) (limit : Nat) :
    ∃ noted, Concerns i (missing i s.transport) noted [] s (s.streamRead a i limit).2 := by
  cases found : s.streams.get? i with
  | none =>
    rw [streamRead_of_absent found]
    exact ⟨[], .unread⟩
  | some x =>
    obtain ⟨noted, adds, explained⟩ := LiveStream.explained_readUpTo x limit s.transport
    rw [named i x found] at adds explained
    rw [streamRead_eq found]
    exact ⟨noted, .became found rfl adds explained⟩

theorem concerns_deliver (named : Named s) :
    ∃ noted, Concerns i (missing i s.transport) noted [] s (s.deliver a i) := by
  obtain unheard | ⟨x, found, heard⟩ := unheard_or_heard a s i
  · rw [deliver_of_unheard unheard]
    exact ⟨[], .unread⟩
  · obtain ⟨noted, adds, explained⟩ := LiveStream.explained_readUpTo x LiveStream.unlimited s.transport
    rw [named i x found] at adds explained
    rw [deliver_of_heard found heard]
    exact ⟨noted, .became found rfl adds explained⟩

theorem concerns_setStreamVisitor (named : Named s) (v : StreamVisitor) :
    ∃ noted, Concerns i (missing i s.transport) noted [] s (s.setStreamVisitor a i v) := by
  unfold setStreamVisitor
  split
  · have visited := (Quiet.visit s i v).named named
    obtain ⟨noted, adds, explained⟩ := concerns_deliver (a := a) (i := i) visited
    refine ⟨noted, adds, fun k x' found => ?_⟩
    obtain ⟨y, there, explained⟩ := explained k x' found
    have there : (s.streams.update i fun x => { x with visitor := some v }).get? k = some y := there
    rw [Table.get?_update] at there
    split at there
    · obtain ⟨x, before, rfl⟩ := Option.map_eq_some_iff.1 there
      have same : SameEnds x { x with visitor := some v } := ⟨rfl, rfl, rfl, rfl⟩
      exact ⟨x, before, same.explained explained⟩
    · exact ⟨y, there, explained⟩
  · exact ⟨[], .unread⟩

end Streams

/-! ## Every single step -/

section Steps

variable {s s' : Session (Journal τ)} {a : Audience} {now : Instant}

omit [Transport τ] in
theorem concerns_conclude (i : StreamId) {t : Journal τ} (marks : t.marks = s.transport.marks)
    (reason : CloseReason) : Concerns i [] [] [] s ({ s with transport := t }.conclude a reason) := by
  by_cases closed : s.state = .closed
  · rw [conclude_of_closed a (by exact closed)]
    exact .same rfl marks
  · rw [conclude_eq a (by exact closed)]
    exact .fewer (fun k x found => by rw [Table.get?_empty] at found; cases found) marks

theorem concerns_closeConnection (i : StreamId) (code : UInt32) (reason : String) :
    Concerns i [] [] [] s (s.closeConnection a now code reason) := by
  unfold closeConnection
  split
  · exact .idle
  · exact concerns_conclude i (by rfl) _

theorem concerns_openStream {dir : Dir} {r : Option StreamHandle} (h : s.openStream a dir = .ok (r, s')) :
    ∃ i, Concerns i [] [] (r.map StreamHandle.stream).toList s s' := by
  obtain ⟨rfl, rfl⟩ | ⟨rfl, -, -, rfl⟩ | ⟨id, j, rfl, -, opened, rfl⟩ := openStream_forms a h
  · exact ⟨s'.nextId dir, .idle⟩
  · exact ⟨s.nextId dir, .same rfl rfl⟩
  · exact ⟨id, .entered rfl (Journal.marks_openStream opened) .idle⟩

theorem concerns_openUnidirectional {r : Option StreamHandle} (h : s.openUnidirectional a = .ok (r, s')) :
    ∃ i, Concerns i [] [] (r.map StreamHandle.stream).toList s s' := by
  unfold openUnidirectional at h
  split at h
  · exact concerns_openStream h
  · cases h

theorem concerns_getOrOpen {id : StreamId} {r : Option StreamId} (h : s.getOrOpen a id = .ok (r, s')) :
    ∃ i, Concerns i [] [] (((Operation.getOrOpen id).opened s (.stream r)).map Prod.snd) s s' := by
  unfold getOrOpen at h
  by_cases known : s.streams.contains id = true
  · rw [if_pos known] at h
    cases h
    have nothing : (Operation.getOrOpen id).opened s (.stream (some id)) = [] := if_pos known
    rw [nothing]
    exact ⟨id, .idle⟩
  · rw [if_neg known] at h
    have here : ((Operation.getOrOpen id).opened s (.stream r)).map Prod.snd = r.toList := by
      cases r with
      | none => rfl
      | some i => exact congrArg (List.map Prod.snd) (if_neg known)
    rw [here]
    split at h
    · cases h
      exact ⟨id, .idle⟩
    split at h
    · cases h
      exact ⟨id, .idle⟩
    split at h
    · cases h
      exact ⟨id, .idle⟩
    · obtain ⟨⟨stream, s₁⟩, opened, h⟩ := ok_of_bind h
      cases h
      exact concerns_openStream opened

theorem concerns_screen (i : StreamId) {id : StreamId} {r : Option Refusal}
    (h : s.screen a now id = .ok (r, s')) : Concerns i [] [] [] s s' := by
  obtain ⟨-, rfl⟩ | ⟨-, -, -, rfl⟩ | ⟨-, -, -, rfl⟩ | ⟨-, -, rfl⟩ := screen_cases a now h
  · exact .idle
  · exact concerns_closeConnection i _ _
  · exact .idle
  · exact .idle

theorem concerns_createIncoming (named : Named s) {id : StreamId} {r : Option StreamHandle}
    (h : s.createIncoming a now id = .ok (r, s')) :
    ∃ noted, Concerns id (missing id s.transport) noted
      ((Operation.createIncoming id).tookIn (.stream (r.map StreamHandle.stream))) s s' := by
  by_cases known : s.streams.contains id = true
  · unfold createIncoming at h
    rw [if_pos known] at h
    cases h
    exact ⟨[], .unread⟩
  · have absent : s.streams.get? id = none := by
      rwa [Table.contains_eq_true_iff, ← Table.get?_eq_none_iff] at known
    obtain ⟨rfl, rfl | ⟨code, rfl⟩⟩ | ⟨rfl, -, -, -, rfl⟩ | ⟨rfl, welcome, rfl⟩ := createIncoming_forms a now h
    · exact ⟨[], .unread⟩
    · obtain ⟨noted, adds⟩ := Journal.adds_reject id s.side code s.transport
      exact ⟨noted, .apart absent rfl adds⟩
    · exact ⟨[], .of_absent absent (concerns_closeConnection id _ _)⟩
    · have inside : Named (s.afterTakeIn a id) := named_act a (.takeIn welcome) named
      obtain ⟨noted, concerns⟩ := concerns_deliver (a := a) (i := id) inside
      have took := afterTakeIn_eq a id s
      refine ⟨noted, .entered (m := s.afterTakeIn a id) (by rw [took]) (by rw [took]) ?_⟩
      have same : (s.afterTakeIn a id).transport = s.transport := by rw [took]
      rwa [same] at concerns

theorem concerns_timeout (i : StreamId) (now : Instant) : Concerns i [] [] [] s (s.timeout a now) := by
  unfold timeout
  dsimp only
  split
  · exact concerns_conclude i (by rfl) _
  · split
    · split <;> exact .same rfl rfl
    · exact .same rfl rfl

theorem marks_drainDatagrams (s : Session (Journal τ)) :
    (s.drainDatagrams a).transport.marks = s.transport.marks := by
  have told (t : Journal τ) (data : Bytes) (s : Session (Journal τ)) :
      (if data = goawayDatagram then { s with transport := t }.receiveGoaway a
        else { s with transport := t }).transport = t := by
    split
    · exact transport_receiveGoaway _
    · rfl
  fun_induction drainDatagrams a s with
  | case1 s none_waits => rfl
  | case2 s data t waits s₁ s₂ less ih =>
    exact (ih.trans (congrArg Journal.marks (told t data s))).trans (Journal.marks_receiveDatagram waits)
  | case3 s data t waits s₁ s₂ full =>
    exact (congrArg Journal.marks (told t data s)).trans (Journal.marks_receiveDatagram waits)

omit [Transport τ] in
theorem streams_receiveGoaway (s : Session (Journal τ)) : (s.receiveGoaway a).streams = s.streams := by
  cases received : s.goawayReceived with
  | true => rw [receiveGoaway_of_received a received]
  | false => rw [receiveGoaway_eq a received]

theorem streams_drainDatagrams (s : Session (Journal τ)) : (s.drainDatagrams a).streams = s.streams := by
  obtain ⟨t, e | e⟩ := drainDatagrams_cases a s
  · rw [e]
  · rw [e]
    exact streams_receiveGoaway _

theorem concerns_operate {op : Operation} {r : Answer} (named : Named s)
    (single : (Step.operate (τ := Journal τ) a now op).single = true) (h : op.run a now s = .ok (r, s')) :
    ∃ i known noted, (Step.operate a now op).brings s = known.map (Prod.mk i) ∧
      Concerns i known noted ((op.opened s r).map Prod.snd ++ op.tookIn r) s s' := by
  have silent (brings : (Step.operate a now op).brings s = [])
      (entering : (op.opened s r).map Prod.snd ++ op.tookIn r = [])
      (h : Concerns (s.nextId .bi) [] [] [] s s') :
      ∃ i known noted, (Step.operate a now op).brings s = known.map (Prod.mk i) ∧
        Concerns i known noted ((op.opened s r).map Prod.snd ++ op.tookIn r) s s' := by
    rw [entering]
    exact ⟨_, [], [], brings, h⟩
  cases op with
  | process => cases single
  | acceptPending dir => cases single
  | start =>
    obtain ⟨s₁, started, h⟩ := ok_of_bind h
    cases h
    obtain ⟨-, rfl⟩ := start_cases started
    exact silent rfl rfl (.same rfl rfl)
  | beginHandshake =>
    obtain ⟨s₁, begun, h⟩ := ok_of_bind h
    cases h
    obtain ⟨-, rfl⟩ | ⟨-, -, rfl⟩ := beginHandshake_cases begun
    · exact silent rfl rfl (.same rfl rfl)
    · exact silent rfl rfl .idle
  | gate dir =>
    obtain ⟨refusal, -, h⟩ := ok_of_bind h
    cases h
    exact silent rfl rfl .idle
  | shouldOpen =>
    obtain ⟨b, -, h⟩ := ok_of_bind h
    cases h
    exact silent rfl rfl .idle
  | openStream dir =>
    cases dir with
    | bi =>
      obtain ⟨⟨stream, s₁⟩, opened, h⟩ := ok_of_bind h
      cases h
      obtain ⟨i, concerns⟩ := concerns_openStream opened
      cases stream <;> exact ⟨i, [], [], rfl, concerns⟩
    | uni =>
      obtain ⟨⟨stream, s₁⟩, opened, h⟩ := ok_of_bind h
      cases h
      obtain ⟨i, concerns⟩ := concerns_openUnidirectional opened
      cases stream <;> exact ⟨i, [], [], rfl, concerns⟩
  | getOrOpen id =>
    obtain ⟨⟨found, s₁⟩, opened, h⟩ := ok_of_bind h
    cases h
    obtain ⟨i, concerns⟩ := concerns_getOrOpen opened
    refine ⟨i, [], [], rfl, ?_⟩
    exact (List.append_nil _).symm ▸ concerns
  | screen id =>
    obtain ⟨⟨refusal, s₁⟩, screened, h⟩ := ok_of_bind h
    cases h
    exact silent rfl rfl (concerns_screen _ screened)
  | createIncoming id =>
    obtain ⟨⟨stream, s₁⟩, created, h⟩ := ok_of_bind h
    cases h
    obtain ⟨noted, concerns⟩ := concerns_createIncoming named created
    exact ⟨id, _, noted, rfl, concerns⟩
  | write id data fin =>
    cases h
    obtain ⟨noted, concerns⟩ := concerns_streamWrite (i := id) named data fin
    exact ⟨id, [], noted, rfl, concerns⟩
  | read id limit =>
    cases h
    obtain ⟨noted, concerns⟩ := concerns_streamRead (a := a) (i := id) named limit
    exact ⟨id, _, noted, rfl, concerns⟩
  | closeStream id =>
    cases h
    obtain ⟨noted, concerns⟩ := concerns_streamClose (i := id) named
    exact ⟨id, [], noted, rfl, concerns⟩
  | setStreamVisitor id v =>
    cases h
    obtain ⟨noted, concerns⟩ := concerns_setStreamVisitor (a := a) (i := id) named v
    exact ⟨id, _, noted, rfl, concerns⟩
  | setVisitor v =>
    cases h
    have visited := setVisitor_eq a v s
    exact silent rfl rfl (.same (by rw [visited]) (by rw [visited]))
  | setRespectGoaway respect => cases h; exact silent rfl rfl (.same rfl rfl)
  | sendGoaway => cases h; exact silent rfl rfl (.same rfl rfl)
  | receiveGoaway =>
    cases h
    exact silent rfl rfl (.same (streams_receiveGoaway s) (by rw [transport_receiveGoaway]))
  | close code reason => cases h; exact silent rfl rfl (concerns_closeConnection _ code reason)
  | reclaim =>
    cases h
    obtain ⟨streams, unannounced, posted, e⟩ := reclaim_eq a s
    exact silent rfl rfl (.fewer (fun k x found => get?_of_reclaim a found) (by rw [e]))
  | takeSignals => cases h; exact silent rfl rfl (.same rfl rfl)
  | timeout after =>
    obtain rfl := eq_of_timeout_run a h
    exact silent rfl rfl (concerns_timeout _ _)
  | standing => cases h; exact silent rfl rfl .idle
  | nextId dir => cases h; exact silent rfl rfl .idle
  | hasStream id => cases h; exact silent rfl rfl .idle
  | canWrite id => cases h; exact silent rfl rfl .idle
  | buffered id => cases h; exact silent rfl rfl .idle
  | inUse => cases h; exact silent rfl rfl .idle
  | hasTimer =>
    obtain rfl := eq_of_hasTimer_run a h
    exact silent rfl rfl .idle
  | stats => cases h; exact silent rfl rfl .idle
  | names => cases h; exact silent rfl rfl .idle

theorem concerns_report {e : Event} (named : Named s)
    (single : (Step.report (τ := Journal τ) a now e).single = true) (h : s.react a now e = .ok s') :
    ∃ i known noted, (Step.report a now e).brings s = known.map (Prod.mk i) ∧
      Concerns i known noted [] s s' := by
  cases e with
  | opened dir => cases single
  | handshakeData => cases h; exact ⟨s.nextId .bi, [], [], rfl, .idle⟩
  | connected =>
    cases h
    have completed := handshakeComplete_eq a s
    exact ⟨s.nextId .bi, [], [], rfl, .same (by rw [completed]) (by rw [completed])⟩
  | lost cause => cases h; exact ⟨s.nextId .bi, [], [], rfl, concerns_conclude _ (by rfl) _⟩
  | readable id =>
    cases h
    obtain ⟨noted, concerns⟩ := concerns_deliver (a := a) (i := id) named
    exact ⟨id, _, noted, rfl, concerns⟩
  | writable id =>
    cases h
    obtain ⟨noted, concerns⟩ := concerns_streamWritable (a := a) (i := id) named
    exact ⟨id, [], noted, rfl, concerns⟩
  | finished id =>
    cases h
    exact ⟨id, [.acknowledged], [], rfl, .updated rfl (.of_same id rfl) fun x _ =>
      LiveStream.explained_acknowledged x⟩
  | stopped id code =>
    cases h
    exact ⟨id, [.stopped], [], rfl, .updated rfl (.of_same id rfl) fun x _ =>
      LiveStream.explained_abandonWrites x⟩
  | available dir =>
    have credited : s.afterCredit a dir = s' := Except.ok.inj h
    rw [afterCredit_eq] at credited
    subst credited
    exact ⟨s.nextId .bi, [], [], rfl, .same rfl rfl⟩
  | datagram =>
    cases h
    exact ⟨s.nextId .bi, [], [], rfl, .same (streams_drainDatagrams s) (marks_drainDatagrams s)⟩
  | datagramsUnblocked => cases h; exact ⟨s.nextId .bi, [], [], rfl, .idle⟩

/-- A mistake leaves the session as it was. -/
theorem concerns_fault (a : Audience) (now : Instant) (op : Operation) :
    ∃ i known, (Step.operate a now op).brings s = known.map (Prod.mk i) ∧ Concerns i known [] [] s s := by
  cases op with
  | read id limit => exact ⟨id, _, rfl, .unread⟩
  | setStreamVisitor id v => exact ⟨id, _, rfl, .unread⟩
  | createIncoming id => exact ⟨id, _, rfl, .unread⟩
  | _ => exact ⟨s.nextId .bi, [], rfl, .idle⟩

/-- A step concerns one stream at most, unless it moves the transport. -/
theorem concerns_step {x : Step (Journal τ)} (named : Named s) (single : x.single = true)
    (acts : ∀ t, x ≠ .transport t) :
    ∃ i known noted, x.brings s = known.map (Prod.mk i) ∧
      Concerns i known noted (x.entering s) s (s.step x) := by
  cases x with
  | operate a now op =>
    unfold Step.entering Step.opened Step.received step
    dsimp only
    cases done : op.run a now s with
    | ok result =>
      obtain ⟨answer, s'⟩ := result
      exact concerns_operate named single done
    | error fault =>
      obtain ⟨i, known, brings, concerns⟩ := concerns_fault (s := s) a now op
      exact ⟨i, known, [], brings, concerns⟩
  | report a now e =>
    unfold step
    dsimp only
    cases done : s.react a now e with
    | ok s' => exact concerns_report named single done
    | error fault => cases e <;> first | cases done | cases single
  | transport t => exact absurd rfl (acts t)
  | collect => exact ⟨s.nextId .bi, [], [], rfl, .same rfl rfl⟩

/-- What a step makes of the streams in the table is explained by what it brings. -/
theorem explained_step {x : Step (Journal τ)} (named : Named s) (single : x.single = true) {id : StreamId}
    {y' : LiveStream} (found : (s.step x).streams.get? id = some y') :
    ∃ y, s.former (x.entering s) id = some y ∧ Explained (x.notes id s) y y' := by
  by_cases moved : ∃ t, x = .transport t
  · obtain ⟨t, rfl⟩ := moved
    exact ⟨y', found, .refl y'⟩
  · obtain ⟨i, known, noted, brings, concerns⟩ := concerns_step named single fun t e => moved ⟨t, e⟩
    have marked : x.marked s = noted.map (Prod.mk i) := by
      refine .trans ?_ concerns.adds.drop_marks
      cases x with
      | transport t => exact absurd ⟨t, rfl⟩ moved
      | _ => rfl
    obtain ⟨y, before, explained⟩ := concerns.explained id y' found
    refine ⟨y, before, ?_⟩
    unfold Step.notes
    rwa [brings, marked, ← List.map_append, Journal.marksOf_map]

end Steps

/-! ## Runs -/

/-- The peer stopped the stream before its end went out. -/
def StoppedFirst (log : List Mark) : Prop :=
  ∃ before after, log = before ++ .stopped :: after ∧ .ended ∉ before

/-- Each side of a stream that is over is explained by the memoir of the stream. The end went out before the
peer stopped the stream, if both happened, and the stream was never given up from here. -/
structure Warranted (x : LiveStream) (log : List Mark) : Prop where
  done : x.writeDone = true → x.directionality.writable = false ∨
    .acknowledged ∈ log ∨ .stopped ∈ log ∨ .unknown ∈ log
  barred : .stopped ∈ log ∨ .ended ∈ log → x.writeClosed = true
  ended : .ended ∈ log → ¬StoppedFirst log
  read : x.readClosed = true → x.directionality.readable = false ∨
    .readOut ∈ log ∨ .givenUp ∈ log ∨ .unreadable ∈ log
  kept : .reset ∉ log

theorem warranted_new (id : StreamId) (d : Directionality) (limit : Nat) :
    Warranted (.new id d limit) [] where
  done done := .inl (Bool.not_eq_true' _ ▸ done)
  barred barred := by cases barred <;> contradiction
  ended ended := by cases ended
  read read := .inl (Bool.not_eq_true' _ ▸ read)
  kept := List.not_mem_nil

theorem Warranted.next {x x' : LiveStream} {log noted : List Mark} (h : Warranted x log)
    (explained : Explained noted x x') : Warranted x' (log ++ noted) where
  done done := by
    rw [explained.directionality]
    simp only [List.mem_append]
    obtain before | now := explained.done done
    · obtain mute | known := h.done before
      · exact .inl mute
      · exact .inr (known.imp .inl (.imp .inl .inl))
    · exact .inr (now.imp .inr (.imp .inr .inr))
  barred barred := by
    simp only [List.mem_append] at barred
    refine explained.barred ?_
    obtain (stopped | stopped) | (ended | ended) := barred
    · exact .inl (h.barred (.inl stopped))
    · exact .inr (.inl stopped)
    · exact .inl (h.barred (.inr ended))
    · exact .inr (.inr ended)
  ended ended := by
    rintro ⟨before, after, split, unended⟩
    obtain first | now := List.mem_append.1 ended
    · -- The end went out already, so that the stop is in the part that was known, or comes after all of it.
      obtain ⟨rest, rfl, -⟩ | ⟨rest, rfl, more⟩ := List.append_eq_append_iff.1 split
      · exact unended (List.mem_append_left _ first)
      · cases rest with
        | nil => exact unended (List.append_nil before ▸ first)
        | cons m rest =>
          obtain ⟨rfl, -⟩ := List.cons.inj more
          exact h.ended first ⟨before, rest, rfl, unended⟩
    · -- The end goes out on an open side only, so that no stop was known.
      obtain ⟨open_, unstopped⟩ := explained.ended now
      have stopped : .stopped ∈ log ++ noted := split ▸ List.mem_append_right _ (List.mem_cons_self ..)
      obtain early | late := List.mem_append.1 stopped
      · rw [h.barred (.inl early)] at open_
        cases open_
      · exact unstopped late
  read read := by
    rw [explained.directionality]
    simp only [List.mem_append]
    obtain before | now := explained.read read
    · obtain mute | known := h.read before
      · exact .inl mute
      · exact .inr (known.imp .inl (.imp .inl .inl))
    · exact .inr (now.imp .inr (.imp .inr .inr))
  kept reset := by
    obtain before | now := List.mem_append.1 reset
    · exact h.kept before
    · exact explained.kept now

theorem warranted_step {s : Session (Journal τ)} {x : Step (Journal τ)} (named : Named s)
    (single : x.single = true) {id : StreamId} {log : List Mark}
    (h : ∀ y, s.streams.get? id = some y → Warranted y log) {y' : LiveStream}
    (found : (s.step x).streams.get? id = some y') :
    Warranted y' ((if id ∈ x.entering s then [] else log) ++ x.notes id s) := by
  obtain ⟨y, before, explained⟩ := explained_step named single found
  unfold former at before
  refine Warranted.next ?_ explained
  split at before
  · rename_i enters
    rw [if_pos enters, ← Option.some.inj before]
    exact warranted_new ..
  · rename_i stays
    rw [if_neg stays]
    exact h y before

/-- Whatever a stream is in the end, its memoir says why. -/
theorem warranted_run {s : Session (Journal τ)} {steps : List (Step (Journal τ))} (named : Named s)
    (single : ∀ x ∈ steps, x.single = true) {id : StreamId} {log : List Mark}
    (h : ∀ y, s.streams.get? id = some y → Warranted y log) {y : LiveStream}
    (found : (s.run steps).streams.get? id = some y) : Warranted y (s.memoir id log steps) := by
  induction steps generalizing s log with
  | nil => exact h y found
  | cons x steps ih =>
    exact ih (named_step named x) (fun z mem => single z (List.mem_cons_of_mem x mem))
      (fun z there => warranted_step named (single x (List.mem_cons_self ..)) h there) found

/-! ## Streams that leave -/

/-- What a session that stays open drops is spent. -/
theorem spent_of_departed {s : Session τ} {x : Step τ} (named : Named s) (single : x.single = true)
    (open_ : (s.step x).state ≠ .closed) {y : LiveStream} (left : y ∈ departed s (s.step x)) :
    y.spent = true := by
  have later : x.cause s = none ∨ s.state = .closed := by
    refine .inl (Option.not_isSome_iff_eq_none.1 fun cause => open_ ?_)
    exact (closed_step named single).2 (.inr cause)
  exact (staying_outcome (outcome_step s single) named later).spent y left

omit [Transport τ] in
theorem live_of_departed {s s' : Session τ} (named : Named s) {y : LiveStream}
    (left : y ∈ departed s s') : s.streams.get? y.id = some y :=
  named.get?_of_mem_values (List.mem_filter.1 left).1

end QuicSessions.Session
