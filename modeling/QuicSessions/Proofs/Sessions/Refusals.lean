import QuicSessions.Proofs.Sessions.Departures

/-!
# Streams that are refused

A stream of the peer is refused after a goodbye that is respected, and if its identifier has no integer. To
the session it is as if the stream had never come: it asks the transport to stop what it could read and to
reset what it could write, and nothing that is reported or asked of the stream later has an effect.
-/

set_option autoImplicit false

namespace QuicSessions

/-- The stream that a report is about, if it concerns what moves on a stream. -/
def Event.stream? : Event → Option StreamId
  | .readable id => some id
  | .writable id => some id
  | .finished id => some id
  | .stopped id _ => some id
  | _ => none

theorem Table.update_of_absent {K V : Type} [DecidableEq K] {table : Table K V} {k : K} (f : V → V)
    (absent : k ∉ table.keys) : table.update k f = table := by
  obtain ⟨entries, distinct⟩ := table
  have same : (entries.map fun e => if e.1 = k then (e.1, f e.2) else e) = entries := by
    refine (List.map_congr_left fun e mem => ?_).trans (List.map_id entries)
    exact if_neg fun here : e.1 = k => absent (List.mem_map.2 ⟨e, mem, here⟩)
  unfold Table.update
  simp only [same]

/-- Stopping and resetting a stream close no connection. -/
structure Transport.StaysOpen (τ : Type) [Transport τ] : Prop where
  stop : ∀ (id : StreamId) (code : Nat) (t : τ), isClosed (stop id code t) = isClosed t
  reset : ∀ (id : StreamId) (code : Nat) (t : τ), isClosed (reset id code t) = isClosed t

namespace Session

/-- The stream that an operation is about, if it works on one. -/
def Operation.stream? : Operation → Option StreamId
  | .getOrOpen id => some id
  | .hasStream id => some id
  | .write id _ _ => some id
  | .read id _ => some id
  | .closeStream id => some id
  | .canWrite id => some id
  | .buffered id => some id
  | .setStreamVisitor id _ => some id
  | _ => none

/-- Whether an answer is that of an operation which found nothing. -/
def Answer.inert : Answer → Bool
  | .done => true
  | .flag value => !value
  | .count n => n == 0
  | .bytes value => value.isEmpty
  | .stream id => id.isNone
  | _ => false

/-- The stream of the peer that a step offers to the session. -/
def Step.offers {τ : Type} : Step τ → Option StreamId
  | .operate _ _ (.createIncoming id) => some id
  | _ => none

variable {τ : Type} [Transport τ] {s s' : Session τ} {id : StreamId}

/-! ## A stream that is not there -/

/-- Neither reports about the stream `id` nor operations on it have an effect. -/
structure Heedless (id : StreamId) (s : Session τ) : Prop where
  reports : ∀ a now e, e.stream? = some id → s.react a now e = .ok s
  operations : ∀ a now (op : Operation), op.stream? = some id →
    ∃ answer, op.run a now s = .ok (answer, s) ∧ answer.inert = true

theorem heedless_of_absent (absent : id ∉ s.streams.keys) (peer : id.initiator ≠ s.side) : Heedless id s := by
  have missing : s.streams.get? id = none := Table.get?_eq_none_iff.2 absent
  have unknown : s.streams.contains id = false := by
    rw [← Bool.not_eq_true, Table.contains_eq_true_iff]
    exact absent
  refine ⟨fun a now e about => ?_, fun a now op about => ?_⟩
  · cases e with
    | readable i =>
      cases about
      show Except.ok (s.deliver a id) = _
      unfold deliver
      rw [missing]
    | writable i =>
      cases about
      exact congrArg Except.ok (streamWritable_of_absent missing)
    | finished i =>
      cases about
      show Except.ok { s with streams := s.streams.update id LiveStream.acknowledged } = _
      rw [Table.update_of_absent _ absent]
    | stopped i code =>
      cases about
      show Except.ok { s with streams := s.streams.update id LiveStream.abandonWrites } = _
      rw [Table.update_of_absent _ absent]
    | _ => cases about
  · cases op with
    | getOrOpen i =>
      cases about
      refine ⟨.stream none, ?_, rfl⟩
      show s.getOrOpen a id >>= _ = _
      unfold getOrOpen
      rw [if_neg (by rw [unknown]; exact Bool.false_ne_true), if_pos peer]
      rfl
    | hasStream i =>
      cases about
      refine ⟨.flag false, ?_, rfl⟩
      show Except.ok (Answer.flag (s.streams.contains id), s) = _
      rw [unknown]
    | write i data fin =>
      cases about
      refine ⟨.count 0, ?_, rfl⟩
      show Except.ok (Answer.count (s.streamWrite id data fin).1, (s.streamWrite id data fin).2) = _
      unfold streamWrite
      rw [missing]
    | read i limit =>
      cases about
      refine ⟨.bytes [], ?_, rfl⟩
      show Except.ok (Answer.bytes (s.streamRead a id limit).1, (s.streamRead a id limit).2) = _
      unfold streamRead
      rw [missing]
    | closeStream i =>
      cases about
      refine ⟨.done, ?_, rfl⟩
      show Except.ok (Answer.done, s.streamClose id) = _
      unfold streamClose
      rw [missing]
    | canWrite i =>
      cases about
      refine ⟨.flag false, ?_, rfl⟩
      show Except.ok (Answer.flag (s.streamCanWrite id), s) = _
      unfold streamCanWrite
      rw [missing]
      rfl
    | buffered i =>
      cases about
      refine ⟨.count 0, ?_, rfl⟩
      show Except.ok (Answer.count (s.streamBuffered id), s) = _
      unfold streamBuffered
      rw [missing]
      rfl
    | setStreamVisitor i v =>
      cases about
      refine ⟨.done, ?_, rfl⟩
      show Except.ok (Answer.done, s.setStreamVisitor a id v) = _
      unfold setStreamVisitor
      rw [if_neg (by rw [unknown]; exact Bool.false_ne_true)]
    | _ => cases about

/-! ## The refusal -/

/-- A stream of the peer is refused for what it is or for when it comes. -/
def Refuses (id : StreamId) (s : Session τ) : Prop :=
  (s.goawayReceived = true ∧ s.respectGoaway = true) ∨ id.handle? = none

/-- What refusing a stream of the peer asks of the transport. -/
def turnAway (id : StreamId) (t : τ) : τ :=
  let code := AppCode.streamRefused.value.toNat
  match id.dir with
  | .bi => Transport.reset id code (Transport.stop id code t)
  | .uni => Transport.stop id code t

theorem reject_of_peer {side : Side} (peer : id.initiator ≠ side) (t : τ) :
    LiveStream.reject id side AppCode.streamRefused.value.toNat t = turnAway id t := by
  unfold LiveStream.reject turnAway Directionality.of
  cases id.dir with
  | bi => rfl
  | uni =>
    rw [if_neg peer]
    rfl

theorem createIncoming_of_refused (a : Audience) (now : Instant) (connected : s.connected = true)
    (peer : id.initiator ≠ s.side) (absent : id ∉ s.streams.keys) (refuses : Refuses id s) :
    s.createIncoming a now id = .ok (none, { s with transport := turnAway id s.transport }) := by
  have screened : ∃ refusal, (refusal = .goaway ∨ refusal = .limitReached) ∧
      s.screen a now id = .ok (some refusal, s) := by
    unfold screen
    rw [if_neg (ne_created_of_connected connected), connected, if_neg (by decide), if_neg peer]
    by_cases impolite : (s.goawayReceived && s.respectGoaway) = true
    · exact ⟨.goaway, .inl rfl, if_pos impolite⟩
    · have unfit : id.handle? = none := refuses.resolve_left fun both => impolite (by rw [both.1, both.2]; rfl)
      rw [if_neg impolite, unfit]
      exact ⟨.limitReached, .inr rfl, rfl⟩
  obtain ⟨refusal, which, screened⟩ := screened
  unfold createIncoming
  rw [if_neg fun live => absent (Table.contains_eq_true_iff.1 live), screened, ← reject_of_peer peer]
  obtain rfl | rfl := which <;> rfl

theorem connected_turnAway (stays : Transport.StaysOpen τ) (s : Session τ) (id : StreamId) :
    ({ s with transport := turnAway id s.transport } : Session τ).connected = s.connected := by
  have closed : Transport.isClosed (turnAway id s.transport) = Transport.isClosed s.transport := by
    unfold turnAway
    cases id.dir with
    | bi => exact (stays.reset ..).trans (stays.stop ..)
    | uni => exact stays.stop ..
  unfold connected
  rw [closed]

/-! ## What enters later -/

theorem offers_of_received {x : Step τ} (mem : id ∈ x.received s) : x.offers = some id := by
  cases x with
  | operate a now op =>
    unfold Step.received at mem
    dsimp only at mem
    split at mem
    · rename_i answer s' done
      unfold Operation.tookIn at mem
      split at mem
      · exact congrArg some (List.mem_singleton.1 mem).symm
      · cases mem
    · cases mem
  | _ => cases mem

/-- A stream of the peer that has no integer, or is not offered again, stays away. -/
theorem absent_run {steps : List (Step τ)} (named : Named s) (single : ∀ x ∈ steps, x.single = true)
    (numbered : s.Numbered steps) (peer : id.initiator ≠ s.side)
    (barred : id.handle? = none ∨ ∀ x ∈ steps, x.offers ≠ some id) (absent : id ∉ s.streams.keys) :
    id ∉ (s.run steps).streams.keys := by
  induction steps generalizing s with
  | nil => exact absent
  | cons x steps ih =>
    have o := outcome_step s (single x (List.mem_cons_self ..))
    have side : (s.step x).side = s.side := ((kept_sameSession s).step named (.refl s) x).side
    have still : id ∉ (s.step x).streams.keys := by
      intro live
      obtain there | opened | received := mem_keys_outcome o live
      · exact absent there
      · obtain ⟨p, mem, rfl⟩ := List.mem_map.1 opened
        have next : p.2 = s.nextId p.1 :=
          numbered (p.2, s.nextId p.1) (List.mem_append_left _ (List.mem_map_of_mem mem))
        exact peer (by rw [next]; exact StreamId.initiator_of ..)
      · obtain unfit | unoffered := barred
        · have fits := fits_of_received o id received
          rw [unfit] at fits
          cases fits
        · exact unoffered x (List.mem_cons_self ..) (offers_of_received received)
    refine ih (named_step named x) (fun y mem => single y (List.mem_cons_of_mem x mem))
      (fun p mem => numbered p (List.mem_append_right _ mem)) (side ▸ peer) ?_ still
    exact barred.imp_right fun unoffered y mem => unoffered y (List.mem_cons_of_mem x mem)

/-- Take any run of a session, and let it refuse a stream of the peer. All that this does is to ask the
transport to stop what can be read of the stream, and to reset what can be written: in everything else the
session is what it was, and the connection goes on. Whatever happens afterwards, the stream does not come into
the table, if it is not offered again or could not be taken in then either; and at any point at which it is not
in the table, reports about it and operations on it have no effect. -/
theorem refused_stream_leaves_no_trace (number : SessionId) (connection : ConnectionHandle) (t : τ)
    (options : SessionOptions) (made : Instant) (before after : List (Step τ)) (a : Audience) (now : Instant)
    (id : StreamId) :
    let s := (Session.new number connection t options made).run before
    let s' := s.step (.operate a now (.createIncoming id))
    let later := s'.run after
    s.connected = true → id.initiator ≠ s.side → id ∉ s.streams.keys → Refuses id s →
      s.createIncoming a now id = .ok (none, s') ∧
      s' = { s with transport := turnAway id s.transport } ∧
      (Transport.StaysOpen τ → s'.connected = true) ∧
      (s'.Numbered (s'.rounds after) →
        (id.handle? = none ∨ ∀ x ∈ s'.rounds after, x.offers ≠ some id) → id ∉ later.streams.keys) ∧
      (id ∉ later.streams.keys → Heedless id later) := by
  intro s s' later connected peer absent refuses
  have named : Named s := named_run (named_empty rfl) before
  have refused := createIncoming_of_refused a now connected peer absent refuses
  have left : s' = { s with transport := turnAway id s.transport } := step_of_createIncoming refused
  have named' : Named s' := named_step named _
  have peer' : id.initiator ≠ s'.side := by
    rw [left]
    exact peer
  have absent' : id ∉ s'.streams.keys := by
    rw [left]
    exact absent
  refine ⟨left ▸ refused, left, fun stays => ?_, fun numbered barred => ?_, fun missing => ?_⟩
  · rw [left, connected_turnAway stays]
    exact connected
  · show id ∉ (s'.run after).streams.keys
    rw [← run_rounds]
    exact absent_run named' (single_rounds s' after) numbered peer' barred absent'
  · have side : later.side = s'.side := (sameSession_run named' after).side
    exact heedless_of_absent missing (side ▸ peer')

/-! ## A stream after a goodbye -/

theorem staysOpen_wire : Transport.StaysOpen Wire.Connection := ⟨fun _ _ _ => rfl, fun _ _ _ => rfl⟩

/-- A client that respects goodbyes. -/
def politeSession : Session Wire.Connection :=
  .new ⟨1⟩ ⟨0⟩ Scenario.unmadeConnection { SessionOptions.standard with respectGoaway := true } 0

/-- It gets one. -/
def partingRun : List (Step Wire.Connection) :=
  [.operate .silent 0 .start, .operate .silent 0 .beginHandshake, .transport answeredConnection,
    .operate .silent 0 .process, .operate .silent 0 .receiveGoaway]

/-- The server opens a stream nevertheless, and the transport hands it out. -/
def latecomerRun : List (Step Wire.Connection) :=
  let t := (politeSession.run partingRun).transport.receive 0
    ⟨0, 1, [.stream (.of .server .bi 0) 0 [104] false]⟩
  partingRun ++ [.transport (((Transport.acceptStream .bi t).map Prod.snd).getD t)]

/-- It is refused. More that arrives on it is not heeded. -/
theorem refused_stream_leaves_no_trace_latecomer :
    let id := StreamId.of .server .bi 0
    let s := politeSession.run latecomerRun
    let s' := s.step (.operate .silent 0 (.createIncoming id))
    let after := [.transport (s'.transport.receive 0 ⟨0, 2, [.stream id 1 [105] true, .stop id 9]⟩),
      .operate .silent 0 .process]
    s.connected = true ∧ id.initiator ≠ s.side ∧ id ∉ s.streams.keys ∧ Refuses id s ∧
      s'.Numbered (s'.rounds after) ∧ (∀ x ∈ s'.rounds after, x.offers ≠ some id) ∧
      s' = { s with transport := turnAway id s.transport } ∧ s'.connected = true ∧
      id ∉ (s'.run after).streams.keys ∧ Heedless id (s'.run after) := by
  intro id s s' after
  have connected : s.connected = true := by decide +kernel
  have peer : id.initiator ≠ s.side := by decide +kernel
  have absent : id ∉ s.streams.keys := by decide +kernel
  have refuses : Refuses id s := .inl (by decide +kernel)
  have numbered : s'.Numbered (s'.rounds after) := by decide +kernel
  have unoffered : ∀ x ∈ s'.rounds after, x.offers ≠ some id := by decide +kernel
  have refused := refused_stream_leaves_no_trace ⟨1⟩ ⟨0⟩ Scenario.unmadeConnection
    { SessionOptions.standard with respectGoaway := true } 0 latecomerRun after .silent 0 id connected peer
    absent refuses
  have missing := refused.2.2.2.1 numbered (.inr unoffered)
  exact ⟨connected, peer, absent, refuses, numbered, unoffered, refused.2.1,
    refused.2.2.1 staysOpen_wire, missing, refused.2.2.2.2 missing⟩

end Session

end QuicSessions
