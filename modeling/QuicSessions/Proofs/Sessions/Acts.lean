import Mathlib.Logic.Relation
import QuicSessions.Proofs.Sessions.Frame

/-!
# Sessions act by act

The operations of a session and its reactions to reports are built from few acts, some of them
in loops. `Act` lists the acts, each with what has to hold when it is made; `Acts` is a sequence of
them. Every operation and every reaction is such a sequence, so a property that each act keeps holds
after any of them, and at every point on the way.

All acts but one are deeds: the one that is not takes in a stream of the peer. It comes only after the
transport accepted the stream, or when somebody asks for it by its identifier. A course keeps the two
together, for what has to be told where a stream that is taken in comes from.
-/

set_option autoImplicit false

namespace QuicSessions.Session

variable {τ : Type} [Transport τ]

/-! ## Acts -/

/-- What a session does to its transport besides moving the bytes of a stream. -/
inductive Ask : τ → τ → Prop where
  | poll {t t' : τ} {e : Event} (h : Transport.poll t = some (e, t')) : Ask t t'
  | accept {t t' : τ} {dir : Dir} {id : StreamId}
      (h : Transport.acceptStream dir t = some (id, t')) : Ask t t'
  | datagram {t t' : τ} {data : Bytes} (h : Transport.receiveDatagram t = some (data, t')) : Ask t t'
  | sendDatagram (t : τ) (data : Bytes) : Ask t (Transport.sendDatagram data t).2
  | reject (t : τ) (id : StreamId) (side : Side) (code : Nat) : Ask t (LiveStream.reject id side code t)
  | ping (t : τ) : Ask t (Transport.ping t)
  | close (t : τ) (now : Instant) (code : Nat) (reason : Bytes) : Ask t (Transport.close now code reason t)
  | timeout (t : τ) (now : Instant) : Ask t (Transport.timeout now t)

/-- The session after it opened the stream `id`, which left the transport at `t`. -/
def afterOpen (a : Audience) (dir : Dir) (id : StreamId) (t : τ) (s : Session τ) : Session τ :=
  ({ s with transport := t, opened := s.opened.update dir (· + 1) }.insertStream id).tellListener a
    (.ready s.id id.handle)

/-- The session after it took in the stream `id` of the peer, before anything was read from it. -/
def afterTakeIn (a : Audience) (id : StreamId) (s : Session τ) : Session τ :=
  let s := (s.insertStream id).announce a id
  s.tellListener a (.ready s.id id.handle)

/-- The session without a spent stream. -/
def dropStream (a : Audience) (stream : LiveStream) (s : Session τ) : Session τ :=
  { s with
    streams := s.streams.erase stream.id
    unannounced := s.unannounced.filter (· ≠ stream.id) }.tellStreamClosed a stream

/-- The session after the peer allowed more streams. -/
def afterCredit (a : Audience) (dir : Dir) (s : Session τ) : Session τ :=
  let s := { s with blocked := s.blocked.set dir false }
  if s.state = .active then s.tellVisitor a (.canCreate dir) else s

/-- A stream of the peer that the session may take in. -/
structure Welcome (id : StreamId) (s : Session τ) : Prop where
  new : s.streams.contains id = false
  connected : s.connected = true
  peer : id.initiator ≠ s.side
  polite : (s.goawayReceived && s.respectGoaway) = false
  fits : id.handle?.isSome = true

/-- An act that concerns the transport or the contents of one stream, and nothing else. -/
inductive Traffic (a : Audience) (s : Session τ) : Session τ → Prop where
  | ask {t : τ} (h : Ask s.transport t) : Traffic a s { s with transport := t }
  | deliver (id : StreamId) : Traffic a s (s.deliver a id)
  | read (id : StreamId) (limit : Nat) : Traffic a s (s.streamRead a id limit).2
  | write (id : StreamId) (data : Bytes) (fin : Bool) : Traffic a s (s.streamWrite id data fin).2
  | closeStream (id : StreamId) : Traffic a s (s.streamClose id)
  | writable (id : StreamId) : Traffic a s (s.streamWritable a id)
  | setStreamVisitor (id : StreamId) (v : StreamVisitor) : Traffic a s (s.setStreamVisitor a id v)
  | acknowledged (id : StreamId) :
      Traffic a s { s with streams := s.streams.update id LiveStream.acknowledged }
  | stopped (id : StreamId) :
      Traffic a s { s with streams := s.streams.update id LiveStream.abandonWrites }

/-- One act of a session, other than taking in a stream of the peer. -/
inductive Deed (a : Audience) (s : Session τ) : Session τ → Prop where
  | traffic {s' : Session τ} (h : Traffic a s s') : Deed a s s'
  | start {s' : Session τ} (h : s.start = .ok s') : Deed a s s'
  | beginHandshake (now : Instant) {s' : Session τ} (h : s.beginHandshake now = .ok s') : Deed a s s'
  | openStream {dir : Dir} {id : StreamId} {t : τ} (gate : s.refusal? dir = none)
      (h : Transport.openStream dir s.transport = some (id, t)) : Deed a s (s.afterOpen a dir id t)
  | noCredit {dir : Dir} (gate : s.refusal? dir = none)
      (h : Transport.openStream dir s.transport = none) :
      Deed a s { s with blocked := s.blocked.set dir true }
  | credit (dir : Dir) : Deed a s (s.afterCredit a dir)
  | drop {stream : LiveStream} (h : s.streams.get? stream.id = some stream)
      (spent : stream.spent = true) : Deed a s (s.dropStream a stream)
  | conclude (reason : CloseReason) : Deed a s (s.conclude a reason)
  | handshakeComplete : Deed a s (s.handshakeComplete a)
  | receiveGoaway : Deed a s (s.receiveGoaway a)
  | setVisitor (v : SessionVisitor) : Deed a s (s.setVisitor a v)
  | setRespectGoaway (respect : Bool) : Deed a s { s with respectGoaway := respect }
  | takeSignals : Deed a s { s with signals := [] }
  | rebase (now : Instant) : Deed a s { s with lastKeepAlive := now }

/-- One act of a session. -/
inductive Act (a : Audience) (s : Session τ) : Session τ → Prop where
  | deed {s' : Session τ} (h : Deed a s s') : Act a s s'
  | takeIn {id : StreamId} (h : s.Welcome id) : Act a s (s.afterTakeIn a id)

/-- Any number of acts, one after the other. -/
def Acts (a : Audience) : Session τ → Session τ → Prop := Relation.ReflTransGen (Act a)

namespace Acts

variable {a : Audience} {s s' s'' : Session τ}

theorem refl (s : Session τ) : Acts a s s := Relation.ReflTransGen.refl

theorem one (h : Act a s s') : Acts a s s' := Relation.ReflTransGen.single h

theorem trans (h : Acts a s s') (h' : Acts a s' s'') : Acts a s s'' := Relation.ReflTransGen.trans h h'

theorem then_act (h : Acts a s s') (h' : Act a s' s'') : Acts a s s'' := Relation.ReflTransGen.tail h h'

/-- What every act keeps holds after any number of them. -/
theorem keep {P : Session τ → Prop} (act : ∀ s s', Act a s s' → P s → P s') (h : Acts a s s')
    (hs : P s) : P s' := by
  induction h with
  | refl => exact hs
  | tail _ last ih => exact act _ _ last ih

end Acts

/-- Any number of deeds, one after the other. -/
def Deeds (a : Audience) : Session τ → Session τ → Prop := Relation.ReflTransGen (Deed a)

namespace Deeds

variable {a : Audience} {s s' s'' : Session τ}

theorem refl (s : Session τ) : Deeds a s s := Relation.ReflTransGen.refl

theorem one (h : Deed a s s') : Deeds a s s' := Relation.ReflTransGen.single h

/-- A question to the transport. -/
theorem ask {t : τ} (h : Ask s.transport t) : Deeds a s { s with transport := t } :=
  one (.traffic (.ask h))

theorem trans (h : Deeds a s s') (h' : Deeds a s' s'') : Deeds a s s'' :=
  Relation.ReflTransGen.trans h h'

theorem then_deed (h : Deeds a s s') (h' : Deed a s' s'') : Deeds a s s'' :=
  Relation.ReflTransGen.tail h h'

theorem acts (h : Deeds a s s') : Acts a s s' :=
  Relation.ReflTransGen.mono (fun _ _ deed => .deed deed) _ _ h

end Deeds

/-- A deed, or the reception of a stream that the transport just accepted. -/
inductive Passage (a : Audience) (s : Session τ) : Session τ → Prop where
  | deed {s' : Session τ} (h : Deed a s s') : Passage a s s'
  | received {dir : Dir} {id : StreamId} {t : τ} {now : Instant} {r : Option StreamHandle}
      {s' : Session τ} (accepted : Transport.acceptStream dir s.transport = some (id, t))
      (h : createIncoming a now id { s with transport := t } = .ok (r, s')) : Passage a s s'

/-- Any number of passages, one after the other. -/
def Course (a : Audience) : Session τ → Session τ → Prop := Relation.ReflTransGen (Passage a)

namespace Course

variable {a : Audience} {s s' s'' : Session τ}

theorem refl (s : Session τ) : Course a s s := Relation.ReflTransGen.refl

theorem one (h : Passage a s s') : Course a s s' := Relation.ReflTransGen.single h

theorem deed (h : Deed a s s') : Course a s s' := one (.deed h)

theorem trans (h : Course a s s') (h' : Course a s' s'') : Course a s s'' :=
  Relation.ReflTransGen.trans h h'

theorem deeds (h : Deeds a s s') : Course a s s' :=
  Relation.ReflTransGen.mono (fun _ _ deed => .deed deed) _ _ h

end Course

/-! ## Closing and refusing -/

variable (a : Audience) (now : Instant)

theorem deeds_closeConnection (code : UInt32) (reason : String) (s : Session τ) :
    Deeds a s (s.closeConnection a now code reason) := by
  unfold closeConnection
  split
  · exact .refl s
  · exact (Deeds.ask (.close s.transport now code.toNat (Utf8.encode reason))).then_deed
      (.conclude _)

/-- What the gate for streams of the peer may answer, and what it does about it. -/
theorem screen_cases {id : StreamId} {s s' : Session τ} {refusal : Option Refusal}
    (h : s.screen a now id = .ok (refusal, s')) :
    (refusal = some .notConnected ∧ s' = s) ∨
    (refusal = some .foreignId ∧ s.connected = true ∧ id.initiator = s.side ∧
      s' = s.closeConnection a now AppCode.invalidStreamId.value (foreignIdReason s.side)) ∨
    ((refusal = some .goaway ∨ refusal = some .limitReached) ∧ s.connected = true ∧
      id.initiator ≠ s.side ∧ s' = s) ∨
    (refusal = none ∧ (s.streams.contains id = false → s.Welcome id) ∧ s' = s) := by
  unfold screen at h
  split at h
  · cases h
  split at h
  · obtain ⟨rfl, rfl⟩ := Prod.mk.inj (Except.ok.inj h)
    exact .inl ⟨rfl, rfl⟩
  rename_i connected
  rw [Bool.not_eq_true', Bool.not_eq_false] at connected
  split at h
  · rename_i own
    obtain ⟨rfl, rfl⟩ := Prod.mk.inj (Except.ok.inj h)
    exact .inr (.inl ⟨rfl, connected, own, rfl⟩)
  rename_i peer
  split at h
  · obtain ⟨rfl, rfl⟩ := Prod.mk.inj (Except.ok.inj h)
    exact .inr (.inr (.inl ⟨.inl rfl, connected, peer, rfl⟩))
  rename_i polite
  split at h
  · obtain ⟨rfl, rfl⟩ := Prod.mk.inj (Except.ok.inj h)
    exact .inr (.inr (.inl ⟨.inr rfl, connected, peer, rfl⟩))
  rename_i fits
  obtain ⟨rfl, rfl⟩ := Prod.mk.inj (Except.ok.inj h)
  refine .inr (.inr (.inr ⟨rfl, fun new => ⟨new, connected, peer, ?_, ?_⟩, rfl⟩))
  · simpa using polite
  · simpa [Option.isSome_iff_ne_none] using fits

theorem deeds_screen {id : StreamId} {s s' : Session τ} {refusal : Option Refusal}
    (h : s.screen a now id = .ok (refusal, s')) : Deeds a s s' := by
  obtain ⟨-, e⟩ | ⟨-, -, -, e⟩ | ⟨-, -, -, e⟩ | ⟨-, -, e⟩ := screen_cases a now h
  · exact e ▸ .refl _
  · exact e ▸ deeds_closeConnection a now _ _ s
  · exact e ▸ .refl _
  · exact e ▸ .refl _

/-! ## Creating streams -/

/-- The gate for streams opened from here, of a session that was started. -/
theorem gate_eq_ok {dir : Dir} {s : Session τ} {r : Option Refusal} (h : s.gate dir = .ok r) :
    r = s.refusal? dir := by
  unfold gate at h
  split at h
  · cases h
  · exact (Except.ok.inj h).symm

theorem handle_of_gate {dir : Dir} {s : Session τ} (h : s.refusal? dir = none) :
    (s.nextId dir).handle?.isSome = true := by
  unfold refusal? at h
  split at h
  · cases h
  split at h
  · cases h
  split at h
  · cases h
  split at h
  · cases h
  · rename_i credit
    rw [Bool.not_eq_true, Bool.or_eq_false_iff, Option.isNone_eq_false_iff] at credit
    exact credit.2

/-- No stream is opened, because the gate is shut or for lack of credit; or one is. -/
theorem openStream_forms {dir : Dir} {s s' : Session τ} {r : Option StreamHandle}
    (h : s.openStream a dir = .ok (r, s')) :
    (r = none ∧ s' = s) ∨
      (r = none ∧ s.refusal? dir = none ∧ Transport.openStream dir s.transport = none ∧
        s' = { s with blocked := s.blocked.set dir true }) ∨
      ∃ id t, r = some (s.streamHandle id) ∧ s.refusal? dir = none ∧
        Transport.openStream dir s.transport = some (id, t) ∧ s' = s.afterOpen a dir id t := by
  obtain ⟨refusal, gate, h⟩ := ok_of_bind h
  have gate := gate_eq_ok gate
  cases refusal with
  | some refusal =>
    cases h
    exact .inl ⟨rfl, rfl⟩
  | none =>
    cases opened : Transport.openStream dir s.transport with
    | none =>
      simp only [opened] at h
      cases h
      exact .inr (.inl ⟨rfl, gate.symm, rfl, rfl⟩)
    | some p =>
      simp only [opened] at h
      cases h
      exact .inr (.inr ⟨p.1, p.2, rfl, gate.symm, rfl, rfl⟩)

theorem deeds_openStream {dir : Dir} {s s' : Session τ} {r : Option StreamHandle}
    (h : s.openStream a dir = .ok (r, s')) : Deeds a s s' := by
  obtain ⟨-, rfl⟩ | ⟨-, gate, exhausted, rfl⟩ | ⟨id, t, -, gate, opened, rfl⟩ := openStream_forms a h
  · exact .refl _
  · exact .one (.noCredit gate exhausted)
  · exact .one (.openStream gate opened)

theorem deeds_openUnidirectional {s s' : Session τ} {r : Option StreamHandle}
    (h : s.openUnidirectional a = .ok (r, s')) : Deeds a s s' := by
  unfold openUnidirectional at h
  split at h
  · exact deeds_openStream a h
  · cases h

/-- A stream of the peer is taken in and read from, or something stands against it: the session has it
already, or refuses it, or closes over it. -/
theorem createIncoming_forms {id : StreamId} {s s' : Session τ} {r : Option StreamHandle}
    (h : s.createIncoming a now id = .ok (r, s')) :
    (r = none ∧ (s' = s ∨ ∃ code, s' = { s with
        transport := LiveStream.reject id s.side code s.transport })) ∨
      (r = none ∧ s.streams.contains id = false ∧ s.connected = true ∧ id.initiator = s.side ∧
        s' = s.closeConnection a now AppCode.invalidStreamId.value (foreignIdReason s.side)) ∨
      (r = some (s.streamHandle id) ∧ s.Welcome id ∧ s' = (s.afterTakeIn a id).deliver a id) := by
  unfold createIncoming at h
  split at h
  · cases h
    exact .inl ⟨rfl, .inl rfl⟩
  rename_i new
  rw [Bool.not_eq_true] at new
  obtain ⟨⟨refusal, s₁⟩, screened, created⟩ := ok_of_bind h
  obtain ⟨rfl, rfl⟩ | ⟨rfl, connected, own, rfl⟩ | ⟨rfl | rfl, -, -, rfl⟩ | ⟨rfl, welcome, rfl⟩ :=
    screen_cases a now screened
  · cases created
    exact .inl ⟨rfl, .inl rfl⟩
  · cases created
    exact .inr (.inl ⟨rfl, new, connected, own, rfl⟩)
  · cases created
    exact .inl ⟨rfl, .inr ⟨_, rfl⟩⟩
  · cases created
    exact .inl ⟨rfl, .inr ⟨_, rfl⟩⟩
  · cases created
    refine .inr (.inr ⟨?_, welcome new, rfl⟩)
    show some (StreamHandle.mk _ _ _) = some (StreamHandle.mk _ _ _)
    unfold announce
    split <;> rfl

theorem createIncoming_cases {id : StreamId} {s s' : Session τ} {r : Option StreamHandle}
    (h : s.createIncoming a now id = .ok (r, s')) :
    (r = none ∧ Deeds a s s') ∨
      (r.isSome = true ∧ s.Welcome id ∧ s' = (s.afterTakeIn a id).deliver a id) := by
  obtain ⟨none_made, rfl | ⟨code, rfl⟩⟩ | ⟨none_made, -, -, -, rfl⟩ | ⟨rfl, welcome, rfl⟩ :=
    createIncoming_forms a now h
  · exact .inl ⟨none_made, .refl _⟩
  · exact .inl ⟨none_made, .ask (.reject ..)⟩
  · exact .inl ⟨none_made, deeds_closeConnection a now _ _ _⟩
  · exact .inr ⟨rfl, welcome, rfl⟩

theorem acts_createIncoming {id : StreamId} {s s' : Session τ} {r : Option StreamHandle}
    (h : s.createIncoming a now id = .ok (r, s')) : Acts a s s' := by
  obtain ⟨-, deeds⟩ | ⟨-, welcome, rfl⟩ := createIncoming_cases a now h
  · exact deeds.acts
  · exact (Acts.one (.takeIn welcome)).then_act (.deed (.traffic (.deliver id)))

variable {a} in
theorem Course.acts {s s' : Session τ} (h : Course a s s') : Acts a s s' := by
  induction h with
  | refl => exact .refl s
  | tail _ last ih =>
    refine ih.trans ?_
    cases last with
    | deed h => exact .one (.deed h)
    | received accepted h =>
      exact (Deeds.ask (.accept accepted)).acts.trans (acts_createIncoming a _ h)

theorem course_acceptPending {dir : Dir} {s s' : Session τ}
    (h : s.acceptPending a now dir = .ok s') : Course a s s' := by
  fun_induction acceptPending a now dir s with
  | case1 s none_waits => exact Except.ok.inj h ▸ .refl s
  | case2 s id t waits fault failed => cases h
  | case3 s id t waits r s₁ taken closed => exact Except.ok.inj h ▸ .one (.received waits taken)
  | case4 s id t waits r s₁ taken opened less ih =>
    exact (Course.one (.received waits taken)).trans (ih h)
  | case5 s id t waits r s₁ taken opened full =>
    exact Except.ok.inj h ▸ .one (.received waits taken)

/-- A lookup opens a stream, or leaves the session as it was. -/
theorem getOrOpen_forms {id : StreamId} {s s' : Session τ} {r : Option StreamId}
    (h : s.getOrOpen a id = .ok (r, s')) :
    s' = s ∨ ∃ dir stream, s.openStream a dir = .ok (stream, s') := by
  unfold getOrOpen at h
  split at h
  · cases h
    exact .inl rfl
  split at h
  · cases h
    exact .inl rfl
  split at h
  · cases h
    exact .inl rfl
  split at h
  · cases h
    exact .inl rfl
  · obtain ⟨⟨stream, s₁⟩, opened, h⟩ := ok_of_bind h
    cases h
    exact .inr ⟨_, _, opened⟩

theorem deeds_getOrOpen {id : StreamId} {s s' : Session τ} {r : Option StreamId}
    (h : s.getOrOpen a id = .ok (r, s')) : Deeds a s s' := by
  obtain rfl | ⟨dir, stream, opened⟩ := getOrOpen_forms a h
  · exact .refl s'
  · exact deeds_openStream a opened

/-! ## One stream, time and the table -/

theorem deeds_timeout (s : Session τ) : Deeds a s (s.timeout a now) := by
  have told : Deeds a s { s with transport := Transport.timeout now s.transport } :=
    .ask (.timeout _ now)
  unfold timeout
  dsimp only
  split
  · exact (told.trans (.ask (.close _ now _ _))).then_deed (.conclude _)
  split
  · split
    · exact (told.trans (.ask (.ping _))).then_deed (.rebase now)
    · exact told
  · exact told.then_deed (.rebase now)

/-- Dropping spent streams one after the other: each is still there when its turn comes. -/
theorem deeds_drop (gone : List LiveStream) (s : Session τ) (distinct : (gone.map LiveStream.id).Nodup)
    (there : ∀ x ∈ gone, s.streams.get? x.id = some x) (spent : ∀ x ∈ gone, x.spent = true) :
    Deeds a s (gone.foldl (fun s x => s.dropStream a x) s) := by
  induction gone generalizing s with
  | nil => exact .refl s
  | cons x gone ih =>
    rw [List.map_cons, List.nodup_cons] at distinct
    have first : Deed a s (s.dropStream a x) :=
      .drop (there x (List.mem_cons_self ..)) (spent x (List.mem_cons_self ..))
    refine (Deeds.one first).trans (ih _ distinct.2 (fun y hy => ?_) fun y hy =>
      spent y (List.mem_cons_of_mem x hy))
    have other : y.id ≠ x.id := fun e => distinct.1 (e ▸ List.mem_map.2 ⟨y, hy, rfl⟩)
    have erased : (s.dropStream a x).streams = s.streams.erase x.id := rfl
    rw [erased, Table.get?_erase, if_neg other]
    exact there y (List.mem_cons_of_mem x hy)

theorem deeds_reclaim {s : Session τ} (named : Named s) : Deeds a s (s.reclaim a) := by
  refine deeds_drop a _ s (named.nodup_ids.sublist (List.filter_sublist.map _)) (fun x hx => ?_)
    fun x hx => (List.mem_filter.1 hx).2
  exact named.get?_of_mem_values (List.mem_filter.1 hx).1

/-! ## Reports -/

theorem deeds_drainDatagrams (s : Session τ) : Deeds a s (s.drainDatagrams a) := by
  fun_induction drainDatagrams a s with
  | case1 s none_waits => exact .refl s
  | case2 s data t waits s₁ s₂ less ih =>
    refine Deeds.trans ?_ ih
    have taken : Deeds a s s₁ := .ask (.datagram waits)
    dsimp only [s₂]
    split
    · exact taken.then_deed .receiveGoaway
    · exact taken
  | case3 s data t waits s₁ s₂ full =>
    have taken : Deeds a s s₁ := .ask (.datagram waits)
    dsimp only [s₂]
    split
    · exact taken.then_deed .receiveGoaway
    · exact taken

theorem course_react {e : Event} {s s' : Session τ} (h : s.react a now e = .ok s') : Course a s s' := by
  cases e with
  | handshakeData => exact Except.ok.inj h ▸ .refl s
  | connected => exact Except.ok.inj h ▸ .deed .handshakeComplete
  | lost cause => exact Except.ok.inj h ▸ .deed (.conclude _)
  | opened dir => exact course_acceptPending a now h
  | readable id => exact Except.ok.inj h ▸ .deed (.traffic (.deliver id))
  | writable id => exact Except.ok.inj h ▸ .deed (.traffic (.writable id))
  | finished id => exact Except.ok.inj h ▸ .deed (.traffic (.acknowledged id))
  | stopped id code => exact Except.ok.inj h ▸ .deed (.traffic (.stopped id))
  | available dir => exact Except.ok.inj h ▸ .deed (.credit dir)
  | datagram => exact Except.ok.inj h ▸ .deeds (deeds_drainDatagrams a s)
  | datagramsUnblocked => exact Except.ok.inj h ▸ .refl s

theorem course_process {s s' : Session τ} (h : s.process a now = .ok s') : Course a s s' := by
  fun_induction process a now s with
  | case1 s none_waits => exact Except.ok.inj h ▸ .refl s
  | case2 s e t waits fault failed => cases h
  | case3 s e t waits s₁ reacted less ih =>
    exact ((Course.deeds (.ask (.poll waits))).trans (course_react a now reacted)).trans (ih h)
  | case4 s e t waits s₁ reacted full =>
    exact Except.ok.inj h ▸ (Course.deeds (.ask (.poll waits))).trans (course_react a now reacted)

theorem acts_process {s s' : Session τ} (h : s.process a now = .ok s') : Acts a s s' :=
  (course_process a now h).acts

/-! ## Every operation -/

/-- An operation is a course, unless it asks for a stream of the peer by its identifier. -/
theorem course_run {op : Operation} {s s' : Session τ} {r : Answer} (named : Named s)
    (h : op.run a now s = .ok (r, s')) :
    Course a s s' ∨ ∃ id h, op = .createIncoming id ∧ r = .stream (h.map StreamHandle.stream) ∧
      s.createIncoming a now id = .ok (h, s') := by
  cases op with
  | createIncoming id =>
    obtain ⟨⟨stream, s₁⟩, created, h⟩ := ok_of_bind h
    cases h
    exact .inr ⟨id, stream, rfl, rfl, created⟩
  | start =>
    obtain ⟨s₁, started, h⟩ := ok_of_bind h
    cases h
    exact .inl (.deed (.start started))
  | beginHandshake =>
    obtain ⟨s₁, begun, h⟩ := ok_of_bind h
    cases h
    exact .inl (.deed (.beginHandshake now begun))
  | gate dir =>
    obtain ⟨refusal, -, h⟩ := ok_of_bind h
    cases h
    exact .inl (.refl s)
  | shouldOpen =>
    obtain ⟨b, -, h⟩ := ok_of_bind h
    cases h
    exact .inl (.refl s)
  | openStream dir =>
    cases dir with
    | bi =>
      obtain ⟨⟨stream, s₁⟩, opened, h⟩ := ok_of_bind h
      cases h
      exact .inl (.deeds (deeds_openStream a opened))
    | uni =>
      obtain ⟨⟨stream, s₁⟩, opened, h⟩ := ok_of_bind h
      cases h
      exact .inl (.deeds (deeds_openUnidirectional a opened))
  | screen id =>
    obtain ⟨⟨refusal, s₁⟩, screened, h⟩ := ok_of_bind h
    cases h
    exact .inl (.deeds (deeds_screen a now screened))
  | getOrOpen id =>
    obtain ⟨⟨found, s₁⟩, opened, h⟩ := ok_of_bind h
    cases h
    exact .inl (.deeds (deeds_getOrOpen a opened))
  | acceptPending dir =>
    obtain ⟨s₁, accepted, h⟩ := ok_of_bind h
    cases h
    exact .inl (course_acceptPending a now accepted)
  | process =>
    obtain ⟨s₁, processed, h⟩ := ok_of_bind h
    cases h
    exact .inl (course_process a now processed)
  | write id data fin => cases h; exact .inl (.deed (.traffic (.write id data fin)))
  | read id limit => cases h; exact .inl (.deed (.traffic (.read id limit)))
  | closeStream id => cases h; exact .inl (.deed (.traffic (.closeStream id)))
  | setVisitor v => cases h; exact .inl (.deed (.setVisitor v))
  | setStreamVisitor id v => cases h; exact .inl (.deed (.traffic (.setStreamVisitor id v)))
  | setRespectGoaway respect => cases h; exact .inl (.deed (.setRespectGoaway respect))
  | sendGoaway => cases h; exact .inl (.deeds (.ask (.sendDatagram ..)))
  | receiveGoaway => cases h; exact .inl (.deed .receiveGoaway)
  | close code reason => cases h; exact .inl (.deeds (deeds_closeConnection a now code reason s))
  | reclaim => cases h; exact .inl (.deeds (deeds_reclaim a named))
  | takeSignals => cases h; exact .inl (.deed .takeSignals)
  | timeout after =>
    rw [eq_of_timeout_run a h]
    exact .inl (.deeds (deeds_timeout a _ s))
  | standing => cases h; exact .inl (.refl s)
  | nextId dir => cases h; exact .inl (.refl s)
  | hasStream id => cases h; exact .inl (.refl s)
  | canWrite id => cases h; exact .inl (.refl s)
  | buffered id => cases h; exact .inl (.refl s)
  | inUse => cases h; exact .inl (.refl s)
  | hasTimer =>
    rw [eq_of_hasTimer_run a h]
    exact .inl (.refl s)
  | stats => cases h; exact .inl (.refl s)
  | names => cases h; exact .inl (.refl s)

theorem acts_run {op : Operation} {s s' : Session τ} {r : Answer} (named : Named s)
    (h : op.run a now s = .ok (r, s')) : Acts a s s' := by
  obtain course | ⟨id, stream, -, -, created⟩ := course_run a now named h
  · exact course.acts
  · exact acts_createIncoming a now created

/-- What an operation that answers comes to: a question, a stream that is opened, or a call of one
function of the session. -/
inductive Operated (a : Audience) (now : Instant) (s : Session τ) : Operation → Session τ → Prop where
  | asks {op : Operation} : Operated a now s op s
  | opens {op : Operation} {dir : Dir} {r : Option StreamHandle} {s' : Session τ}
      (h : s.openStream a dir = .ok (r, s')) : Operated a now s op s'
  | start {s' : Session τ} (h : s.start = .ok s') : Operated a now s .start s'
  | beginHandshake {s' : Session τ} (h : s.beginHandshake now = .ok s') :
      Operated a now s .beginHandshake s'
  | screen {id : StreamId} {r : Option Refusal} {s' : Session τ}
      (h : s.screen a now id = .ok (r, s')) : Operated a now s (.screen id) s'
  | createIncoming {id : StreamId} {r : Option StreamHandle} {s' : Session τ}
      (h : s.createIncoming a now id = .ok (r, s')) : Operated a now s (.createIncoming id) s'
  | acceptPending {dir : Dir} {s' : Session τ} (h : s.acceptPending a now dir = .ok s') :
      Operated a now s (.acceptPending dir) s'
  | process {s' : Session τ} (h : s.process a now = .ok s') : Operated a now s .process s'
  | write (id : StreamId) (data : Bytes) (fin : Bool) :
      Operated a now s (.write id data fin) (s.streamWrite id data fin).2
  | read (id : StreamId) (limit : Nat) : Operated a now s (.read id limit) (s.streamRead a id limit).2
  | closeStream (id : StreamId) : Operated a now s (.closeStream id) (s.streamClose id)
  | setStreamVisitor (id : StreamId) (v : StreamVisitor) :
      Operated a now s (.setStreamVisitor id v) (s.setStreamVisitor a id v)
  | setVisitor (v : SessionVisitor) : Operated a now s (.setVisitor v) (s.setVisitor a v)
  | setRespectGoaway (respect : Bool) :
      Operated a now s (.setRespectGoaway respect) { s with respectGoaway := respect }
  | sendGoaway : Operated a now s .sendGoaway s.sendGoaway.2
  | receiveGoaway : Operated a now s .receiveGoaway (s.receiveGoaway a)
  | close (code : UInt32) (reason : String) :
      Operated a now s (.close code reason) (s.closeConnection a now code reason)
  | reclaim : Operated a now s .reclaim (s.reclaim a)
  | takeSignals : Operated a now s .takeSignals { s with signals := [] }
  | timeout (after : Nat) : Operated a now s (.timeout after) (s.timeout a (now + after))

theorem operated_of_run {op : Operation} {s s' : Session τ} {r : Answer}
    (h : op.run a now s = .ok (r, s')) : Operated a now s op s' := by
  cases op with
  | start =>
    obtain ⟨s₁, started, h⟩ := ok_of_bind h
    cases h
    exact .start started
  | beginHandshake =>
    obtain ⟨s₁, begun, h⟩ := ok_of_bind h
    cases h
    exact .beginHandshake begun
  | gate dir =>
    obtain ⟨refusal, -, h⟩ := ok_of_bind h
    cases h
    exact .asks
  | shouldOpen =>
    obtain ⟨b, -, h⟩ := ok_of_bind h
    cases h
    exact .asks
  | openStream dir =>
    cases dir with
    | bi =>
      obtain ⟨⟨stream, s₁⟩, opened, h⟩ := ok_of_bind h
      cases h
      exact .opens opened
    | uni =>
      obtain ⟨⟨stream, s₁⟩, opened, h⟩ := ok_of_bind h
      cases h
      unfold openUnidirectional at opened
      split at opened
      · exact .opens opened
      · cases opened
  | getOrOpen id =>
    obtain ⟨⟨found, s₁⟩, opened, h⟩ := ok_of_bind h
    cases h
    obtain rfl | ⟨dir, stream, opened⟩ := getOrOpen_forms a opened
    · exact .asks
    · exact .opens opened
  | screen id =>
    obtain ⟨⟨refusal, s₁⟩, screened, h⟩ := ok_of_bind h
    cases h
    exact .screen screened
  | createIncoming id =>
    obtain ⟨⟨stream, s₁⟩, created, h⟩ := ok_of_bind h
    cases h
    exact .createIncoming created
  | acceptPending dir =>
    obtain ⟨s₁, accepted, h⟩ := ok_of_bind h
    cases h
    exact .acceptPending accepted
  | process =>
    obtain ⟨s₁, processed, h⟩ := ok_of_bind h
    cases h
    exact .process processed
  | write id data fin => cases h; exact .write id data fin
  | read id limit => cases h; exact .read id limit
  | closeStream id => cases h; exact .closeStream id
  | setStreamVisitor id v => cases h; exact .setStreamVisitor id v
  | setVisitor v => cases h; exact .setVisitor v
  | setRespectGoaway respect => cases h; exact .setRespectGoaway respect
  | sendGoaway => cases h; exact .sendGoaway
  | receiveGoaway => cases h; exact .receiveGoaway
  | close code reason => cases h; exact .close code reason
  | reclaim => cases h; exact .reclaim
  | takeSignals => cases h; exact .takeSignals
  | timeout after =>
    rw [eq_of_timeout_run a h]
    exact .timeout after
  | hasTimer =>
    rw [eq_of_hasTimer_run a h]
    exact .asks
  | standing | nextId dir | hasStream id | canWrite id | buffered id | inUse | stats | names =>
    cases h
    exact .asks

end QuicSessions.Session
