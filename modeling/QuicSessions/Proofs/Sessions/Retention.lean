import QuicSessions.Proofs.Sessions.Effects

/-!
# What a transport retains

A session changes its transport only by the calls that `Transport` lists. So what each of the calls
lets a transport keep, the transport still has after any act of its session. The calls that send and
the calls that read are grouped apart, for what a stream does uses one group or the other.
-/

set_option autoImplicit false

namespace QuicSessions

/-! ## Calls -/

namespace Transport

variable {τ : Type} [Transport τ]

/-- What the calls that send on a stream let a transport keep. -/
structure SendingRetains (P : τ → Prop) : Prop where
  write : ∀ {id : StreamId} {data : Bytes} {t t' : τ} {answer : WriteAnswer data.length},
    write id data t = (answer, t') → P t → P t'
  finish : ∀ {id : StreamId} {t t' : τ} {answer : FinishAnswer},
    finish id t = (answer, t') → P t → P t'

/-- What the calls that read a stream let a transport keep. -/
structure ReadingRetains (P : τ → Prop) : Prop where
  beginRead : ∀ {id : StreamId} {t t' : τ}, beginRead id t = some t' → P t → P t'
  nextRegion : ∀ {id : StreamId} {limit : Nat} {t t' : τ} {answer : ReadAnswer limit},
    nextRegion id limit t = (answer, t') → P t → P t'
  endRead : ∀ {id : StreamId} {t : τ}, P t → P (endRead id t)

/-- What the calls by which a session reacts to a report let a transport keep. -/
structure ReactingRetains (P : τ → Prop) : Prop extends SendingRetains P, ReadingRetains P where
  acceptStream : ∀ {dir : Dir} {id : StreamId} {t t' : τ},
    acceptStream dir t = some (id, t') → P t → P t'
  reset : ∀ {id : StreamId} {code : Nat} {t : τ}, P t → P (reset id code t)
  stop : ∀ {id : StreamId} {code : Nat} {t : τ}, P t → P (stop id code t)
  receiveDatagram : ∀ {data : Bytes} {t t' : τ}, receiveDatagram t = some (data, t') → P t → P t'
  close : ∀ {now : Instant} {code : Nat} {reason : Bytes} {t : τ}, P t → P (close now code reason t)

/-- What every call of a session lets a transport keep. -/
structure Retains (P : τ → Prop) : Prop extends SendingRetains P, ReadingRetains P where
  openStream : ∀ {dir : Dir} {id : StreamId} {t t' : τ},
    openStream dir t = some (id, t') → P t → P t'
  acceptStream : ∀ {dir : Dir} {id : StreamId} {t t' : τ},
    acceptStream dir t = some (id, t') → P t → P t'
  reset : ∀ {id : StreamId} {code : Nat} {t : τ}, P t → P (reset id code t)
  stop : ∀ {id : StreamId} {code : Nat} {t : τ}, P t → P (stop id code t)
  poll : ∀ {e : Event} {t t' : τ}, poll t = some (e, t') → P t → P t'
  receiveDatagram : ∀ {data : Bytes} {t t' : τ}, receiveDatagram t = some (data, t') → P t → P t'
  sendDatagram : ∀ {data : Bytes} {t : τ}, P t → P (sendDatagram data t).2
  ping : ∀ {t : τ}, P t → P (ping t)
  close : ∀ {now : Instant} {code : Nat} {reason : Bytes} {t : τ}, P t → P (close now code reason t)
  timeout : ∀ {now : Instant} {t : τ}, P t → P (timeout now t)

theorem Retains.toReactingRetains {P : τ → Prop} (keep : Retains P) : ReactingRetains P :=
  { keep with }

end Transport

open Transport (SendingRetains ReadingRetains ReactingRetains Retains)

/-! ## Streams -/

namespace LiveStream

variable {τ : Type} [Transport τ] {P : τ → Prop}

section Sending

variable (keep : SendingRetains P)
include keep

theorem retains_pour (id : StreamId) (pending : List Bytes) (buffered : Nat) {t : τ} (h : P t) :
    P (pour id pending buffered t).transport := by
  fun_induction pour id pending buffered t with
  | case1 buffered t => exact h
  | case2 chunk rest buffered t t' pos le written ih => exact ih (keep.write written h)
  | case3 chunk rest buffered t taken pos le t' written part ih => exact ih (keep.write written h)
  | case4 chunk rest buffered t t' written => exact keep.write written h
  | case5 chunk rest buffered t code t' written => exact keep.write written h
  | case6 chunk rest buffered t t' written => exact keep.write written h

theorem retains_sendFin (s : LiveStream) {t : τ} (h : P t) : P (s.sendFin t).2 := by
  unfold sendFin
  dsimp only
  split
  · exact keep.finish ‹_› h
  · exact keep.finish ‹_› h
  · exact keep.finish ‹_› h

theorem retains_flush (s : LiveStream) {t : τ} (h : P t) : P (s.flush t).2.2 := by
  have poured : P (pour s.id s.pending s.buffered t).transport :=
    retains_pour keep s.id s.pending s.buffered h
  unfold flush
  split
  · exact h
  · dsimp only
    split
    · exact poured
    · split
      · exact retains_sendFin keep _ poured
      · exact poured

theorem retains_write (s : LiveStream) (data : Bytes) (fin : Bool) {t : τ} (h : P t) :
    P (s.write data fin t).2.2 := by
  unfold write
  split
  · exact h
  · exact retains_flush keep _ h

theorem retains_close (s : LiveStream) {t : τ} (h : P t) : P (s.close t).2 := by
  unfold close
  split
  · exact h
  · exact retains_flush keep _ h

end Sending

section Reading

variable (keep : ReadingRetains P)
include keep

theorem retains_pull (id : StreamId) (remaining : Nat) {t : τ} (h : P t) :
    P (pull id remaining t).2 := by
  fun_induction pull id remaining t with
  | case1 remaining t more bytes ne le t' read rest ih => exact ih (keep.nextRegion read h)
  | case2 remaining t more t' read => exact keep.nextRegion read h
  | case3 remaining t more code t' read => exact keep.nextRegion read h
  | case4 remaining t more t' read => exact keep.nextRegion read h
  | case5 remaining t enough => exact h

theorem retains_readUpTo (s : LiveStream) (limit : Nat) {t : τ} (h : P t) :
    P (s.readUpTo limit t).2.2 := by
  unfold readUpTo
  split
  · exact h
  · split
    · exact h
    · exact keep.endRead (retains_pull keep s.id limit (keep.beginRead ‹_› h))

end Reading

theorem retains_reject (keep : ReactingRetains P) (id : StreamId) (side : Side) (code : Nat) {t : τ}
    (h : P t) : P (reject id side code t) := by
  have stopped : P (if (Directionality.of id side).readable then Transport.stop id code t else t) := by
    split
    · exact keep.stop h
    · exact h
  unfold reject
  dsimp only
  split
  · exact keep.reset stopped
  · exact stopped

end LiveStream

/-! ## Sessions -/

namespace Session

variable {τ : Type} [Transport τ] {P : τ → Prop} {a : Audience} {s s' : Session τ}

theorem retains_ask (keep : Retains P) {t t' : τ} (asked : Ask t t') (h : P t) : P t' := by
  cases asked with
  | poll polled => exact keep.poll polled h
  | accept accepted => exact keep.acceptStream accepted h
  | datagram received => exact keep.receiveDatagram received h
  | sendDatagram data => exact keep.sendDatagram h
  | reject id side code => exact LiveStream.retains_reject keep.toReactingRetains id side code h
  | ping => exact keep.ping h
  | close now code reason => exact keep.close h
  | timeout now => exact keep.timeout h

theorem retains_streamWrite (keep : SendingRetains P) (id : StreamId) (data : Bytes) (fin : Bool)
    (h : P s.transport) : P (s.streamWrite id data fin).2.transport := by
  unfold streamWrite
  split
  · exact h
  · exact LiveStream.retains_write keep _ data fin h

theorem retains_streamClose (keep : SendingRetains P) (id : StreamId) (h : P s.transport) :
    P (s.streamClose id).transport := by
  unfold streamClose
  split
  · exact h
  · exact LiveStream.retains_close keep _ h

theorem retains_streamWritable (keep : SendingRetains P) (id : StreamId) (h : P s.transport) :
    P (s.streamWritable a id).transport := by
  cases found : s.streams.get? id with
  | none => rwa [streamWritable_of_absent found]
  | some x =>
    rw [streamWritable_eq found]
    exact LiveStream.retains_flush keep x h

theorem retains_deliver (keep : ReadingRetains P) (id : StreamId) (h : P s.transport) :
    P (s.deliver a id).transport := by
  unfold deliver
  split
  · exact h
  · split
    · exact h
    · exact LiveStream.retains_readUpTo keep _ LiveStream.unlimited h

theorem retains_setStreamVisitor (keep : ReadingRetains P) (id : StreamId) (v : StreamVisitor)
    (h : P s.transport) : P (s.setStreamVisitor a id v).transport := by
  unfold setStreamVisitor
  split
  · exact retains_deliver keep id h
  · exact h

theorem retains_streamRead (keep : ReadingRetains P) (id : StreamId) (limit : Nat)
    (h : P s.transport) : P (s.streamRead a id limit).2.transport := by
  unfold streamRead
  split
  · exact h
  · exact LiveStream.retains_readUpTo keep _ limit h

theorem retains_traffic (keep : Retains P) (traffic : Traffic a s s') (h : P s.transport) :
    P s'.transport := by
  cases traffic with
  | ask asked => exact retains_ask keep asked h
  | deliver id => exact retains_deliver keep.toReadingRetains id h
  | read id limit => exact retains_streamRead keep.toReadingRetains id limit h
  | write id data fin => exact retains_streamWrite keep.toSendingRetains id data fin h
  | closeStream id => exact retains_streamClose keep.toSendingRetains id h
  | writable id => exact retains_streamWritable keep.toSendingRetains id h
  | setStreamVisitor id v => exact retains_setStreamVisitor keep.toReadingRetains id v h
  | acknowledged id => exact h
  | stopped id => exact h

/-- Apart from opening a stream, the acts that are no traffic leave the transport alone. -/
theorem retains_act (keep : Retains P) (act : Act a s s') (h : P s.transport) : P s'.transport := by
  cases act with
  | takeIn welcome => rw [afterTakeIn_eq]; exact h
  | deed deed =>
    obtain traffic | steady | ⟨dir, id, t, -, opened, rfl⟩ | ⟨x, -, -, rfl⟩ | ⟨reason, open_, rfl⟩ :=
      deed_cases a deed
    · exact retains_traffic keep traffic h
    · exact steady.transport ▸ h
    · exact keep.openStream opened h
    · exact h
    · rw [conclude_eq a open_]
      exact h

theorem retains_acts (keep : Retains P) (acts : Acts a s s') (h : P s.transport) :
    P s'.transport :=
  acts.keep (P := fun s => P s.transport) (fun _ _ => retains_act keep) h

/-! ## Reactions -/

omit [Transport τ] in
theorem transport_conclude (reason : CloseReason) (s : Session τ) :
    (s.conclude a reason).transport = s.transport := by
  by_cases closed : s.state = .closed
  · rw [conclude_of_closed a closed]
  · rw [conclude_eq a closed]

omit [Transport τ] in
theorem transport_receiveGoaway (s : Session τ) : (s.receiveGoaway a).transport = s.transport := by
  cases received : s.goawayReceived with
  | true => rw [receiveGoaway_of_received a received]
  | false => rw [receiveGoaway_eq a received]

section Reacting

variable (keep : ReactingRetains P) {now : Instant}
include keep

theorem retains_closeConnection (code : UInt32) (reason : String) (h : P s.transport) :
    P (s.closeConnection a now code reason).transport := by
  unfold closeConnection
  split
  · exact h
  · rw [transport_conclude]
    exact keep.close h

theorem retains_createIncoming {id : StreamId} {r : Option StreamHandle}
    (h : s.createIncoming a now id = .ok (r, s')) (kept : P s.transport) : P s'.transport := by
  obtain ⟨-, rfl | ⟨code, rfl⟩⟩ | ⟨-, -, -, -, rfl⟩ | ⟨-, -, rfl⟩ := createIncoming_forms a now h
  · exact kept
  · exact LiveStream.retains_reject keep id s.side code kept
  · exact retains_closeConnection keep _ _ kept
  · refine retains_deliver keep.toReadingRetains id ?_
    rw [afterTakeIn_eq]
    exact kept

theorem retains_acceptPending {dir : Dir} (h : s.acceptPending a now dir = .ok s')
    (kept : P s.transport) : P s'.transport := by
  fun_induction acceptPending a now dir s with
  | case1 s none_waits => exact Except.ok.inj h ▸ kept
  | case2 s id t waits fault failed => cases h
  | case3 s id t waits r s₁ taken closed =>
    exact Except.ok.inj h ▸ retains_createIncoming keep taken (keep.acceptStream waits kept)
  | case4 s id t waits r s₁ taken opened less ih =>
    exact ih h (retains_createIncoming keep taken (keep.acceptStream waits kept))
  | case5 s id t waits r s₁ taken opened full =>
    exact Except.ok.inj h ▸ retains_createIncoming keep taken (keep.acceptStream waits kept)

theorem retains_drainDatagrams (kept : P s.transport) : P (s.drainDatagrams a).transport := by
  have told (t : τ) (data : Bytes) (s : Session τ) (kept : P t) :
      P (if data = goawayDatagram then { s with transport := t }.receiveGoaway a
        else { s with transport := t }).transport := by
    split
    · rw [transport_receiveGoaway]
      exact kept
    · exact kept
  fun_induction drainDatagrams a s with
  | case1 s none_waits => exact kept
  | case2 s data t waits s₁ s₂ less ih => exact ih (told t data s (keep.receiveDatagram waits kept))
  | case3 s data t waits s₁ s₂ full => exact told t data s (keep.receiveDatagram waits kept)

/-- What every call of a reaction lets a transport keep, the transport has after the reaction. -/
theorem retains_react {e : Event} (h : s.react a now e = .ok s') (kept : P s.transport) :
    P s'.transport := by
  cases e with
  | handshakeData => exact Except.ok.inj h ▸ kept
  | connected =>
    rw [← Except.ok.inj h, handshakeComplete_eq]
    exact kept
  | lost cause =>
    rw [← Except.ok.inj h, transport_conclude]
    exact kept
  | opened dir => exact retains_acceptPending keep h kept
  | readable id => exact Except.ok.inj h ▸ retains_deliver keep.toReadingRetains id kept
  | writable id => exact Except.ok.inj h ▸ retains_streamWritable keep.toSendingRetains id kept
  | finished id => exact Except.ok.inj h ▸ kept
  | stopped id code => exact Except.ok.inj h ▸ kept
  | available dir =>
    have credited : s.afterCredit a dir = s' := Except.ok.inj h
    rw [← credited, afterCredit_eq]
    exact kept
  | datagram => exact Except.ok.inj h ▸ retains_drainDatagrams keep kept
  | datagramsUnblocked => exact Except.ok.inj h ▸ kept

end Reacting

end Session

end QuicSessions
