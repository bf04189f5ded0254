import QuicSessions.Proofs.Sessions.Grants
import QuicSessions.Proofs.Sessions.Introductions
import QuicSessions.Proofs.Text.Utf8

/-!
# Both ends of a close

A side that closes its connection knows the reason from the call, its peer from the code and the bytes of the
close that reached it. The two come to the reason on different ways: the one looks at the code that was asked
for and keeps the text, the other looks at the code that arrived and reads the bytes forgivingly. The visitors
of both ends are told the same.
-/

set_option autoImplicit false

namespace QuicSessions

/-! ## Farewells -/

/-- What a close tells the peer. -/
structure Farewell where
  code : Nat
  reason : Bytes
  deriving DecidableEq

/-- What an engine reports that a farewell has reached. -/
def Farewell.loss (f : Farewell) : Event := .lost (.applicationClosed f.code f.reason)

/-- A transport with the farewells that it was asked for. -/
structure Parting (τ : Type) where
  inner : τ
  farewells : List Farewell

namespace Parting

variable {τ : Type}

def unused (t : τ) : Parting τ := ⟨t, []⟩

def moved (p : Parting τ) (t : τ) : Parting τ := { p with inner := t }

instance [Transport τ] : Transport (Parting τ) where
  side p := Transport.side p.inner
  remote p := Transport.remote p.inner
  counters p := Transport.counters p.inner
  isClosed p := Transport.isClosed p.inner
  isDrained p := Transport.isDrained p.inner
  openStream dir p := (Transport.openStream dir p.inner).map fun x => (x.1, p.moved x.2)
  acceptStream dir p := (Transport.acceptStream dir p.inner).map fun x => (x.1, p.moved x.2)
  write id data p :=
    let x := Transport.write id data p.inner
    (x.1, p.moved x.2)
  finish id p :=
    let x := Transport.finish id p.inner
    (x.1, p.moved x.2)
  reset id code p := p.moved (Transport.reset id code p.inner)
  stop id code p := p.moved (Transport.stop id code p.inner)
  beginRead id p := (Transport.beginRead id p.inner).map p.moved
  nextRegion id limit p :=
    let x := Transport.nextRegion id limit p.inner
    (x.1, p.moved x.2)
  endRead id p := p.moved (Transport.endRead id p.inner)
  poll p := (Transport.poll p.inner).map fun x => (x.1, p.moved x.2)
  receiveDatagram p := (Transport.receiveDatagram p.inner).map fun x => (x.1, p.moved x.2)
  sendDatagram data p :=
    let x := Transport.sendDatagram data p.inner
    (x.1, p.moved x.2)
  ping p := p.moved (Transport.ping p.inner)
  close now code reason p := ⟨Transport.close now code reason p.inner, p.farewells ++ [⟨code, reason⟩]⟩
  deadline p := Transport.deadline p.inner
  timeout now p := p.moved (Transport.timeout now p.inner)
  backlog p := Transport.backlog p.inner

end Parting

/-! ## The two ways to a reason -/

namespace CloseReason

theorem ofLocalClose_eq_normal_iff (code : UInt32) (reason : String) :
    ofLocalClose code reason = .normal ↔ code = AppCode.noError.value := by
  unfold ofLocalClose
  by_cases zero : code = AppCode.noError.value
  · simp [zero]
  · simp [zero]

theorem ofLocalClose_of_ne {code : UInt32} (other : code ≠ AppCode.noError.value) (reason : String) :
    ofLocalClose code reason = .application code.toNat reason := if_neg other

/-- What the peer makes of the code and the encoded text is what this side made of them. -/
theorem ofConnectionError_encode (code : UInt32) (reason : String) :
    ofConnectionError (.applicationClosed code.toNat (Utf8.encode reason)) = ofLocalClose code reason := by
  have zero_iff : code.toNat = 0 ↔ code = AppCode.noError.value := UInt32.toNat_inj (b := 0)
  unfold ofConnectionError ofLocalClose
  dsimp only
  rw [Utf8.decodeLossy_encode]
  by_cases zero : code = AppCode.noError.value
  · rw [if_pos zero, if_pos (zero_iff.2 zero)]
  · rw [if_neg zero, if_neg (mt zero_iff.1 zero)]

end CloseReason

namespace Session

variable {τ σ : Type} [Transport τ] [Transport σ]

/-! ## The visitor of one end -/

section OneEnd

variable {s : Session τ} {x : Step τ} {reason : CloseReason}

theorem obituaries_of_cause (named : Named s) (open_ : s.state ≠ .closed) (single : x.single = true)
    (cause : x.cause s = some reason) (visited : s.visitor.isSome = true)
    (taken : x.audience.taken = true) : (told s (s.step x)).filterMap Notice.obituary? = [reason] := by
  have o := outcome_step s single
  rw [cause] at o
  obtain ⟨v, visitor⟩ := Option.isSome_iff_exists.1 visited
  rw [(closing_outcome o named open_).told, if_pos taken, List.filterMap_append, obituaries_lastNews, visitor]
  rfl

/-- Steps that leave a session open, or find it closed, tell of no end. -/
theorem obituaries_eq_nil {steps : List (Step τ)} (named : Named s)
    (single : ∀ x ∈ steps, x.single = true)
    (quiet : (s.run steps).state ≠ .closed ∨ s.state = .closed) : s.obituaries steps = [] := by
  -- The visitor hears of no end that the session does not tell, and it tells one for its first cause only.
  have fewer : (s.obituaries steps).Sublist (s.verdicts steps) :=
    sublist_along named single fun s x named single => obituaries_step named single
  have verdicts := verdicts_run named single
  obtain still | ended := quiet
  · have none_first : s.firstCause steps = none := by
      by_contra some_first
      exact still ((closed_run named single).2 (.inr (Option.isSome_iff_ne_none.2 some_first)))
    rw [none_first, Option.toList_none, ite_self] at verdicts
    rw [verdicts] at fewer
    exact List.sublist_nil.1 fewer
  · rw [if_pos ended] at verdicts
    rw [verdicts] at fewer
    exact List.sublist_nil.1 fewer

theorem obituaries_around (before after : List (Step τ)) (named : Named s)
    (single : ∀ y ∈ before ++ x :: after, y.single = true) (open_ : (s.run before).state ≠ .closed)
    (cause : x.cause (s.run before) = some reason) (visited : s.visitor.isSome = true)
    (taken : x.audience.taken = true) : s.obituaries (before ++ x :: after) = [reason] := by
  have earlier : ∀ y ∈ before, y.single = true := fun y mem => single y (List.mem_append_left _ mem)
  have here : x.single = true := single x (List.mem_append_right _ (List.mem_cons_self ..))
  have later : ∀ y ∈ after, y.single = true := fun y mem =>
    single y (List.mem_append_right _ (List.mem_cons_of_mem x mem))
  have named' : Named (s.run before) := named_run named before
  have visited' : (s.run before).visitor.isSome = true := visited_run earlier visited
  have closed : ((s.run before).step x).state = .closed :=
    (closed_step named' here).2 (.inr (by rw [cause]; rfl))
  have quiet_before := obituaries_eq_nil named earlier (.inl open_)
  have told := obituaries_of_cause named' open_ here cause visited' taken
  have quiet_after := obituaries_eq_nil (named_step named' x) later (.inr closed)
  have split : s.obituaries (before ++ x :: after) = s.obituaries before ++
      ((Session.told (s.run before) ((s.run before).step x)).filterMap Notice.obituary? ++
        ((s.run before).step x).obituaries after) := along_append _ s before (x :: after)
  rw [split, quiet_before, told, quiet_after]
  rfl

end OneEnd

theorem farewells_closeConnection (a : Audience) (now : Instant) (code : UInt32) (reason : String)
    {s : Session (Parting τ)} (open_ : s.state ≠ .closed) :
    (s.closeConnection a now code reason).transport.farewells =
      s.transport.farewells ++ [⟨code.toNat, Utf8.encode reason⟩] := by
  unfold closeConnection
  rw [if_neg open_, conclude_eq a (by exact open_)]
  rfl

theorem process_eq_run_rounds {a : Audience} {now : Instant} {s : Session τ} (begun : s.state ≠ .created) :
    s.process a now = .ok (s.run (s.rounds [.operate a now .process])) := by
  obtain ⟨s', done⟩ := process_of_begun a now begun
  have ran : Operation.process.run a now s = .ok (.done, s') := by
    show s.process a now >>= _ = _
    rw [done]
    rfl
  have step : s.run [.operate a now .process] = s' := step_of_run ran
  rw [run_rounds, step, done]

/-- A session that is closed with a code and a text asks its transport for one farewell and tells its visitor
of one reason: the normal end if the code is zero, and otherwise the code with the text. A session of any
peer that takes a report of this farewell, before it had a cause of its own to close, tells its visitor of the
same reason, once. -/
theorem both_ends_told_same_reason (code : UInt32) (reason : String) (id : SessionId)
    (connection : ConnectionHandle) (t : τ) (options : SessionOptions) (start : Instant)
    (history : List (Step (Parting τ))) (a : Audience) (now : Instant) :
    let near := (Session.new id connection (Parting.unused t) options start).run history
    near.state ≠ .closed → near.visitor.isSome = true → a.taken = true →
      ∃ farewell told,
        (near.closeConnection a now code reason).transport.farewells =
            near.transport.farewells ++ [farewell] ∧
          near.obituaries [.operate a now (.close code reason)] = [told] ∧
          (told = .normal ↔ code = AppCode.noError.value) ∧
          (code ≠ AppCode.noError.value → told = .application code.toNat reason) ∧
          ∀ (id : SessionId) (connection : ConnectionHandle) (t : σ) (options : SessionOptions)
            (start : Instant) (history : List (Step σ)) (b : Audience) (later : Instant),
            let far := (Session.new id connection t options start).run history
            let reports := far.rounds [.operate b later .process]
            far.state ≠ .created → far.visitor.isSome = true → b.taken = true →
              ∀ before after, reports = before ++ .report b later farewell.loss :: after →
                (far.run before).state ≠ .closed →
                far.process b later = .ok (far.run reports) ∧ far.obituaries reports = [told] := by
  intro near open_ visited taken
  have named : Named near := named_run (named_empty rfl) history
  have told : near.obituaries [.operate a now (.close code reason)] = [.ofLocalClose code reason] :=
    obituaries_around [] [] named (by simp [Step.single]) open_ rfl visited taken
  refine ⟨⟨code.toNat, Utf8.encode reason⟩, .ofLocalClose code reason,
    farewells_closeConnection a now code reason open_, told,
    CloseReason.ofLocalClose_eq_normal_iff code reason,
    fun other => CloseReason.ofLocalClose_of_ne other reason, ?_⟩
  intro id connection t options start history b later far reports begun visited taken before after split
    open_
  have named : Named far := named_run (named_empty rfl) history
  have single : ∀ x ∈ reports, x.single = true := single_rounds far _
  have cause : (Step.report b later (Farewell.loss ⟨code.toNat, Utf8.encode reason⟩)).cause
      (far.run before) = some (.ofLocalClose code reason) :=
    congrArg some (CloseReason.ofConnectionError_encode code reason)
  refine ⟨process_eq_run_rounds begun, ?_⟩
  rw [split] at single ⊢
  exact obituaries_around before after named single open_ cause visited taken

/-! ## Two ends in memory -/

/-- What begins a session on a connection whose handshake is over, with a visitor. -/
def visitedFrom {τ : Type} (established : τ) : List (Step τ) :=
  [.operate .silent 0 .start, .operate .silent 0 .beginHandshake, .transport established,
    .operate .silent 0 .process, .operate .silent 0 (.setVisitor default)]

/-- The end of a client that was answered. -/
def nearSession : Session (Parting Wire.Connection) :=
  (Session.new ⟨1⟩ ⟨0⟩ (.unused Scenario.unmadeConnection) .standard 0).run
    (visitedFrom (.unused answeredConnection))

/-- The server's end of the connection. -/
def servedConnection : Wire.Connection :=
  ((Wire.Connection.new .server 0 Scenario.clientAddress Scenario.commonSettings).receive 0
    ⟨0, 0, [.hello Scenario.commonSettings.streams Scenario.commonSettings.idle]⟩).receive 0
    ⟨0, 1, [.complete]⟩

/-- A text that takes more than one byte for some characters. -/
def lateText : String := "trop tôt: 5 €"

/-- The server's session, which the packet reaches that the client's connection sends when it is closed. -/
def servedRun : List (Step Wire.Connection) :=
  let served := (Session.new ⟨1⟩ ⟨0⟩ servedConnection .standard 0).run (visitedFrom servedConnection)
  let near := nearSession.closeConnection .silent 0 7 lateText
  visitedFrom servedConnection ++ ((near.transport.inner.transmit 0).1.map fun packet =>
    .transport (served.transport.receive 0 packet)).toList

theorem both_ends_told_same_reason_late :
    let far := (Session.new ⟨1⟩ ⟨0⟩ servedConnection .standard 0).run servedRun
    nearSession.state = .active ∧ nearSession.visitor.isSome = true ∧ far.state = .active ∧
      far.visitor.isSome = true ∧
      nearSession.obituaries [.operate .silent 0 (.close 7 lateText)] = [.application 7 lateText] ∧
      far.obituaries (far.rounds [.operate .silent 0 .process]) = [.application 7 lateText] := by
  intro far
  have near_active : nearSession.state = .active := by decide +kernel
  have near_visited : nearSession.visitor.isSome = true := by decide +kernel
  have far_active : far.state = .active := by decide +kernel
  have far_visited : far.visitor.isSome = true := by decide +kernel
  obtain ⟨farewell, told, sent, near_told, -, other, far_told⟩ :=
    both_ends_told_same_reason (σ := Wire.Connection) 7 lateText ⟨1⟩ ⟨0⟩ Scenario.unmadeConnection
      .standard 0 (visitedFrom (.unused answeredConnection)) .silent 0
      (by exact near_active ▸ nofun) near_visited rfl
  have told_eq : told = .application 7 lateText := other (by decide)
  have unsent : nearSession.transport.farewells = [] := by decide +kernel
  have frames : (nearSession.closeConnection .silent 0 7 lateText).transport.farewells =
      [⟨7, Utf8.encode lateText⟩] := by decide +kernel
  have farewell_eq : farewell = ⟨7, Utf8.encode lateText⟩ := by
    have sent : (nearSession.closeConnection .silent 0 7 lateText).transport.farewells =
        nearSession.transport.farewells ++ [farewell] := sent
    rw [frames, unsent] at sent
    exact (List.singleton_inj.1 sent).symm
  have arrives : (Transport.poll far.transport).map Prod.fst =
      some (Farewell.loss ⟨7, Utf8.encode lateText⟩) := by decide +kernel
  obtain ⟨⟨e, t⟩, polled, rfl⟩ := Option.map_eq_some_iff.1 arrives
  have begun : far.state ≠ .created := far_active ▸ nofun
  obtain ⟨after, first⟩ := processRounds_of_poll (s := far) .silent 0 polled
  have reports : far.rounds [.operate .silent 0 .process] =
      [.transport t] ++ .report .silent 0 farewell.loss :: after := by
    rw [rounds_process (process_eq_run_rounds begun), first, farewell_eq]
    rfl
  have heard := far_told ⟨1⟩ ⟨0⟩ servedConnection .standard 0 servedRun .silent 0 begun far_visited rfl
    [.transport t] after reports (by exact far_active ▸ nofun)
  rw [← told_eq]
  exact ⟨near_active, near_visited, far_active, far_visited, near_told, heard.2⟩

end Session

end QuicSessions
