import QuicSessions.Proofs.Sessions.Departures

/-!
# What the visitor hears after the end

The end of the connection is meant to be the last that a session visitor hears. Nearly everything that
tells the visitor comes to nothing once the session is closed: there are no streams left, none is taken
in, and the stage forbids the rest. Two handlers do not look at the stage. A goodbye that comes for the
first time is told of, and so is the end of a handshake. Nothing else is.
-/

set_option autoImplicit false

namespace QuicSessions.Session

variable {τ : Type}

/-- The news about which streams may be opened from a side. -/
def creditNews (side : Side) : List SessionNews :=
  .canCreate .bi :: if side.isServer then [.canCreate .uni] else []

/-- The news for the visitor that the stage of a session does not hold back: the first goodbye, and the
end of the handshake. -/
def lateNews (s s' : Session τ) : List SessionNews :=
  (if s.goawayReceived = false ∧ s'.goawayReceived = true then [.goaway] else []) ++
    if .connected ∈ signalled s s' then creditNews s.side else []

/-- A closed session has no streams, and none that waits to be announced. -/
def Emptied (s : Session τ) : Prop := s.state = .closed → s.streams.keys = [] ∧ s.unannounced = []

/-- The news for session visitors among what was posted. -/
def visitorNews (s s' : Session τ) : List SessionNews := (told s s').filterMap Notice.sessionNews?

section News

variable {a : Audience} {s s' : Session τ}

theorem visitorNews_of_same (h : s'.posted = s.posted) : visitorNews s s' = [] := by
  unfold visitorNews
  rw [told_of_same h]
  rfl

theorem lateNews_of_same (goaway : s'.goawayReceived = s.goawayReceived)
    (signalled : signalled s s' = []) : lateNews s s' = [] := by
  unfold lateNews
  rw [goaway, signalled, if_neg List.not_mem_nil]
  cases s.goawayReceived <;> rfl

/-- What a visitor hears of some news, if it is there and notices are taken. -/
theorem news_of_visitorNotice (news : SessionNews) :
    (a.heard (s.visitorNotice news)).filterMap Notice.sessionNews? =
      if a.taken = true ∧ s.visitor.isSome = true then [news] else [] := by
  unfold Audience.heard visitorNotice
  cases a.taken <;> cases s.visitor <;> rfl

theorem posted_tellCanCreate (s : Session τ) :
    (s.tellCanCreate a).posted = s.posted ++ (a.heard (s.visitorNotice (.canCreate .bi)) ++
      if s.side.isServer then a.heard (s.visitorNotice (.canCreate .uni)) else []) := by
  have told : s.tellCanCreate a = if s.side.isServer then
      (s.tellVisitor a (.canCreate .bi)).tellVisitor a (.canCreate .uni)
    else s.tellVisitor a (.canCreate .bi) := rfl
  rw [told]
  by_cases server : s.side.isServer = true
  · rw [if_pos server, if_pos server]
    exact List.append_assoc ..
  · rw [if_neg server, if_neg server, List.append_nil]
    rfl

theorem visitorNews_handshakeComplete (s : Session τ) : visitorNews s (s.handshakeComplete a) =
    if a.taken = true ∧ s.visitor.isSome = true then creditNews s.side else [] := by
  have posted : (s.handshakeComplete a).posted =
      s.posted ++ (a.heard (s.visitorNotice (.canCreate .bi)) ++
        if s.side.isServer then a.heard (s.visitorNotice (.canCreate .uni)) else []) :=
    posted_tellCanCreate { s with
      encrypted := true
      handshakeDeadline := none
      state := s.state.afterHandshake }
  unfold visitorNews creditNews
  rw [told_of_append posted, List.filterMap_append, news_of_visitorNotice]
  by_cases hears : a.taken = true ∧ s.visitor.isSome = true
  · rw [if_pos hears, if_pos hears]
    split
    · rw [news_of_visitorNotice, if_pos hears]
      rfl
    · rfl
  · rw [if_neg hears, if_neg hears]
    split
    · rw [news_of_visitorNotice, if_neg hears]
      rfl
    · rfl

/-- A closed session that gets a visitor has nothing to tell it. -/
theorem posted_setVisitor_of_closed (closed : s.state = .closed) (missed : s.unannounced = [])
    (v : SessionVisitor) : (s.setVisitor a v).posted = s.posted := by
  have inactive : ¬s.state = .active := by
    rw [closed]
    exact nofun
  unfold setVisitor
  dsimp only
  rw [if_neg inactive, missed, List.mergeSort_nil]
  rfl

theorem reclaim_of_empty (empty : s.streams.keys = []) : s.reclaim a = s := by
  have nothing : s.streams.values = [] := by
    unfold Table.values
    rw [List.map_eq_nil_iff.1 empty]
    rfl
  unfold reclaim
  rw [nothing]
  rfl

end News

/-! ## Every outcome -/

section Outcomes

variable [Transport τ] {a : Audience} {s s' : Session τ} {cause : Option CloseReason}
  {opened : List (Dir × StreamId)} {received : List StreamId}

theorem emptied_outcome (o : Outcome a s cause opened received s') (emptied : Emptied s) :
    Emptied s' := by
  intro closed
  cases o with
  | traffic h =>
    have quiet := (traffic_routine h).1
    rw [quiet.state] at closed
    rw [quiet.keys, quiet.eq]
    exact emptied closed
  | unsaid h =>
    rw [h.streams, h.unannounced]
    exact emptied (h.stage.1 closed)
  | credit dir =>
    rw [afterCredit_eq] at closed ⊢
    exact emptied closed
  | completes =>
    rw [handshakeComplete_eq] at closed ⊢
    exact emptied (eq_closed_of_afterHandshake closed)
  | goodbye t =>
    by_cases received : s.goawayReceived = true
    · rw [receiveGoaway_of_received a (by exact received)] at closed ⊢
      exact emptied closed
    · rw [Bool.not_eq_true] at received
      rw [receiveGoaway_eq a (by exact received)] at closed ⊢
      dsimp only at closed
      split at closed
      · cases closed
      · exact emptied closed
  | visited v =>
    rw [setVisitor_eq] at closed ⊢
    exact ⟨(emptied closed).1, rfl⟩
  | reclaims =>
    obtain ⟨streams, unannounced, posted, e⟩ := reclaim_eq a s
    have closed : s.state = .closed := by
      rw [e] at closed
      exact closed
    rw [reclaim_of_empty (emptied closed).1]
    exact emptied closed
  | opens gate h =>
    have closed : s.state = .closed := closed
    exact absurd closed (ne_closed_of_gate gate)
  | @receives id h =>
    rw [(quiet_deliver a id (s.afterTakeIn a id)).state, afterTakeIn_eq] at closed
    exact absurd closed (ne_closed_of_connected h.connected)
  | ends t reason =>
    by_cases ended : s.state = .closed
    · rw [conclude_of_closed a (by exact ended)]
      exact emptied ended
    · rw [conclude_eq a (by exact ended)]
      exact ⟨rfl, rfl⟩

/-- What the visitor of a closed session hears. -/
theorem news_outcome (o : Outcome a s cause opened received s') (emptied : Emptied s)
    (closed : s.state = .closed) : visitorNews s s' =
      if a.taken = true ∧ s.visitor.isSome = true then lateNews s s' else [] := by
  -- most outcomes tell the visitor nothing, and there is nothing late about them
  have nothing {s' : Session τ} (none_told : visitorNews s s' = [])
      (goaway : s'.goawayReceived = s.goawayReceived) (signalled : signalled s s' = []) :
      visitorNews s s' = if a.taken = true ∧ s.visitor.isSome = true then lateNews s s' else [] := by
    rw [none_told, lateNews_of_same goaway signalled, ite_self]
  cases o with
  | traffic h =>
    obtain ⟨quiet, signalled, routine⟩ := traffic_routine h
    refine nothing ?_ (by rw [quiet.eq]) signalled
    exact List.filterMap_eq_nil_iff.2 fun n mem => (routine n mem).elsewhere
  | unsaid h =>
    refine nothing ?_ h.goaway h.signalled
    unfold visitorNews
    rw [h.told]
    rfl
  | credit dir =>
    have silent : s.afterCredit a dir = { s with blocked := s.blocked.set dir false } := by
      unfold afterCredit
      refine if_neg ?_
      show ¬s.state = .active
      rw [closed]
      exact nofun
    rw [silent]
    exact nothing (visitorNews_of_same rfl) rfl (signalled_of_same rfl)
  | completes =>
    have signals : signalled s (s.handshakeComplete a) = [.connected] := by
      rw [handshakeComplete_eq]
      exact signalled_of_append rfl
    have goaway : (s.handshakeComplete a).goawayReceived = s.goawayReceived := by
      rw [handshakeComplete_eq]
    have late : lateNews s (s.handshakeComplete a) = creditNews s.side := by
      unfold lateNews
      rw [goaway, signals, if_pos (List.mem_singleton.2 rfl)]
      cases s.goawayReceived <;> rfl
    rw [visitorNews_handshakeComplete, late]
  | goodbye t =>
    by_cases received : s.goawayReceived = true
    · rw [receiveGoaway_of_received a (by exact received)]
      exact nothing (visitorNews_of_same rfl) rfl (signalled_of_same rfl)
    · rw [Bool.not_eq_true] at received
      have posted : ({ s with transport := t }.receiveGoaway a).posted =
          s.posted ++ a.heard (s.visitorNotice .goaway) := by
        unfold receiveGoaway
        rw [if_neg (by exact Bool.eq_false_iff.1 received)]
        rfl
      have late : lateNews s ({ s with transport := t }.receiveGoaway a) = [.goaway] := by
        unfold lateNews
        rw [receiveGoaway_eq a (by exact received), signalled_of_same (by exact rfl),
          if_pos ⟨received, rfl⟩, if_neg nofun]
        rfl
      unfold visitorNews
      rw [told_of_append posted, news_of_visitorNotice, late]
  | visited v =>
    refine nothing (visitorNews_of_same (posted_setVisitor_of_closed closed (emptied closed).2 v)) ?_ ?_
    · rw [setVisitor_eq]
    · rw [setVisitor_eq]
      exact signalled_of_same rfl
  | reclaims =>
    rw [reclaim_of_empty (emptied closed).1]
    exact nothing (visitorNews_of_same rfl) rfl (signalled_of_same rfl)
  | opens gate h => exact absurd closed (ne_closed_of_gate gate)
  | receives h => exact absurd closed (ne_closed_of_connected h.connected)
  | ends t reason =>
    rw [conclude_of_closed a (by exact closed)]
    exact nothing (visitorNews_of_same rfl) rfl (signalled_of_same rfl)

end Outcomes

/-! ## Runs -/

section Runs

variable [Transport τ] {s : Session τ} {steps : List (Step τ)}

theorem emptied_run (emptied : Emptied s) (single : ∀ x ∈ steps, x.single = true) :
    Emptied (s.run steps) := by
  induction steps generalizing s with
  | nil => exact emptied
  | cons x steps ih =>
    have first := emptied_outcome (outcome_step s (single x (List.mem_cons_self ..))) emptied
    exact ih first fun y mem => single y (List.mem_cons_of_mem x mem)

/-- A session is closed once some step had a reason to close it. -/
theorem closed_run (named : Named s) (single : ∀ x ∈ steps, x.single = true) :
    (s.run steps).state = .closed ↔ s.state = .closed ∨ (s.firstCause steps).isSome = true := by
  induction steps generalizing s with
  | nil => exact (or_iff_left nofun).symm
  | cons x steps ih =>
    have first := closed_step named (single x (List.mem_cons_self ..))
    have rest := ih (named_step named x) fun y mem => single y (List.mem_cons_of_mem x mem)
    have cause : s.firstCause (x :: steps) = (x.cause s).or ((s.step x).firstCause steps) := rfl
    rw [run_cons, rest, first, cause, Option.isSome_or, Bool.or_eq_true, or_assoc]

/-- A visitor that was told of the end has a session that is closed. -/
theorem closed_of_obituary (named : Named s) (open_ : s.state ≠ .closed)
    (single : ∀ x ∈ steps, x.single = true) (told : s.obituaries steps ≠ []) :
    (s.run steps).state = .closed := by
  have verdicts : s.verdicts steps = (s.firstCause steps).toList :=
    (verdicts_run named single).trans (if_neg open_)
  have fewer : (s.obituaries steps).Sublist (s.verdicts steps) :=
    sublist_along named single fun s x named single => obituaries_step named single
  refine (closed_run named single).2 (.inr ?_)
  cases cause : s.firstCause steps with
  | some reason => rfl
  | none =>
    rw [verdicts, cause] at fewer
    exact absurd (List.sublist_nil.1 fewer) told

end Runs

variable [Transport τ]

/-- Once a session is closed, and its visitor was told so, the visitor hears of the first goodbye and of
the end of the handshake, should they come so late, and of nothing else. -/
theorem visitor_told_after_closing_iff_late (id : SessionId) (connection : ConnectionHandle) (t : τ)
    (options : SessionOptions) (now : Instant) (steps : List (Step τ)) :
    let s : Session τ := .new id connection t options now
    let rounds := s.rounds steps
    s.run rounds = s.run steps ∧
      ∀ before x after, rounds = before ++ x :: after →
        let m := s.run before
        (s.obituaries before ≠ [] → m.state = .closed) ∧
        (m.state = .closed → visitorNews m (m.step x) =
          if x.audience.taken = true ∧ m.visitor.isSome = true then lateNews m (m.step x) else []) := by
  intro s rounds
  refine ⟨run_rounds s steps, fun before x after split => ?_⟩
  have single : ∀ y ∈ before ++ x :: after, y.single = true := split ▸ single_rounds s steps
  have earlier : ∀ y ∈ before, y.single = true := fun y mem => single y (List.mem_append_left _ mem)
  have here : x.single = true := single x (List.mem_append_right _ (List.mem_cons_self ..))
  have emptied : Emptied (s.run before) := emptied_run nofun earlier
  exact ⟨closed_of_obituary (named_empty rfl) nofun earlier,
    fun closed => news_outcome (outcome_step _ here) emptied closed⟩

/-- A client's session whose visitor is told of the end. -/
def endedRun : List (Step Wire.Connection) :=
  [.operate .silent 0 .start, .operate .silent 0 .beginHandshake,
    .operate .silent 0 (.setVisitor default), .operate .silent 0 (.close 0 "")]

theorem visitor_told_after_closing_iff_late_goodbye :
    let s : Session Wire.Connection := .new ⟨1⟩ ⟨0⟩ Scenario.unmadeConnection .standard 0
    let m := s.run endedRun
    s.rounds (endedRun ++ [.operate .silent 0 .receiveGoaway]) =
        endedRun ++ [.operate .silent 0 .receiveGoaway] ∧
      s.obituaries endedRun ≠ [] ∧ m.state = .closed ∧
      visitorNews m (m.step (.operate .silent 0 .receiveGoaway)) = [.goaway] := by
  intro s m
  have rounds : s.rounds (endedRun ++ [.operate .silent 0 .receiveGoaway]) =
      endedRun ++ [.operate .silent 0 .receiveGoaway] := rfl
  have told := (visitor_told_after_closing_iff_late ⟨1⟩ ⟨0⟩ Scenario.unmadeConnection .standard 0
    (endedRun ++ [.operate .silent 0 .receiveGoaway])).2 endedRun _ [] rounds
  have obituary : s.obituaries endedRun ≠ [] := by decide +kernel
  have closed : m.state = .closed := told.1 obituary
  exact ⟨rounds, obituary, closed, (told.2 closed).trans (by decide +kernel)⟩

/-- The visitor is told of the end, and then of a goodbye. -/
theorem goodbye_told_after_closing :
    let s : Session Wire.Connection := .new ⟨1⟩ ⟨0⟩ Scenario.unmadeConnection .standard 0
    let m := s.run endedRun
    s.obituaries endedRun = [.normal] ∧
      visitorNews m (m.step (.operate .silent 0 .receiveGoaway)) ≠ [] := by
  decide +kernel

end QuicSessions.Session
