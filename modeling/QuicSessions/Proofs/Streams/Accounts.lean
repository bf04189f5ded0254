import QuicSessions.Proofs.Streams.Callbacks
import QuicSessions.Proofs.Streams.Register

/-!
# Accounts of streams

What has been told about a stream has to fit what the session keeps of it. An account puts the two
side by side: whether the stream began, the stream if it is live, its word, and whether a read found
that the peer gave it up. Each thing that happens to a stream changes its account in one way, and
keeps it in order.
-/

set_option autoImplicit false

namespace QuicSessions

open Callback

/-- One stream as its session has it and as it was told. -/
@[ext] structure Account where
  given : Bool
  live : Option LiveStream
  word : List Callback
  reset : Bool

namespace Account

/-- The account is in order; `taken` says whether notices are still taken. -/
structure InOrder (taken : Bool) (c : Account) : Prop where
  unborn : c.given = false → c.live = none ∧ c.word = [] ∧ c.reset = false
  grammatical : Grammatical c.word
  underway : taken = true → ∀ x, c.live = some x → Underway c.word
  /-- Nothing is read from a stream that came to an end of either kind. -/
  exhausted : ∀ x, c.live = some x → Callback.fin ∈ c.word ∨ c.reset = true →
    x.readClosed = true ∧ x.finReported = true
  apart : c.reset = true → Callback.fin ∉ c.word

namespace InOrder

variable {taken : Bool} {c : Account} {x : LiveStream}

theorem given_of_live (h : c.InOrder taken) (live : c.live = some x) : c.given = true := by
  cases given : c.given with
  | true => rfl
  | false =>
    rw [(h.unborn given).1] at live
    cases live

/-- Nothing is known of a stream that did not begin. -/
theorem blank : InOrder taken ⟨false, none, [], false⟩ where
  unborn _ := ⟨rfl, rfl, rfl⟩
  grammatical := .inl rfl
  underway _ _ live := by cases live
  exhausted _ live := by cases live
  apart gone := by cases gone

theorem silenced (h : c.InOrder taken) : c.InOrder false where
  unborn := h.unborn
  grammatical := h.grammatical
  underway hears := by cases hears
  exhausted := h.exhausted
  apart := h.apart

/-- The stream begins, if it did not before. -/
theorem begin (h : c.InOrder taken) {given : Bool} (stays : c.given = true → given = true) :
    { c with given := given }.InOrder taken where
  unborn not_yet := by
    refine h.unborn ?_
    cases before : c.given with
    | false => rfl
    | true =>
      rw [stays before] at not_yet
      cases not_yet
  grammatical := h.grammatical
  underway := h.underway
  exhausted := h.exhausted
  apart := h.apart

/-- Something other than the read side of the stream changes, or the stream is no longer there. -/
theorem change (h : c.InOrder taken) {live : Option LiveStream}
    (same : ∀ y, live = some y → ∃ x, c.live = some x ∧
      y.readClosed = x.readClosed ∧ y.finReported = x.finReported) :
    { c with live := live }.InOrder taken where
  unborn not_yet := by
    obtain ⟨dead, silent, going⟩ := h.unborn not_yet
    refine ⟨?_, silent, going⟩
    cases present : live with
    | none => rfl
    | some y =>
      obtain ⟨x, alive, -⟩ := same y present
      rw [dead] at alive
      cases alive
  grammatical := h.grammatical
  underway hears y present := by
    obtain ⟨x, alive, -⟩ := same y present
    exact h.underway hears x alive
  exhausted y present ended := by
    obtain ⟨x, alive, closed, reported⟩ := same y present
    rw [closed, reported]
    exact h.exhausted x alive ended
  apart := h.apart

/-- A new stream is told to be ready. -/
theorem ready (given : c.given = true) (silent : c.word = []) (going : c.reset = false) :
    { c with live := some x, word := c.word ++ if taken then [Callback.ready] else [] }.InOrder taken := by
  have endless : Callback.fin ∉ (c.word ++ if taken then [Callback.ready] else []) := by
    rw [silent]
    cases taken <;> simp
  refine ⟨fun not_yet => ?_, ?_, fun hears _ _ => ?_, fun y _ ended => ?_, fun gone => ?_⟩
  · rw [given] at not_yet
    cases not_yet
  · rw [silent]
    cases taken with
    | true => exact Underway.grammatical (.inl flowing_ready)
    | false => exact .inl rfl
  · rw [silent, if_pos hears]
    exact .inl flowing_ready
  · obtain mem | gone := ended
    · exact absurd mem endless
    · rw [going] at gone
      cases gone
  · rw [going] at gone
    cases gone

/-- There is room to write on the stream again. -/
theorem canWrite (h : c.InOrder taken) (live : c.live = some x) :
    { c with word := c.word ++ if taken then [Callback.canWrite] else [] }.InOrder taken := by
  cases taken with
  | false =>
    rw [if_neg Bool.false_ne_true, List.append_nil]
    exact h
  | true =>
    have room : Underway (c.word ++ [.canWrite]) := (h.underway rfl x live).canWrite
    have endless : Callback.fin ∈ c.word ++ [.canWrite] → Callback.fin ∈ c.word := by simp
    refine ⟨fun not_yet => ?_, room.grammatical, fun _ _ _ => room, fun y present ended => ?_,
      fun gone mem => ?_⟩
    · rw [h.given_of_live live] at not_yet
      cases not_yet
    · exact h.exhausted y present (ended.imp_left endless)
    · exact h.apart gone (endless mem)

/-- A pass over the stream, of which those who hear it are told the regions and the end. -/
theorem pass (h : c.InOrder taken) (live : c.live = some x) {p : ReadPass} {fin : Bool}
    {y : LiveStream} (passed : LiveStream.Passed x p fin y) {regions : List Bytes}
    (heard : regions = p.regions ∨ regions = []) :
    { c with
      live := some y
      word := c.word ++ if taken then passCallbacks regions fin else []
      reset := c.reset || p.reset.isSome }.InOrder taken := by
  have exhausted := h.exhausted x live
  have fresh (more : regions ≠ []) : x.readClosed = false := by
    obtain rfl | rfl := heard
    · exact passed.fresh (.inl more)
    · exact absurd rfl more
  -- nothing can be read once the end was told, so the word still flows when something was
  have endless (more : regions ≠ [] ∨ fin = true) : Callback.fin ∉ c.word := by
    intro mem
    obtain ⟨closed, reported⟩ := exhausted (.inl mem)
    obtain more | more := more
    · rw [fresh more] at closed
      cases closed
    · rw [(passed.fin more).1] at reported
      cases reported
  have ends : Callback.fin ∈ (c.word ++ if taken then passCallbacks regions fin else []) →
      Callback.fin ∈ c.word ∨ fin = true := by
    intro mem
    obtain mem | mem := List.mem_append.1 mem
    · exact .inl mem
    · split at mem
      · exact .inr (fin_mem_passCallbacks mem)
      · cases mem
  have goes_on (hears : taken = true) : Underway (c.word ++ passCallbacks regions fin) := by
    have sofar := h.underway hears x live
    unfold passCallbacks
    rw [← List.append_assoc]
    by_cases more : regions ≠ [] ∨ fin = true
    · have flowing : Flowing (c.word ++ regions.map fun _ => .data) :=
        (sofar.flowing (endless more)).append (by simp)
      cases fin with
      | true => exact .inr flowing.fin
      | false => exact .inl (by simpa using flowing)
    · obtain ⟨none_read, unended⟩ := not_or.1 more
      rw [not_not.1 none_read, if_neg unended]
      simpa using sofar
  refine ⟨fun not_yet => ?_, ?_, fun hears _ _ => ?_, fun z present ended => ?_, fun gone mem => ?_⟩
  · rw [h.given_of_live live] at not_yet
    cases not_yet
  · cases taken with
    | true => exact (goes_on rfl).grammatical
    | false => simpa using h.grammatical
  · rw [if_pos hears]
    exact goes_on hears
  · obtain rfl : y = z := Option.some.inj present
    obtain ended | gone := ended
    · obtain before | now := ends ended
      · obtain ⟨closed, reported⟩ := exhausted (.inl before)
        exact passed.stays closed reported
      · exact (passed.fin now).2.2
    · obtain before | now := (Bool.or_eq_true ..).mp gone
      · obtain ⟨closed, reported⟩ := exhausted (.inr before)
        exact passed.stays closed reported
      · exact passed.reset now
  · obtain before | now := (Bool.or_eq_true ..).mp gone
    · obtain mem | due := ends mem
      · exact h.apart before mem
      · have reported := (exhausted (.inr before)).2
        rw [(passed.fin due).1] at reported
        cases reported
    · obtain mem | due := ends mem
      · have closed := (exhausted (.inl mem)).1
        rw [passed.fresh (.inr now)] at closed
        cases closed
      · rw [(passed.fin due).2.1] at now
        cases now

/-- The stream leaves, and each of those who hear of it is told once. -/
theorem leave (h : c.InOrder taken) (live : c.live = some x) {told : List Recipient}
    (distinct : told.Nodup) :
    { c with
      live := none
      word := c.word ++ if taken then told.map Callback.closed else [] }.InOrder taken := by
  have endless : Callback.fin ∈ (c.word ++ if taken then told.map Callback.closed else []) →
      Callback.fin ∈ c.word := by
    intro mem
    obtain mem | mem := List.mem_append.1 mem
    · exact mem
    · split at mem
      · simp at mem
      · cases mem
  refine ⟨fun not_yet => ?_, ?_, fun _ _ present => ?_, fun _ present => ?_, fun gone mem => ?_⟩
  · rw [h.given_of_live live] at not_yet
    cases not_yet
  · cases hears : taken with
    | true => exact (h.underway hears x live).closed distinct
    | false => simpa using h.grammatical
  · cases present
  · cases present
  · exact h.apart gone (endless mem)

end InOrder

end Account

end QuicSessions
