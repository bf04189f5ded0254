import QuicSessions.Proofs.Sessions.Chronicles

/-!
# The numbers of streams

A session foretells the identifier of the next stream that it opens by counting those that it opened. It is
the transport that gives the identifiers out. If it does so in their order, the count is right whatever else
happens to the session, no identifier comes back, and each live stream has an integer of its own that leads
back to it.
-/

set_option autoImplicit false

namespace QuicSessions

/-! ## What opens no stream -/

namespace Register

variable {τ : Type} [Transport τ]

theorem sending_retains_opened (given : Dir → List StreamId) :
    Transport.SendingRetains fun r : Register τ => ∀ dir, r.opened dir = given dir where
  write h same := by
    cases h
    exact same
  finish h same := by
    cases h
    exact same

theorem reading_retains_opened (given : Dir → List StreamId) :
    Transport.ReadingRetains fun r : Register τ => ∀ dir, r.opened dir = given dir where
  beginRead h same dir := by
    unfold opened
    rw [entries_beginRead h]
    exact same dir
  nextRegion {_ _ _ _ answer} h same dir := by
    rw [opened_of_entries (entries_nextRegion h), same]
    cases answer <;> exact List.append_nil _
  endRead same := same

theorem opened_of_ask {r r' : Register τ} (asked : Session.Ask r r') (dir : Dir) :
    r'.opened dir = r.opened dir := by
  obtain same | ⟨id, one⟩ := Session.entries_ask asked
  · unfold opened
    rw [same]
  · rw [opened_of_entries one]
    exact List.append_nil _

end Register

namespace Session

variable {τ : Type} [Transport τ] {a : Audience} {s s' : Session (Register τ)}

theorem opened_of_traffic (traffic : Traffic a s s') (dir : Dir) :
    s'.transport.opened dir = s.transport.opened dir := by
  have sending := Register.sending_retains_opened (τ := τ) fun dir => s.transport.opened dir
  have reading := Register.reading_retains_opened (τ := τ) fun dir => s.transport.opened dir
  cases traffic with
  | ask asked => exact Register.opened_of_ask asked dir
  | deliver id => exact retains_deliver reading id (fun _ => rfl) dir
  | read id limit => exact retains_streamRead reading id limit (fun _ => rfl) dir
  | setStreamVisitor id v => exact retains_setStreamVisitor reading id v (fun _ => rfl) dir
  | write id data fin => exact retains_streamWrite sending id data fin (fun _ => rfl) dir
  | closeStream id => exact retains_streamClose sending id (fun _ => rfl) dir
  | writable id => exact retains_streamWritable sending id (fun _ => rfl) dir
  | acknowledged id => rfl
  | stopped id => rfl

/-- What an act does to the streams that have numbers. -/
inductive Renumbers (s s' : Session (Register τ)) : Prop where
  /-- Some may leave. -/
  | fewer (given : ∀ d, s'.transport.opened d = s.transport.opened d) (count : s'.opened = s.opened)
      (live : ∀ j ∈ s'.streams.keys, j ∈ s.streams.keys)
  /-- One of the peer comes. -/
  | takenIn {id : StreamId} (welcome : s.Welcome id)
      (given : ∀ d, s'.transport.opened d = s.transport.opened d) (count : s'.opened = s.opened)
      (live : ∀ j ∈ s'.streams.keys, j = id ∨ j ∈ s.streams.keys)
  /-- One is opened from here. -/
  | opened {dir : Dir} {id : StreamId} (gate : s.refusal? dir = none)
      (given : ∀ d, s'.transport.opened d = s.transport.opened d ++ if d = dir then [id] else [])
      (count : s'.opened = s.opened.update dir (· + 1))
      (live : ∀ j ∈ s'.streams.keys, j = id ∨ j ∈ s.streams.keys)

theorem renumbers_act (act : Act a s s') : Renumbers s s' := by
  cases act with
  | takeIn welcome =>
    rw [afterTakeIn_eq]
    exact .takenIn welcome (fun _ => rfl) rfl fun j mem => Table.mem_keys_insert_iff.1 mem
  | deed deed =>
    obtain traffic | steady | ⟨dir, id, r, gate, opened, rfl⟩ | ⟨x, -, -, rfl⟩ | ⟨reason, open_, rfl⟩ :=
      deed_cases a deed
    · have quiet := traffic.quiet
      exact .fewer (opened_of_traffic traffic) (by rw [quiet.eq]) fun j mem => quiet.keys ▸ mem
    · exact .fewer (fun _ => by rw [steady.transport]) steady.opened fun j mem => steady.streams ▸ mem
    · refine .opened gate (fun d => ?_) rfl fun j mem => Table.mem_keys_insert_iff.1 mem
      exact Register.opened_of_opened (Register.entries_openStream opened) d
    · exact .fewer (fun _ => rfl) rfl fun j mem => (Table.mem_keys_erase_iff.1 mem).2
    · rw [conclude_eq a open_]
      exact .fewer (fun _ => rfl) rfl fun j mem => by cases mem

/-! ## Streams opened in turn -/

/-- The transport gave out the identifiers of one direction in their order, from the first one on. -/
def OpensInTurn (s : Session (Register τ)) : Prop :=
  ∀ dir, ∃ n, s.transport.opened dir = (List.range n).map (StreamId.of s.side dir)

namespace OpensInTurn

omit [Transport τ]

theorem of_prefix (h : s'.OpensInTurn) (entries : s.transport.entries <+: s'.transport.entries)
    (side : s'.side = s.side) : s.OpensInTurn := by
  intro dir
  exact numbered_of_prefix (entries.filterMap _) (side ▸ h dir)

/-- The place of a stream among those opened from here is its index. -/
theorem eq_of_getElem? (h : s.OpensInTurn) {dir : Dir} {i : Nat} {id : StreamId}
    (at_ : (s.transport.opened dir)[i]? = some id) : id = .of s.side dir i := by
  obtain ⟨n, all⟩ := h dir
  rw [all, List.getElem?_map, Option.map_eq_some_iff] at at_
  obtain ⟨j, there, rfl⟩ := at_
  obtain ⟨_, same⟩ := List.getElem?_eq_some_iff.1 there
  rw [List.getElem_range] at same
  rw [same]

theorem nodup (h : s.OpensInTurn) (dir : Dir) : (s.transport.opened dir).Nodup := by
  obtain ⟨n, all⟩ := h dir
  rw [all]
  refine List.nodup_range.map fun i j same => ?_
  rw [← StreamId.index_of s.side dir i, same, StreamId.index_of]

theorem of_mem (h : s.OpensInTurn) {dir : Dir} {id : StreamId} (mem : id ∈ s.transport.opened dir) :
    id.initiator = s.side ∧ id.dir = dir := by
  obtain ⟨n, all⟩ := h dir
  rw [all] at mem
  obtain ⟨i, -, rfl⟩ := List.mem_map.1 mem
  exact ⟨StreamId.initiator_of .., StreamId.dir_of ..⟩

end OpensInTurn

theorem OpensInTurn.of_acts (h : s'.OpensInTurn) (acts : Acts a s s') : s.OpensInTurn :=
  h.of_prefix (retains_acts (Register.retains_prefix s.transport.entries) acts (List.prefix_refl _))
    (sameSession_acts a acts).side

/-- What every act keeps if the streams are opened in turn, and what neither a move of the transport nor a
collection disturbs. -/
structure Lasting (P : Session (Register τ) → Prop) : Prop where
  act : ∀ {a : Audience} {s s' : Session (Register τ)}, Act a s s' → s'.OpensInTurn → P s → P s'
  moved : ∀ (s : Session (Register τ)) (t : τ), P s → P { s with transport := s.transport.moved t }
  collect : ∀ s : Session (Register τ), P s → P { s with posted := [] }

theorem Lasting.acts {P : Session (Register τ) → Prop} (lasting : Lasting P) (acts : Acts a s s')
    (inTurn : s'.OpensInTurn) (hs : P s) : P s' := by
  induction acts with
  | refl => exact hs
  | tail _ last ih => exact lasting.act last inTurn (ih (inTurn.of_acts (.one last)))

/-- The session counts the streams that it opens, each stream in its table has an integer, and those of
this side were opened. -/
structure Reckoned (s : Session (Register τ)) : Prop where
  counted : ∀ dir, (s.transport.opened dir).length = s.opened.get dir
  fits : ∀ id ∈ s.streams.keys, id.handle?.isSome = true
  own : ∀ id ∈ s.streams.keys, id.initiator = s.side → id ∈ s.transport.opened id.dir

omit [Transport τ] in
/-- A stream that is opened in its turn has the identifier that was foretold. -/
theorem Reckoned.next (h : s.Reckoned) (inTurn : s'.OpensInTurn) (side : s'.side = s.side) {dir : Dir}
    {id : StreamId} {rest : List StreamId}
    (opened : s'.transport.opened dir = s.transport.opened dir ++ id :: rest) : id = s.nextId dir := by
  have at_ : (s'.transport.opened dir)[(s.transport.opened dir).length]? = some id := by
    rw [opened, List.getElem?_append_right (Nat.le_refl _), Nat.sub_self]
    rfl
  rw [inTurn.eq_of_getElem? at_, h.counted, side]
  rfl

theorem lasting_reckoned : Lasting (Reckoned (τ := τ)) where
  act {a s s'} act inTurn h := by
    have side : s'.side = s.side := (sameSession_act a act).side
    cases renumbers_act act with
    | fewer given count live =>
      refine ⟨fun dir => ?_, fun j mem => h.fits j (live j mem), fun j mem own => ?_⟩
      · rw [given, count]
        exact h.counted dir
      · rw [given]
        exact h.own j (live j mem) (own.trans side)
    | takenIn welcome given count live =>
      refine ⟨fun dir => ?_, fun j mem => ?_, fun j mem own => ?_⟩
      · rw [given, count]
        exact h.counted dir
      · obtain rfl | mem := live j mem
        · exact welcome.fits
        · exact h.fits j mem
      · rw [given]
        obtain rfl | mem := live j mem
        · exact absurd (own.trans side) welcome.peer
        · exact h.own j mem (own.trans side)
    | @opened dir id gate given count live =>
      have grown : s'.transport.opened dir = s.transport.opened dir ++ [id] := by
        rw [given, if_pos rfl]
      refine ⟨fun d => ?_, fun j mem => ?_, fun j mem own => ?_⟩
      · rw [given, count, List.length_append, h.counted, PerDir.get_update]
        split <;> rfl
      · obtain rfl | mem := live j mem
        · rw [h.next inTurn side grown]
          exact handle_of_gate gate
        · exact h.fits j mem
      · obtain rfl | mem := live j mem
        · have new : j ∈ s'.transport.opened dir := grown ▸ List.mem_append_right _ (List.mem_singleton_self j)
          rw [(inTurn.of_mem new).2]
          exact new
        · rw [given]
          exact List.mem_append_left _ (h.own j mem (own.trans side))
  moved s t h := ⟨h.counted, h.fits, h.own⟩
  collect s h := ⟨h.counted, h.fits, h.own⟩

/-- The stream `id` was opened from here and is in the table no more. -/
structure Retired (id : StreamId) (s : Session (Register τ)) : Prop where
  opened : id ∈ s.transport.opened id.dir
  gone : id ∉ s.streams.keys

theorem lasting_retired (id : StreamId) : Lasting (Retired (τ := τ) id) where
  act {a s s'} act inTurn h := by
    have before : s.OpensInTurn := inTurn.of_acts (.one act)
    cases renumbers_act act with
    | fewer given count live => exact ⟨given id.dir ▸ h.opened, fun mem => h.gone (live id mem)⟩
    | takenIn welcome given count live =>
      refine ⟨given id.dir ▸ h.opened, fun mem => ?_⟩
      obtain rfl | mem := live id mem
      · exact welcome.peer (before.of_mem h.opened).1
      · exact h.gone mem
    | @opened dir new gate given count live =>
      refine ⟨?_, fun mem => ?_⟩
      · rw [given]
        exact List.mem_append_left _ h.opened
      · obtain rfl | mem := live id mem
        · -- it would have been opened twice
          have grown : s'.transport.opened dir = s.transport.opened dir ++ [id] := by
            rw [given, if_pos rfl]
          have again : id ∈ s'.transport.opened dir :=
            grown ▸ List.mem_append_right _ (List.mem_singleton_self id)
          have distinct := inTurn.nodup dir
          rw [grown, List.nodup_append] at distinct
          have first := h.opened
          rw [(inTurn.of_mem again).2] at first
          exact distinct.2.2 id first id (List.mem_singleton_self id) rfl
        · exact h.gone mem
  moved s t h := ⟨h.opened, h.gone⟩
  collect s h := ⟨h.opened, h.gone⟩

/-- A stream that an application gets has the identifier that was foretold, and the next one is four on. -/
theorem openStream_next {dir : Dir} {h : StreamHandle} (reckoned : s.Reckoned)
    (opened : s.openStream a dir = .ok (some h, s')) (inTurn : s'.OpensInTurn) :
    h.stream = s.nextId dir ∧ (s'.nextId dir).raw = h.stream.raw + 4 := by
  obtain ⟨refusal, -, opened⟩ := ok_of_bind opened
  cases refusal with
  | some refusal => cases opened
  | none =>
    cases made : Transport.openStream dir s.transport with
    | none =>
      simp only [made] at opened
      cases opened
    | some p =>
      obtain ⟨id, r⟩ := p
      simp only [made] at opened
      cases opened
      have inTurn : (s.afterOpen a dir id r).OpensInTurn := inTurn
      have grown : r.opened dir = s.transport.opened dir ++ [id] := by
        rw [Register.opened_of_opened (Register.entries_openStream made), if_pos rfl]
      have next : id = s.nextId dir := reckoned.next inTurn rfl grown
      refine ⟨next, ?_⟩
      show (StreamId.of s.side dir ((s.opened.update dir (· + 1)).get dir)).raw = id.raw + 4
      rw [next, PerDir.get_update, if_pos rfl]
      show 4 * (s.opened.get dir + 1) + _ + _ = 4 * s.opened.get dir + _ + _ + 4
      omega

end Session

/-! ## Whole runs -/

namespace Chronicle

open Session

variable {τ : Type} [Transport τ] {c : Chronicle τ}

theorem lasting_step {P : Session (Register τ) → Prop} (lasting : Lasting P) (named : c.session.Named)
    (hc : P c.session) (x : Happening τ) (inTurn : (c.step x).session.OpensInTurn) : P (c.step x).session := by
  obtain acts | ⟨t, moved⟩ | collected := step_cases named x
  · exact lasting.acts acts inTurn hc
  · exact moved ▸ lasting.moved c.session t hc
  · exact collected ▸ lasting.collect c.session hc

theorem lasting_run {P : Session (Register τ) → Prop} (lasting : Lasting P) (named : c.session.Named)
    (hc : P c.session) (happened : List (Happening τ)) (inTurn : (c.run happened).session.OpensInTurn) :
    P (c.run happened).session := by
  induction happened generalizing c with
  | nil => exact hc
  | cons x happened ih =>
    have rest : Later (c.step x) ((c.step x).run happened) := later_run (named_step named x) happened
    have first := inTurn.of_prefix rest.entries rest.side
    exact ih (named_step named x) (lasting_step lasting named hc x first) inTurn

theorem reckoned_new (a : Audience) (id : SessionId) (connection : ConnectionHandle) (t : τ)
    (options : SessionOptions) (now : Instant) :
    (new a id connection t options now).session.Reckoned := by
  refine ⟨fun dir => ?_, fun j live => ?_, fun j live => ?_⟩
  · cases dir <;> rfl
  · cases live
  · cases live

theorem reckoned_run {a : Audience} {id : SessionId} {connection : ConnectionHandle} {t : τ}
    {options : SessionOptions} {now : Instant} {happened : List (Happening τ)}
    (inTurn : ((new a id connection t options now).run happened).session.OpensInTurn) :
    ((new a id connection t options now).run happened).session.Reckoned :=
  lasting_run lasting_reckoned (named_empty rfl) (reckoned_new ..) happened inTurn

/-- If the transport opens streams in turn, then in every run the session has counted as many as were
opened, and of those that are opened later the next one has the identifier that it foretells. The
identifiers of a direction start where they have to and go up by four; none that left the table comes back.
Each stream in the table has an integer, which no other has and which leads back to it. -/
theorem streams_numbered_as_foretold (a : Audience) (id : SessionId) (connection : ConnectionHandle)
    (t : τ) (options : SessionOptions) (now : Instant) (happened : List (Happening τ)) :
    let start := new a id connection t options now
    let c := start.run happened
    c.session.OpensInTurn →
      (∀ dir, c.session.opened.get dir = (c.session.transport.opened dir).length) ∧
      (∀ dir i own, (c.session.transport.opened dir)[i]? = some own →
        own.raw = c.session.side.bit + 2 * dir.bit + 4 * i) ∧
      (∀ sofar later, happened = sofar ++ later →
        ∀ dir next rest, c.session.transport.opened dir =
          (start.run sofar).session.transport.opened dir ++ next :: rest →
            next = (start.run sofar).session.nextId dir) ∧
      (∀ a' dir h s', c.session.openStream a' dir = .ok (some h, s') → s'.OpensInTurn →
        h.stream = c.session.nextId dir ∧ (s'.nextId dir).raw = h.stream.raw + 4) ∧
      (∀ first middle last, happened = first ++ (middle ++ last) →
        ∀ own, own.initiator = c.session.side → own ∈ (start.run first).session.streams.keys →
          own ∉ (start.run (first ++ middle)).session.streams.keys → own ∉ c.session.streams.keys) ∧
      (∀ live ∈ c.session.streams.keys,
        live.handle? = some live.handle ∧ StreamId.ofHandle live.handle = live ∧
          ∀ other ∈ c.session.streams.keys, other.handle = live.handle → other = live) := by
  intro start c inTurn
  have here : c.session.Reckoned := reckoned_run inTurn
  -- what holds of the whole run held at every point of it
  have named (sofar : List (Happening τ)) : (start.run sofar).session.Named := named_run (named_empty rfl) sofar
  have cut {sofar rest : List (Happening τ)} (e : happened = sofar ++ rest) : c = (start.run sofar).run rest := by
    show start.run happened = _
    rw [e, run_append]
  have further {sofar rest : List (Happening τ)} (e : happened = sofar ++ rest) : Later (start.run sofar) c :=
    cut e ▸ later_run (named sofar) rest
  have earlier {sofar rest : List (Happening τ)} (e : happened = sofar ++ rest) :
      (start.run sofar).session.OpensInTurn := inTurn.of_prefix (further e).entries (further e).side
  refine ⟨fun dir => (here.counted dir).symm, fun dir i own at_ => ?_, ?_, ?_, ?_, fun live mem => ?_⟩
  · rw [inTurn.eq_of_getElem? at_]
    show 4 * i + _ + _ = _
    omega
  · intro sofar rest e dir next more opened
    exact (reckoned_run (earlier e)).next inTurn (further e).side opened
  · intro a' dir h s' opened after
    exact openStream_next here opened after
  · intro first middle last e own mine there gone
    have e' : happened = (first ++ middle) ++ last := by rw [e, List.append_assoc]
    have opened : own ∈ (start.run first).session.transport.opened own.dir :=
      (reckoned_run (earlier e)).own own there (mine.trans (further e).side)
    have between : Later (start.run first) (start.run (first ++ middle)) := by
      rw [run_append]
      exact later_run (named first) middle
    have grown : (start.run first).session.transport.opened own.dir <+:
        (start.run (first ++ middle)).session.transport.opened own.dir := between.entries.filterMap _
    have retired : Retired own (start.run (first ++ middle)).session := ⟨grown.subset opened, gone⟩
    rw [cut e'] at inTurn ⊢
    exact (lasting_run (lasting_retired own) (named _) retired last inTurn).gone
  · obtain ⟨is, back⟩ := StreamId.handle_of_fits (here.fits live mem)
    refine ⟨is, back, fun other mem' same => ?_⟩
    rw [← (StreamId.handle_of_fits (here.fits other mem')).2, same, back]

/-- The peer ends and stops the first stream, so that it is spent, and opens a stream that runs one way. -/
def emptying (t : Wire.Connection) : List (Happening Wire.Connection) :=
  [.transport (t.receive 0 ⟨0, 1, [.stop (.of .client .bi 0) 5, .stream (.of .client .bi 0) 0 [] true,
      .stream (.of .server .uni 0) 0 [104] false]⟩),
    .operate 0 .process, .operate 0 .reclaim]

/-- After the first stream left, the second gets the next number. It is live beside the peer's. -/
theorem streams_numbered_as_foretold_second :
    let start := new ⟨some default, true⟩ ⟨1⟩ ⟨0⟩ Scenario.unmadeConnection .standard 0
    let first := beginning ++ opening
    let m := start.run first
    let middle := emptying m.session.transport.inner
    let c := start.run (first ++ (middle ++ [.operate 0 (.openStream .bi)]))
    c.session.OpensInTurn ∧ StreamId.of .client .bi 0 ∈ m.session.streams.keys ∧
      StreamId.of .client .bi 0 ∉ c.session.streams.keys ∧
      c.session.transport.opened .bi = [⟨0⟩, ⟨4⟩] ∧ c.session.opened.get .bi = 2 ∧
      c.session.streams.keys = [⟨3⟩, ⟨4⟩] ∧ StreamId.ofHandle (StreamId.handle ⟨3⟩) = ⟨3⟩ := by
  intro start first m middle c
  have bi : c.session.transport.opened .bi = [⟨0⟩, ⟨4⟩] := by decide +kernel
  have inTurn : c.session.OpensInTurn := by
    intro dir
    cases dir with
    | bi => exact ⟨2, by decide +kernel⟩
    | uni => exact ⟨0, by decide +kernel⟩
  have live : StreamId.of .client .bi 0 ∈ m.session.streams.keys := by decide +kernel
  have gone : StreamId.of .client .bi 0 ∉ (start.run (first ++ middle)).session.streams.keys := by
    decide +kernel
  have keys : c.session.streams.keys = [⟨3⟩, ⟨4⟩] := by decide +kernel
  have foretold := streams_numbered_as_foretold ⟨some default, true⟩ ⟨1⟩ ⟨0⟩ Scenario.unmadeConnection
    .standard 0 (first ++ (middle ++ [.operate 0 (.openStream .bi)]))
  obtain ⟨counted, -, -, -, retired, integers⟩ := foretold inTurn
  refine ⟨inTurn, live, ?_, bi, ?_, keys, ?_⟩
  · exact retired first middle _ rfl _ (by decide +kernel) live gone
  · rw [counted, bi]
    rfl
  · exact (integers ⟨3⟩ (by rw [keys]; decide)).2.1

end Chronicle

end QuicSessions
