import QuicSessions.Proofs.Dispatchers.Requests
import QuicSessions.Proofs.Sessions.Runs
import QuicSessions.Proofs.Streams.Receiving

/-!
# Who gets the bytes that a session consumes

Three ways lead from the receive side of a stream to the application: reports that there is something
to read, which go to the visitor of the stream or else to the listener, the installation of a visitor,
and reads. They may take turns in any order. An inbox keeps what each of them handed out.
-/

set_option autoImplicit false

namespace QuicSessions

/-- The bytes that a notice hands out. -/
def Notice.data? : Notice → Option Bytes
  | .stream _ _ (.data bytes) => some bytes
  | .listener _ (.data _ _ bytes) => some bytes
  | _ => none

/-- The notices that hand out bytes. -/
def dataNotices (notices : List Notice) : List Notice := notices.filter fun n => n.data?.isSome

theorem dataNotices_append (notices more : List Notice) :
    dataNotices (notices ++ more) = dataNotices notices ++ dataNotices more :=
  List.filter_append ..

theorem dataNotices_map {notice : Bytes → Notice} (data : ∀ bytes, (notice bytes).data? = some bytes)
    (regions : List Bytes) : dataNotices (regions.map notice) = regions.map notice := by
  refine List.filter_eq_self.2 fun n mem => ?_
  obtain ⟨bytes, -, rfl⟩ := List.mem_map.1 mem
  rw [data]
  rfl

/-- Bytes on their way to the application. -/
inductive Delivery where
  | posted (notice : Notice)
  | returned (bytes : Bytes)

def Delivery.bytes : Delivery → Bytes
  | posted notice => notice.data?.getD []
  | returned bytes => bytes

/-- The bytes of the stream `id` that deliveries handed out, in order. -/
def handedOut (id : StreamId) (log : List (StreamId × Delivery)) : Bytes :=
  log.flatMap fun x => if x.1 = id then x.2.bytes else []

theorem handedOut_append (id : StreamId) (log later : List (StreamId × Delivery)) :
    handedOut id (log ++ later) = handedOut id log ++ handedOut id later := List.flatMap_append

theorem handedOut_map (id j : StreamId) (deliveries : List Delivery) :
    handedOut j (deliveries.map (id, ·)) = if id = j then deliveries.flatMap Delivery.bytes else [] := by
  unfold handedOut
  rw [List.flatMap_map]
  split
  · rfl
  · exact List.flatMap_eq_nil_iff.2 fun _ _ => rfl

/-- Other notices hand out nothing. -/
theorem bytes_posted (notices : List Notice) :
    (notices.map Delivery.posted).flatMap Delivery.bytes =
      ((dataNotices notices).map Delivery.posted).flatMap Delivery.bytes := by
  induction notices with
  | nil => rfl
  | cons n notices ih =>
    cases data : n.data? with
    | none =>
      have skipped : dataNotices (n :: notices) = dataNotices notices := by simp [dataNotices, data]
      rw [List.map_cons, List.flatMap_cons, ih, skipped]
      simp [Delivery.bytes, data]
    | some bytes =>
      have kept : dataNotices (n :: notices) = n :: dataNotices notices := by simp [dataNotices, data]
      rw [List.map_cons, List.flatMap_cons, ih, kept, List.map_cons, List.flatMap_cons]

namespace Session

variable {τ : Type} (a : Audience)

/-! ## Who gets a region -/

/-- The notices hand out the regions of the stream `id`, one each, to its visitor or else to the
listener. If there is neither, there is no region to hand out. -/
inductive HandsOut (s : Session τ) (id : StreamId) (fresh : List Bytes) : List Notice → Prop where
  | visitor {stream : LiveStream} {v : StreamVisitor} (found : s.streams.get? id = some stream)
      (installed : stream.visitor = some v) :
      HandsOut s id fresh (fresh.map fun bytes => .stream v (s.streamHandle id) (.data bytes))
  | listener {stream : LiveStream} {l : Listener} (found : s.streams.get? id = some stream)
      (unvisited : stream.visitor = none) (installed : a.listener = some l) :
      HandsOut s id fresh (fresh.map fun bytes => .listener l (.data s.id id.handle bytes))
  | nobody (unheard : ∀ stream, s.streams.get? id = some stream →
        stream.visitor = none ∧ a.listener = none) (nothing : fresh = []) :
      HandsOut s id fresh []

variable {a}

theorem HandsOut.bytes {s : Session τ} {id : StreamId} {fresh : List Bytes} {notices : List Notice}
    (h : HandsOut a s id fresh notices) :
    (notices.map Delivery.posted).flatMap Delivery.bytes = fresh.flatten := by
  cases h with
  | visitor found installed =>
    rw [List.map_map, List.flatMap_map]
    exact List.flatMap_id'
  | listener found unvisited installed =>
    rw [List.map_map, List.flatMap_map]
    exact List.flatMap_id'
  | nobody unheard nothing =>
    rw [nothing]
    rfl

/-- The regions of a pass are handed out. -/
theorem handsOut_passNotices {s : Session τ} {id : StreamId} {stream : LiveStream}
    (found : s.streams.get? id = some stream) (named : stream.id = id)
    (heard : (stream.visitor.isNone && a.listener.isNone) = false) (pass : ReadPass) (fin : Bool) :
    HandsOut a s id pass.regions (dataNotices (s.passNotices a stream pass fin)) := by
  subst named
  unfold passNotices
  cases visited : stream.visitor with
  | some v =>
    have rest : dataNotices (if fin then [.stream v (s.streamHandle stream.id) .fin] else []) = [] := by
      cases fin <;> rfl
    dsimp only
    rw [dataNotices_append, rest, List.append_nil, dataNotices_map fun _ => rfl]
    exact .visitor found visited
  | none =>
    cases listens : a.listener with
    | none => simp [visited, listens] at heard
    | some l =>
      have rest : dataNotices (if fin then [.listener l (.fin s.id stream.id.handle)] else []) = [] := by
        cases fin <;> rfl
      unfold Audience.tellListener
      rw [listens]
      dsimp only
      rw [dataNotices_append, rest, List.append_nil, ← List.map_eq_flatMap, dataNotices_map fun _ => rfl]
      exact .listener found visited listens

/-- The end of a stream hands out nothing. -/
theorem dataNotices_nothing (s : Session τ) (stream : LiveStream) (fin : Bool) :
    dataNotices (s.passNotices a stream .nothing fin) = [] := by
  unfold passNotices Audience.tellListener
  cases stream.visitor with
  | some v => cases fin <;> rfl
  | none => cases a.listener <;> cases fin <;> rfl

variable [Transport τ]

/-- What one delivery consumes, it hands out. -/
theorem deliver_handsOut (taken : a.taken = true) {s : Session (Recorder τ)} (named : Named s)
    (silent : s.posted = []) (id : StreamId) :
    ∃ fresh, (s.deliver a id).transport.calls = s.transport.calls ++ fresh.map (.region id) ∧
      HandsOut a (s.deliver a id) id fresh (dataNotices (s.deliver a id).posted) := by
  obtain unheard | ⟨stream, found, heard⟩ := unheard_or_heard a s id
  · rw [deliver_of_unheard unheard, silent]
    exact ⟨[], (List.append_nil _).symm, .nobody unheard rfl⟩
  · have name : stream.id = id := named id stream found
    have same := LiveStream.sameStream_readUpTo_takeFin stream LiveStream.unlimited s.transport
    rw [deliver_of_heard found heard, silent]
    refine ⟨(stream.drain s.transport).1.regions, ?_, ?_⟩
    · rw [← name]
      exact LiveStream.calls_readUpTo stream LiveStream.unlimited s.transport
    · unfold Audience.heard
      rw [if_pos taken, List.nil_append]
      refine handsOut_passNotices ?_ (same.id.trans name) ?_ _ _
      · rw [Table.get?_update, if_pos rfl, found]
        rfl
      · rw [← heard]
        exact congrArg (fun v : Option StreamVisitor => v.isNone && a.listener.isNone) same.visitor

theorem length_streamRead (a : Audience) (id : StreamId) (limit : Nat) (s : Session τ) :
    (s.streamRead a id limit).1.length ≤ limit := by
  unfold streamRead
  split
  · exact Nat.zero_le limit
  · exact LiveStream.length_readUpTo _ limit s.transport

/-- What a read consumes, it returns, and it posts none of it. -/
theorem streamRead_handsOut (taken : a.taken = true) {s : Session (Recorder τ)} (named : Named s)
    (silent : s.posted = []) (id : StreamId) (limit : Nat) :
    ∃ fresh : List Bytes, (s.streamRead a id limit).2.transport.calls =
        s.transport.calls ++ fresh.map (.region id) ∧
      (s.streamRead a id limit).1 = fresh.flatten ∧
      dataNotices (s.streamRead a id limit).2.posted = [] := by
  unfold streamRead
  split
  · exact ⟨[], (List.append_nil _).symm, rfl, by rw [silent]; rfl⟩
  · rename_i stream found
    refine ⟨(stream.readUpTo limit s.transport).1.regions, ?_, rfl, ?_⟩
    · rw [← named id stream found]
      exact LiveStream.calls_readUpTo stream limit s.transport
    · show dataNotices (s.posted ++ a.heard _) = []
      unfold Audience.heard
      rw [if_pos taken, silent, List.nil_append, dataNotices_nothing]

end Session

/-! ## Inboxes -/

/-- What happens to the receive side of the streams of a session. -/
inductive Receiving (τ : Type) where
  | readable (id : StreamId)
  | read (id : StreamId) (limit : Nat)
  | visitor (id : StreamId) (v : StreamVisitor)
  /-- The listener is installed, replaced or removed. -/
  | listener (l : Option Listener)
  /-- The transport moves by itself. -/
  | transport (t : τ)

/-- A session, the listener, and what was handed out of each stream. -/
structure Inbox (τ : Type) where
  session : Session (Recorder τ)
  listener : Option Listener
  log : List (StreamId × Delivery)

namespace Inbox

variable {τ : Type}

/-- The event runner is running. -/
def audience (i : Inbox τ) : Audience := ⟨i.listener, true⟩

/-- The session when everything it posted was taken over. -/
def collected (i : Inbox τ) : Session (Recorder τ) := { i.session with posted := [] }

/-- The inbox after an operation on the stream `id`. -/
def after (i : Inbox τ) (id : StreamId) (returned : List Delivery) (s : Session (Recorder τ)) :
    Inbox τ where
  session := s
  listener := i.listener
  log := i.log ++ (returned ++ s.posted.map Delivery.posted).map (id, ·)

/-- The regions of the stream `id` that the transport brought. -/
def consumed (i : Inbox τ) (id : StreamId) : List Bytes := regions id i.session.transport.calls

/-- The regions `fresh` of the stream `id` were consumed in a step, and their bytes handed out. -/
structure Delivered (id : StreamId) (fresh : List Bytes) (i i' : Inbox τ) : Prop where
  calls : i'.session.transport.calls = i.session.transport.calls ++ fresh.map (.region id)
  log : ∀ j, handedOut j i'.log = handedOut j i.log ++ if id = j then fresh.flatten else []

/-- The regions that a drain of the stream `id` consumed, each in one notice. -/
def Drained (id : StreamId) (i i' : Inbox τ) : Prop :=
  ∃ fresh, Delivered id fresh i i' ∧
    i'.session.HandsOut i.audience id fresh (dataNotices i'.session.posted)

theorem delivered_after {i : Inbox τ} {id : StreamId} {fresh : List Bytes} {returned : List Delivery}
    {s : Session (Recorder τ)}
    (calls : s.transport.calls = i.session.transport.calls ++ fresh.map (.region id))
    (bytes : (returned ++ (dataNotices s.posted).map Delivery.posted).flatMap Delivery.bytes = fresh.flatten) :
    Delivered id fresh i (i.after id returned s) where
  calls := calls
  log := by
    intro j
    unfold after
    rw [handedOut_append, handedOut_map, List.flatMap_append, bytes_posted, ← List.flatMap_append,
      bytes]

theorem drained_after {i : Inbox τ} {id : StreamId} {fresh : List Bytes} {s : Session (Recorder τ)}
    (calls : s.transport.calls = i.session.transport.calls ++ fresh.map (.region id))
    (handsOut : s.HandsOut i.audience id fresh (dataNotices s.posted)) :
    Drained id i (i.after id [] s) :=
  ⟨fresh, delivered_after calls handsOut.bytes, handsOut⟩

variable [Transport τ]

def step (i : Inbox τ) : Receiving τ → Inbox τ
  | .readable id => i.after id [] (i.collected.deliver i.audience id)
  | .read id limit =>
    let r := i.collected.streamRead i.audience id limit
    i.after id [.returned r.1] r.2
  | .visitor id v => i.after id [] (i.collected.setStreamVisitor i.audience id v)
  | .listener l => { i with listener := l }
  | .transport t => { i with session := { i.session with transport := i.session.transport.moved t } }

def run (i : Inbox τ) (happened : List (Receiving τ)) : Inbox τ := happened.foldl step i

theorem drained_readable {i : Inbox τ} (named : i.session.Named) (id : StreamId) :
    Drained id i (i.step (.readable id)) := by
  have collected : i.collected.Named := named
  obtain ⟨fresh, calls, handsOut⟩ :=
    Session.deliver_handsOut (a := i.audience) rfl collected rfl id
  exact drained_after calls handsOut

theorem drained_visitor {i : Inbox τ} (named : i.session.Named) (id : StreamId) (v : StreamVisitor) :
    Drained id i (i.step (.visitor id v)) := by
  have given := Session.Quiet.visit i.collected id v
  unfold step
  dsimp only
  unfold Session.setStreamVisitor
  split
  · obtain ⟨fresh, calls, handsOut⟩ :=
      Session.deliver_handsOut (a := i.audience) rfl (given.named named) rfl id
    exact drained_after calls handsOut
  · rename_i unknown
    refine drained_after (List.append_nil _).symm (.nobody (fun stream found => ?_) rfl)
    have mem := Table.mem_keys_iff.2 ⟨stream, found⟩
    exact absurd (Table.contains_eq_true_iff.2 mem) unknown

theorem delivered_read {i : Inbox τ} (named : i.session.Named) (id : StreamId) (limit : Nat) :
    ∃ fresh, Delivered id fresh i (i.step (.read id limit)) ∧
      (i.collected.streamRead i.audience id limit).1 = fresh.flatten ∧
      dataNotices (i.step (.read id limit)).session.posted = [] := by
  obtain ⟨fresh, calls, returned, posted⟩ :=
    Session.streamRead_handsOut (a := i.audience) rfl (s := i.collected) named rfl id limit
  refine ⟨fresh, delivered_after calls ?_, returned, posted⟩
  rw [posted, returned]
  exact List.append_nil _

theorem named_step {i : Inbox τ} (named : i.session.Named) (x : Receiving τ) :
    (i.step x).session.Named := by
  cases x with
  | readable id => exact (Session.quiet_deliver i.audience id i.collected).named named
  | read id limit => exact (Session.quiet_streamRead i.audience id limit i.collected).named named
  | visitor id v => exact (Session.quiet_setStreamVisitor i.audience id v i.collected).named named
  | listener l => exact named
  | transport t => exact named

/-- A step hands out what it consumes. -/
theorem balance_step {i : Inbox τ} (named : i.session.Named) (x : Receiving τ) (k : StreamId) :
    ∃ fresh, (i.step x).consumed k = i.consumed k ++ fresh ∧
      handedOut k (i.step x).log = handedOut k i.log ++ fresh.flatten := by
  have balanced {id : StreamId} {fresh : List Bytes} (h : Delivered id fresh i (i.step x)) :
      ∃ fresh, (i.step x).consumed k = i.consumed k ++ fresh ∧
        handedOut k (i.step x).log = handedOut k i.log ++ fresh.flatten := by
    refine ⟨if id = k then fresh else [], ?_, ?_⟩
    · unfold consumed
      rw [h.calls, regions_append, regions_map]
    · rw [h.log k]
      split <;> rfl
  have idle (calls : (i.step x).consumed k = i.consumed k) (log : (i.step x).log = i.log) :
      ∃ fresh, (i.step x).consumed k = i.consumed k ++ fresh ∧
        handedOut k (i.step x).log = handedOut k i.log ++ fresh.flatten :=
    ⟨[], by rw [calls, List.append_nil], by rw [log]; exact (List.append_nil _).symm⟩
  cases x with
  | readable id =>
    obtain ⟨fresh, delivered, -⟩ := drained_readable named id
    exact balanced delivered
  | read id limit =>
    obtain ⟨fresh, delivered, -⟩ := delivered_read named id limit
    exact balanced delivered
  | visitor id v =>
    obtain ⟨fresh, delivered, -⟩ := drained_visitor named id v
    exact balanced delivered
  | listener l => exact idle rfl rfl
  | transport t => exact idle rfl rfl

theorem balance_run {i : Inbox τ} (named : i.session.Named) (happened : List (Receiving τ)) :
    (i.run happened).session.Named ∧ ∀ k, ∃ fresh, (i.run happened).consumed k = i.consumed k ++ fresh ∧
      handedOut k (i.run happened).log = handedOut k i.log ++ fresh.flatten := by
  induction happened generalizing i with
  | nil => exact ⟨named, fun k => ⟨[], (List.append_nil _).symm, (List.append_nil _).symm⟩⟩
  | cons x happened ih =>
    obtain ⟨named', rest⟩ := ih (named_step named x)
    refine ⟨named', fun k => ?_⟩
    obtain ⟨fresh, consumed, log⟩ := balance_step named x k
    obtain ⟨fresh', consumed', log'⟩ := rest k
    refine ⟨fresh ++ fresh', ?_, ?_⟩
    · rw [← List.append_assoc, ← consumed]
      exact consumed'
    · rw [List.flatten_append, ← List.append_assoc, ← log]
      exact log'

end Inbox

/-! ## Reads through a handle -/

variable {ε τ π : Type} [Transport τ] [Endpoint ε τ π]

/-- What a read answers fits where the caller asked for it. -/
theorem StreamHandle.length_read {now : Instant} {h : StreamHandle} {limit : Nat}
    {installed installed' : Option (Dispatcher ε τ π)} {bytes : Bytes}
    (answered : h.read now installed limit = .ok (bytes, installed')) : bytes.length ≤ limit := by
  unfold read at answered
  by_cases there : Registered h.session installed
  · obtain ⟨⟨r, rest⟩, invoked, answered⟩ := ok_of_bind answered
    obtain ⟨a, s, x, s', done, rfl⟩ := SessionHandle.invoke_of_registered there invoked
    have returned : (s.streamRead a h.stream limit).1 = x := congrArg Prod.fst (Except.ok.inj done)
    cases answered
    rw [Option.getD_some, ← returned]
    exact Session.length_streamRead a h.stream limit s
  · rw [SessionHandle.invoke_of_unregistered there] at answered
    cases answered
    exact Nat.zero_le limit

/-- Take a session that went through anything, and let its streams be read, reported and given
visitors in any order while listeners come and go. Of every stream, the bytes handed out are exactly
those consumed, in order; a drain consumes regions only if there is somebody to take them, and gives
each to one receiver in one notice; a read posts no bytes and returns those that it consumed, no
more than were asked for, through a handle as well. -/
theorem Inbox.run_hands_out_consumed (id : SessionId) (handle : ConnectionHandle) (r : Recorder τ)
    (options : SessionOptions) (now : Instant) (history : List (Session.Step (Recorder τ)))
    (listener : Option Listener) (happened : List (Receiving τ)) :
    let start : Inbox τ := ⟨(Session.new id handle r options now).run history, listener, []⟩
    let i := start.run happened
    ∀ k : StreamId,
      (i.consumed k).flatten = (start.consumed k).flatten ++ handedOut k i.log ∧
      Drained k i (i.step (.readable k)) ∧
      (i.listener = none →
        (∀ stream, i.session.streams.get? k = some stream → stream.visitor = none) →
        (i.step (.readable k)).session = i.collected) ∧
      (∀ v, Drained k i (i.step (.visitor k v))) ∧
      (∀ limit,
        (∃ fresh, Delivered k fresh i (i.step (.read k limit)) ∧
          (i.collected.streamRead i.audience k limit).1 = fresh.flatten ∧
          dataNotices (i.step (.read k limit)).session.posted = []) ∧
        (i.collected.streamRead i.audience k limit).1.length ≤ limit ∧
        ∀ (at_ : Instant) (h : StreamHandle) (installed installed' : Option (Dispatcher ε τ π))
          (bytes : Bytes), h.read at_ installed limit = .ok (bytes, installed') →
          bytes.length ≤ limit) := by
  intro start i k
  have named : start.session.Named := Session.named_run (Session.named_empty rfl) history
  obtain ⟨named', balance⟩ := Inbox.balance_run named happened
  refine ⟨?_, Inbox.drained_readable named' k, fun unheard unvisited => ?_,
    Inbox.drained_visitor named' k, fun limit =>
    ⟨Inbox.delivered_read named' k limit, Session.length_streamRead _ k limit _,
      fun _ _ _ _ _ answered => StreamHandle.length_read answered⟩⟩
  · obtain ⟨fresh, consumed, log⟩ := balance k
    rw [consumed, List.flatten_append, log]
    rfl
  · exact Session.deliver_of_unheard fun stream found => ⟨unvisited stream found, unheard⟩

end QuicSessions
