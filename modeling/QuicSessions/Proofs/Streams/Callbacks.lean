import QuicSessions.Visitor

/-!
# What is told about one stream

The listener and the visitors of a stream are told of it in callbacks. In order: the stream is ready,
data comes and room to write, perhaps the end of the data, and last the stream is closed, once for
each recipient. The notices of a session are about many streams; those about one of them are its word.
-/

set_option autoImplicit false

namespace QuicSessions

/-- Who is told about a stream. -/
inductive Recipient where
  | visitor (v : StreamVisitor)
  | listener (l : Listener)
  deriving DecidableEq

/-- What is told about a stream. -/
inductive Callback where
  | ready
  | data
  | canWrite
  | fin
  | closed (recipient : Recipient)
  deriving DecidableEq

namespace Callback

/-! ## The grammar -/

/-- The stream is ready, and data comes and room to write, in any number. -/
def Flowing (word : List Callback) : Prop :=
  ∃ flow, word = .ready :: flow ∧ ∀ c ∈ flow, c = .data ∨ c = .canWrite

/-- The data has ended; only room to write comes after that. -/
def Ended (word : List Callback) : Prop :=
  ∃ before after, word = before ++ .fin :: after ∧ Flowing before ∧ ∀ c ∈ after, c = .canWrite

def Underway (word : List Callback) : Prop := Flowing word ∨ Ended word

/-- Nothing was told, or everything in order; each recipient hears once that the stream is closed, and
nothing comes after that. -/
def Grammatical (word : List Callback) : Prop :=
  word = [] ∨ ∃ (before : List Callback) (told : List Recipient),
    word = before ++ told.map .closed ∧ Underway before ∧ told.Nodup

variable {word : List Callback}

theorem flowing_ready : Flowing [.ready] := ⟨[], rfl, by simp⟩

theorem Flowing.append (h : Flowing word) {more : List Callback}
    (flow : ∀ c ∈ more, c = .data ∨ c = .canWrite) : Flowing (word ++ more) := by
  obtain ⟨sofar, rfl, flowed⟩ := h
  refine ⟨sofar ++ more, rfl, fun c mem => ?_⟩
  obtain mem | mem := List.mem_append.1 mem
  · exact flowed c mem
  · exact flow c mem

theorem Flowing.fin (h : Flowing word) : Ended (word ++ [.fin]) := ⟨word, [], rfl, h, by simp⟩

theorem Ended.append (h : Ended word) {more : List Callback} (room : ∀ c ∈ more, c = .canWrite) :
    Ended (word ++ more) := by
  obtain ⟨before, after, rfl, flowing, only⟩ := h
  refine ⟨before, after ++ more, by simp, flowing, fun c mem => ?_⟩
  obtain mem | mem := List.mem_append.1 mem
  · exact only c mem
  · exact room c mem

theorem Ended.fin_mem (h : Ended word) : Callback.fin ∈ word := by
  obtain ⟨before, after, rfl, -, -⟩ := h
  simp

theorem Underway.flowing (h : Underway word) (endless : Callback.fin ∉ word) : Flowing word :=
  h.resolve_right fun ended => endless ended.fin_mem

theorem Underway.canWrite (h : Underway word) : Underway (word ++ [.canWrite]) := by
  obtain flowing | ended := h
  · exact .inl (flowing.append (by simp))
  · exact .inr (ended.append (by simp))

theorem Underway.closed (h : Underway word) {told : List Recipient} (distinct : told.Nodup) :
    Grammatical (word ++ told.map .closed) := .inr ⟨word, told, rfl, h, distinct⟩

theorem Underway.grammatical (h : Underway word) : Grammatical word :=
  .inr ⟨word, [], by simp, h, List.nodup_nil⟩

end Callback

/-- What is told about a pass over the receive side: each region, and the end. -/
def passCallbacks (regions : List Bytes) (fin : Bool) : List Callback :=
  regions.map (fun _ => .data) ++ if fin then [.fin] else []

theorem fin_mem_passCallbacks {regions : List Bytes} {fin : Bool}
    (h : Callback.fin ∈ passCallbacks regions fin) : fin = true := by
  unfold passCallbacks at h
  obtain mem | mem := List.mem_append.1 h
  · obtain ⟨bytes, -, e⟩ := List.mem_map.1 mem
    cases e
  · cases fin with
    | true => rfl
    | false => cases mem

/-! ## The word of a stream -/

/-- What a visitor of a stream is told. -/
def StreamNews.callback (v : StreamVisitor) : StreamNews → Callback
  | .data _ => .data
  | .fin => .fin
  | .canWrite => .canWrite
  | .closed => .closed (.visitor v)

/-- What the listener is told about the stream `id` of a session, by its integer. -/
def ListenerNews.callback? (session : SessionId) (id : StreamId) (l : Listener) :
    ListenerNews → Option Callback
  | .ready s n => if s = session ∧ id.handle? = some n then some .ready else none
  | .data s n _ => if s = session ∧ id.handle? = some n then some .data else none
  | .fin s n => if s = session ∧ id.handle? = some n then some .fin else none
  | .streamClosed s n =>
    if s = session ∧ id.handle? = some n then some (.closed (.listener l)) else none
  | .sessionClosed _ => none

/-- What a notice says about the stream `id` of a session. -/
def Notice.callback? (session : SessionId) (id : StreamId) : Notice → Option Callback
  | .stream v h news => if h.session = session ∧ h.stream = id then some (news.callback v) else none
  | .listener l news => news.callback? session id l
  | .session .. => none
  | .server .. => none
  | .client .. => none

/-- What notices say about the stream `id` of a session, in the order in which they were posted. -/
def word (session : SessionId) (id : StreamId) (notices : List Notice) : List Callback :=
  notices.filterMap (Notice.callback? session id)

variable (session : SessionId) (id : StreamId)

@[simp] theorem word_nil : word session id [] = [] := rfl

theorem word_singleton (n : Notice) : word session id [n] = (n.callback? session id).toList := by
  unfold word
  cases h : n.callback? session id with
  | none => rw [List.filterMap_cons_none h]; rfl
  | some c => rw [List.filterMap_cons_some h]; rfl

@[simp] theorem word_append (notices more : List Notice) :
    word session id (notices ++ more) = word session id notices ++ word session id more :=
  List.filterMap_append

/-- A stream with an integer is the only one with it. -/
theorem handle?_eq_handle {j : StreamId} (fits : j.handle?.isSome = true) :
    id.handle? = some j.handle ↔ j = id := by
  obtain ⟨n, n_of_j⟩ := Option.isSome_iff_exists.1 fits
  have handle : j.handle = n := by
    unfold StreamId.handle
    rw [n_of_j]
    rfl
  constructor
  · intro same
    rw [handle] at same
    rw [← StreamId.ofHandle_of_handle? same, StreamId.ofHandle_of_handle? n_of_j]
  · rintro rfl
    rw [n_of_j, handle]

theorem word_flatMap {α : Type} (f : α → List Notice) (xs : List α) :
    word session id (xs.flatMap f) = xs.flatMap fun x => word session id (f x) := by
  induction xs with
  | nil => rfl
  | cons x xs ih => rw [List.flatMap_cons, List.flatMap_cons, word_append, ih]

end QuicSessions
