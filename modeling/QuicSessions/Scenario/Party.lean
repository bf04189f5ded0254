import QuicSessions.Handle
import QuicSessions.Scenario.Observation

/-!
# Parties

A party is one side with everything that belongs to it: the dispatcher that is installed, the notices
that wait to be delivered, and the log of its visitors. Delivering a notice writes a line of the log
and lets the visitor react through the handles it was given.
-/

set_option autoImplicit false

namespace QuicSessions.Scenario

structure Party (ε τ π : Type) where
  installed : Option (Dispatcher ε τ π)
  log : List Observation

namespace Party

variable {ε τ π : Type} [Transport τ] [Endpoint ε τ π]

/-- An operation through a handle; one that must not be used changes nothing. -/
def through {α : Type} (inert : α)
    (op : Option (Dispatcher ε τ π) → Except Fault (α × Option (Dispatcher ε τ π)))
    (p : Party ε τ π) : α × Party ε τ π :=
  match op p.installed with
  | .ok (r, installed) => (r, { p with installed := installed })
  | .error _ => (inert, p)

/-- An operation through a handle that answers nothing. -/
def told (op : Option (Dispatcher ε τ π) → Except Fault (Option (Dispatcher ε τ π)))
    (p : Party ε τ π) : Party ε τ π :=
  (p.through () fun installed => return ((), ← op installed)).2

omit [Transport τ] [Endpoint ε τ π] in
def note (o : Observation) (p : Party ε τ π) : Party ε τ π := { p with log := p.log ++ [o] }

variable (now : Instant)

/-- How a stream visitor reacts. -/
def reactStream (v : StreamVisitor) (h : StreamHandle) (news : StreamNews) (p : Party ε τ π) :
    Party ε τ π :=
  let wrote (data : Bytes) (fin : Bool) : Party ε τ π :=
    let (n, p) := p.through 0 fun installed => h.write now installed data fin
    p.note (observeStream v h "wrote" [.count n])
  match v.mode, news with
  | .echo, .data bytes => wrote bytes false
  | .replyFin, .data _ => wrote (Utf8.encode "bye") true
  | .echo, .fin => p.told (h.close now)
  | .closer, .fin => p.told (h.close now)
  | _, _ => p

/-- How a session visitor reacts. -/
def reactSession (v : SessionVisitor) (h : SessionHandle) (news : SessionNews) (p : Party ε τ π) :
    Party ε τ π :=
  match v.mode, news with
  | .accept, .incomingStream stream =>
    p.told fun installed => stream.setVisitor now installed ⟨v.tag, v.streamMode⟩
  | .opener, .canCreate dir =>
    let (stream, p) := p.through none fun installed =>
      match dir with
      | .bi => h.openBidirectional now installed
      | .uni => h.openUnidirectional now installed
    match stream with
    | none => p
    | some stream =>
      let (n, p) := p.through 0 fun installed =>
        stream.write now installed (Utf8.encode "opened") true
      p.note (observeSession v h "wrote" (some stream.id) [.count n])
  | .leaver, .goaway => p.told fun installed => h.closeWithError now installed 9 "leaving"
  | _, _ => p

/-- How a client visitor reacts. -/
def reactClient (v : ClientVisitor) (news : ClientNews) (p : Party ε τ π) : Party ε τ π :=
  match v.mode, news with
  | .hello, .connected h =>
    let (stream, p) := p.through none fun installed => h.openBidirectional now installed
    match stream with
    | none => p
    | some stream =>
      let (n, p) := p.through 0 fun installed =>
        stream.write now installed (Utf8.encode "hello") false
      p.note (observeClient v "wrote" (some h.id) (some stream.id) [.count n])
  | _, _ => p

/-- How a server visitor reacts. -/
def reactServer (v : ServerVisitor) (news : ServerNews) (p : Party ε τ π) : Party ε τ π :=
  match v.mode, news with
  | .accept, .session h =>
    p.told fun installed => h.setVisitor now installed ⟨v.tag, .accept, v.streamMode⟩
  | _, _ => p

/-- Delivers one notice. -/
def deliver (n : Notice) (p : Party ε τ π) : Party ε τ π :=
  match n with
  | .client v (.connected h) =>
    let (ready, p) := p.through false (h.ready now)
    (p.note (observe ready n)).reactClient now v (.connected h)
  | .client v news => (p.note (observe false n)).reactClient now v news
  | .stream v h news => (p.note (observe false n)).reactStream now v h news
  | .session v h news => (p.note (observe false n)).reactSession now v h news
  | .server v news => (p.note (observe false n)).reactServer now v news
  | .listener _ _ => p.note (observe false n)

omit [Transport τ] [Endpoint ε τ π] in
/-- Takes the notices that the dispatcher has posted. -/
def takePosted (p : Party ε τ π) : List Notice × Party ε τ π :=
  match p.installed with
  | none => ([], p)
  | some d => (d.posted, { p with installed := some { d with posted := [] } })

/-- Delivers notices, and those posted meanwhile after them, at most `budget` in all. -/
def deliverAll : (budget : Nat) → List Notice → Party ε τ π → Party ε τ π
  | 0, _, p => p
  | budget + 1, queue, p =>
    let (posted, p) := p.takePosted
    match queue ++ posted with
    | [] => p
    | n :: rest => deliverAll budget rest (p.deliver now n)

/-- More notices than one step leads to. -/
def deliveries : Nat := 100000

/-- Delivers everything that was posted, reactions included. -/
def settle (p : Party ε τ π) : Party ε τ π := p.deliverAll now deliveries []

omit [Transport τ] [Endpoint ε τ π] in
/-- Takes the log. -/
def takeLog (p : Party ε τ π) : List Observation × Party ε τ π := (p.log, { p with log := [] })

end Party

end QuicSessions.Scenario
