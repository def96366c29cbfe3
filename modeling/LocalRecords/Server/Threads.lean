import LocalRecords.Server.Basic

/-!
The threads of a stream server and what they share: the one that accepts connections, one for every
connection, and the table that the first fills and the others leave. A step is what one of them does
from one look at what is shared to the next, so a list of steps is an interleaving of the threads.
-/

namespace LocalRecords

inductive Acceptor
  | top
  | listening
  /-- A connection came, of a user if that is known. -/
  | came (user : Option Nat)
  | reaping (user : Option Nat)
  | counting (user : Option Nat)
  | checking (user : Option Nat)
  | entering (user : Option Nat)
  /-- The connection is in the table, and its thread is to be started. -/
  | starting (id : ConnectionNumber) (user : Option Nat)
  | refused (id : ConnectionNumber)
  | collecting
  | closing (unshut : List ConnectionNumber)
  | joining
  | done
  deriving DecidableEq, Repr

inductive Handler (δ : Type)
  /-- It waits for a read. -/
  | waiting (c : Connection δ)
  /-- It hands on what the last read brought. -/
  | draining (c : Connection δ)
  | leaving
  | left
  | finished

def Handler.isFinished {δ : Type} : Handler δ → Bool
  | finished => true
  | _ => false

structure Threads (δ : Type) where
  limits : Limits
  owner : Nat
  maxLive : Nat
  nextNumber : ConnectionNumber := 1
  /-- How many records were handed on of each connection. -/
  table : List (ConnectionNumber × Nat) := []
  acceptor : Acceptor := .top
  /-- Every thread that was started for a connection. -/
  handlers : List (ConnectionNumber × Handler δ) := []
  unjoined : List ConnectionNumber := []
  isTold : Bool := false
  shut : List ConnectionNumber := []
  admitted : List (ConnectionNumber × Option Nat) := []
  refused : List ConnectionNumber := []
  calls : List (ConnectionNumber × Delivery δ) := []

/-- What the accepting thread finds where the answer is not its own. -/
structure Findings where
  /-- The user of the connection that came, or that waiting for one failed. -/
  arrival : Option (Option Nat) := none
  /-- The threads it sees to be finished, if they are. -/
  finished : List ConnectionNumber := []
  isStarted : Bool := true

namespace Threads

inductive Event (δ : Type)
  | told
  | accepts (found : Findings)
  | reads (id : ConnectionNumber) (bytes : Bytes) (descriptors : List δ)
  | ends (id : ConnectionNumber)
  | goes (id : ConnectionNumber)

variable {δ : Type}

def allows (s : Threads δ) (user : Option Nat) : Bool :=
  user.all ({ limits := s.limits, owner := s.owner } : Server δ).admits

def handler? (s : Threads δ) (id : ConnectionNumber) : Option (Handler δ) := s.handlers.lookup id

def hasFinished (s : Threads δ) (id : ConnectionNumber) : Bool :=
  (s.handler? id).any Handler.isFinished

def setHandler (s : Threads δ) (id : ConnectionNumber) (p : Handler δ) : Threads δ :=
  { s with handlers := s.handlers.map fun h => if h.1 = id then (id, p) else h }

def remove (s : Threads δ) (id : ConnectionNumber) : Threads δ :=
  { s with table := s.table.filter fun entry => entry.1 ≠ id }

def enter (s : Threads δ) (user : Option Nat) : Threads δ :=
  { s with
    nextNumber := s.nextNumber + 1
    table := s.table ++ [(s.nextNumber, 0)]
    acceptor := .starting s.nextNumber user
    admitted := s.admitted ++ [(s.nextNumber, user)] }

def start (s : Threads δ) (id : ConnectionNumber) : Threads δ :=
  { s with
    acceptor := .top
    handlers := s.handlers ++ [(id, .waiting (.new s.limits))]
    unjoined := s.unjoined ++ [id] }

def call (s : Threads δ) (id : ConnectionNumber) (d : Delivery δ) : Threads δ :=
  { s with
    table := s.table.map fun entry => if entry.1 = id then (id, entry.2 + 1) else entry
    calls := s.calls ++ [(id, d)] }

def accept (s : Threads δ) (found : Findings) : Threads δ :=
  match s.acceptor with
  | .top => { s with acceptor := if s.isTold then .collecting else .listening }
  | .listening => { s with acceptor := found.arrival.elim .top .came }
  | .came user => { s with acceptor := if s.isTold then .collecting else .reaping user }
  | .reaping user =>
    { s with
      acceptor := .counting user
      unjoined := s.unjoined.filter fun id => !(found.finished.contains id && s.hasFinished id) }
  | .counting user =>
    { s with acceptor := if s.table.length < s.maxLive then .checking user else .top }
  | .checking user => { s with acceptor := if s.allows user then .entering user else .top }
  | .entering user => s.enter user
  | .starting id _ =>
    if found.isStarted then s.start id
    else { s with acceptor := .refused id, refused := s.refused ++ [id] }
  | .refused id => { s.remove id with acceptor := .collecting }
  | .collecting => { s with acceptor := .closing (s.table.map (·.1)) }
  | .closing [] => { s with acceptor := .joining }
  | .closing (id :: unshut) => { s with acceptor := .closing unshut, shut := id :: s.shut }
  | .joining =>
    match s.unjoined with
    | [] => { s with acceptor := .done }
    | id :: unjoined => if s.hasFinished id then { s with unjoined := unjoined } else s
  | .done => s

def drain (s : Threads δ) (id : ConnectionNumber) (c : Connection δ) : Threads δ :=
  match c.decoder.decode with
  | .error _ => s.setHandler id .leaving
  | .ok none => s.setHandler id (.waiting c)
  | .ok (some (record, decoder)) =>
    let claimed := Connection.claim record.header.type c.queue
    (s.call id ⟨record, claimed.1⟩).setHandler id
      (.draining ⟨decoder, claimed.2, c.records + 1⟩)

/-- What an event leads to. One that the threads are not ready for leaves them as they are. -/
def step (s : Threads δ) : Event δ → Threads δ
  | .told => { s with isTold := true }
  | .accepts found => s.accept found
  | .reads id bytes descriptors =>
    match s.handler? id with
    | some (.waiting c) =>
      s.setHandler id (.draining
        { c with decoder := c.decoder.push bytes, queue := c.queue ++ descriptors })
    | _ => s
  | .ends id =>
    match s.handler? id with
    | some (.waiting _) => s.setHandler id .leaving
    | _ => s
  | .goes id =>
    match s.handler? id with
    | some (.draining c) => s.drain id c
    | some .leaving => (s.remove id).setHandler id .left
    | some .left => s.setHandler id .finished
    | _ => s

def run (s : Threads δ) : List (Event δ) → Threads δ
  | [] => s
  | e :: events => (s.step e).run events

end Threads

end LocalRecords
