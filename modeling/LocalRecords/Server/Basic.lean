import LocalRecords.Server.Connection

/-!
The table of connections of a stream server, as a machine: what happens to it, and the records that
are handed on when it does. Connections are numbered in the order they are admitted, from 1, and no
number is used twice.
-/

namespace LocalRecords

abbrev ConnectionNumber := Nat

def ConnectionNumber.name (id : ConnectionNumber) : String := s!"conn-{id}"

structure Server (δ : Type) where
  limits : Limits
  owner : Nat
  maxLive : Nat := 100
  nextNumber : ConnectionNumber := 1
  live : List (ConnectionNumber × Connection δ) := []
  isStopping : Bool := false

namespace Server

inductive Event (δ : Type)
  | acceptFailed
  /-- A connection came, of a user if that is known; it can be given a handler or not. -/
  | arrived (user : Option Nat) (hasHandler : Bool)
  | received (id : ConnectionNumber) (bytes : Bytes) (descriptors : List δ)
  | ended (id : ConnectionNumber)
  | stopped

variable {δ : Type}

def maxDescriptorsPerRead : Nat := 16

def admits (s : Server δ) (user : Nat) : Bool := user = s.owner || user = 0

def takesUp (s : Server δ) (user : Option Nat) : Bool :=
  !s.isStopping && s.live.length < s.maxLive && user.all s.admits

def find? (s : Server δ) (id : ConnectionNumber) : Option (Connection δ) := s.live.lookup id

def remove (s : Server δ) (id : ConnectionNumber) : Server δ :=
  { s with live := s.live.filter fun c => c.1 ≠ id }

def set (s : Server δ) (id : ConnectionNumber) (c : Connection δ) : Server δ :=
  { s with live := s.live.map fun p => if p.1 = id then (id, c) else p }

def enrol (s : Server δ) : Server δ :=
  { s with live := s.live ++ [(s.nextNumber, .new s.limits)], nextNumber := s.nextNumber + 1 }

/-- What an event leads to: the server after it, the records that are handed on, and the descriptors
that nobody will claim any more. -/
structure Outcome (δ : Type) where
  server : Server δ
  deliveries : List (ConnectionNumber × Delivery δ) := []
  unclaimed : List δ := []

/-- What a read of a connection leads to. One that brings what is no record closes it. -/
def receive (s : Server δ) (id : ConnectionNumber) (c : Connection δ) (bytes : Bytes)
    (descriptors : List δ) : Outcome δ :=
  let r := c.receive bytes descriptors
  let deliveries := r.deliveries.map (id, ·)
  if r.error.isSome then ⟨s.remove id, deliveries, r.connection.queue⟩
  else ⟨s.set id r.connection, deliveries, []⟩

/-- What an event leads to. A connection that cannot be given a handler stops the server. -/
def step (s : Server δ) : Event δ → Outcome δ
  | .acceptFailed => ⟨s, [], []⟩
  | .arrived user hasHandler =>
    if s.takesUp user then
      if hasHandler then ⟨s.enrol, [], []⟩
      else ⟨{ s with nextNumber := s.nextNumber + 1, isStopping := true }, [], []⟩
    else ⟨s, [], []⟩
  | .received id bytes descriptors =>
    match s.find? id with
    | none => ⟨s, [], descriptors⟩
    | some c => s.receive id c bytes descriptors
  | .ended id => ⟨s.remove id, [], ((s.find? id).map Connection.queue).getD []⟩
  | .stopped => ⟨{ s with isStopping := true }, [], []⟩

def run (s : Server δ) : List (Event δ) → Outcome δ
  | [] => ⟨s, [], []⟩
  | e :: es =>
    let first := s.step e
    let rest := run first.server es
    ⟨rest.server, first.deliveries ++ rest.deliveries, first.unclaimed ++ rest.unclaimed⟩

end Server

end LocalRecords
