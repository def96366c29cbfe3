import LocalRecords.IoError
import LocalRecords.Socket.SocketType
import LocalRecords.Word

/-!
One end of a local socket: the packets that wait to be read, and what reading makes of them. A
stream runs its packets together but stops after one with which something was passed; a datagram
socket gives one packet at a time and drops what does not fit.
-/

namespace LocalRecords

/-- What a descriptor stands for, by the identity the system knows it by. -/
inductive Resource
  | file (id : Nat)
  | endpoint (id : Nat)
  deriving DecidableEq, Repr

structure Packet where
  data : Bytes
  passed : List Resource := []
  deriving DecidableEq, Repr

structure Endpoint where
  kind : SocketType
  isListening : Bool := false
  peer : Option Nat := none
  waiting : List Nat := []
  inbox : List Packet := []
  readShut : Bool := false
  writeShut : Bool := false
  /-- The peer went away and left something unread; the next read that finds nothing says so. -/
  isReset : Bool := false
  /-- The room for what was sent and not yet read, in bytes. -/
  sendRoom : Nat := 212992
  knowsPeer : Bool := false
  deriving DecidableEq, Repr

/-- The packets that the bytes of a stream are cut into; what is passed goes with the first. -/
def packets (size : Nat) (passed : List Resource) (bytes : Bytes) : List Packet :=
  if bytes.isEmpty then []
  else if size = 0 ∨ bytes.length ≤ size then [⟨bytes, passed⟩]
  else ⟨bytes.take size, passed⟩ :: packets size [] (bytes.drop size)
termination_by bytes.length
decreasing_by simp only [List.length_drop]; omega

/-- The first `n` bytes of a stream of packets, or fewer if a packet with which something was passed
ends before them; what was passed; and the packets after it. -/
def takeStream : List Packet → Nat → Packet × List Packet
  | [], _ => (⟨[], []⟩, [])
  | p :: rest, n =>
    let left := p.data.drop n
    if left.isEmpty then
      if n = p.data.length ∨ !p.passed.isEmpty then (p, rest)
      else
        let r := takeStream rest (n - p.data.length)
        (⟨p.data ++ r.1.data, r.1.passed⟩, r.2)
    else
      (⟨p.data.take n, p.passed⟩, ⟨left, []⟩ :: rest)

theorem length_takeStream_le (ps : List Packet) (n : Nat) :
    (takeStream ps n).1.data.length ≤ n := by
  induction ps generalizing n with
  | nil => simp [takeStream]
  | cons p rest ih =>
    simp only [takeStream]
    split
    next hl =>
      have hn : p.data.length ≤ n := by simpa using hl
      split
      · exact hn
      · have := ih (n - p.data.length)
        simp only [List.length_append]
        omega
    · exact List.length_take_le _ _

namespace Endpoint

def isReadable (e : Endpoint) : Bool :=
  !e.inbox.isEmpty || !e.waiting.isEmpty || e.readShut || e.isReset

def pendingReads (e : Endpoint) : Nat := sumOf (fun p => p.data.length + 1) e.inbox

def packetLen (e : Endpoint) : Nat := min (e.sendRoom / 2 - 64) 48832

def maxDatagram (e : Endpoint) : Nat := e.sendRoom - 32

def idle (e : Endpoint) : Endpoint × Except IoError Packet :=
  if e.isReset then ({ e with isReset := false }, .error .connectionReset)
  else if e.readShut then (e, .ok ⟨[], []⟩)
  else (e, .error .wouldBlock)

def take (e : Endpoint) (n : Nat) : Endpoint × Except IoError Packet :=
  match e.kind, e.inbox with
  | .stream, [] => if e.isListening then (e, .error .invalidArgument) else e.idle
  | .stream, ps =>
    let r := takeStream ps n
    ({ e with inbox := r.2 }, .ok r.1)
  | .datagram, [] => e.idle
  | .datagram, p :: rest => ({ e with inbox := rest }, .ok ⟨p.data.take n, p.passed⟩)

theorem isInterrupted_of_idle {e : Endpoint} {x : IoError} (h : e.idle.2 = .error x) :
    x.isInterrupted = false := by
  unfold idle at h
  split at h
  · cases h; decide
  split at h
  · cases h
  · cases h; decide

theorem length_of_idle {e : Endpoint} {p : Packet} (h : e.idle.2 = .ok p) : p.data = [] := by
  unfold idle at h
  split at h
  · cases h
  split at h
  · cases h; rfl
  · cases h

theorem isInterrupted_of_take {e : Endpoint} {n : Nat} {x : IoError}
    (h : (e.take n).2 = .error x) : x.isInterrupted = false := by
  unfold take at h
  split at h
  · split at h
    · cases h; decide
    · exact isInterrupted_of_idle h
  · cases h
  · exact isInterrupted_of_idle h
  · cases h

theorem length_of_take {e : Endpoint} {n : Nat} {p : Packet} (h : (e.take n).2 = .ok p) :
    p.data.length ≤ n := by
  unfold take at h
  split at h
  · split at h
    · cases h
    · simp [length_of_idle h]
  · cases h; exact length_takeStream_le _ _
  · simp [length_of_idle h]
  · cases h; exact List.length_take_le _ _

end Endpoint

end LocalRecords
