import LocalRecords.Socket.Control
import LocalRecords.Socket.Range

namespace LocalRecords

structure Receipt where
  bytes : Bytes
  control : Bytes
  /-- Whether descriptors came along that are not among those in the control data. -/
  isTruncated : Bool
  deriving DecidableEq, Repr

structure Received where
  reading : Reading
  bytes : Bytes
  descriptors : List Nat
  deriving DecidableEq, Repr

structure Receiver (ρ : Type) where
  /-- One receipt of at most so many bytes, with room for so many bytes of control data. -/
  receive : ρ → Nat → Nat → ρ × Except IoError Receipt
  close : ρ → Nat → ρ
  patience : ρ → Nat
  patience_lt : ∀ s n room e, (receive s n room).2 = .error e → e.isInterrupted = true →
    patience (receive s n room).1 < patience s

namespace Receiver

variable {ρ : Type}

def receiveThrough (receiver : Receiver ρ) (s : ρ) (n room : Nat) : ρ × Except IoError Receipt :=
  match _h : receiver.receive s n room with
  | (s', .ok r) => (s', .ok r)
  | (s', .error e) =>
    if _hi : e.isInterrupted = true then receiver.receiveThrough s' n room else (s', .error e)
termination_by receiver.patience s
decreasing_by
  have h := receiver.patience_lt s n room e (by rw [_h]) _hi
  rwa [_h] at h

def closeAll (receiver : Receiver ρ) (s : ρ) (descriptors : List Nat) : ρ :=
  descriptors.foldl receiver.close s

/-- Reads at most `capacity` bytes and up to `maxDescriptors` descriptors that come along. If some
found no room it is an error, and those that did are closed. -/
def receiveInto (receiver : Receiver ρ) (kind : SocketType) (s : ρ)
    (capacity maxDescriptors : Nat) : ρ × Except Failure Received :=
  let limit := min maxDescriptors Control.maxDescriptors
  match receiver.receiveThrough s capacity (Control.room limit) with
  | (s', .error e) => (s', .error (.refused .recv e))
  | (s', .ok r) =>
    let descriptors := (Control.collect r.control).map UInt32.toNat
    if r.isTruncated then
      (receiver.closeAll s' descriptors, .error (.malformed (.descriptorsTruncated limit)))
    else
      -- A read of no bytes does not say that the end is reached.
      let reading := if capacity = 0 then .data 0 else .ofCount kind r.bytes.length
      (s', .ok ⟨reading, r.bytes, descriptors⟩)

end Receiver

end LocalRecords
