import LocalRecords.Failure
import LocalRecords.Message.Sink
import LocalRecords.Socket.SocketType

namespace LocalRecords

inductive Reading
  /-- So many bytes; none if none were asked for, or of an empty datagram. -/
  | data (count : Nat)
  | ended
  deriving DecidableEq, Repr

/-- What it means that so many bytes were read. Only streams end. -/
def Reading.ofCount (kind : SocketType) (count : Nat) : Reading :=
  if count = 0 ∧ kind.connects = true then .ended else .data count

def Source.readThrough {ρ : Type} (source : Source ρ) (s : ρ) (n : Nat) :
    ρ × Except IoError Bytes :=
  match _h : source.read s n with
  | (s', .ok bytes) => (s', .ok bytes)
  | (s', .error e) =>
    if _hi : e.isInterrupted = true then source.readThrough s' n else (s', .error e)
termination_by source.patience s
decreasing_by
  have h := source.patience_lt s n e (by rw [_h]) _hi
  rwa [_h] at h

def Sink.sendThrough {σ : Type} (sink : Sink σ) (s : σ) (bytes : Bytes) : σ × Except IoError Nat :=
  match _h : sink.send s ⟨[bytes], none⟩ with
  | (s', .ok n) => (s', .ok n)
  | (s', .error e) =>
    if _hi : e.isInterrupted = true then sink.sendThrough s' bytes else (s', .error e)
termination_by sink.patience s
decreasing_by
  have h := sink.patience_lt s ⟨[bytes], none⟩ e (by rw [_h]) _hi
  rwa [_h] at h

/-- Reads at most `len` bytes to the place `offset` of a buffer: the source and the buffer after it,
and what was read. -/
def readRange {ρ : Type} (source : Source ρ) (kind : SocketType) (s : ρ) (buffer : Bytes)
    (offset len : Nat) : ρ × Bytes × Except Failure Reading :=
  if buffer.length < offset + len then
    (s, buffer, .error (.outside offset len buffer.length))
  else if len = 0 then (s, buffer, .ok (.data 0))
  else
    match source.readThrough s len with
    | (s', .error e) => (s', buffer, .error (.refused .read e))
    | (s', .ok bytes) =>
      (s', buffer.take offset ++ bytes ++ buffer.drop (offset + bytes.length),
        .ok (.ofCount kind bytes.length))

def writeRange {σ : Type} (sink : Sink σ) (s : σ) (buffer : Bytes) (offset len : Nat) :
    σ × Except Failure Nat :=
  if buffer.length < offset + len then
    (s, .error (.outside offset len buffer.length))
  else
    let r := sink.sendThrough s ((buffer.drop offset).take len)
    (r.1, r.2.mapError (.refused .write))

def writeAll {σ : Type} (sink : Sink σ) (s : σ) (bytes : Bytes) : σ × Except IoError Unit :=
  if bytes.isEmpty then (s, .ok ())
  else
    match writeRange sink s bytes 0 bytes.length with
    | (s', .error e) => (s', .error e.toIo)
    | (s', .ok n) =>
      if n = 0 then (s', .error (.described .writeZero "failed to write whole buffer"))
      else writeAll sink s' (bytes.drop n)
termination_by bytes.length
decreasing_by
  cases bytes with
  | nil => contradiction
  | cons b bs => simp only [List.length_drop, List.length_cons]; omega

end LocalRecords
