import LocalRecords.Record.Decoder
import LocalRecords.Socket.Basic

namespace LocalRecords

namespace Socket

def receive (h : Host) (s : Socket) (capacity maxDescriptors : Nat) :
    Host × Except Failure Received :=
  s.receiver.receiveInto s.kind h capacity maxDescriptors

/-- Whether the end can be read, or an error. A byte that is read instead is lost. -/
def hasEnded (h : Host) (s : Socket) : Host × Bool :=
  if h.isReadable s.descriptor then
    match s.source.readThrough h 1 with
    | (h, .ok (_ :: _)) => (h, false)
    | (h, _) => (h, true)
  else (h, false)

def grown (capacity need : Nat) : Nat := max 8 (max (2 * capacity) need)

/-- Reads until nothing comes or `n` reads were made, each into what is free of a buffer with room
for `capacity` bytes and `size` in it, but at most `most` bytes. A full buffer grows; reads that
bring all they may bring may bring twice as much. -/
def readRestWithin (s : Socket) : Nat → Host → Nat → Nat → Nat → Host × Except IoError Bytes
  | 0, h, _, _, _ => (h, .ok [])
  | n + 1, h, size, capacity, most =>
    let capacity := if size = capacity then grown capacity (size + 32) else capacity
    let asked := min (capacity - size) most
    match s.source.readThrough h asked with
    | (h, .error e) => (h, .error e)
    | (h, .ok bytes) =>
      if bytes.isEmpty then (h, .ok [])
      else
        let most := if most ≤ asked ∧ bytes.length = asked then 2 * most else most
        let r := readRestWithin s n h (size + bytes.length) capacity most
        (r.1, r.2.map (bytes ++ ·))

def pendingReads (h : Host) (s : Socket) : Nat :=
  match h.socket? s.descriptor with
  | .ok (_, e) => e.pendingReads
  | .error _ => 0

/-- Reads to the end. The first read asks for a few bytes, to learn whether there are any. -/
def readRest (h : Host) (s : Socket) : Host × Except IoError Bytes :=
  match s.source.readThrough h 32 with
  | (h', .error e) => (h', .error e)
  | (h', .ok bytes) =>
    if bytes.isEmpty then (h', .ok [])
    else
      let r := s.readRestWithin (pendingReads h s) h' bytes.length (grown 0 bytes.length) 8192
      (r.1, r.2.map (bytes ++ ·))

/-- Reads `chunk` bytes at a time into a decoder until a record is there, an error comes or `n`
reads were made: the record, if one came, and the decoder after it. -/
def readRecordWithin (s : Socket) (chunk : Nat) :
    Nat → Host → Decoder → Host × Except Failure (Option WireRecord × Decoder)
  | 0, h, d => (h, .ok (none, d))
  | n + 1, h, d =>
    match d.decode with
    | .error e => (h, .error e)
    | .ok (some (r, d)) => (h, .ok (some r, d))
    | .ok none =>
      match s.source.readThrough h chunk with
      | (h, .error e) => (h, .error (.refused .read e))
      | (h, .ok bytes) => readRecordWithin s chunk n h (d.push bytes)

def readRecord (h : Host) (s : Socket) (chunk : Nat) (limits : Limits) :
    Host × Except Failure (Option WireRecord × Decoder) :=
  s.readRecordWithin chunk (pendingReads h s + 1) h (.new limits)

def receiveAllWithin (s : Socket) (size : Nat) : Nat → Host → Host × Bytes × List Nat
  | 0, h => (h, [], [])
  | n + 1, h =>
    match receive h s size Control.maxDescriptors with
    | (h, .error _) => (h, [], [])
    | (h, .ok r) =>
      if r.reading = .ended then (h, [], r.descriptors)
      else
        let rest := receiveAllWithin s size n h
        (rest.1, r.bytes ++ rest.2.1, r.descriptors ++ rest.2.2)

def receiveAll (h : Host) (s : Socket) : Host × Bytes × List Nat :=
  s.receiveAllWithin 1048576 (pendingReads h s + 1) h

end Socket

end LocalRecords
