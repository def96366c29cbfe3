import LocalRecords.Record.Decoder

namespace LocalRecords

structure Delivery (δ : Type) where
  record : WireRecord
  journal : Option δ
  deriving DecidableEq, Repr

structure Connection (δ : Type) where
  decoder : Decoder
  /-- The descriptors received and not yet handed on, oldest first. -/
  queue : List δ := []
  records : Nat := 0

/-- What came of a read: the records handed on, the connection after them, and the error that it
ends with, if it does. -/
structure Handover (δ : Type) where
  deliveries : List (Delivery δ)
  connection : Connection δ
  error : Option Failure

namespace Connection

variable {δ : Type}

def new (limits : Limits) : Connection δ where
  decoder := .new limits

/-- The descriptor that a record of some type is handed on with, and those that stay. -/
def claim (type : RecordType) (queue : List δ) : Option δ × List δ :=
  if type = .passedJournal then (queue.head?, queue.tail) else (none, queue)

def handOn (c : Connection δ) : Handover δ :=
  match _h : c.decoder.decode with
  | .error e => ⟨[], c, some e⟩
  | .ok none => ⟨[], c, none⟩
  | .ok (some (record, decoder)) =>
    let claimed := claim record.header.type c.queue
    let rest := handOn ⟨decoder, claimed.2, c.records + 1⟩
    { rest with deliveries := ⟨record, claimed.1⟩ :: rest.deliveries }
termination_by c.decoder.available
decreasing_by exact Decoder.available_lt_of_decode _h

def receive (c : Connection δ) (bytes : Bytes) (descriptors : List δ) : Handover δ :=
  handOn { c with decoder := c.decoder.push bytes, queue := c.queue ++ descriptors }

def ofDatagram (limits : Limits) (bytes : Bytes) (descriptors : List δ) : Handover δ :=
  receive (new limits) bytes descriptors

end Connection

end LocalRecords
