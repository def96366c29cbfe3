import LocalRecords.Message.Segment
import LocalRecords.Record.Header

namespace LocalRecords

structure Record where
  type : RecordType
  /-- The announced length of the payload, wherever its bytes travel. -/
  payloadLen : UInt64
  payload : Bytes
  metadata : Bytes
  deriving DecidableEq, Repr

namespace Record

/-- A record whose payload travels in it. A type without payload announces the length only. -/
def inline (type : RecordType) (payload metadata : Bytes) : Record where
  type := type
  payloadLen := UInt64.ofNat payload.length
  payload := if type.hasPayload then payload else []
  metadata := metadata

/-- A journal record whose bytes are read from a descriptor that is passed along. -/
def behindDescriptor (payloadLen : UInt64) (metadata : Bytes) : Record where
  type := .passedJournal
  payloadLen := payloadLen
  payload := []
  metadata := metadata

def header (r : Record) : Header where
  type := r.type
  payloadLen := r.payloadLen
  metadataLen := UInt64.ofNat r.metadata.length

def segments (r : Record) : List Segment :=
  let fixed := [.short formatVersion, .short r.type.code, .long r.payloadLen,
    .long (UInt64.ofNat r.metadata.length)]
  let payload := if r.type.hasPayload then [.bytes r.payload, .bytes delimiter] else []
  fixed ++ payload ++ [.bytes r.metadata, .bytes delimiter]

def size (r : Record) : Nat := sumOf Segment.size r.segments

def encode (r : Record) : Bytes := Segment.joined r.segments

end Record

structure WireRecord where
  header : Header
  payload : Bytes
  metadata : Bytes
  deriving DecidableEq, Repr

end LocalRecords
