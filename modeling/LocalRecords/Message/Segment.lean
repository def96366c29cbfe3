import LocalRecords.Failure

namespace LocalRecords

inductive Segment
  | short (value : UInt16)
  | int (value : UInt32)
  | long (value : UInt64)
  | bytes (value : Bytes)
  | text (value : String)
  deriving DecidableEq, Repr

namespace Segment

def encode : Segment → Bytes
  | short v => Word.toBytes 2 v.toNat
  | int v => Word.toBytes 4 v.toNat
  | long v => Word.toBytes 8 v.toNat
  | bytes v => v
  | text v => Utf8.encode v

def size : Segment → Nat
  | short _ => 2
  | int _ => 4
  | long _ => 8
  | bytes v => v.length
  | text v => v.utf8ByteSize

def joined (segments : List Segment) : Bytes := (segments.map encode).flatten

end Segment

end LocalRecords
