import LocalRecords.Message.Segment

namespace LocalRecords

/-- A value of which only its carrier knows the type. -/
inductive Value
  | word16 (value : UInt16)
  | int16 (value : Int16)
  | word32 (value : UInt32)
  | int32 (value : Int32)
  | word64 (value : UInt64)
  | int64 (value : Int64)
  | byteString (value : Bytes)
  | byteBlock (value : Bytes)
  | constantBytes (value : Bytes)
  | text (value : String)
  | constantText (value : String)
  | other (typeName : String)
  deriving DecidableEq, Repr

namespace Value

def segment? : Value → Option Segment
  | word16 v => some (.short v)
  | int16 v => some (.short v.toUInt16)
  | word32 v => some (.int v)
  | int32 v => some (.int v.toUInt32)
  | word64 v => some (.long v)
  | int64 v => some (.long v.toUInt64)
  | byteString v => some (.bytes v)
  | byteBlock v => some (.bytes v)
  | constantBytes v => some (.bytes v)
  | text v => some (.text v)
  | constantText v => some (.text v)
  | other _ => none

def segmentsFrom (index : Nat) : List Value → Except Failure (List Segment)
  | [] => .ok []
  | v :: rest =>
    match v.segment? with
    | none => .error (.noSegment index)
    | some s => (segmentsFrom (index + 1) rest).map (s :: ·)

def segments (values : List Value) : Except Failure (List Segment) :=
  segmentsFrom 0 values

end Value

end LocalRecords
