import LocalRecords.Record.RecordType
import LocalRecords.Word

namespace LocalRecords

def formatVersion : UInt16 := 1

/-- The mark after the payload and after the metadata: the letters BREAK. -/
def delimiter : Bytes := [0x42, 0x52, 0x45, 0x41, 0x4B]

def maxU64 : Nat := Word.count 8 - 1

def satAdd (a b : Nat) : Nat := min (a + b) maxU64

structure Header where
  version : UInt16 := formatVersion
  type : RecordType
  payloadLen : UInt64
  metadataLen : UInt64
  deriving DecidableEq, Repr

namespace Header

def size : Nat := 20

def encode (h : Header) : Bytes :=
  Word.toBytes 2 h.version.toNat ++ Word.toBytes 2 h.type.code.toNat ++
    Word.toBytes 8 h.payloadLen.toNat ++ Word.toBytes 8 h.metadataLen.toNat

/-- Reads a header: a foreign version is refused before the type is looked at. -/
def decode (bs : Bytes) : Except Failure Header :=
  let version := UInt16.ofNat (Word.ofBytes (bs.take 2))
  if version ≠ formatVersion then .error (.malformed (.version version))
  else
    match RecordType.ofCode (UInt16.ofNat (Word.ofBytes ((bs.drop 2).take 2))) with
    | .error e => .error e
    | .ok type =>
      .ok { version := version
            type := type
            payloadLen := UInt64.ofNat (Word.ofBytes ((bs.drop 4).take 8))
            metadataLen := UInt64.ofNat (Word.ofBytes ((bs.drop 12).take 8)) }

/-- How many bytes follow the header, delimiters included; at most the largest 64-bit number. -/
def following (h : Header) : Nat :=
  let payload := if h.type.hasPayload then satAdd h.payloadLen.toNat delimiter.length else 0
  satAdd (satAdd payload h.metadataLen.toNat) delimiter.length

end Header

end LocalRecords
