import LocalRecords.Message.Send
import LocalRecords.Record.Basic
import LocalRecords.Socket.Control

/-!
Sending a record that is there as a whole, with or without descriptors that pass along, or one whose
payload is read while it is sent. Then the header announces the length before a byte is read, so a
source that ends early or fails leaves a part of a record behind it.
-/

namespace LocalRecords

namespace Sink

variable {σ : Type} (sink : Sink σ)

def emitWith (s : σ) (record : Record) (descriptors : List DescriptorNumber) : Sending σ :=
  sink.sendParts s (record.segments.map Segment.encode) (some (Control.encode descriptors))

def emit (s : σ) (record : Record) : Sending σ := sink.emitWith s record []

end Sink

def chunkLen : Nat := 102400

/-- How streaming came out: sink and source after it, the calls on the sink, what the source was
asked for, and the result. -/
structure Streaming (σ ρ α : Type) where
  state : σ
  source : ρ
  calls : List Exchange
  asked : List Nat
  outcome : Except Failure α

structure Progress where
  sent : Nat
  streamed : Nat
  deriving DecidableEq, Repr

namespace Streaming

variable {σ ρ : Type} (sink : Sink σ) (source : Source ρ)

def payload (total : Nat) (s : σ) (r : ρ) (limit : Nat) (done : Progress) :
    Streaming σ ρ Progress :=
  if _hl : limit = 0 then ⟨s, r, [], [], .ok done⟩
  else
    let ask := min limit chunkLen
    match _hr : source.read r ask with
    | (r', .ok bytes) =>
      if _hb : bytes.length = 0 then ⟨s, r', [], [ask], .ok done⟩
      else
        let piece := sink.sendPiece s [bytes] none done.sent total
        match piece.outcome with
        | .error e => ⟨piece.state, r', piece.calls, [ask], .error e⟩
        | .ok n =>
          let more := payload total piece.state r' (limit - bytes.length)
            ⟨done.sent + n, done.streamed + bytes.length⟩
          { more with calls := piece.calls ++ more.calls, asked := ask :: more.asked }
    | (r', .error e) =>
      if _hi : e.isInterrupted = true then
        let more := payload total s r' limit done
        { more with asked := ask :: more.asked }
      else ⟨s, r', [], [ask], .error (failedAfter done.sent total e)⟩
termination_by (limit, source.patience r)
decreasing_by
  -- Less of the payload is to be read, or the source can be interrupted once less.
  · left; omega
  · right
    have h := source.patience_lt r (min limit chunkLen) e (by rw [_hr]) _hi
    rwa [_hr] at h

def recordLen (payloadLen metadataLen : Nat) : Nat :=
  min (payloadLen + (Header.size + 2 * delimiter.length + metadataLen)) maxU64

def endedEarly (streamed payloadLen : Nat) : IoError :=
  .described .unexpectedEof s!"payload ended after {streamed} of {payloadLen} bytes"

end Streaming

def Sink.emitFrom {σ ρ : Type} (sink : Sink σ) (source : Source ρ) (s : σ) (r : ρ)
    (type : RecordType) (payloadLen : UInt64) (metadata : Bytes) : Streaming σ ρ Nat :=
  if type.hasPayload = false then ⟨s, r, [], [], .error (.unsupported .inlineJournal)⟩
  else
    let header : Header :=
      { type := type, payloadLen := payloadLen, metadataLen := UInt64.ofNat metadata.length }
    let total := Streaming.recordLen payloadLen.toNat metadata.length
    let head := sink.sendPiece s [header.encode] none 0 total
    match head.outcome with
    | .error e => ⟨head.state, r, head.calls, [], .error e⟩
    | .ok n =>
      let mid := Streaming.payload sink source total head.state r payloadLen.toNat ⟨n, 0⟩
      let calls := head.calls ++ mid.calls
      match mid.outcome with
      | .error e => ⟨mid.state, mid.source, calls, mid.asked, .error e⟩
      | .ok done =>
        -- The header has announced more: what was sent is no record, and nothing ends it.
        if done.streamed ≠ payloadLen.toNat then
          let e := Streaming.endedEarly done.streamed payloadLen.toNat
          ⟨mid.state, mid.source, calls, mid.asked, .error (failedAfter done.sent total e)⟩
        else
          let tail := sink.sendPiece mid.state [delimiter, metadata, delimiter] none done.sent total
          ⟨tail.state, mid.source, calls ++ tail.calls, mid.asked,
            tail.outcome.map (done.sent + ·)⟩

end LocalRecords
