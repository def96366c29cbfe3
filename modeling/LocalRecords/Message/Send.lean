import LocalRecords.Message.Remainder
import LocalRecords.Message.Sink
import LocalRecords.Message.Value

/-!
Sending a message as a whole. What a call leaves is offered again, interrupted calls are made
again, and a sink that takes nothing of something is given up. A failure is told apart by whether
any byte of the message was taken before it. For a sink of datagrams the message is first brought
into so few slices that one call can offer them all.
-/

namespace LocalRecords

/-- How sending came out: the sink after it, the calls in order, and the bytes sent or the error. -/
structure Sending (σ : Type) where
  state : σ
  calls : List Exchange
  outcome : Except Failure Nat

namespace Sending

def after {σ : Type} (call : Exchange) (s : Sending σ) : Sending σ :=
  { s with calls := call :: s.calls }

def taken {σ : Type} (s : Sending σ) : Bytes := s.calls.flatMap Exchange.taken

end Sending

/-- The error of a message of which some bytes were sent before `source`. -/
def failedAfter (sent total : Nat) (source : IoError) : Failure :=
  if sent = 0 then .refused .send source else .cutShort sent total source

/-- The parts that have bytes, those past the last slice but one joined into it. -/
def merged (parts : List Bytes) : List Bytes :=
  let parts := parts.filter (!·.isEmpty)
  if parts.length ≤ maxSlices then parts
  else parts.take (maxSlices - 1) ++ [(parts.drop (maxSlices - 1)).flatten]

def Remainder.ofParts {σ : Type} (sink : Sink σ) (parts : List Bytes) : Remainder :=
  .new (if sink.sendsDatagrams then merged parts else parts)

namespace Sink

variable {σ : Type} (sink : Sink σ)

/-- Offers what is pending until nothing is left. Before it `already` bytes of the `total` were
sent, and `sent` since. -/
def sendRest (already total : Nat) (s : σ) (pending : Remainder) (control : Option Bytes)
    (sent : Nat) : Sending σ :=
  if _hd : pending.isDone = true ∧ control = none then ⟨s, [], .ok sent⟩
  else
    let offer : Offer := ⟨pending.slices, control⟩
    match _hs : sink.send s offer with
    | (s', .ok n) =>
      if _hz : n = 0 ∧ pending.isDone = false then
        ⟨s', [⟨offer, .ok n⟩], .error (failedAfter (already + sent) total (.bare .writeZero))⟩
      else
        -- A count beyond what was left is not believed.
        let left := pending.advance n
        .after ⟨offer, .ok n⟩ (sendRest already total s' left.1 none (sent + (n - left.2)))
    | (s', .error e) =>
      if _hi : e.isInterrupted = true then
        .after ⟨offer, .error e⟩ (sendRest already total s' pending control sent)
      else ⟨s', [⟨offer, .error e⟩], .error (failedAfter (already + sent) total e)⟩
termination_by (Remainder.weight pending.rest + control.toList.length, sink.patience s)
decreasing_by
  -- Bytes or the control data are gone, so there is less to offer.
  · left
    simp only [Option.toList_none, List.length_nil, Nat.add_zero]
    rcases hp : pending.isDone with _ | _
    · have hn : 0 < n := by
        rcases Nat.eq_zero_or_pos n with h0 | h0
        · exact absurd ⟨h0, hp⟩ _hz
        · exact h0
      have := Remainder.weight_advance_lt hp hn
      omega
    · have hw := Remainder.weight_consume_le pending.cursor pending.rest n
      cases control with
      | none => exact absurd ⟨hp, rfl⟩ _hd
      | some c =>
        simp only [Option.toList_some, List.length_singleton, Remainder.advance] at *
        omega
  -- Nothing is gone, but the sink can be interrupted once less.
  · right
    have h := sink.patience_lt s ⟨pending.slices, control⟩ e (by rw [_hs]) _hi
    rwa [_hs] at h

def sendPiece (s : σ) (parts : List Bytes) (control : Option Bytes) (already total : Nat) :
    Sending σ :=
  sink.sendRest already total s (.ofParts sink parts) (control.filter (!·.isEmpty)) 0

def sendParts (s : σ) (parts : List Bytes) (control : Option Bytes) : Sending σ :=
  sink.sendPiece s parts control 0 (sumOf List.length parts)

def sendMessage (s : σ) (segments : List Segment) : Sending σ :=
  sink.sendParts s (segments.map Segment.encode) none

/-- Makes one offer, again if interrupted; whatever is taken of it counts. -/
def offerOnce (s : σ) (offer : Offer) : Sending σ :=
  match _hs : sink.send s offer with
  | (s', .ok n) => ⟨s', [⟨offer, .ok n⟩], .ok n⟩
  | (s', .error e) =>
    if _hi : e.isInterrupted = true then .after ⟨offer, .error e⟩ (offerOnce s' offer)
    else ⟨s', [⟨offer, .error e⟩], .error (.refused .send e)⟩
termination_by sink.patience s
decreasing_by
  have h := sink.patience_lt s offer e (by rw [_hs]) _hi
  rwa [_hs] at h

def offerSegments (s : σ) (segments : List Segment) : Sending σ :=
  let pending := Remainder.ofParts sink (segments.map Segment.encode)
  if pending.isDone then ⟨s, [], .ok 0⟩ else sink.offerOnce s ⟨pending.slices, none⟩

def sendValues (s : σ) (values : List Value) : Sending σ :=
  match Value.segments values with
  | .error e => ⟨s, [], .error e⟩
  | .ok segments => sink.sendMessage s segments

end Sink

end LocalRecords
