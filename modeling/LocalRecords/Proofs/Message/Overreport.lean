import Mathlib.Data.List.Infix
import LocalRecords.Proofs.Message.Datagram

namespace LocalRecords

variable {σ : Type}

def Exchange.reported (c : Exchange) : Nat :=
  match c.answer with
  | .ok n => n
  | .error _ => 0

/-- How many bytes of a message calls pass over: they were left, and reported, but not offered. -/
def passedOver : Nat → List Exchange → Nat
  | _, [] => 0
  | left, c :: calls =>
    min c.reported left - c.offer.bytes.length + passedOver (left - c.reported) calls

theorem passedOver_cons_of_reported_eq_zero {c : Exchange} (hc : c.reported = 0) (left : Nat)
    (calls : List Exchange) : passedOver left (c :: calls) = passedOver left calls := by
  rw [passedOver, hc, Nat.zero_min, Nat.zero_sub, Nat.zero_add, Nat.sub_zero]

theorem Exchange.taken_of_reported_eq_zero {c : Exchange} (hc : c.reported = 0) :
    c.taken = [] := by
  rcases c with ⟨offer, e | n⟩
  · rfl
  · have hn : n = 0 := hc
    rw [Exchange.taken, hn]
    rfl

namespace Remainder

/-- Taking bytes off the front makes no more segments of what is left. -/
theorem length_remaining_advance_le (p : Remainder) (n : Nat) :
    (p.advance n).1.remaining.length ≤ p.remaining.length := by
  obtain ⟨cursor, rest⟩ := p
  rw [advance, remaining, remaining]
  dsimp only
  induction rest generalizing cursor n with
  | nil => exact Nat.le_refl 0
  | cons s rest ih =>
    have hrest : (rest.filter (!·.isEmpty)).length ≤ ((s :: rest).filter (!·.isEmpty)).length :=
      ((List.sublist_cons_self s rest).filter _).length_le
    rw [consume]
    split
    · exact Nat.le_trans (ih (n - s.length) (cursor + 1)) hrest
    · next hlt =>
      have hdrop : s.drop n ≠ [] := by
        rw [ne_eq, List.drop_eq_nil_iff]
        exact hlt
      have hs : s ≠ [] := by
        rintro rfl
        exact hlt (Nat.zero_le n)
      rw [filter_cons_of_ne_nil hdrop, filter_cons_of_ne_nil hs, List.length_cons, List.length_cons]

/-- As many segments as one call may have are offered as a whole. -/
theorem slices_of_few {p : Remainder} (hfew : p.remaining.length ≤ maxSlices) :
    p.slices.flatten = p.bytes := by
  rw [slices, List.take_of_length_le hfew, flatten_remaining]

/-- A sink of datagrams, or a message of few parts that have bytes, needs no more slices than one
call may have. -/
theorem length_remaining_ofParts_le {sink : Sink σ} {parts : List Bytes}
    (hfew : sink.sendsDatagrams = true ∨ (parts.filter (!·.isEmpty)).length ≤ maxSlices) :
    (ofParts sink parts).remaining.length ≤ maxSlices := by
  rw [ofParts, new, remaining_overEmpty]
  split
  next hd =>
    have hle : ((merged parts).filter (!·.isEmpty)).length ≤ (merged parts).length :=
      List.length_filter_le _ _
    have hmerged := length_merged_le parts
    omega
  next hd => exact hfew.resolve_left hd

end Remainder

namespace Sending

/-- How a piece of a message came out of which `sent` bytes were sent before, whatever the sink
reports. Before the piece `already` bytes of the `total` were sent. -/
structure Tallies (r : Sending σ) (piece : Bytes) (already total sent : Nat) : Prop where
  taken : r.taken.Sublist piece
  ok : ∀ n, r.outcome = .ok n →
    n = sent + (r.taken.length + passedOver piece.length r.calls) ∧ n = sent + piece.length
  error : ∀ e, r.outcome = .error e → ∃ source,
    e = failedAfter (already + sent + (r.taken.length + passedOver piece.length r.calls)) total
      source

variable {r : Sending σ} {piece : Bytes} {already total sent : Nat}

/-- A call that took nothing and is the last. -/
theorem tallies_of_failed {s : σ} {c : Exchange} (hc : c.reported = 0) (source : IoError) :
    Tallies ⟨s, [c], .error (failedAfter (already + sent) total source)⟩ piece already total
      sent := by
  have htaken : Sending.taken
      ⟨s, [c], .error (failedAfter (already + sent) total source)⟩ = [] := by
    rw [Sending.taken, List.flatMap_singleton, c.taken_of_reported_eq_zero hc]
  refine ⟨?_, ?_, ?_⟩
  · rw [htaken]
    exact List.nil_sublist piece
  · intro n hn
    cases hn
  · intro e he
    cases he
    refine ⟨source, ?_⟩
    rw [htaken, passedOver_cons_of_reported_eq_zero hc]
    rfl

/-- A call that took nothing, in front of a run that tallies. -/
theorem Tallies.after_failed (h : r.Tallies piece already total sent) {c : Exchange}
    (hc : c.reported = 0) : (Sending.after c r).Tallies piece already total sent := by
  have htaken : (Sending.after c r).taken = r.taken := by
    rw [taken_after, c.taken_of_reported_eq_zero hc, List.nil_append]
  have hover : passedOver piece.length (Sending.after c r).calls =
      passedOver piece.length r.calls := passedOver_cons_of_reported_eq_zero hc _ _
  refine ⟨?_, ?_, ?_⟩
  · rw [htaken]
    exact h.taken
  · rw [htaken, hover]
    exact h.ok
  · rw [htaken, hover]
    exact h.error

/-- One call more in front of a run that tallies with what the call left. -/
theorem Tallies.after {p : Remainder} {control : Option Bytes} {n : Nat}
    (h : r.Tallies (p.advance n).1.bytes already total (sent + (n - (p.advance n).2))) :
    (Sending.after ⟨⟨p.slices, control⟩, .ok n⟩ r).Tallies p.bytes already total sent := by
  rw [Remainder.overshoot_advance, Remainder.bytes_advance] at h
  have hoffer : p.slices.flatten <+: p.bytes := p.slices_isPrefix
  have hle : p.slices.flatten.length ≤ p.bytes.length := hoffer.length_le
  have htake : (p.slices.flatten.take n).length = min n p.slices.flatten.length :=
    List.length_take
  have hleft : (p.bytes.drop n).length = p.bytes.length - n := List.length_drop
  have hover : passedOver p.bytes.length (⟨⟨p.slices, control⟩, .ok n⟩ :: r.calls) =
      min n p.bytes.length - p.slices.flatten.length +
        passedOver (p.bytes.length - n) r.calls := rfl
  have htaken : (Sending.after ⟨⟨p.slices, control⟩, .ok n⟩ r).taken =
      p.slices.flatten.take n ++ r.taken := rfl
  have hcalls : (Sending.after ⟨⟨p.slices, control⟩, .ok n⟩ r).calls =
      ⟨⟨p.slices, control⟩, .ok n⟩ :: r.calls := rfl
  -- What is counted of the call is what it took of the offer and what it reported beyond it.
  have hcount : (p.slices.flatten.take n ++ r.taken).length +
        (min n p.bytes.length - p.slices.flatten.length +
          passedOver (p.bytes.length - n) r.calls) =
      n - (n - p.bytes.length) +
        (r.taken.length + passedOver (p.bytes.length - n) r.calls) := by
    rw [List.length_append, htake]
    omega
  have hok := h.ok
  have herror := h.error
  rw [hleft] at hok herror
  refine ⟨?_, ?_, ?_⟩
  · have hfront : (p.slices.flatten.take n).Sublist (p.bytes.take n) := (hoffer.take n).sublist
    have hall := hfront.append h.taken
    rw [List.take_append_drop] at hall
    exact hall
  · intro m hm
    obtain ⟨hsum, hwhole⟩ := hok m hm
    rw [hcalls, hover, htaken, hcount]
    exact ⟨by omega, by omega⟩
  · intro e he
    obtain ⟨source, rfl⟩ := herror e he
    refine ⟨source, ?_⟩
    rw [hcalls, hover, htaken, hcount]
    congr 1
    omega

end Sending

namespace Sink

variable (sink : Sink σ)

/-- Whatever a sink reports, a piece tallies with what the sink took and what its reports passed
over. -/
theorem sendRest_tallies (already total : Nat) (s : σ) (pending : Remainder)
    (control : Option Bytes) (sent : Nat) (hp : pending.Rests) :
    (sink.sendRest already total s pending control sent).Tallies pending.bytes already total
      sent := by
  fun_induction Sink.sendRest with
  | case1 s pending control sent hd =>
    have hb := (Remainder.isDone_iff hp).mp hd.1
    refine ⟨List.nil_sublist _, ?_, ?_⟩
    · intro n hn
      cases hn
      rw [hb]
      exact ⟨rfl, rfl⟩
    · intro e he
      cases he
  | case2 s pending control sent hd offer s' n hcall hz =>
    have hc : (⟨offer, .ok n⟩ : Exchange).reported = 0 := hz.1
    exact Sending.tallies_of_failed hc _
  | case3 s pending control sent hd offer s' n hcall hz left ih =>
    exact (ih (pending.rests_advance n)).after
  | case4 s pending control sent hd offer s' e hcall hi ih =>
    exact (ih hp).after_failed rfl
  | case5 s pending control sent hd offer s' e hcall hi => exact Sending.tallies_of_failed rfl e

/-- Where one call may have all the segments that are left, no byte is passed over. -/
theorem passedOver_sendRest (already total : Nat) (s : σ) (pending : Remainder)
    (control : Option Bytes) (sent : Nat) (hfew : pending.remaining.length ≤ maxSlices) :
    passedOver pending.bytes.length
      (sink.sendRest already total s pending control sent).calls = 0 := by
  fun_induction Sink.sendRest with
  | case1 s pending control sent hd => rfl
  | case2 s pending control sent hd offer s' n hcall hz =>
    have hc : (⟨offer, .ok n⟩ : Exchange).reported = 0 := hz.1
    exact passedOver_cons_of_reported_eq_zero hc _ []
  | case3 s pending control sent hd offer s' n hcall hz left ih =>
    have hmore := ih (Nat.le_trans (pending.length_remaining_advance_le n) hfew)
    have hall : offer.bytes = pending.bytes := Remainder.slices_of_few hfew
    have hnone : min n pending.bytes.length - offer.bytes.length = 0 := by
      rw [hall]
      omega
    rw [Remainder.bytes_advance, List.length_drop] at hmore
    change min n pending.bytes.length - offer.bytes.length + passedOver _ _ = 0
    rw [hnone, Nat.zero_add]
    exact hmore
  | case4 s pending control sent hd offer s' e hcall hi ih =>
    exact (passedOver_cons_of_reported_eq_zero rfl _ _).trans (ih hfew)
  | case5 s pending control sent hd offer s' e hcall hi =>
    exact passedOver_cons_of_reported_eq_zero rfl _ []

/-- A report of all that a message has ends sending it, whatever was offered of it. -/
theorem sendParts_of_report {s s' : σ} {parts : List Bytes} {n : Nat}
    (hne : parts.flatten ≠ [])
    (hcall : sink.send s ⟨(Remainder.ofParts sink parts).slices, none⟩ = (s', .ok n))
    (hn : parts.flatten.length ≤ n) :
    sink.sendParts s parts none =
      ⟨s', [⟨⟨(Remainder.ofParts sink parts).slices, none⟩, .ok n⟩], .ok parts.flatten.length⟩ := by
  have hbytes := Remainder.bytes_ofParts sink parts
  have hlen : 0 < parts.flatten.length := List.length_pos_iff.mpr hne
  have hopen : ¬((Remainder.ofParts sink parts).isDone = true ∧ (none : Option Bytes) = none) := by
    rw [Remainder.isDone_ofParts]
    exact fun h => hne h.1
  have hgoes : ¬(n = 0 ∧ (Remainder.ofParts sink parts).isDone = false) := by
    omega
  have hleft : ((Remainder.ofParts sink parts).advance n).1.isDone = true := by
    rw [Remainder.isDone_iff (Remainder.rests_advance _ n), Remainder.bytes_advance, hbytes]
    exact List.drop_eq_nil_of_le hn
  have hcount : 0 + (n - ((Remainder.ofParts sink parts).advance n).2) = parts.flatten.length := by
    rw [Remainder.overshoot_advance, hbytes]
    omega
  rw [sendParts, sendPiece, Option.filter_none, sendRest_of_ok hopen hcall, if_neg hgoes]
  dsimp only
  rw [sendRest_of_done ⟨hleft, rfl⟩, hcount]
  rfl

/-- The count of bytes that were sent. For a message that one offer has room for it is the count of
those that were taken, and all were taken if the message is reported as sent. In general it counts
besides what was taken just the bytes that reports passed over, and these are missing in what was
taken. -/
theorem sendParts_counts (s : σ) (parts : List Bytes) (control : Option Bytes) :
    let r := sink.sendParts s parts control
    let message := parts.flatten
    (sink.sendsDatagrams = true ∨ (parts.filter (!·.isEmpty)).length ≤ maxSlices →
      (∀ n, r.outcome = .ok n → n = r.taken.length ∧ r.taken = message) ∧
      ∀ n total source, r.outcome = .error (.cutShort n total source) → n = r.taken.length) ∧
    (∀ n, r.outcome = .ok n →
      n = r.taken.length + passedOver message.length r.calls ∧ n = message.length) ∧
    (∀ e, r.outcome = .error e → ∃ source,
      e = failedAfter (r.taken.length + passedOver message.length r.calls) message.length source) ∧
    r.taken.Sublist message := by
  intro r message
  have hr : r.Tallies message 0 message.length 0 := by
    have h := sink.sendRest_tallies 0 (sumOf List.length parts) s (.ofParts sink parts)
      (control.filter (!·.isEmpty)) 0 (Remainder.rests_ofParts sink parts)
    rw [Remainder.bytes_ofParts] at h
    rw [show message.length = sumOf List.length parts from length_flatten_eq_sumOf parts]
    exact h
  obtain ⟨htaken, hok, herror⟩ := hr
  simp only [Nat.zero_add] at hok herror
  refine ⟨fun hfew => ?_, hok, herror, htaken⟩
  have hnone : passedOver message.length r.calls = 0 := by
    have h := sink.passedOver_sendRest 0 (sumOf List.length parts) s (.ofParts sink parts)
      (control.filter (!·.isEmpty)) 0 (Remainder.length_remaining_ofParts_le hfew)
    rw [Remainder.bytes_ofParts] at h
    exact h
  rw [hnone, Nat.add_zero] at hok herror
  constructor
  · intro n hn
    obtain ⟨hcount, hwhole⟩ := hok n hn
    exact ⟨hcount, htaken.eq_of_length (hcount.symm.trans hwhole)⟩
  · intro n total source hn
    obtain ⟨cause, he⟩ := herror _ hn
    rw [failedAfter] at he
    split at he
    · cases he
    · cases he
      rfl

/-- One byte more than was offered is reported, and it is that of a part that was not offered. -/
theorem sendParts_counts_unoffered :
    let parts : List Bytes := List.replicate 1025 [7]
    let r := (Script.sink false).sendParts [.exceed 1] parts none
    r.outcome = .ok 1025 ∧ r.taken.length = 1024 ∧ r.taken ≠ parts.flatten := by
  intro parts r
  have hmessage : parts.flatten = List.replicate 1025 7 := List.flatten_replicate_singleton
  have hslices : (Remainder.ofParts (Script.sink false) parts).slices =
      List.replicate 1024 [7] := by
    have hfull : parts.filter (!·.isEmpty) = parts := List.filter_replicate_of_pos rfl
    have hparts : Remainder.ofParts (Script.sink false) parts = .new parts := rfl
    rw [hparts, Remainder.slices, Remainder.new, Remainder.remaining_overEmpty, hfull,
      List.take_replicate]
    rfl
  have hoffered : (List.replicate 1024 ([7] : Bytes)).flatten = List.replicate 1024 7 :=
    List.flatten_replicate_singleton
  have hcall : (Script.sink false).send [.exceed 1]
      ⟨(Remainder.ofParts (Script.sink false) parts).slices, none⟩ = ([], .ok 1025) := by
    rw [hslices]
    change (([] : List Script.Reply), Except.ok _) = _
    rw [Offer.bytes, hoffered, List.length_replicate]
  have hne : parts.flatten ≠ [] := by
    rw [hmessage]
    exact List.cons_ne_nil _ _
  have hall : parts.flatten.length ≤ 1025 := by
    rw [hmessage, List.length_replicate]
  have hr : r = _ := sendParts_of_report (Script.sink false) hne hcall hall
  have htaken : r.taken = List.replicate 1024 7 := by
    rw [hr, Sending.taken, List.flatMap_singleton, Exchange.taken]
    dsimp only
    rw [Offer.bytes, hslices, hoffered, List.take_replicate]
    rfl
  refine ⟨?_, ?_, ?_⟩
  · rw [hr, hmessage, List.length_replicate]
  · rw [htaken, List.length_replicate]
  · intro heq
    have hlen := congrArg List.length heq
    rw [htaken, hmessage, List.length_replicate, List.length_replicate] at hlen
    exact absurd hlen (by decide)

end Sink

end LocalRecords
