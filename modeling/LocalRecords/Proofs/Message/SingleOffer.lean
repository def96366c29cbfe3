import LocalRecords.Proofs.Message.Overreport

namespace LocalRecords

variable {σ : Type}

/-- All of the non-empty parts, or as many as one call may have, are offered first to a sink of
bytes. -/
theorem Remainder.slices_ofParts_of_stream {sink : Sink σ} (hd : sink.sendsDatagrams = false)
    (parts : List Bytes) :
    (ofParts sink parts).slices = (parts.filter (!·.isEmpty)).take maxSlices := by
  have hparts : ofParts sink parts = .new parts := by
    rw [ofParts, hd]
    rfl
  rw [hparts, slices, new, remaining_overEmpty]

/-- An offer that was made until a call was not interrupted: those in front of it were, and it is
the result. -/
structure Sending.MakesOnce (r : Sending σ) (sink : Sink σ) (offer : Offer)
    (interrupted : List Exchange) (last : Exchange) : Prop where
  calls : r.calls = interrupted ++ [last]
  before : ∀ c ∈ interrupted, c.isInterrupted = true
  settled : last.isInterrupted = false
  offers : ∀ c ∈ r.calls, c.offer = offer
  answered : ∃ t, (sink.send t offer).2 = last.answer
  outcome : r.outcome = match last.answer with
    | .ok n => .ok n
    | .error e => .error (.refused .send e)

namespace Sending.MakesOnce

variable {r : Sending σ} {sink : Sink σ} {offer : Offer} {interrupted : List Exchange}
  {last : Exchange}

/-- A call that was interrupted, in front of others. -/
theorem after (h : r.MakesOnce sink offer interrupted last) {c : Exchange}
    (hc : c.isInterrupted = true) (ho : c.offer = offer) :
    (Sending.after c r).MakesOnce sink offer (c :: interrupted) last where
  calls := by
    rw [Sending.after, h.calls]
    rfl
  before := List.forall_mem_cons.mpr ⟨hc, h.before⟩
  settled := h.settled
  offers := List.forall_mem_cons.mpr ⟨ho, h.offers⟩
  answered := h.answered
  outcome := h.outcome

/-- Of the calls for one offer the last alone is not interrupted. -/
theorem settled_calls (h : r.MakesOnce sink offer interrupted last) :
    LocalRecords.settled r.calls = [last] := by
  have hnone : LocalRecords.settled interrupted = [] := by
    rw [LocalRecords.settled, List.filter_eq_nil_iff]
    intro c hc
    simp [h.before c hc]
  rw [h.calls, settled_append, hnone, settled_cons_of_not h.settled]
  rfl

theorem taken_eq (h : r.MakesOnce sink offer interrupted last) : r.taken = last.taken := by
  rw [Sending.taken, ← taken_settled, h.settled_calls, List.flatMap_singleton]

theorem last_offer (h : r.MakesOnce sink offer interrupted last) : last.offer = offer :=
  h.offers last (by simp [h.calls])

/-- On a sink whose answers are to be believed a count says how much of the offer was taken. -/
theorem taken_of_ok (h : r.MakesOnce sink offer interrupted last) (hs : sink.Honest) {n : Nat}
    (hn : r.outcome = .ok n) : n ≤ offer.bytes.length ∧ r.taken = offer.bytes.take n := by
  have hanswer : last.answer = .ok n := by
    have ho := h.outcome
    rw [hn] at ho
    split at ho
    next m ha =>
      cases ho
      exact ha
    next e ha => cases ho
  obtain ⟨t, ht⟩ := h.answered
  refine ⟨hs t offer n (ht.trans hanswer), ?_⟩
  rw [h.taken_eq, Exchange.taken, hanswer, h.last_offer]

end Sending.MakesOnce

namespace Sink

variable (sink : Sink σ)

/-- An offer is made until a call is not interrupted, and no longer. -/
theorem offerOnce_makesOnce (s : σ) (offer : Offer) :
    ∃ interrupted last, (sink.offerOnce s offer).MakesOnce sink offer interrupted last := by
  -- Along the calls: the first that is not interrupted is the last.
  fun_induction Sink.offerOnce with
  | case1 s s' n hcall =>
    refine ⟨[], ⟨offer, .ok n⟩, rfl, by simp, rfl, by simp, ⟨s, ?_⟩, rfl⟩
    rw [hcall]
  | case2 s s' e hcall hi ih =>
    obtain ⟨interrupted, last, h⟩ := ih
    exact ⟨⟨offer, .error e⟩ :: interrupted, last, h.after hi rfl⟩
  | case3 s s' e hcall hi =>
    have hc := Exchange.isInterrupted_of_not offer hi
    refine ⟨[], ⟨offer, .error e⟩, rfl, by simp, hc, by simp, ⟨s, ?_⟩, rfl⟩
    rw [hcall]

/-- Segments are offered once. Without bytes no call is made. Otherwise every call makes the same
offer without control data, which is the first one of the whole message; all but the last are
interrupted, and the last is the result. A sink of bytes is offered the first segments that have
any, as many as one call may have, and a sink of datagrams is offered all. Of a sink whose answers
are to be believed the count is that of the bytes it took from the front. -/
theorem offerSegments_once (s : σ) (segments : List Segment) :
    let r := sink.offerSegments s segments
    let parts := segments.map Segment.encode
    let message := Segment.joined segments
    (r.calls = [] ↔ message = []) ∧ (message = [] → r.outcome = .ok 0) ∧
      (message ≠ [] → ∃ offer interrupted last,
        r.calls = interrupted ++ [last] ∧ (∀ c ∈ interrupted, c.isInterrupted = true) ∧
          last.isInterrupted = false ∧ (∀ c ∈ r.calls, c.offer = offer) ∧
          (r.outcome = match last.answer with
            | .ok n => .ok n
            | .error e => .error (.refused .send e)) ∧
          offer.control = none ∧ offer.slices.length ≤ maxSlices ∧
          (sink.sendsDatagrams = false →
            offer.slices = (parts.filter (!·.isEmpty)).take maxSlices ∧
              offer.slices.flatten <+: message) ∧
          (sink.sendsDatagrams = true → offer.slices.flatten = message) ∧
          ∃ first ∈ (sink.sendMessage s segments).calls.head?, first.offer = offer) ∧
      (sink.Honest → ∀ n, r.outcome = .ok n → n ≤ message.length ∧ r.taken = message.take n) := by
  intro r parts message
  have hbytes : (Remainder.ofParts sink parts).bytes = message := Remainder.bytes_ofParts sink parts
  have hdone : (Remainder.ofParts sink parts).isDone = true ↔ message = [] :=
    Remainder.isDone_ofParts sink parts
  by_cases hnil : message = []
  · have hr : r = ⟨s, [], .ok 0⟩ := if_pos (hdone.mpr hnil)
    rw [hr]
    refine ⟨iff_of_true rfl hnil, fun _ => rfl, fun hne => absurd hnil hne, ?_⟩
    intro _ n hn
    cases hn
    exact ⟨Nat.zero_le _, rfl⟩
  let offer : Offer := ⟨(Remainder.ofParts sink parts).slices, none⟩
  have hr : r = sink.offerOnce s offer := if_neg fun hd => hnil (hdone.mp hd)
  obtain ⟨interrupted, last, h⟩ := sink.offerOnce_makesOnce s offer
  rw [← hr] at h
  have hfront : offer.bytes <+: message := by
    rw [← hbytes]
    exact Remainder.slices_isPrefix _
  have hopen : ¬((Remainder.ofParts sink parts).isDone = true ∧ (none : Option Bytes) = none) :=
    fun hd => hnil (hdone.mp hd.1)
  have hcalls : r.calls ≠ [] := by
    rw [h.calls]
    simp
  refine ⟨iff_of_false hcalls hnil, fun hm => absurd hm hnil, fun _ => ?_, ?_⟩
  · refine ⟨offer, interrupted, last, h.calls, h.before, h.settled, h.offers, h.outcome, rfl,
      List.length_take_le _ _, ?_, ?_, head_sendRest hopen 0⟩
    · intro hd
      exact ⟨Remainder.slices_ofParts_of_stream hd parts, hfront⟩
    · intro hd
      calc (Remainder.ofParts sink parts).slices.flatten
          = (merged parts).flatten := by rw [Remainder.slices_ofParts hd]
        _ = message := flatten_merged parts
  · intro hs n hn
    obtain ⟨hle, htaken⟩ := h.taken_of_ok hs hn
    obtain ⟨more, hmore⟩ := hfront
    refine ⟨?_, ?_⟩
    · rw [← hmore, List.length_append]
      omega
    · rw [htaken, ← hmore, List.take_append_of_le_length hle]

/-- A sink of bytes is interrupted and takes three of four bytes. To a sink of datagrams more
segments than one call may have are offered as a whole. -/
theorem offerSegments_once_short :
    let sink := (Script.sink false).capped
    let segments : List Segment := [.bytes [], .short 7, .bytes [1, 2]]
    let r := sink.offerSegments [.fail (.os 4), .accept 3] segments
    let many : List Segment := List.replicate 1100 (.bytes [7])
    let whole := (Script.sink true).offerSegments [.fail (.os 32)] many
    (sink.Honest ∧ r.outcome = .ok 3 ∧ r.taken = [7, 0, 1]) ∧
      ∃ offer interrupted last, whole.calls = interrupted ++ [last] ∧ last.offer = offer ∧
        offer.slices.length ≤ 1024 ∧ offer.slices.flatten = List.replicate 1100 7 := by
  intro sink segments r many whole
  have hs : sink.Honest := (Script.sink false).honest_capped
  have hr : (sink.offerSegments [.fail (.os 4), .accept 3] segments).outcome = .ok 3 := by cbv
  obtain ⟨-, -, -, htaken⟩ := sink.offerSegments_once [.fail (.os 4), .accept 3] segments
  have hmany : Segment.joined many = List.replicate 1100 7 := by
    rw [Segment.joined, List.map_replicate]
    exact List.flatten_replicate_singleton
  have hne : Segment.joined many ≠ [] := by
    rw [hmany]
    exact List.cons_ne_nil _ _
  obtain ⟨-, -, hwhole, -⟩ := (Script.sink true).offerSegments_once [.fail (.os 32)] many
  obtain ⟨offer, interrupted, last, hcalls, -, -, hoffers, -, -, hfew, -, hall, -⟩ := hwhole hne
  refine ⟨⟨hs, hr, (htaken hs 3 hr).2⟩, offer, interrupted, last, hcalls, ?_, hfew, ?_⟩
  · exact hoffers last (by simp [hcalls])
  · rw [hall rfl, hmany]

end Sink

end LocalRecords
