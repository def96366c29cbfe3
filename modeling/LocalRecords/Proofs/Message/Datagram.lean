import LocalRecords.Proofs.Message.Interruption
import LocalRecords.Proofs.Message.Whole

namespace LocalRecords

variable {σ : Type}

theorem length_merged_le (parts : List Bytes) : (merged parts).length ≤ maxSlices := by
  rw [merged]
  split
  · assumption
  · rw [List.length_append, List.length_take, List.length_singleton]
    have : maxSlices = 1024 := rfl
    omega

theorem ne_nil_of_mem_merged {parts : List Bytes} {p : Bytes} (hp : p ∈ merged parts) :
    p ≠ [] := by
  have hfilter : ∀ q ∈ parts.filter (!·.isEmpty), q ≠ [] := by
    intro q hq
    simpa using (List.mem_filter.mp hq).2
  rw [merged] at hp
  generalize parts.filter (!·.isEmpty) = full at hfilter hp
  split at hp
  · exact hfilter p hp
  next hlong =>
    rcases List.mem_append.mp hp with hp | hp
    · exact hfilter p (List.mem_of_mem_take hp)
    · rw [List.mem_singleton.mp hp]
      intro hnil
      have hdrop : full.drop (maxSlices - 1) ≠ [] := by
        intro hd
        rw [List.drop_eq_nil_iff] at hd
        omega
      obtain ⟨q, more, hq⟩ := List.exists_cons_of_ne_nil hdrop
      have hmem : q ∈ full := List.mem_of_mem_drop (hq ▸ List.mem_cons_self)
      rw [hq, List.flatten_cons, List.append_eq_nil_iff] at hnil
      exact hfilter q hmem hnil.1

theorem Remainder.overEmpty_of_ne_nil {segments : List Bytes} (h : ∀ s ∈ segments, s ≠ [])
    (cursor : Nat) : overEmpty cursor segments = ⟨cursor, segments⟩ := by
  cases segments with
  | nil => rfl
  | cons s rest =>
    cases s with
    | nil => exact absurd rfl (h [] List.mem_cons_self)
    | cons b bs => rfl

/-- All of a message is offered at once to a sink of datagrams. -/
theorem Remainder.slices_ofParts {sink : Sink σ} (hd : sink.sendsDatagrams = true)
    (parts : List Bytes) : (ofParts sink parts).slices = merged parts := by
  have hne : ∀ s ∈ merged parts, s ≠ [] := fun s hs => ne_nil_of_mem_merged hs
  have hfull : (merged parts).filter (!·.isEmpty) = merged parts := by
    rw [List.filter_eq_self]
    intro s hs
    simpa using hne s hs
  rw [ofParts, if_pos hd, new, overEmpty_of_ne_nil hne, slices, remaining, hfull]
  exact List.take_of_length_le (length_merged_le parts)

def Exchange.AllOrNone (c : Exchange) : Prop := ∀ n, c.answer = .ok n → n = c.offer.bytes.length

def Exchange.TakesAll (c : Exchange) : Prop := c.answer = .ok c.offer.bytes.length

theorem Exchange.TakesAll.allOrNone {c : Exchange} (h : c.TakesAll) : c.AllOrNone := by
  intro n hn
  rw [h] at hn
  cases hn
  rfl

theorem Exchange.TakesAll.not_isInterrupted {c : Exchange} (h : c.TakesAll) :
    c.isInterrupted = false := by
  rw [isInterrupted, h]

namespace Sink

variable {sink : Sink σ}

/-- A sink that takes all or nothing answers for the whole of what is left: its first answer that is
no interruption is the result. -/
theorem sendRest_of_allOrNone (already total : Nat) {s : σ} (h : sink.Always s Exchange.AllOrNone)
    {pending : Remainder} {control : Option Bytes} (sent : Nat)
    (hd : ¬(pending.isDone = true ∧ control = none)) (hp : pending.Rests)
    (hall : pending.slices.flatten = pending.bytes) :
    ∃ c, settled (sink.sendRest already total s pending control sent).calls = [c] ∧
      c.offer = ⟨pending.slices, control⟩ ∧
      (sink.sendRest already total s pending control sent).outcome =
        match c.answer with
        | .ok _ => .ok (sent + pending.bytes.length)
        | .error e => .error (failedAfter (already + sent) total e) := by
  -- Along the calls: one that is answered with a count leaves nothing to be sent.
  fun_induction Sink.sendRest with
  | case1 s pending control sent hd' => exact absurd hd' hd
  | case2 s pending control sent hd' offer s' n hcall hz =>
    have hn : n = pending.bytes.length := by
      rw [← hall]
      exact (h.next hcall).2 n rfl
    have hnil : pending.bytes = [] := List.length_eq_zero_iff.mp (hn.symm.trans hz.1)
    have hdone := (Remainder.isDone_iff hp).mpr hnil
    rw [hdone] at hz
    cases hz.2
  | case3 s pending control sent hd' offer s' n hcall hz left ih =>
    have hn : n = pending.bytes.length := by
      rw [← hall]
      exact (h.next hcall).2 n rfl
    have hleft : left.1.isDone = true := by
      rw [Remainder.isDone_iff (pending.rests_advance n), Remainder.bytes_advance, hn,
        List.drop_length]
    have hnone : left.2 = 0 := by
      rw [Remainder.overshoot_advance, hn, Nat.sub_self]
    rw [sendRest_of_done ⟨hleft, rfl⟩]
    refine ⟨⟨offer, .ok n⟩, rfl, rfl, ?_⟩
    simp only [Sending.outcome_after, hnone, Nat.sub_zero, hn]
  | case4 s pending control sent hd' offer s' e hcall hi ih =>
    have hc : (⟨offer, .error e⟩ : Exchange).isInterrupted = true := hi
    obtain ⟨c, hcalls, hrest⟩ := ih (h.next hcall).1 hd hp hall
    exact ⟨c, (settled_cons_of_isInterrupted hc _).trans hcalls, hrest⟩
  | case5 s pending control sent hd' offer s' e hcall hi =>
    have hc := Exchange.isInterrupted_of_not offer hi
    exact ⟨⟨offer, .error e⟩, settled_cons_of_not hc [], rfl, rfl⟩

/-- A piece that has bytes is one datagram. -/
theorem sendPiece_of_takesAll (hd : sink.sendsDatagrams = true) {s : σ}
    (h : sink.Always s Exchange.TakesAll) {parts : List Bytes} {piece : Bytes}
    (hparts : parts.flatten = piece) (hne : piece ≠ []) (already total : Nat) :
    let r := sink.sendPiece s parts none already total
    r.calls.map (·.offer.bytes) = [piece] ∧ r.outcome = .ok piece.length ∧
      sink.Always r.state Exchange.TakesAll := by
  intro r
  have hp := Remainder.rests_ofParts sink parts
  have hbytes : (Remainder.ofParts sink parts).bytes = piece := by
    rw [Remainder.bytes_ofParts, hparts]
  have hslices : (Remainder.ofParts sink parts).slices.flatten = piece := by
    rw [Remainder.slices_ofParts hd, flatten_merged, hparts]
  have hopen : ¬((Remainder.ofParts sink parts).isDone = true ∧ (none : Option Bytes) = none) := by
    rw [Remainder.isDone_ofParts, hparts]
    exact fun hdone => hne hdone.1
  obtain ⟨c, hcalls, hoffer, houtcome⟩ := sendRest_of_allOrNone already total
    (h.mono fun _ => Exchange.TakesAll.allOrNone) 0 hopen hp (hslices.trans hbytes.symm)
  obtain ⟨hstate, hall⟩ := h.sendPiece parts none already total
  have hsettled : settled r.calls = r.calls := by
    rw [settled, List.filter_eq_self]
    intro c hc
    rw [(hall c hc).not_isInterrupted]
    rfl
  have hone : r.calls = [c] := hsettled.symm.trans hcalls
  have hmem : c ∈ r.calls := hone ▸ List.mem_singleton_self c
  have hanswer : c.answer = .ok c.offer.bytes.length := hall c hmem
  have hpiece : c.offer.bytes = piece := by rw [hoffer, Offer.bytes, hslices]
  rw [hanswer, hbytes, Nat.zero_add] at houtcome
  exact ⟨by rw [hone, List.map_singleton, hpiece], houtcome, hstate⟩

end Sink

namespace Message

variable {sink : Sink σ}

end Message

end LocalRecords
