import Mathlib.Data.List.Permutation
import LocalRecords.Message.Script
import LocalRecords.Proofs.Message.Remainder

namespace LocalRecords

variable {σ : Type}

/-- A sink whose answers are to be believed: it never reports more than it was offered, so that a
call takes what `Exchange.taken` says. -/
def Sink.Honest (sink : Sink σ) : Prop :=
  ∀ s o n, (sink.send s o).2 = .ok n → n ≤ o.bytes.length

def Sink.capped (sink : Sink σ) : Sink σ where
  sendsDatagrams := sink.sendsDatagrams
  send s o :=
    match sink.send s o with
    | (s', .ok n) => (s', .ok (min n o.bytes.length))
    | (s', .error e) => (s', .error e)
  patience := sink.patience
  patience_lt := by
    intro s o e h hi
    rcases hr : sink.send s o with ⟨s', e' | n⟩
    · rw [hr] at h
      cases h
      have hlt := sink.patience_lt s o e (by rw [hr]) hi
      rwa [hr] at hlt
    · rw [hr] at h
      cases h

theorem Sink.honest_capped (sink : Sink σ) : sink.capped.Honest := by
  intro s o n h
  rcases hr : sink.send s o with ⟨s', e | m⟩
  · simp only [Sink.capped, hr] at h
    cases h
  · simp only [Sink.capped, hr] at h
    cases h
    exact Nat.min_le_right m o.bytes.length

/-- The error that a call ends its message with: its own unless the call may be made again, or
that nothing was taken of something. -/
def Exchange.failure? (c : Exchange) : Option IoError :=
  match c.answer with
  | .ok n => if n = 0 ∧ c.offer.bytes ≠ [] then some (.bare .writeZero) else none
  | .error e => if e.isInterrupted then none else some e

namespace Sending

/-- The last call failed with `source`, and none before it failed. -/
def EndedBy (r : Sending σ) (source : IoError) : Prop :=
  ∃ before last, r.calls = before ++ [last] ∧ (∀ c ∈ before, c.failure? = none) ∧
    last.failure? = some source

theorem endedBy_single {r : Sending σ} {c : Exchange} {source : IoError} (hr : r.calls = [c])
    (hc : c.failure? = some source) : r.EndedBy source :=
  ⟨[], c, hr, by simp, hc⟩

theorem EndedBy.after {r : Sending σ} {source : IoError} {c : Exchange} (h : r.EndedBy source)
    (hc : c.failure? = none) : (Sending.after c r).EndedBy source := by
  obtain ⟨before, last, hr, hb, hl⟩ := h
  refine ⟨c :: before, last, by simp [Sending.after, hr], ?_, hl⟩
  intro d hd
  rcases List.mem_cons.mp hd with rfl | hd
  · exact hc
  · exact hb d hd

@[simp] theorem taken_after (c : Exchange) (r : Sending σ) :
    (Sending.after c r).taken = c.taken ++ r.taken := rfl

@[simp] theorem outcome_after (c : Exchange) (r : Sending σ) :
    (Sending.after c r).outcome = r.outcome := rfl

/-- How sending a piece of a message came out. Of the message `already` bytes were sent before the
piece; of the piece `sent` bytes had been sent and the bytes `piece` were still to be offered. -/
inductive Carries (r : Sending σ) (piece : Bytes) (control : Option Bytes)
    (already total sent : Nat) : Prop
  /-- All of it was taken. -/
  | whole (outcome : r.outcome = .ok (sent + piece.length)) (taken : r.taken = piece)
      (calls : ∀ c ∈ r.calls, c.failure? = none)
  /-- A part from its front was taken. -/
  | broken (source : IoError)
      (outcome : r.outcome = .error (failedAfter (already + sent + r.taken.length) total source))
      (ended : r.EndedBy source) (taken : r.taken <+: piece)
      (short : r.taken.length < piece.length ∨ piece = [] ∧ control ≠ none)

end Sending

namespace Sink

variable (sink : Sink σ)

/-- A call that takes no more than it was offered takes a front of what is pending. -/
theorem taken_eq_take {p : Remainder} {control : Option Bytes} {n : Nat}
    (hn : n ≤ (⟨p.slices, control⟩ : Offer).bytes.length) :
    (⟨⟨p.slices, control⟩, .ok n⟩ : Exchange).taken = p.bytes.take n := by
  obtain ⟨more, hm⟩ := p.slices_isPrefix
  rw [← hm]
  exact (List.take_append_of_le_length hn).symm

/-- One call more in front of a run that carries what the call left. -/
theorem carries_after {p : Remainder} {control : Option Bytes} {already total sent n : Nat}
    {r : Sending σ} (hn : n ≤ (⟨p.slices, control⟩ : Offer).bytes.length)
    (hz : ¬(n = 0 ∧ p.isDone = false)) (hp : p.Rests)
    (hr : r.Carries (p.advance n).1.bytes none already total (sent + (n - (p.advance n).2))) :
    (Sending.after ⟨⟨p.slices, control⟩, .ok n⟩ r).Carries p.bytes control already total sent := by
  have hle : n ≤ p.bytes.length := Nat.le_trans hn p.slices_isPrefix.length_le
  have ht := taken_eq_take hn
  have hlen : (p.bytes.take n).length = n := List.length_take_of_le hle
  -- If the call took nothing, only control data was left to offer.
  have hc : (⟨⟨p.slices, control⟩, .ok n⟩ : Exchange).failure? = none := by
    by_cases h0 : n = 0
    · have hd : p.isDone = true := by simpa [h0] using hz
      have hb : p.slices.flatten = [] := by
        have := p.slices_isPrefix
        rw [(Remainder.isDone_iff hp).mp hd] at this
        exact List.prefix_nil.mp this
      simp [Exchange.failure?, Offer.bytes, hb]
    · simp [Exchange.failure?, h0]
  have ho : n - (p.advance n).2 = n := by
    rw [Remainder.overshoot_advance]
    omega
  rw [ho, Remainder.bytes_advance] at hr
  cases hr with
  | whole outcome taken calls =>
    refine .whole ?_ ?_ ?_
    · rw [Sending.outcome_after, outcome, List.length_drop, Nat.add_assoc, Nat.add_sub_cancel' hle]
    · rw [Sending.taken_after, ht, taken, List.take_append_drop]
    · intro d hd
      rcases List.mem_cons.mp hd with rfl | hd
      · exact hc
      · exact calls d hd
  | broken source outcome ended taken short =>
    have hl : (Sending.after ⟨⟨p.slices, control⟩, .ok n⟩ r).taken.length = n + r.taken.length := by
      rw [Sending.taken_after, ht, List.length_append, hlen]
    refine .broken source ?_ (ended.after hc) ?_ (.inl ?_)
    · rw [Sending.outcome_after, outcome, hl, ← Nat.add_assoc, ← Nat.add_assoc]
    · obtain ⟨more, hm⟩ := taken
      refine ⟨more, ?_⟩
      rw [Sending.taken_after, ht, List.append_assoc, hm, List.take_append_drop]
    · rcases short with short | ⟨-, habs⟩
      · rw [List.length_drop] at short
        omega
      · exact absurd rfl habs

/-- An honest sink takes all of what is pending or a part from its front, and the count or the error
says which. -/
theorem sendRest_carries (hs : sink.Honest) (already total : Nat) (s : σ) (pending : Remainder)
    (control : Option Bytes) (sent : Nat) (hp : pending.Rests) :
    (sink.sendRest already total s pending control sent).Carries pending.bytes control already
      total sent := by
  -- Along the calls; that the cursor rests on a segment with bytes makes "nothing is left" mean that
  -- no byte is left.
  fun_induction Sink.sendRest with
  | case1 s pending control sent hd =>
    have hb := (Remainder.isDone_iff hp).mp hd.1
    exact .whole (by rw [hb]; rfl) (by rw [hb]; rfl) (by simp)
  | case2 s pending control sent hd offer s' n hcall hz =>
    have hb : pending.bytes ≠ [] := by
      intro hb
      rw [(Remainder.isDone_iff hp).mpr hb] at hz
      exact Bool.noConfusion hz.2
    have ht : (⟨offer, .ok n⟩ : Exchange).taken = [] := by simp [Exchange.taken, hz.1]
    have hf : (⟨offer, .ok n⟩ : Exchange).failure? = some (.bare .writeZero) := by
      have := Remainder.slices_flatten_ne_nil hb
      simp [Exchange.failure?, hz.1, Offer.bytes, offer, this]
    refine .broken (.bare .writeZero) ?_ (Sending.endedBy_single rfl hf) ?_ (.inl ?_)
    · simp [Sending.taken, ht]
    · simp [Sending.taken, ht]
    · simpa [Sending.taken, ht, List.length_pos_iff] using hb
  | case3 s pending control sent hd offer s' n hcall hz left ih =>
    have hn : n ≤ offer.bytes.length := hs s offer n (by rw [hcall])
    exact carries_after hn hz hp (ih (pending.rests_advance n))
  | case4 s pending control sent hd offer s' e hcall hi ih =>
    have hf : (⟨offer, .error e⟩ : Exchange).failure? = none := by simp [Exchange.failure?, hi]
    cases ih hp with
    | whole outcome taken calls =>
      refine .whole outcome taken ?_
      intro c hc
      rcases List.mem_cons.mp hc with rfl | hc
      · exact hf
      · exact calls c hc
    | broken source outcome ended taken short =>
      exact .broken source outcome (ended.after hf) taken short
  | case5 s pending control sent hd offer s' e hcall hi =>
    have hf : (⟨offer, .error e⟩ : Exchange).failure? = some e := by simp [Exchange.failure?, hi]
    refine .broken e rfl (Sending.endedBy_single rfl hf) List.nil_prefix ?_
    by_cases hb : pending.bytes = []
    · refine .inr ⟨hb, fun hc => ?_⟩
      exact hd ⟨(Remainder.isDone_iff hp).mpr hb, hc⟩
    · exact .inl (List.length_pos_iff.mpr hb)

/-- A piece of a message is carried whole, or a part from its front is. -/
theorem sendPiece_carries (hs : sink.Honest) (s : σ) (parts : List Bytes)
    (control : Option Bytes) (already total : Nat) :
    (sink.sendPiece s parts control already total).Carries parts.flatten
      (control.filter (!·.isEmpty)) already total 0 := by
  have h := sink.sendRest_carries hs already total s (.ofParts sink parts)
    (control.filter (!·.isEmpty)) 0 (Remainder.rests_ofParts sink parts)
  rwa [Remainder.bytes_ofParts] at h

/-- Exactly-once delivery. A message that is reported as sent was taken byte for byte, in order. Of
one that failed a proper part from its front was taken, and the error says how many bytes that
were; no call was made after the one that failed. -/
theorem sendParts_delivers (hs : sink.Honest) (s : σ) (parts : List Bytes)
    (control : Option Bytes) :
    let r := sink.sendParts s parts control
    let message := parts.flatten
    (∀ n, r.outcome = .ok n →
      n = sumOf List.length parts ∧ r.taken = message ∧ ∀ c ∈ r.calls, c.failure? = none) ∧
    (∀ e, r.outcome = .error e →
      (r.taken <+: message ∧ r.taken ≠ message ∨ message = [] ∧ r.taken = []) ∧
      ∃ source, r.EndedBy source ∧
        (r.taken = [] → e = .refused .send source) ∧
        (r.taken ≠ [] →
          e = .cutShort r.taken.length (sumOf List.length parts) source ∧
          0 < r.taken.length ∧ r.taken.length < sumOf List.length parts)) := by
  intro r message
  have htotal : sumOf List.length parts = message.length := (length_flatten_eq_sumOf parts).symm
  have hr : r.Carries message (control.filter (!·.isEmpty)) 0 (sumOf List.length parts) 0 :=
    sink.sendPiece_carries hs s parts control 0 (sumOf List.length parts)
  cases hr with
  | whole outcome taken calls =>
    rw [Nat.zero_add] at outcome
    constructor
    · intro n hn
      rw [outcome] at hn
      cases hn
      exact ⟨htotal.symm, taken, calls⟩
    · intro e he
      rw [outcome] at he
      cases he
  | broken source outcome ended taken short =>
    rw [Nat.add_zero, Nat.zero_add] at outcome
    constructor
    · intro n hn
      rw [outcome] at hn
      cases hn
    · intro e he
      rw [outcome] at he
      cases he
      refine ⟨?_, source, ended, ?_, ?_⟩
      · rcases short with short | ⟨hm, -⟩
        · refine .inl ⟨taken, fun h => ?_⟩
          rw [h] at short
          exact Nat.lt_irrefl _ short
        · rw [hm] at taken
          exact .inr ⟨hm, List.prefix_nil.mp taken⟩
      · intro ht
        rw [ht]
        rfl
      · intro ht
        have hpos : 0 < r.taken.length := List.length_pos_iff.mpr ht
        have hlt : r.taken.length < message.length := by
          rcases short with short | ⟨hm, -⟩
          · exact short
          · rw [hm] at taken
            exact absurd (List.prefix_nil.mp taken) ht
        exact ⟨if_neg (by omega), hpos, htotal ▸ hlt⟩

/-- A call is cut short, the next is interrupted and the one after it fails: the error counts the two
bytes that were taken, and that call was the last. -/
theorem sendParts_delivers_cutShort :
    (Script.sink false).capped.Honest ∧
    ∃ r, r = (Script.sink false).capped.sendParts [.accept 2, .fail (.os 4), .fail (.os 32)]
        [[1], [], [2, 3]] (some [9]) ∧
      r.outcome = .error (.cutShort 2 3 (.os 32)) ∧ r.taken <+: [1, 2, 3] ∧ r.EndedBy (.os 32) := by
  have hs := (Script.sink false).honest_capped
  have h := sendParts_delivers _ hs [.accept 2, .fail (.os 4), .fail (.os 32)]
    [[1], [], [2, 3]] (some [9])
  have ho : ((Script.sink false).capped.sendParts [.accept 2, .fail (.os 4), .fail (.os 32)]
      [[1], [], [2, 3]] (some [9])).outcome = .error (.cutShort 2 3 (.os 32)) := by cbv
  generalize hr : (Script.sink false).capped.sendParts [.accept 2, .fail (.os 4), .fail (.os 32)]
    [[1], [], [2, 3]] (some [9]) = r at h ho ⊢
  obtain ⟨hp, source, hend, hnone, hcut⟩ := h.2 _ ho
  have hp' := hp.resolve_right (fun h => List.cons_ne_nil _ _ h.1)
  refine ⟨hs, r, rfl, ho, hp'.1, ?_⟩
  by_cases ht : r.taken = []
  · cases hnone ht
  · have he := (hcut ht).1
    rw [Failure.cutShort.injEq] at he
    rw [he.2.2]
    exact hend

end Sink

end LocalRecords
