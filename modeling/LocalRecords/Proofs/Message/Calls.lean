import LocalRecords.Proofs.Message.Delivery

namespace LocalRecords

variable {σ : Type}

def Smooth (calls : List Exchange) : Prop := ∀ c ∈ calls, c.failure? = none

def LastFails (calls : List Exchange) (cause : IoError) : Prop :=
  ∃ before last, calls = before ++ [last] ∧ Smooth before ∧ last.failure? = some cause

theorem Smooth.append {front calls : List Exchange} (hf : Smooth front) (hc : Smooth calls) :
    Smooth (front ++ calls) :=
  List.forall_mem_append.mpr ⟨hf, hc⟩

theorem LastFails.append {front calls : List Exchange} {cause : IoError} (hf : Smooth front)
    (hc : LastFails calls cause) : LastFails (front ++ calls) cause := by
  obtain ⟨before, last, rfl, hb, hl⟩ := hc
  refine ⟨front ++ before, last, ?_, hf.append hb, hl⟩
  rw [List.append_assoc]

/-- How a piece without control data came out: it was taken as a whole, or a call failed in it. -/
inductive Sending.Brings (r : Sending σ) (piece : Bytes) (already total : Nat) : Prop
  | whole (outcome : r.outcome = .ok piece.length) (taken : r.taken = piece)
      (calls : Smooth r.calls)
  | broken (cause : IoError)
      (outcome : r.outcome = .error (failedAfter (already + r.taken.length) total cause))
      (start : r.taken <+: piece) (short : r.taken.length < piece.length)
      (calls : LastFails r.calls cause)

/-- A piece without control data is taken as a whole by an honest sink, or a call failed in it, and
then the bytes taken stand at the front of the piece. -/
theorem Sink.sendPiece_brings {sink : Sink σ} (hs : sink.Honest) {parts : List Bytes}
    {piece : Bytes} (hparts : parts.flatten = piece) (s : σ) (already total : Nat) :
    (sink.sendPiece s parts none already total).Brings piece already total := by
  have h := sink.sendPiece_carries hs s parts none already total
  rw [hparts] at h
  cases h with
  | whole outcome taken calls =>
    rw [Nat.zero_add] at outcome
    exact .whole outcome taken calls
  | broken cause outcome ended taken short =>
    have hshort := short.resolve_right fun hn => hn.2 rfl
    exact .broken cause outcome taken hshort ended

namespace Sink

variable {sink : Sink σ} {s s' : σ}

-- The recursions are well-founded, so their equations are stated once for each answer of the sink.
section Equations

variable {already total sent : Nat} {pending : Remainder} {control : Option Bytes}

theorem sendRest_of_done (hd : pending.isDone = true ∧ control = none) :
    sink.sendRest already total s pending control sent = ⟨s, [], .ok sent⟩ := by
  rw [sendRest, dif_pos hd]

/-- A call that is answered with a count: it ends the message if it took nothing of something, and
otherwise the rest is sent without the control data. -/
theorem sendRest_of_ok (hd : ¬(pending.isDone = true ∧ control = none)) {n : Nat}
    (hcall : sink.send s ⟨pending.slices, control⟩ = (s', .ok n)) :
    sink.sendRest already total s pending control sent =
      if n = 0 ∧ pending.isDone = false then
        ⟨s', [⟨⟨pending.slices, control⟩, .ok n⟩],
          .error (failedAfter (already + sent) total (.bare .writeZero))⟩
      else
        let left := pending.advance n
        .after ⟨⟨pending.slices, control⟩, .ok n⟩
          (sink.sendRest already total s' left.1 none (sent + (n - left.2))) := by
  rw [sendRest, dif_neg hd]
  dsimp only
  split
  · next h => rw [hcall] at h; cases h; rfl
  · next h => rw [hcall] at h; cases h

/-- A call that fails ends the message unless it was interrupted; then the same is offered again. -/
theorem sendRest_of_error (hd : ¬(pending.isDone = true ∧ control = none)) {e : IoError}
    (hcall : sink.send s ⟨pending.slices, control⟩ = (s', .error e)) :
    sink.sendRest already total s pending control sent =
      if e.isInterrupted then
        .after ⟨⟨pending.slices, control⟩, .error e⟩
          (sink.sendRest already total s' pending control sent)
      else
        ⟨s', [⟨⟨pending.slices, control⟩, .error e⟩],
          .error (failedAfter (already + sent) total e)⟩ := by
  rw [sendRest, dif_neg hd]
  dsimp only
  split
  · next h => rw [hcall] at h; cases h
  · next h => rw [hcall] at h; cases h; rfl

theorem offerOnce_of_ok {offer : Offer} {n : Nat} (hcall : sink.send s offer = (s', .ok n)) :
    sink.offerOnce s offer = ⟨s', [⟨offer, .ok n⟩], .ok n⟩ := by
  rw [offerOnce]
  split
  · next h => rw [hcall] at h; cases h; rfl
  · next h => rw [hcall] at h; cases h

theorem offerOnce_of_error {offer : Offer} {e : IoError}
    (hcall : sink.send s offer = (s', .error e)) :
    sink.offerOnce s offer =
      if e.isInterrupted then .after ⟨offer, .error e⟩ (sink.offerOnce s' offer)
      else ⟨s', [⟨offer, .error e⟩], .error (.refused .send e)⟩ := by
  rw [offerOnce]
  split
  · next h => rw [hcall] at h; cases h
  · next h => rw [hcall] at h; cases h; rfl

end Equations

end Sink

/-- From the state `s` on every call of a sink has the property `P`. -/
def Sink.Always (sink : Sink σ) (s : σ) (P : Exchange → Prop) : Prop :=
  ∃ good : σ → Prop, good s ∧
    ∀ t o, good t → good (sink.send t o).1 ∧ P ⟨o, (sink.send t o).2⟩

namespace Sink

variable {sink : Sink σ} {P : Exchange → Prop}

theorem Always.mono {s : σ} {Q : Exchange → Prop} (h : sink.Always s P)
    (hPQ : ∀ c, P c → Q c) : sink.Always s Q := by
  obtain ⟨good, hs, hgood⟩ := h
  exact ⟨good, hs, fun t o ht => ⟨(hgood t o ht).1, hPQ _ (hgood t o ht).2⟩⟩

/-- What holds of every call from a state on holds of the next one, and from the state after it on.
-/
theorem Always.next {s s' : σ} {o : Offer} {answer : Except IoError Nat} (h : sink.Always s P)
    (hcall : sink.send s o = (s', answer)) : sink.Always s' P ∧ P ⟨o, answer⟩ := by
  obtain ⟨good, hs, hgood⟩ := h
  have hnext := hgood s o hs
  rw [hcall] at hnext
  exact ⟨⟨good, hnext.1, hgood⟩, hnext.2⟩

/-- What a sink always does it does in every call for the rest of a message, and afterwards still.
-/
theorem Always.sendRest {s : σ} (h : sink.Always s P) (already total : Nat) (pending : Remainder)
    (control : Option Bytes) (sent : Nat) :
    sink.Always (sink.sendRest already total s pending control sent).state P ∧
      ∀ c ∈ (sink.sendRest already total s pending control sent).calls, P c := by
  -- Along the calls: each one is made from a state that a call before it led to.
  fun_induction Sink.sendRest with
  | case1 s pending control sent hd => exact ⟨h, by simp⟩
  | case2 s pending control sent hd offer s' n hcall hz =>
    have hnext := h.next hcall
    exact ⟨hnext.1, by simpa using hnext.2⟩
  | case3 s pending control sent hd offer s' n hcall hz left ih =>
    have hnext := h.next hcall
    obtain ⟨hstate, hcalls⟩ := ih hnext.1
    exact ⟨hstate, List.forall_mem_cons.mpr ⟨hnext.2, hcalls⟩⟩
  | case4 s pending control sent hd offer s' e hcall hi ih =>
    have hnext := h.next hcall
    obtain ⟨hstate, hcalls⟩ := ih hnext.1
    exact ⟨hstate, List.forall_mem_cons.mpr ⟨hnext.2, hcalls⟩⟩
  | case5 s pending control sent hd offer s' e hcall hi =>
    have hnext := h.next hcall
    exact ⟨hnext.1, by simpa using hnext.2⟩

theorem Always.sendPiece {s : σ} (h : sink.Always s P) (parts : List Bytes)
    (control : Option Bytes) (already total : Nat) :
    sink.Always (sink.sendPiece s parts control already total).state P ∧
      ∀ c ∈ (sink.sendPiece s parts control already total).calls, P c :=
  h.sendRest already total _ _ 0

end Sink

end LocalRecords
