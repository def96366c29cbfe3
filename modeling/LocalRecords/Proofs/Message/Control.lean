import LocalRecords.Proofs.Message.Interruption

namespace LocalRecords

variable {σ : Type}

/-- Control data goes with the calls up to the first that is not interrupted, and with no other. -/
inductive CarriedOnce (data : Bytes) : List Exchange → Prop
  | first {c : Exchange} {later : List Exchange} (hc : c.isInterrupted = false)
      (hdata : c.offer.control = some data) (hlater : ∀ d ∈ later, d.offer.control = none) :
      CarriedOnce data (c :: later)
  | interrupted {c : Exchange} {calls : List Exchange} (hc : c.isInterrupted = true)
      (hdata : c.offer.control = some data) (hmore : CarriedOnce data calls) :
      CarriedOnce data (c :: calls)

namespace CarriedOnce

variable {data : Bytes} {calls : List Exchange}

/-- The calls fall into those that were interrupted, the one that took the control data with it, and
those after it. -/
theorem split (h : CarriedOnce data calls) :
    ∃ interrupted first later, calls = interrupted ++ first :: later ∧
      (∀ c ∈ interrupted, c.isInterrupted = true ∧ c.offer.control = some data) ∧
      first.isInterrupted = false ∧ first.offer.control = some data ∧
      ∀ c ∈ later, c.offer.control = none := by
  induction h with
  | @first c later hc hdata hlater => exact ⟨[], c, later, rfl, by simp, hc, hdata, hlater⟩
  | @interrupted c calls hc hdata hmore ih =>
    obtain ⟨front, first, later, rfl, hfront, hfirst⟩ := ih
    exact ⟨c :: front, first, later, rfl, List.forall_mem_cons.mpr ⟨⟨hc, hdata⟩, hfront⟩, hfirst⟩

end CarriedOnce

namespace Remainder

variable {p : Remainder}

end Remainder

namespace Sink

variable (sink : Sink σ) {control : Option Bytes}

/-- Without control data no call carries any. -/
theorem sendRest_carriesNone (hn : control = none) (already total : Nat) (s : σ)
    (pending : Remainder) (sent : Nat) :
    ∀ c ∈ (sink.sendRest already total s pending control sent).calls, c.offer.control = none := by
  -- Along the calls; what is offered after a call has no control data in any case.
  fun_induction Sink.sendRest with
  | case1 s pending control sent hd => simp
  | case2 s pending control sent hd offer s' n hcall hz => simp [offer, hn]
  | case3 s pending control sent hd offer s' n hcall hz left ih =>
    exact List.forall_mem_cons.mpr ⟨hn, ih rfl⟩
  | case4 s pending control sent hd offer s' e hcall hi ih =>
    exact List.forall_mem_cons.mpr ⟨hn, ih hn⟩
  | case5 s pending control sent hd offer s' e hcall hi => simp [offer, hn]

end Sink

end LocalRecords
