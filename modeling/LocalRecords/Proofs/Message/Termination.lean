import LocalRecords.Proofs.Message.Overreport
import LocalRecords.Proofs.Record.Interruption

/-!
How often a sink is called for one message. A call that is not interrupted takes something of what
is left or is the last one, so there are no more such calls than the message has bytes, or one if
there is nothing but control data. A sink that interrupts only so many calls in all is given up or
has the whole message after so many calls more.
-/

namespace LocalRecords

variable {σ : Type}

def exchanges (send : σ → Offer → σ × Except IoError Nat) (s : σ) : List Offer → List Exchange
  | [] => []
  | o :: offers => ⟨o, (send s o).2⟩ :: exchanges send (send s o).1 offers

def InterruptsAtMost (send : σ → Offer → σ × Except IoError Nat) (k : Nat) (s : σ) : Prop :=
  ∀ offers, (exchanges send s offers).countP Exchange.isInterrupted ≤ k

/-- An interruption is one of those that there may be. -/
theorem InterruptsAtMost.next {send : σ → Offer → σ × Except IoError Nat} {k : Nat} {s : σ}
    (h : InterruptsAtMost send k s) (o : Offer) (offers : List Offer) :
    (exchanges send (send s o).1 offers).countP Exchange.isInterrupted +
      (if (⟨o, (send s o).2⟩ : Exchange).isInterrupted then 1 else 0) ≤ k := by
  have hall := h (o :: offers)
  rwa [exchanges, List.countP_cons] at hall

structure Limited (send : σ → Offer → σ × Except IoError Nat) where
  state : σ
  left : Nat
  bound : InterruptsAtMost send left state

def Limited.next {send : σ → Offer → σ × Except IoError Nat} (l : Limited send) (o : Offer) :
    Limited send where
  state := (send l.state o).1
  left := l.left - if (⟨o, (send l.state o).2⟩ : Exchange).isInterrupted then 1 else 0
  bound := fun offers => Nat.le_sub_of_add_le (l.bound.next o offers)

/-- A sink of which nothing is known but that it interrupts only so many calls in all. What is left
of them is its patience. -/
def Sink.ofLimited (sendsDatagrams : Bool) (send : σ → Offer → σ × Except IoError Nat) :
    Sink (Limited send) where
  sendsDatagrams := sendsDatagrams
  send l o := (l.next o, (send l.state o).2)
  patience := Limited.left
  patience_lt := by
    intro l o e he hi
    have hc : (⟨o, (send l.state o).2⟩ : Exchange).isInterrupted = true := by
      rw [show (send l.state o).2 = .error e from he]
      exact hi
    have hone := l.bound.next o []
    rw [if_pos hc] at hone
    simp only [Limited.next, if_pos hc]
    omega

/-- A sink with a budget of interruptions answers as the calls it was made of do. -/
theorem exchanges_ofLimited (sendsDatagrams : Bool) {send : σ → Offer → σ × Except IoError Nat}
    (l : Limited send) (offers : List Offer) :
    exchanges (Sink.ofLimited sendsDatagrams send).send l offers =
      exchanges send l.state offers := by
  induction offers generalizing l with
  | nil => rfl
  | cons o offers ih => exact congrArg (⟨o, (send l.state o).2⟩ :: ·) (ih (l.next o))

/-- A script interrupts as often as it says. -/
theorem Script.interruptsAtMost (script : List Reply) :
    InterruptsAtMost answer (script.countP Reply.isInterrupted) script := by
  intro offers
  induction offers generalizing script with
  | nil => exact Nat.zero_le _
  | cons o offers ih =>
    rw [exchanges, List.countP_cons]
    match script with
    | [] => exact ih []
    | .accept n :: rest => exact ih rest
    | .exceed n :: rest => exact ih rest
    | .fail e :: rest =>
      rw [List.countP_cons]
      exact Nat.add_le_add_right (ih rest) _

/-- Every call is settled or interrupted. -/
theorem length_eq_settled_add (calls : List Exchange) :
    calls.length = (settled calls).length + calls.countP Exchange.isInterrupted := by
  have hsplit := List.length_eq_length_filter_add (l := calls) Exchange.isInterrupted
  rw [settled, List.countP_eq_length_filter]
  omega

/-- How many calls sending takes at most, interruptions apart: one for each byte that is left, and
one for control data if that is all. -/
def callsFor (left : Bytes) (control : Option Bytes) : Nat :=
  max left.length control.toList.length

/-- A call that offers bytes from the front of those that are left, in slices that are not empty
and no more than a call may have. -/
structure Exchange.OffersSome (c : Exchange) (left : Bytes) : Prop where
  slices_ne_nil : c.offer.slices ≠ []
  ne_nil_of_mem : ∀ slice ∈ c.offer.slices, slice ≠ []
  length_le : c.offer.slices.length ≤ maxSlices
  isPrefix : c.offer.bytes <+: left

/-- Calls of which each offers some of what is left as long as something is, where what a call
reports is gone. -/
def OffersOf : Bytes → List Exchange → Prop
  | _, [] => True
  | left, c :: calls => (left ≠ [] → c.OffersSome left) ∧ OffersOf (left.drop c.reported) calls

/-- The call after some others offers what their reports left. -/
theorem OffersOf.split {left : Bytes} {before later : List Exchange} {c : Exchange}
    (h : OffersOf left (before ++ c :: later))
    (hpending : sumOf Exchange.reported before < left.length) :
    c.OffersSome (left.drop (sumOf Exchange.reported before)) := by
  induction before generalizing left with
  | nil =>
    have hne : left ≠ [] := List.length_pos_iff.mp hpending
    exact h.1 hne
  | cons b before ih =>
    rw [sumOf] at hpending ⊢
    have hdrop : sumOf Exchange.reported before < (left.drop b.reported).length := by
      rw [List.length_drop]
      omega
    have hmore := ih h.2 hdrop
    rwa [List.drop_drop] at hmore

namespace Remainder

variable {p : Remainder}

theorem ne_nil_of_mem_slices {slice : Bytes} (h : slice ∈ p.slices) : slice ≠ [] := by
  have hmem : slice ∈ p.remaining := List.mem_of_mem_take h
  simpa using (List.mem_filter.mp hmem).2

/-- While bytes are left the slices of a call are a front of them, not empty, and no more than a
call may have. -/
theorem offersSome (hp : p.bytes ≠ []) (control : Option Bytes) (answer : Except IoError Nat) :
    (⟨⟨p.slices, control⟩, answer⟩ : Exchange).OffersSome p.bytes where
  slices_ne_nil := by
    intro hnil
    have hslices : p.slices = [] := hnil
    apply slices_flatten_ne_nil hp
    rw [hslices, List.flatten_nil]
  ne_nil_of_mem _ h := ne_nil_of_mem_slices h
  length_le := List.length_take_le _ _
  isPrefix := p.slices_isPrefix

/-- Sending goes on while a byte or control data is left, so a call may be needed. -/
theorem callsFor_pos (hp : p.Rests) {control : Option Bytes}
    (hd : ¬(p.isDone = true ∧ control = none)) : 0 < callsFor p.bytes control := by
  rw [callsFor]
  rcases hb : p.bytes with _ | ⟨b, bytes⟩
  · have hdone := (isDone_iff hp).mpr hb
    cases control with
    | none => exact absurd ⟨hdone, rfl⟩ hd
    | some data =>
      rw [Option.toList_some, List.length_singleton]
      omega
  · rw [List.length_cons]
    omega

/-- A call that took something, or had no byte to take, leaves fewer calls to be made. -/
theorem callsFor_advance_lt (hp : p.Rests) {control : Option Bytes}
    (hd : ¬(p.isDone = true ∧ control = none)) {n : Nat} (hn : ¬(n = 0 ∧ p.isDone = false)) :
    callsFor (p.advance n).1.bytes none < callsFor p.bytes control := by
  have hpos := callsFor_pos hp hd
  have hleft : (p.bytes.drop n).length = p.bytes.length - n := List.length_drop
  rw [callsFor, bytes_advance, hleft, Option.toList_none, List.length_nil]
  rw [callsFor] at hpos ⊢
  rcases hb : p.isDone with _ | _
  · have hn0 : n ≠ 0 := fun h0 => hn ⟨h0, hb⟩
    have hbytes : p.bytes ≠ [] := by
      intro hnil
      rw [(isDone_iff hp).mpr hnil] at hb
      cases hb
    have hlen : 0 < p.bytes.length := List.length_pos_iff.mpr hbytes
    omega
  · have hlen : p.bytes.length = 0 := by
      rw [(isDone_iff hp).mp hb, List.length_nil]
    omega

end Remainder

namespace Sink

variable (sink : Sink σ)

/-- Each call of a run is answered by the sink as the calls before it have left it. -/
theorem sendRest_calls_eq (already total : Nat) (s : σ) (pending : Remainder)
    (control : Option Bytes) (sent : Nat) :
    (sink.sendRest already total s pending control sent).calls =
      exchanges sink.send s
        ((sink.sendRest already total s pending control sent).calls.map (·.offer)) := by
  fun_induction Sink.sendRest with
  | case1 s pending control sent hd => rfl
  | case2 s pending control sent hd offer s' n hcall hz =>
    simp only [List.map_cons, List.map_nil, exchanges, hcall]
  | case3 s pending control sent hd offer s' n hcall hz left ih =>
    simp only [Sending.after, List.map_cons, exchanges, hcall]
    rw [← ih]
  | case4 s pending control sent hd offer s' e hcall hi ih =>
    simp only [Sending.after, List.map_cons, exchanges, hcall]
    rw [← ih]
  | case5 s pending control sent hd offer s' e hcall hi =>
    simp only [List.map_cons, List.map_nil, exchanges, hcall]

/-- Interruptions apart, the rest of a message takes no more calls than it has bytes, or one for
control data alone. -/
theorem length_settled_sendRest_le (already total : Nat) (s : σ) (pending : Remainder)
    (control : Option Bytes) (sent : Nat) (hp : pending.Rests) :
    (settled (sink.sendRest already total s pending control sent).calls).length ≤
      callsFor pending.bytes control := by
  -- Along the calls: the bound goes down with every call that is not interrupted.
  fun_induction Sink.sendRest with
  | case1 s pending control sent hd => exact Nat.zero_le _
  | case2 s pending control sent hd offer s' n hcall hz => exact Remainder.callsFor_pos hp hd
  | case3 s pending control sent hd offer s' n hcall hz left ih =>
    rw [Sending.after, settled_cons_of_not rfl, List.length_cons]
    calc (settled _).length + 1
        ≤ callsFor (pending.advance n).1.bytes none + 1 :=
          Nat.add_le_add_right (ih (pending.rests_advance n)) 1
      _ ≤ callsFor pending.bytes control := Remainder.callsFor_advance_lt hp hd hz
  | case4 s pending control sent hd offer s' e hcall hi ih =>
    have hc : (⟨offer, .error e⟩ : Exchange).isInterrupted = true := hi
    rw [Sending.after, settled_cons_of_isInterrupted hc]
    exact ih hp
  | case5 s pending control sent hd offer s' e hcall hi =>
    rw [settled_cons_of_not (Exchange.isInterrupted_of_not offer hi)]
    exact Remainder.callsFor_pos hp hd

/-- Every call for the rest of a message offers some of it as long as something is left. -/
theorem sendRest_offers (already total : Nat) (s : σ) (pending : Remainder)
    (control : Option Bytes) (sent : Nat) :
    OffersOf pending.bytes (sink.sendRest already total s pending control sent).calls := by
  fun_induction Sink.sendRest with
  | case1 s pending control sent hd => trivial
  | case2 s pending control sent hd offer s' n hcall hz =>
    exact ⟨fun hne => Remainder.offersSome hne control _, trivial⟩
  | case3 s pending control sent hd offer s' n hcall hz left ih =>
    rw [Remainder.bytes_advance] at ih
    exact ⟨fun hne => Remainder.offersSome hne control _, ih⟩
  | case4 s pending control sent hd offer s' e hcall hi ih =>
    exact ⟨fun hne => Remainder.offersSome hne control _, ih⟩
  | case5 s pending control sent hd offer s' e hcall hi =>
    exact ⟨fun hne => Remainder.offersSome hne control _, trivial⟩

/-- Sending ends. A sink that interrupts at most `k` calls in all is called, whatever else it
answers, at most `k` times more than the message has bytes, or `k + 1` times for control data
alone, and never if there is neither. Every call that is made while bytes are left offers some of
them. -/
theorem sendParts_ends (sendsDatagrams : Bool) {send : σ → Offer → σ × Except IoError Nat}
    {k : Nat} {s : σ} (hk : InterruptsAtMost send k s) (parts : List Bytes)
    (control : Option Bytes) :
    let r := (ofLimited sendsDatagrams send).sendParts ⟨s, k, hk⟩ parts control
    let message := parts.flatten
    r.calls = exchanges send s (r.calls.map (·.offer)) ∧
      (message ≠ [] → r.calls.length ≤ k + message.length) ∧
      (message = [] → ∀ data, control = some data → data ≠ [] → r.calls.length ≤ k + 1) ∧
      (message = [] → control = none ∨ control = some [] → r.calls = []) ∧
      ∀ before c later, r.calls = before ++ c :: later →
        sumOf Exchange.reported before < message.length →
        c.OffersSome (message.drop (sumOf Exchange.reported before)) := by
  intro r message
  let sink := ofLimited sendsDatagrams send
  have hbytes := Remainder.bytes_ofParts sink parts
  have hr : r = sink.sendRest 0 (sumOf List.length parts) ⟨s, k, hk⟩ (.ofParts sink parts)
      (control.filter (!·.isEmpty)) 0 := rfl
  have hcalls : r.calls = exchanges send s (r.calls.map (·.offer)) := by
    have h := sink.sendRest_calls_eq 0 (sumOf List.length parts) ⟨s, k, hk⟩ (.ofParts sink parts)
      (control.filter (!·.isEmpty)) 0
    rwa [exchanges_ofLimited, ← hr] at h
  have hbound : r.calls.length ≤ callsFor message (control.filter (!·.isEmpty)) + k := by
    have hsettled := sink.length_settled_sendRest_le 0 (sumOf List.length parts) ⟨s, k, hk⟩
      (.ofParts sink parts) (control.filter (!·.isEmpty)) 0 (Remainder.rests_ofParts sink parts)
    rw [hbytes, ← hr] at hsettled
    have hinterrupted : r.calls.countP Exchange.isInterrupted ≤ k := by
      rw [hcalls]
      exact hk _
    calc r.calls.length
        = (settled r.calls).length + r.calls.countP Exchange.isInterrupted :=
          length_eq_settled_add r.calls
      _ ≤ callsFor message (control.filter (!·.isEmpty)) + k :=
          Nat.add_le_add hsettled hinterrupted
  have hone : (control.filter (!·.isEmpty)).toList.length ≤ 1 := Option.length_toList_le
  rw [callsFor] at hbound
  refine ⟨hcalls, ?_, ?_, ?_, ?_⟩
  · intro hne
    have hpos : 0 < message.length := List.length_pos_iff.mpr hne
    omega
  · intro hnil data _ _
    rw [hnil, List.length_nil] at hbound
    omega
  · intro hnil hempty
    have hdone := (Remainder.isDone_ofParts sink parts).mpr hnil
    have hcontrol : control.filter (!·.isEmpty) = none := by
      rcases hempty with hempty | hempty
      · rw [hempty, Option.filter_none]
      · rw [hempty]
        rfl
    rw [hr, sendRest_of_done ⟨hdone, hcontrol⟩]
  · intro before c later hsplit hpending
    have hoffers := sink.sendRest_offers 0 (sumOf List.length parts) ⟨s, k, hk⟩
      (.ofParts sink parts) (control.filter (!·.isEmpty)) 0
    rw [hbytes, ← hr, hsplit] at hoffers
    exact hoffers.split hpending

/-- Two calls are interrupted and one reports more than it was offered: there are no more than five
calls for three bytes. A sink of datagrams is not called more often than that for control data. -/
theorem sendParts_ends_interrupted :
    ∃ hk : InterruptsAtMost Script.answer 2
        [.fail (.os 4), .accept 1, .fail (.bare .interrupted), .exceed 2],
      let r := (ofLimited false Script.answer).sendParts ⟨_, 2, hk⟩ [[1], [], [2, 3]] (some [9])
      let alone := (ofLimited true Script.answer).sendParts ⟨_, 2, hk⟩ [[], []] (some [9])
      r.outcome = .ok 3 ∧ r.calls.length ≤ 2 + 3 ∧ alone.calls.length ≤ 2 + 1 := by
  have hk := Script.interruptsAtMost
    [.fail (.os 4), .accept 1, .fail (.bare .interrupted), .exceed 2]
  refine ⟨hk, ?_, ?_, ?_⟩
  · cbv
  · exact (sendParts_ends false hk [[1], [], [2, 3]] (some [9])).2.1 (List.cons_ne_nil _ _)
  · exact (sendParts_ends true hk [[], []] (some [9])).2.2.1 rfl [9] rfl (List.cons_ne_nil _ _)

end Sink

end LocalRecords
