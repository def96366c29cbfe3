import LocalRecords.Proofs.Message.Delivery
import LocalRecords.Proofs.Socket.Control
import LocalRecords.Record.Emission

namespace LocalRecords

variable {σ δ : Type}

/-- Bytes on their way, each with what is attached to it. -/
abbrev Cargo (δ : Type) := List (UInt8 × List δ)

namespace Cargo

def bytes (c : Cargo δ) : Bytes := c.map Prod.fst

def attached (c : Cargo δ) : List δ := c.flatMap Prod.snd

def load (things : List δ) : Bytes → Cargo δ
  | [] => []
  | b :: bs => (b, things) :: bs.map (·, [])

/-- Some reads bring a cargo: they cut it into pieces, in order, and each returns the bytes of its
piece with what is attached to them. -/
def BroughtBy (c : Cargo δ) (reads : List (Bytes × List δ)) : Prop :=
  ∃ pieces : List (Cargo δ), pieces.flatten = c ∧ reads = pieces.map fun p => (bytes p, attached p)

@[simp] theorem bytes_append (c d : Cargo δ) : bytes (c ++ d) = bytes c ++ bytes d :=
  List.map_append

@[simp] theorem attached_append (c d : Cargo δ) : attached (c ++ d) = attached c ++ attached d :=
  List.flatMap_append

@[simp] theorem length_bytes (c : Cargo δ) : (bytes c).length = c.length := List.length_map _

@[simp] theorem bytes_load (things : List δ) (bs : Bytes) : bytes (load things bs) = bs := by
  cases bs with
  | nil => rfl
  | cons b bs => simp [load, bytes, Function.comp_def]

@[simp] theorem length_load (things : List δ) (bs : Bytes) :
    (load things bs).length = bs.length := by
  rw [← length_bytes, bytes_load]

/-- Things that are passed with some bytes are attached to the first of them, if there is one. -/
theorem attached_load (things : List δ) {bs : Bytes} (hb : bs ≠ []) :
    attached (load things bs) = things := by
  cases bs with
  | nil => exact absurd rfl hb
  | cons b bs => simp [load, attached]

/-- What is attached to the first bytes does not depend on how many follow. -/
theorem load_append (things : List δ) {bs : Bytes} (hb : bs ≠ []) (more : Bytes) :
    load things (bs ++ more) = load things bs ++ load [] more := by
  cases bs with
  | nil => exact absurd rfl hb
  | cons b bs => cases more <;> simp [load]

end Cargo

def passedBy (control : Option Bytes) : List DescriptorNumber :=
  (control.bind Control.requested).getD []

theorem passedBy_filter (control : Option Bytes) :
    passedBy (control.filter (!·.isEmpty)) = passedBy control := by
  cases control with
  | none => rfl
  | some c =>
    cases c with
    | nil =>
      have hnone : passedBy (some []) = [] := by
        rw [passedBy, Option.bind_some, Control.requested_nil, Option.getD_some]
      rw [hnone]
      rfl
    | cons b bs => rfl

/-- What a call sends on its way, where `table` says what the sender's descriptors stand for. -/
def Exchange.cargo (table : DescriptorNumber → δ) (c : Exchange) : Cargo δ :=
  .load ((passedBy c.offer.control).map table) c.taken

def Sending.cargo (table : DescriptorNumber → δ) (r : Sending σ) : Cargo δ :=
  r.calls.flatMap (Exchange.cargo table)

theorem Exchange.cargo_of_nothing (table : DescriptorNumber → δ) {c : Exchange}
    (hc : c.taken = []) : c.cargo table = [] := by
  rw [cargo, hc, Cargo.load]

@[simp] theorem Sending.cargo_after (table : DescriptorNumber → δ) (c : Exchange) (r : Sending σ) :
    (Sending.after c r).cargo table = c.cargo table ++ r.cargo table := rfl

theorem Sending.Carries.taken_isPrefix {r : Sending σ} {piece : Bytes} {control : Option Bytes}
    {already total sent : Nat} (h : r.Carries piece control already total sent) :
    r.taken <+: piece := by
  cases h with
  | whole outcome taken calls => exact taken ▸ List.prefix_rfl
  | broken source outcome ended taken short => exact taken

namespace Sink

variable (sink : Sink σ)

/-- Control data travels with the first byte that is taken, and with no other. -/
theorem sendRest_cargo (table : DescriptorNumber → δ) (hs : sink.Honest) (already total : Nat)
    (s : σ) (pending : Remainder) (control : Option Bytes) (sent : Nat) (hp : pending.Rests) :
    (sink.sendRest already total s pending control sent).cargo table =
      .load ((passedBy control).map table)
        (sink.sendRest already total s pending control sent).taken := by
  -- Along the calls. One that takes bytes takes the control data with them, and what is sent after
  -- it passes nothing; one that takes no byte carries nothing away.
  fun_induction Sink.sendRest with
  | case1 => rfl
  | case2 s pending control sent hd offer s' n hcall hz =>
    have ht : (⟨offer, .ok n⟩ : Exchange).taken = [] := by simp [Exchange.taken, hz.1]
    simp [Sending.cargo, Sending.taken, ht, Exchange.cargo_of_nothing table ht, Cargo.load]
  | case3 s pending control sent hd offer s' n hcall hz left ih =>
    have hn : n ≤ offer.bytes.length := hs s offer n (by rw [hcall])
    have ht : (⟨offer, .ok n⟩ : Exchange).taken = pending.bytes.take n := taken_eq_take hn
    have hrest := sink.sendRest_carries hs already total s' left.1 none (sent + (n - left.2))
      (pending.rests_advance n)
    have hmore := hrest.taken_isPrefix
    rw [Sending.cargo_after, Sending.taken_after, ih (pending.rests_advance n)]
    change Cargo.load _ _ ++ Cargo.load [] _ = _
    by_cases hnil : (⟨offer, .ok n⟩ : Exchange).taken = []
    -- It was not given up, so there was nothing but control data to take.
    · have hb : pending.bytes = [] := by
        rw [ht, List.take_eq_nil_iff] at hnil
        rcases hnil with h0 | hb
        · have hd : pending.isDone = true := by simpa [h0] using hz
          exact (Remainder.isDone_iff hp).mp hd
        · exact hb
      rw [Remainder.bytes_advance, hb, List.drop_nil] at hmore
      rw [hnil, List.prefix_nil.mp hmore]
      rfl
    · exact (Cargo.load_append _ hnil _).symm
  | case4 s pending control sent hd offer s' e hcall hi ih =>
    have ht : (⟨offer, .error e⟩ : Exchange).taken = [] := rfl
    rw [Sending.cargo_after, Sending.taken_after, ht, Exchange.cargo_of_nothing table ht]
    exact ih hp
  | case5 => rfl

/-- The descriptors of a record pass with its first byte. -/
theorem emitWith_cargo (table : DescriptorNumber → δ) (hs : sink.Honest) (s : σ) (record : Record)
    {descriptors : List DescriptorNumber} (hn : descriptors.length ≤ Control.maxDescriptors) :
    (sink.emitWith s record descriptors).cargo table =
      .load (descriptors.map table) (sink.emitWith s record descriptors).taken := by
  have hpassed : passedBy ((some (Control.encode descriptors)).filter (!·.isEmpty)) =
      descriptors := by
    rw [passedBy_filter, passedBy, Option.bind_some, Control.requested_encode hn, Option.getD_some]
  have h := sink.sendRest_cargo table hs 0
    (sumOf List.length (record.segments.map Segment.encode)) s
    (.ofParts sink (record.segments.map Segment.encode))
    ((some (Control.encode descriptors)).filter (!·.isEmpty)) 0 (Remainder.rests_ofParts sink _)
  rw [hpassed] at h
  exact h

end Sink

end LocalRecords
