import LocalRecords.Proofs.Message.Passing
import LocalRecords.Proofs.Record.RoundTrip
import LocalRecords.Server.Connection

namespace LocalRecords

variable {δ : Type}

/-- A record on its way, with the descriptor that passes along if its type asks for one. -/
structure Parcel (δ : Type) where
  record : Record
  built : record.Built
  journal : Option DescriptorNumber
  paired : journal.isSome = true ↔ record.type = .passedJournal
  /-- What the descriptors of the sender stand for while it sends the record. -/
  table : DescriptorNumber → δ

namespace Parcel

def passed (p : Parcel δ) : Option δ := p.journal.map p.table

def cargo (p : Parcel δ) : Cargo δ := .load p.passed.toList p.record.encode

def delivery (p : Parcel δ) : Delivery δ where
  record := p.record.received
  journal := p.passed

structure Fits (p : Parcel δ) (limits : Limits) : Prop where
  within : p.record.Within limits
  size_le : p.record.encode.length ≤ maxU64

variable {p : Parcel δ} {limits : Limits}

theorem Fits.regular (h : p.Fits limits) : p.record.received.Regular := p.built.regular h.within

theorem Fits.encode_ne_nil (h : p.Fits limits) : p.record.encode ≠ [] := by
  intro hnil
  have hlen := Record.length_encode h.regular
  have hsize := p.record.header.size_le_recordSize
  rw [hnil, List.length_nil] at hlen
  rw [Header.size] at hsize
  omega

theorem bytes_cargo (p : Parcel δ) : Cargo.bytes p.cargo = p.record.encode :=
  Cargo.bytes_load _ _

theorem length_cargo (p : Parcel δ) : p.cargo.length = p.record.encode.length :=
  Cargo.length_load _ _

/-- What is passed with a parcel is attached to its cargo. -/
theorem Fits.attached_cargo (h : p.Fits limits) : Cargo.attached p.cargo = p.passed.toList :=
  Cargo.attached_load _ h.encode_ne_nil

/-- A record claims what was passed with it, if that waits first, and leaves what waits behind. -/
theorem claim_passed (p : Parcel δ) (more : List δ) :
    Connection.claim p.record.received.header.type (p.passed.toList ++ more) = (p.passed, more) := by
  have htype : p.record.received.header.type = p.record.type := rfl
  rw [htype, Connection.claim, passed]
  have hpaired := p.paired
  rcases hj : p.journal with _ | d
  · have ht : p.record.type ≠ .passedJournal := by
      rw [hj] at hpaired
      exact fun h => Bool.false_ne_true (hpaired.mpr h)
    rw [if_neg ht]
    rfl
  · have ht : p.record.type = .passedJournal := by
      rw [hj] at hpaired
      exact hpaired.mp rfl
    rw [if_pos ht]
    rfl

theorem bytes_flatMap_cargo (parcels : List (Parcel δ)) :
    Cargo.bytes (parcels.flatMap cargo) = (parcels.map record).flatMap Record.encode := by
  induction parcels with
  | nil => rfl
  | cons p parcels ih =>
    rw [List.flatMap_cons, Cargo.bytes_append, bytes_cargo, ih, List.map_cons, List.flatMap_cons]

end Parcel

namespace Connection

/-- Some records with what they are handed on with, and the descriptors that stay. -/
def claimAll : List WireRecord → List δ → List (Delivery δ) × List δ
  | [], queue => ([], queue)
  | w :: ws, queue =>
    let claimed := claim w.header.type queue
    let rest := claimAll ws claimed.2
    (⟨w, claimed.1⟩ :: rest.1, rest.2)

theorem map_record_claimAll (ws : List WireRecord) (queue : List δ) :
    (claimAll ws queue).1.map Delivery.record = ws := by
  induction ws generalizing queue with
  | nil => rfl
  | cons w ws ih => rw [claimAll, List.map_cons, ih]

/-- Handing on is decoding, and claiming descriptors in the order of the records. -/
theorem handOn_eq_decodeAll (c : Connection δ) :
    c.handOn =
      let decoded := c.decoder.decodeAll
      let claimed := claimAll decoded.1 c.queue
      ⟨claimed.1, ⟨decoded.2.1, claimed.2, c.records + decoded.1.length⟩, decoded.2.2⟩ := by
  fun_induction handOn c with
  | case1 c e h =>
    rw [Decoder.decodeAll_of_error h]
    rfl
  | case2 c h =>
    rw [Decoder.decodeAll_of_none h]
    rfl
  | case3 c record decoder h claimed rest ih =>
    have hcount (n : Nat) : c.records + 1 + n = c.records + (n + 1) := by omega
    simp only [rest, ih, Decoder.decodeAll_of_record h, claimAll, List.length_cons, hcount]
    rfl

theorem handOn_of_error {c : Connection δ} {e : Failure} (h : c.decoder.decode = .error e) :
    c.handOn = ⟨[], c, some e⟩ := by
  rw [handOn_eq_decodeAll, Decoder.decodeAll_of_error h]
  rfl

theorem handOn_of_none {c : Connection δ} (h : c.decoder.decode = .ok none) :
    c.handOn = ⟨[], c, none⟩ := by
  rw [handOn_eq_decodeAll, Decoder.decodeAll_of_none h]
  rfl

/-- A record that is there is handed on with what it claims, and then the next one is asked for. -/
theorem handOn_of_record {c : Connection δ} {record : WireRecord} {decoder : Decoder}
    (h : c.decoder.decode = .ok (some (record, decoder))) :
    let claimed := claim record.header.type c.queue
    let rest := handOn ⟨decoder, claimed.2, c.records + 1⟩
    c.handOn = { rest with deliveries := ⟨record, claimed.1⟩ :: rest.deliveries } := by
  intro claimed rest
  rw [handOn]
  split
  · next h' => rw [h] at h'; cases h'
  · next h' => rw [h] at h'; cases h'
  · next h' => rw [h] at h'; cases h'; rfl

/-- Records claim what was passed along with them, if that is the oldest that waits. -/
theorem claimAll_received {limits : Limits} {parcels : List (Parcel δ)}
    (hf : ∀ p ∈ parcels, p.Fits limits) (more : Cargo δ) :
    claimAll (parcels.map fun p => p.record.received)
        (Cargo.attached (parcels.flatMap Parcel.cargo ++ more)) =
      (parcels.map Parcel.delivery, Cargo.attached more) := by
  induction parcels with
  | nil => rfl
  | cons p parcels ih =>
    have hmore := ih fun q hq => hf q (List.mem_cons_of_mem p hq)
    rw [List.flatMap_cons, List.append_assoc, Cargo.attached_append,
      (hf p List.mem_cons_self).attached_cargo, List.map_cons, claimAll, p.claim_passed, hmore]
    rfl

structure Holds (c : Connection δ) (limits : Limits) (held : Cargo δ) : Prop where
  sound : c.decoder.Sound
  limits : c.decoder.limits = limits
  unread : c.decoder.unread = Cargo.bytes held
  queue : c.queue = Cargo.attached held

theorem holds_new (limits : Limits) : (new limits : Connection δ).Holds limits [] :=
  ⟨Decoder.sound_new limits, rfl, rfl, rfl⟩

/-- Of a part from the front of some parcels those are handed on that are there as a whole, each with
what was passed along with it. -/
theorem handOn_of_prefix {limits : Limits} {parcels : List (Parcel δ)} {c : Connection δ}
    {held : Cargo δ} (hc : c.Holds limits held) (hf : ∀ p ∈ parcels, p.Fits limits)
    (hp : held <+: parcels.flatMap Parcel.cargo) :
    ∃ done left rest, parcels = done ++ left ∧ held = done.flatMap Parcel.cargo ++ rest ∧
      (∀ p ∈ left.head?, rest.length < p.cargo.length) ∧
      c.handOn.deliveries = done.map Parcel.delivery ∧ c.handOn.error = none ∧
      c.handOn.connection.Holds limits rest := by
  have hbytes : Cargo.bytes held <+: (parcels.map Parcel.record).flatMap Record.encode := by
    rw [← Parcel.bytes_flatMap_cargo]
    exact hp.map Prod.fst
  have hbuilt : ∀ r ∈ parcels.map Parcel.record, r.Built :=
    List.forall_mem_map.mpr fun p _ => p.built
  have hwithin : ∀ r ∈ parcels.map Parcel.record, r.Within limits :=
    List.forall_mem_map.mpr fun p hp => (hf p hp).within
  have hsize : ∀ r ∈ parcels.map Parcel.record, r.encode.length ≤ maxU64 :=
    List.forall_mem_map.mpr fun p hp => (hf p hp).size_le
  obtain ⟨_, _, restBytes, hrecords, hread, hshort, hscan⟩ :=
    Decoder.scan_of_prefix hbuilt hwithin hsize hbytes
  obtain ⟨done, left, rfl, rfl, rfl⟩ := List.map_eq_append_iff.mp hrecords
  rw [← Parcel.bytes_flatMap_cargo] at hread
  have hdone : done.flatMap Parcel.cargo <+: held := by
    apply List.prefix_of_prefix_length_le _ hp
    · rw [← Cargo.length_bytes, ← Cargo.length_bytes held, hread, List.length_append]
      omega
    · rw [List.flatMap_append]
      exact List.prefix_append _ _
  obtain ⟨rest, rfl⟩ := hdone
  have hrest : Cargo.bytes rest = restBytes := by
    rw [Cargo.bytes_append] at hread
    exact List.append_cancel_left hread
  obtain ⟨d, hall, hd⟩ := Decoder.decodeAll_eq_scan limits _ c.decoder hc.sound hc.limits hc.unread
  rw [hscan, List.map_map] at hall
  rw [hscan] at hd
  have hclaim : claimAll (done.map (Record.received ∘ Parcel.record)) c.queue =
      (done.map Parcel.delivery, Cargo.attached rest) := by
    rw [hc.queue]
    exact claimAll_received (fun p hp => hf p (List.mem_append_left left hp)) rest
  refine ⟨done, left, rest, rfl, rfl, ?_, ?_⟩
  · intro p hp
    rw [p.length_cargo, ← Cargo.length_bytes, hrest]
    apply hshort
    rw [List.head?_map, Option.mem_def.mp hp]
    rfl
  · have hhandOn := handOn_eq_decodeAll c
    rw [hall] at hhandOn
    dsimp only at hhandOn
    rw [hclaim] at hhandOn
    rw [hhandOn]
    exact ⟨rfl, rfl, hd.sound, hd.limits.trans hc.limits, hd.unread.trans hrest.symm, rfl⟩

def receiveAll (c : Connection δ) : List (Bytes × List δ) → Handover δ
  | [] => ⟨[], c, none⟩
  | r :: rs =>
    let first := c.receive r.1 r.2
    if first.error.isSome then first
    else
      let rest := receiveAll first.connection rs
      { rest with deliveries := first.deliveries ++ rest.deliveries }

/-- A read without an error is followed by the other reads of the connection as it then is. -/
theorem receiveAll_of_ok {c : Connection δ} {r : Bytes × List δ}
    (hok : (c.receive r.1 r.2).error = none) (rs : List (Bytes × List δ)) :
    c.receiveAll (r :: rs) =
      let first := c.receive r.1 r.2
      let rest := first.connection.receiveAll rs
      { rest with deliveries := first.deliveries ++ rest.deliveries } := by
  rw [receiveAll, hok]
  rfl

theorem receive_ok_of_receiveAll {c : Connection δ} {r : Bytes × List δ}
    {rs : List (Bytes × List δ)} (hok : (c.receiveAll (r :: rs)).error = none) :
    (c.receive r.1 r.2).error = none := by
  cases herr : (c.receive r.1 r.2).error with
  | none => rfl
  | some e =>
    rw [receiveAll, herr] at hok
    exact herr.symm.trans hok

/-- What a read brings is added to what a connection holds. -/
theorem Holds.push {c : Connection δ} {limits : Limits} {held : Cargo δ} (hc : c.Holds limits held)
    (piece : Cargo δ) :
    ({ c with decoder := c.decoder.push (Cargo.bytes piece),
              queue := c.queue ++ Cargo.attached piece } : Connection δ).Holds limits
      (held ++ piece) where
  sound := Decoder.sound_push hc.sound _
  limits := by rw [Decoder.limits_push, hc.limits]
  unread := by rw [Decoder.unread_push hc.sound, hc.unread, Cargo.bytes_append]
  queue := by rw [hc.queue, Cargo.attached_append]

/-- However the cargo of some parcels is cut into reads, every parcel is handed on with what was
passed along with it, and nothing is left over. -/
theorem receiveAll_of_pieces {limits : Limits} (pieces : List (Cargo δ)) {parcels : List (Parcel δ)}
    {c : Connection δ} {held : Cargo δ} (hc : c.Holds limits held)
    (hf : ∀ p ∈ parcels, p.Fits limits)
    (hcut : held ++ pieces.flatten = parcels.flatMap Parcel.cargo)
    (hshort : ∀ p ∈ parcels.head?, held.length < p.cargo.length) :
    let r := c.receiveAll (pieces.map fun p => (Cargo.bytes p, Cargo.attached p))
    r.deliveries = parcels.map Parcel.delivery ∧ r.error = none ∧ r.connection.Holds limits [] := by
  -- On the pieces. Between two reads the connection holds less than the next parcel.
  induction pieces generalizing parcels c held with
  | nil =>
    rw [List.flatten_nil, List.append_nil] at hcut
    cases parcels with
    | nil =>
      have hnil : held = [] := hcut
      rw [hnil] at hc
      exact ⟨rfl, rfl, hc⟩
    | cons p parcels =>
      have hlt := hshort p rfl
      rw [hcut, List.flatMap_cons, List.length_append] at hlt
      omega
  | cons piece pieces ih =>
    rw [List.flatten_cons, ← List.append_assoc] at hcut
    have hpart : held ++ piece <+: parcels.flatMap Parcel.cargo := ⟨pieces.flatten, hcut⟩
    obtain ⟨done, left, rest, rfl, hheld, hleft, hdeliveries, herror, hrest⟩ :=
      handOn_of_prefix (hc.push piece) hf hpart
    have hcut' : rest ++ pieces.flatten = left.flatMap Parcel.cargo := by
      rw [hheld, List.flatMap_append, List.append_assoc] at hcut
      exact List.append_cancel_left hcut
    have hmore := ih hrest (fun p hp => hf p (List.mem_append_right done hp)) hcut' hleft
    have hok : (c.receive (Cargo.bytes piece) (Cargo.attached piece)).error = none := herror
    rw [List.map_cons, receiveAll_of_ok hok]
    refine ⟨?_, hmore.2.1, hmore.2.2⟩
    rw [List.map_append, ← hdeliveries, ← hmore.1]
    rfl

end Connection

end LocalRecords
