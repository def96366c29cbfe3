import LocalRecords.Proofs.Record.Layout

namespace LocalRecords

namespace Record

/-- A record as one of its two makers gives it. -/
inductive Built : Record → Prop
  | inline (type : RecordType) (payload metadata : Bytes) : Built (.inline type payload metadata)
  | behindDescriptor (payloadLen : UInt64) (metadata : Bytes) :
    Built (.behindDescriptor payloadLen metadata)

/-- What travels in a record is within the limits of a decoder. -/
structure Within (r : Record) (limits : Limits) : Prop where
  payload_le : r.payload.length ≤ limits.payload.toNat
  metadata_le : r.metadata.length ≤ limits.metadata.toNat

def received (r : Record) : WireRecord where
  header := r.header
  payload := r.payload
  metadata := r.metadata

/-- The segments of a record make up the layout that its receiver expects. -/
theorem encode_eq_received (r : Record) : r.encode = r.received.encode := by
  rw [encode, Segment.joined, segments, WireRecord.encode]
  simp only [received, Header.encode, header]
  by_cases hp : r.type.hasPayload = true
  · simp [hp, Segment.encode, List.append_assoc]
  · simp [hp, Segment.encode, List.append_assoc]

theorem header_isPrefix (r : Record) : r.header.encode <+: r.encode := by
  rw [encode_eq_received]
  exact r.received.header_isPrefix

theorem length_encode {r : Record} (hr : r.received.Regular) :
    r.encode.length = r.header.recordSize := by
  rw [encode_eq_received]
  exact hr.length_encode

theorem metadataLen_header {r : Record} {limits : Limits} (hw : r.Within limits) :
    r.header.metadataLen.toNat = r.metadata.length :=
  UInt64.toNat_ofNat_of_lt' (Nat.lt_of_le_of_lt hw.metadata_le limits.metadata.toNat_lt)

/-- The header of a record announces what travels in it, if 64 bits count that. -/
theorem Built.regular_of_lt {r : Record} (hb : r.Built) (hp : r.payload.length < UInt64.size)
    (hm : r.metadata.length < UInt64.size) : r.received.Regular := by
  refine ⟨?_, (UInt64.toNat_ofNat_of_lt' hm).symm⟩
  cases hb with
  | inline type payload metadata =>
    change (if type.hasPayload then payload else []).length < UInt64.size at hp
    change (if type.hasPayload then payload else []).length =
      if type.hasPayload then (UInt64.ofNat payload.length).toNat else 0
    by_cases ht : type.hasPayload = true
    · rw [if_pos ht] at hp ⊢
      rw [if_pos ht]
      exact (UInt64.toNat_ofNat_of_lt' hp).symm
    · rw [if_neg ht, if_neg ht, List.length_nil]
  | behindDescriptor payloadLen metadata => rfl

/-- A record as its makers give it keeps to its header. -/
theorem Built.regular {r : Record} (hb : r.Built) {limits : Limits} (hw : r.Within limits) :
    r.received.Regular :=
  hb.regular_of_lt (Nat.lt_of_le_of_lt hw.payload_le limits.payload.toNat_lt)
    (Nat.lt_of_le_of_lt hw.metadata_le limits.metadata.toNat_lt)

/-- A record within the limits, and short enough to be counted, has a header that passes them. -/
theorem Built.admitted {r : Record} (hb : r.Built) {limits : Limits} (hw : r.Within limits)
    (hs : r.encode.length ≤ maxU64) : r.header.Admitted limits := by
  have hr := hb.regular hw
  refine ⟨rfl, ?_, ?_, ?_⟩
  · intro hp
    have hl : r.payload.length = r.header.payloadLen.toNat := hr.payload.trans (if_pos hp)
    rw [UInt64.le_iff_toNat_le, ← hl]
    exact hw.payload_le
  · rw [UInt64.le_iff_toNat_le, metadataLen_header hw]
    exact hw.metadata_le
  · rwa [length_encode hr] at hs

end Record

namespace Decoder

/-- Scanning a part from the front of a stream of records finds those that are whole in it. -/
theorem scan_of_prefix {limits : Limits} {records : List Record} {p : Bytes}
    (hb : ∀ r ∈ records, r.Built) (hw : ∀ r ∈ records, r.Within limits)
    (hs : ∀ r ∈ records, r.encode.length ≤ maxU64) (hp : p <+: records.flatMap Record.encode) :
    ∃ done left rest, records = done ++ left ∧ p = done.flatMap Record.encode ++ rest ∧
      (∀ r ∈ left.head?, rest.length < r.encode.length) ∧
      scan limits p = (done.map Record.received, rest, none) := by
  induction records generalizing p with
  | nil =>
    have hnil : p = [] := List.prefix_nil.mp hp
    exact ⟨[], [], [], rfl, hnil, by simp, hnil ▸ scan_nil limits⟩
  | cons r records ih =>
    rw [List.flatMap_cons] at hp
    have hr := (hb r List.mem_cons_self).regular (hw r List.mem_cons_self)
    have ha := (hb r List.mem_cons_self).admitted (hw r List.mem_cons_self)
      (hs r List.mem_cons_self)
    by_cases hlen : r.encode.length ≤ p.length
    -- The first record is whole in `p`; the rest of `p` is a part of the others.
    · obtain ⟨q, rfl⟩ := List.prefix_of_prefix_length_le (List.prefix_append _ _) hp hlen
      have hq := (List.prefix_append_right_inj r.encode).mp hp
      obtain ⟨done, left, rest, hrec, hbytes, hleft, hscan⟩ := ih
        (fun r' h => hb r' (List.mem_cons_of_mem r h))
        (fun r' h => hw r' (List.mem_cons_of_mem r h))
        (fun r' h => hs r' (List.mem_cons_of_mem r h)) hq
      refine ⟨r :: done, left, rest, by rw [hrec]; rfl, ?_, hleft, ?_⟩
      · rw [hbytes, List.flatMap_cons, List.append_assoc]
      · have hf : front limits (r.encode ++ q) = .ok (some (r.received, q)) := by
          rw [Record.encode_eq_received]
          exact front_encode hr ha q
        rw [scan_of_record hf, hscan]
        rfl
    · have hpre : p <+: r.encode :=
        List.prefix_of_prefix_length_le hp (List.prefix_append _ _) (by omega)
      have hsize : r.encode.length = r.header.recordSize := Record.length_encode hr
      have hf : front limits p = .ok none :=
        front_of_short ha (List.prefix_or_prefix_of_prefix hpre r.header_isPrefix) (by omega)
      refine ⟨[], r :: records, p, rfl, rfl, ?_, scan_of_none hf⟩
      intro r' hr'
      cases hr'
      omega

/-- Of any part `p` from the front of a stream of records exactly the records come out that are
whole in it, as they were made, and never an error; the bytes after the last of them stay. That a
record has no more bytes than 64 bits count is what having it in memory means. -/
theorem decodeAll_of_prefix {limits : Limits} {records : List Record} {p : Bytes}
    (hb : ∀ r ∈ records, r.Built) (hw : ∀ r ∈ records, r.Within limits)
    (hs : ∀ r ∈ records, r.encode.length ≤ maxU64) (hp : p <+: records.flatMap Record.encode) :
    ∃ done left d, records = done ++ left ∧
      ((new limits).push p).decodeAll = (done.map Record.received, d, none) ∧
      p = done.flatMap Record.encode ++ d.unread ∧
      d.available = p.length - (done.flatMap Record.encode).length ∧
      (∀ r ∈ left.head?, d.available < r.encode.length) := by
  obtain ⟨done, left, rest, hrec, hbytes, hleft, hscan⟩ := scan_of_prefix hb hw hs hp
  obtain ⟨d, hall, hunread⟩ := decodeAll_push_new limits p
  rw [hscan] at hall hunread
  have hav : d.available = rest.length := by rw [available_eq_length, hunread]
  refine ⟨done, left, d, hrec, hall, hunread ▸ hbytes, ?_, ?_⟩
  · rw [hav, hbytes, List.length_append]
    omega
  · intro r hr
    rw [hav]
    exact hleft r hr

/-- A record whose payload is a delimiter, one that announces a payload it does not carry, and nine
bytes of a third. -/
theorem decodeAll_of_prefix_cut :
    let records : List Record := [.inline .log delimiter [7], .inline .passedJournal [1, 2] [],
      .behindDescriptor 9 delimiter]
    let p := (records.flatMap Record.encode).take 70
    (∀ r ∈ records, r.Built) ∧ (∀ r ∈ records, r.Within {}) ∧
      (∀ r ∈ records, r.encode.length ≤ maxU64) ∧ p <+: records.flatMap Record.encode ∧
      ∃ done left d, records = done ++ left ∧
        ((new {}).push p).decodeAll = (done.map Record.received, d, none) ∧
        p = done.flatMap Record.encode ++ d.unread := by
  intro records p
  have hb : ∀ r ∈ records, r.Built := by
    intro r hr
    simp only [records, List.mem_cons, List.not_mem_nil, or_false] at hr
    rcases hr with rfl | rfl | rfl
    · exact .inline _ _ _
    · exact .inline _ _ _
    · exact .behindDescriptor _ _
  have hw : ∀ r ∈ records, r.Within {} := by
    intro r hr
    simp only [records, List.mem_cons, List.not_mem_nil, or_false] at hr
    rcases hr with rfl | rfl | rfl <;> exact ⟨by decide, by decide⟩
  have hs : ∀ r ∈ records, r.encode.length ≤ maxU64 := by decide
  have hp : p <+: records.flatMap Record.encode := List.take_prefix _ _
  obtain ⟨done, left, d, hrec, hall, hbytes, -⟩ := decodeAll_of_prefix hb hw hs hp
  exact ⟨hb, hw, hs, hp, done, left, d, hrec, hall, hbytes⟩

end Decoder

end LocalRecords
