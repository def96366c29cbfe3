import LocalRecords.Proofs.Record.Conservation
import LocalRecords.Proofs.Record.RoundTrip

namespace LocalRecords

namespace Header

/-- A header is read back from its bytes exactly if its version is the one spoken here. -/
theorem decode_encode_iff {h : Header} : decode h.encode = .ok h ↔ h.version = formatVersion := by
  constructor
  · intro hd
    exact version_of_decode hd
  · intro hv
    exact decode_encode hv

end Header

namespace RecordType

theorem hasPayload_iff (type : RecordType) : type.hasPayload = true ↔ type ≠ .passedJournal := by
  cases type with
  | passedJournal => exact iff_of_false Bool.false_ne_true fun h => h rfl
  | log => exact iff_of_true rfl RecordType.noConfusion
  | audit => exact iff_of_true rfl RecordType.noConfusion
  | journal => exact iff_of_true rfl RecordType.noConfusion

end RecordType

namespace Record

/-- After the header come payload and delimiter, but for a journal that is passed, then metadata and
delimiter. -/
theorem encode_eq_append (r : Record) :
    r.encode = r.header.encode ++
      ((if r.type = .passedJournal then [] else r.payload ++ delimiter) ++
        (r.metadata ++ delimiter)) := by
  rw [encode_eq_received, WireRecord.encode]
  apply congrArg (r.header.encode ++ ·)
  apply congrArg (· ++ (r.metadata ++ delimiter))
  change (if r.type.hasPayload then r.payload ++ delimiter else []) = _
  by_cases ht : r.type = .passedJournal
  · rw [if_pos ht, if_neg fun hp => r.type.hasPayload_iff.mp hp ht]
  · rw [if_neg ht, if_pos (r.type.hasPayload_iff.mpr ht)]

theorem payload_length_le (r : Record) (ht : r.type.hasPayload = true) :
    r.payload.length ≤ r.encode.length := by
  rw [encode_eq_append, if_neg (r.type.hasPayload_iff.mp ht)]
  simp only [List.length_append]
  omega

theorem metadata_length_le (r : Record) : r.metadata.length ≤ r.encode.length := by
  rw [encode_eq_append]
  simp only [List.length_append]
  omega

/-- The lengths of a record and of what its header announces are the same number, unless it is too
large for 64 bits. -/
theorem Built.length_encode {r : Record} (hb : r.Built) (hlt : r.encode.length < UInt64.size) :
    r.encode.length = Header.size + r.header.following := by
  have hmetadata := Nat.lt_of_le_of_lt r.metadata_length_le hlt
  have hpayload : r.payload.length < UInt64.size := by
    by_cases ht : r.type.hasPayload = true
    · exact Nat.lt_of_le_of_lt (r.payload_length_le ht) hlt
    · have hnil : r.payload = [] := by
        cases hb with
        | inline type payload metadata => exact if_neg ht
        | behindDescriptor payloadLen metadata => rfl
      rw [hnil]
      exact Nat.zero_lt_succ _
  have hsize := Record.length_encode (hb.regular_of_lt hpayload hmetadata)
  have hle : r.header.recordSize ≤ maxU64 := by
    rw [← hsize]
    exact Nat.le_pred_of_lt hlt
  rw [hsize, Header.size_add_following hle]

/-- However a record is made, its bytes are the bytes of its header, then payload and delimiter
unless its type has none, then metadata and delimiter. They are as many as its segments count one by
one and, if 64 bits count them, as its header announces. A header is read back from its bytes
exactly if it has the version spoken here, and bytes that are read as a header are its bytes. -/
theorem layouts_agree {r : Record} (hb : r.Built) :
    r.encode = r.header.encode ++
        ((if r.type = .passedJournal then [] else r.payload ++ delimiter) ++
          (r.metadata ++ delimiter)) ∧
      r.header.encode.length = Header.size ∧
      r.encode.length = r.size ∧
      r.size = sumOf Segment.size r.segments ∧ (∀ s ∈ r.segments, s.encode.length = s.size) ∧
      (r.encode.length < UInt64.size → r.encode.length = Header.size + r.header.following) ∧
      (∀ h : Header, Header.decode h.encode = .ok h ↔ h.version = 1) ∧
      ∀ (bytes : Bytes) (h : Header), bytes.length = Header.size →
        Header.decode bytes = .ok h → h.encode = bytes := by
  have hlen : r.encode.length = r.size := Segment.length_joined r.segments
  refine ⟨r.encode_eq_append, Header.length_encode _, hlen, rfl, ?_, hb.length_encode, ?_, ?_⟩
  · intro s _
    exact s.length_encode
  · intro h
    exact Header.decode_encode_iff
  · intro bytes h hbytes hd
    exact Header.encode_of_decode hbytes hd

/-- A journal that is passed announces the largest length there is and takes up none of it. -/
theorem layouts_agree_passed :
    let r := behindDescriptor 18446744073709551615 delimiter
    let foreign : Header := { r.header with version := 2 }
    r.Built ∧ r.encode.length < UInt64.size ∧ r.encode.length = Header.size + r.header.following ∧
      r.encode.length = 30 ∧ Header.decode r.header.encode = .ok r.header ∧
      Header.decode foreign.encode ≠ .ok foreign := by
  intro r foreign
  have hb : r.Built := .behindDescriptor _ _
  obtain ⟨-, -, -, -, -, hfollowing, hheader, -⟩ := layouts_agree hb
  have hlt : r.encode.length < UInt64.size := by decide
  refine ⟨hb, hlt, hfollowing hlt, by decide, (hheader r.header).mpr rfl, ?_⟩
  intro hd
  have htwo : (2 : UInt16) = 1 := (hheader foreign).mp hd
  exact absurd htwo (by decide)

end Record

end LocalRecords
