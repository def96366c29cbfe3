import LocalRecords.Proofs.Record.Unread

namespace LocalRecords

namespace Segment

theorem length_encode (s : Segment) : s.encode.length = s.size := by
  cases s with
  | short v => exact Word.length_toBytes 2 v.toNat
  | int v => exact Word.length_toBytes 4 v.toNat
  | long v => exact Word.length_toBytes 8 v.toNat
  | bytes v => rfl
  | text v => simp [encode, size, Utf8.encode]

theorem length_joined (segments : List Segment) :
    (joined segments).length = sumOf size segments := by
  induction segments with
  | nil => rfl
  | cons s rest ih =>
    have hcons : joined (s :: rest) = s.encode ++ joined rest := rfl
    rw [hcons, List.length_append, length_encode, ih, sumOf]

end Segment

namespace Header

@[simp] theorem length_encode (h : Header) : h.encode.length = Header.size := by
  simp [encode, Header.size]

/-- A header of the version spoken here is read back from its bytes. -/
theorem decode_encode {h : Header} (hv : h.version = formatVersion) :
    decode h.encode = .ok h := by
  obtain ⟨version, type, payloadLen, metadataLen⟩ := h
  have h16 (n : UInt16) : UInt16.ofNat (Word.ofBytes (Word.toBytes 2 n.toNat)) = n := by
    rw [Word.ofBytes_toBytes n.toNat_lt, UInt16.ofNat_toNat]
  have h64 (n : UInt64) : UInt64.ofNat (Word.ofBytes (Word.toBytes 8 n.toNat)) = n := by
    rw [Word.ofBytes_toBytes n.toNat_lt, UInt64.ofNat_toNat]
  have h4 (a b : Nat) (rest : Bytes) :
      (Word.toBytes 2 a ++ (Word.toBytes 2 b ++ rest)).drop 4 = rest := by
    rw [← List.append_assoc]
    exact List.drop_left' (by simp)
  have h12 (a b c : Nat) (rest : Bytes) :
      (Word.toBytes 2 a ++ (Word.toBytes 2 b ++ (Word.toBytes 8 c ++ rest))).drop 12 = rest := by
    rw [← List.append_assoc, ← List.append_assoc]
    exact List.drop_left' (by simp)
  have hlast : (Word.toBytes 8 metadataLen.toNat).take 8 = Word.toBytes 8 metadataLen.toNat :=
    List.take_of_length_le (by simp)
  -- Field by field: each is taken off the front of what the fields before it leave.
  simp only [encode, decode, List.append_assoc]
  rw [List.take_left' (Word.length_toBytes 2 _), List.drop_left' (Word.length_toBytes 2 _),
    List.take_left' (Word.length_toBytes 2 _), h16, h16, if_neg (fun hn => hn hv),
    RecordType.ofCode_code, h4, h12, List.take_left' (Word.length_toBytes 8 _), hlast, h64, h64]

structure Admitted (h : Header) (limits : Limits) : Prop where
  version : h.version = formatVersion
  payload_le : h.type.hasPayload = true → h.payloadLen ≤ limits.payload
  metadata_le : h.metadataLen ≤ limits.metadata
  size_le : h.recordSize ≤ maxU64

theorem Admitted.check {h : Header} {limits : Limits} (ha : h.Admitted limits) :
    limits.check h = .ok () :=
  Limits.check_eq_ok_iff.mpr ⟨ha.payload_le, ha.metadata_le⟩

/-- The header of a record within the limits announces the exact length of the record. -/
theorem Admitted.announced {h : Header} {limits : Limits} (ha : h.Admitted limits) :
    Decoder.announced limits h.encode = .ok (h, h.recordSize) :=
  Decoder.announced_eq_ok_iff.mpr ⟨decode_encode ha.version, ha.check, ha.size_le, rfl⟩

end Header

namespace WireRecord

def encode (w : WireRecord) : Bytes :=
  w.header.encode ++ ((if w.header.type.hasPayload then w.payload ++ delimiter else []) ++
    (w.metadata ++ delimiter))

structure Regular (w : WireRecord) : Prop where
  payload : w.payload.length = if w.header.type.hasPayload then w.header.payloadLen.toNat else 0
  metadata : w.metadata.length = w.header.metadataLen.toNat

theorem header_isPrefix (w : WireRecord) : w.header.encode <+: w.encode := List.prefix_append _ _

/-- A record that keeps to its header is as long as the header announces. -/
theorem Regular.length_encode {w : WireRecord} (hw : w.Regular) :
    w.encode.length = w.header.recordSize := by
  rw [encode, Header.recordSize]
  simp only [List.length_append, Header.length_encode, hw.metadata]
  split
  · next hp =>
    rw [List.length_append, hw.payload, if_pos hp]
    omega
  · rw [List.length_nil]
    omega

end WireRecord

namespace Decoder

theorem cut_delimited (x v : Bytes) (field : Field) :
    cut (x ++ (delimiter ++ v)) x.length field = .ok (x, v) := by
  rw [cut, List.drop_left, List.take_left, if_pos rfl, List.take_left, ← List.drop_drop,
    List.drop_left, List.drop_left]

/-- The fields of a record that keeps to its header are read back from what follows the header. -/
theorem fields_body {w : WireRecord} (hw : w.Regular) (v : Bytes) :
    fields w.header ((if w.header.type.hasPayload then w.payload ++ delimiter else []) ++
      (w.metadata ++ delimiter) ++ v) = .ok w := by
  obtain ⟨h, payload, metadata⟩ := w
  have hm : metadata.length = h.metadataLen.toNat := hw.metadata
  rw [fields]
  by_cases hp : h.type.hasPayload = true
  · have hl : payload.length = h.payloadLen.toNat := by
      have := hw.payload
      rwa [if_pos hp] at this
    simp only [if_pos hp, List.append_assoc, ← hl, ← hm, cut_delimited, bind, Except.bind]
    rfl
  · have hl : payload = [] := by
      have := hw.payload
      rw [if_neg hp] at this
      exact List.length_eq_zero_iff.mp this
    simp only [if_neg hp, List.nil_append, List.append_assoc, ← hm, cut_delimited, bind,
      Except.bind, hl]
    rfl

/-- The bytes of a record, whatever follows them, are read back as the record. -/
theorem front_encode {w : WireRecord} {limits : Limits} (hw : w.Regular)
    (ha : w.header.Admitted limits) (v : Bytes) :
    front limits (w.encode ++ v) = .ok (some (w, v)) := by
  have hlen : (w.encode ++ v).length = w.header.recordSize + v.length := by
    rw [List.length_append, hw.length_encode]
  have hsize := w.header.size_le_recordSize
  have ht : (w.encode ++ v).take Header.size = w.header.encode := by
    rw [WireRecord.encode, List.append_assoc]
    exact List.take_left' w.header.length_encode
  have hd : (w.encode ++ v).drop Header.size =
      (if w.header.type.hasPayload then w.payload ++ delimiter else []) ++
        (w.metadata ++ delimiter) ++ v := by
    rw [WireRecord.encode, List.append_assoc]
    exact List.drop_left' w.header.length_encode
  have hrest : (w.encode ++ v).drop w.header.recordSize = v := List.drop_left' hw.length_encode
  rw [front, if_neg (by omega), ht, ha.announced]
  simp only
  rw [if_neg (by omega), hd, fields_body hw, hrest]

/-- Fewer bytes than a header announces are no record yet, and no error. -/
theorem front_of_short {h : Header} {limits : Limits} (ha : h.Admitted limits) {u : Bytes}
    (hu : u <+: h.encode ∨ h.encode <+: u) (hs : u.length < h.recordSize) :
    front limits u = .ok none := by
  rw [front]
  by_cases hlen : u.length < Header.size
  · rw [if_pos hlen]
  · have hpre : h.encode <+: u := by
      rcases hu with hu | hu
      · have he : u = h.encode := hu.eq_of_length_le (by rw [Header.length_encode]; omega)
        exact he ▸ List.prefix_rfl
      · exact hu
    obtain ⟨more, rfl⟩ := hpre
    rw [if_neg hlen, List.take_left' h.length_encode, ha.announced]
    simp only
    rw [if_pos hs]

end Decoder

end LocalRecords
