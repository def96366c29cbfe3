import LocalRecords.Proofs.Record.Conservation

namespace LocalRecords

def Limits.longest (l : Limits) : Nat :=
  Header.size + 2 * delimiter.length + l.payload.toNat + l.metadata.toNat

theorem Limits.recordSize_le_longest {limits : Limits} {h : Header}
    (hpass : limits.check h = .ok ()) : h.recordSize ≤ limits.longest := by
  obtain ⟨hpayload, hmetadata⟩ := check_eq_ok_iff.mp hpass
  have hm : h.metadataLen.toNat ≤ limits.metadata.toNat := UInt64.le_iff_toNat_le.mp hmetadata
  rw [Header.recordSize, longest]
  by_cases ht : h.type.hasPayload = true
  · have hp : h.payloadLen.toNat ≤ limits.payload.toNat :=
      UInt64.le_iff_toNat_le.mp (hpayload ht)
    rw [if_pos ht]
    omega
  · rw [if_neg ht]
    omega

namespace Decoder

variable {d : Decoder}

/-- A decoder that asks for more bytes has less than the longest record unread. -/
theorem available_lt_longest (h : d.decode = .ok none) : d.available < d.limits.longest := by
  rw [decode] at h
  split at h
  next hshort =>
    have : Header.size ≤ d.limits.longest := by
      rw [Limits.longest]
      omega
    omega
  split at h
  · cases h
  next hdr needed ha =>
    split at h
    next hshort =>
      -- More bytes are asked for only once the header has passed the limits.
      obtain ⟨-, hpass, -, hneeded⟩ := announced_eq_ok_iff.mp ha
      have hle := Limits.recordSize_le_longest hpass
      omega
    · split at h <;> cases h

/-- Dropping what was returned leaves the unread bytes alone. -/
theorem available_compact (d : Decoder) : d.compact.available = d.available := by
  rw [available_eq_length, available_eq_length, unread_compact]

/-- What was returned and is kept is no longer than what is unread, or not worth dropping. -/
theorem position_compact_le (hd : d.Sound) :
    d.compact.position ≤ max minDropped d.available := by
  rw [compact]
  split
  · exact Nat.zero_le _
  next hkeep =>
    rw [Sound] at hd
    rw [available]
    omega

theorem size_eq_of_sound (hd : d.Sound) : d.buffer.size = d.position + d.available := by
  rw [Sound] at hd
  rw [available]
  omega

/-- After a push a decoder keeps, besides the unread bytes and the new ones, no more of what was
returned than 4096 bytes or as many as were unread. -/
theorem size_push_le (hd : d.Sound) (bytes : Bytes) :
    (d.push bytes).buffer.size ≤ d.available + max minDropped d.available + bytes.length := by
  have hpush : (d.push bytes).buffer.size = d.compact.buffer.size + bytes.length := by
    simp [push, ← Array.length_toList]
  have hsize := size_eq_of_sound (sound_compact hd)
  have hposition := position_compact_le hd
  rw [available_compact] at hsize
  omega

structure Drained (d : Decoder) (limits : Limits) : Prop where
  sound : d.Sound
  limits : d.limits = limits
  decode : d.decode = .ok none

theorem drained_new (limits : Limits) : (new limits).Drained limits :=
  ⟨sound_new limits, rfl, rfl⟩

theorem Drained.available_lt {limits : Limits} (h : d.Drained limits) :
    d.available < limits.longest := by
  rw [← h.limits]
  exact available_lt_longest h.decode

/-- Decoding until nothing more is found leaves less than a record, unless it ends in an error. -/
theorem drained_of_decodeAll (hd : d.Sound) (hok : d.decodeAll.2.2 = none) :
    d.decodeAll.2.1.Drained d.limits := by
  fun_induction decodeAll d with
  | case1 d e h => cases hok
  | case2 d h => exact ⟨hd, rfl, h⟩
  | case3 d r d' h rest ih =>
    have ht := ask_takes hd
    rw [ask, h] at ht
    cases ht with
    | record bytes regular admitted sound limits =>
      rw [← limits]
      exact ih sound hok

end Decoder

end LocalRecords
