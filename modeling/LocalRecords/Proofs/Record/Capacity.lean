import LocalRecords.Proofs.Record.Limits
import LocalRecords.Proofs.Settings.Bounds

/-!
How long a record may be that a decoder waits for. The largest limit that settings may set lets one
field fill the largest buffer there is. A record has two fields with limits, and nothing looks at
them together: one with both fields long is waited for although no buffer holds it.
-/

namespace LocalRecords

/-- The most bytes that one buffer holds: the largest signed 64-bit number. -/
def largestBuffer : Nat := Word.count 8 / 2 - 1

/-- With one field as long as a limit may be, a record is as long as the largest buffer. -/
theorem Limits.maxLimit_add_framing :
    maxLimit + (Header.size + 2 * delimiter.length) = largestBuffer := by decide

/-- Where its metadata is no longer than a limit may be, a record fits the largest buffer unless it
carries a payload that makes the two fields longer than that together. -/
theorem Header.recordSize_le_largestBuffer_iff {h : Header}
    (hmetadata : h.metadataLen.toNat ≤ Limits.maxLimit) :
    h.recordSize ≤ largestBuffer ↔
      (h.type.hasPayload = true →
        h.payloadLen.toNat + h.metadataLen.toNat ≤ Limits.maxLimit) := by
  have hframing := Limits.maxLimit_add_framing
  rw [recordSize]
  by_cases hp : h.type.hasPayload = true
  · rw [if_pos hp]
    constructor
    · intro hfits _
      omega
    · intro hsum
      have := hsum hp
      omega
  · rw [if_neg hp]
    constructor
    · intro _ hp'
      exact absurd hp' hp
    · intro _
      omega

namespace Decoder

/-- Taking a field off fails only for a delimiter that is not there. -/
theorem malformed_of_cut {u : Bytes} {len : Nat} {field : Field} {e : Failure}
    (h : cut u len field = .error e) : e = .malformed (.missingDelimiter field) := by
  rw [cut] at h
  split at h
  · cases h
  · cases h
    rfl

/-- A record that is there as a whole is refused for a missing delimiter only. -/
theorem malformed_of_fields {h : Header} {u : Bytes} {e : Failure} (hf : fields h u = .error e) :
    ∃ field, e = .malformed (.missingDelimiter field) := by
  rw [fields] at hf
  split at hf
  · rcases hp : cut u h.payloadLen.toNat .payload with e' | p
    · rw [hp] at hf
      cases hf
      exact ⟨.payload, malformed_of_cut hp⟩
    rcases hm : cut p.2 h.metadataLen.toNat .metadata with e' | q
    · simp only [hp, bind, Except.bind, hm] at hf
      cases hf
      exact ⟨.metadata, malformed_of_cut hm⟩
    · simp only [hp, bind, Except.bind, hm, pure, Except.pure] at hf
      cases hf
  · rcases hm : cut u h.metadataLen.toNat .metadata with e' | q
    · rw [hm] at hf
      cases hf
      exact ⟨.metadata, malformed_of_cut hm⟩
    · simp only [hm, bind, Except.bind, pure, Except.pure] at hf
      cases hf

variable {d : Decoder} {h : Header} {n : Nat}

/-- Once its header is accepted, a record is waited for until it is there as a whole, and then its
fields decide. -/
theorem decode_of_announced (hlen : Header.size ≤ d.available)
    (ha : announced d.limits (d.unread.take Header.size) = .ok (h, n)) :
    d.decode = if d.available < n then .ok none
      else (fields h (d.unread.drop Header.size)).map fun r =>
        some (r, { d with position := d.position + n }) := by
  have hheader : d.slice d.position Header.size = d.unread.take Header.size := d.slice_eq 0 _
  obtain ⟨-, -, -, rfl⟩ := announced_eq_ok_iff.mp ha
  rw [decode, if_neg (Nat.not_lt.mpr hlen), hheader, ha]
  dsimp only
  rw [body_eq]
  rcases fields h (d.unread.drop Header.size) with e | r
  · rfl
  · rfl

/-- A record whose header is accepted is waited for as long as fewer bytes are there than it
announces. -/
theorem decode_eq_none_iff_of_announced (hlen : Header.size ≤ d.available)
    (ha : announced d.limits (d.unread.take Header.size) = .ok (h, n)) :
    d.decode = .ok none ↔ d.available < n := by
  rw [decode_of_announced hlen ha]
  by_cases hshort : d.available < n
  · rw [if_pos hshort]
    exact iff_of_true rfl hshort
  · rw [if_neg hshort]
    apply iff_of_false _ hshort
    intro hnone
    rcases hf : fields h (d.unread.drop Header.size) with e | r
    · rw [hf] at hnone
      cases hnone
    · rw [hf] at hnone
      cases hnone

/-- Once its header is accepted, no length of a record is too large any more. -/
theorem decode_ne_oversize_of_announced (hlen : Header.size ≤ d.available)
    (ha : announced d.limits (d.unread.take Header.size) = .ok (h, n)) (field : Field)
    (len max : Nat) : d.decode ≠ .error (.oversize field len max) := by
  intro herror
  rw [decode_of_announced hlen ha] at herror
  split at herror
  · cases herror
  rcases hf : fields h (d.unread.drop Header.size) with e | r
  · obtain ⟨missing, rfl⟩ := malformed_of_fields hf
    rw [hf] at herror
    cases herror
  · rw [hf] at herror
    cases herror

/-- What is answered to a header that passes the limits of settings that were checked. The record is
waited for until it is there as a whole, and no length of it is refused. It is longer than the
largest buffer just if it carries a payload that is longer, together with the metadata, than one
field may be; then every decoder that there can be waits for it. Limits that come to no more than
the largest limit together let no such record pass. -/
theorem decode_awaits {c : Settings} (hc : c.validate = .ok ()) (hlimits : d.limits = c.limits)
    (hversion : h.version = formatVersion) (hpass : c.limits.check h = .ok ())
    (hstart : h.encode <+: d.unread) :
    let size := Header.size + h.following
    (d.decode = .ok none ↔ d.available < size) ∧
      (∀ field len max, d.decode ≠ .error (.oversize field len max)) ∧
      (size ≤ largestBuffer ↔
        (h.type.hasPayload = true →
          h.payloadLen.toNat + h.metadataLen.toNat ≤ Limits.maxLimit)) ∧
      (largestBuffer < size → d.buffer.size ≤ largestBuffer → d.decode = .ok none) ∧
      (c.limits.payload.toNat + c.limits.metadata.toNat ≤ Limits.maxLimit →
        size ≤ largestBuffer) := by
  intro size
  obtain ⟨-, -, hlargest⟩ := c.bounds_of_validate hc
  obtain ⟨hpayload, hmetadata⟩ := Limits.check_eq_ok_iff.mp hpass
  have hm : h.metadataLen.toNat ≤ c.limits.metadata.toNat := UInt64.le_iff_toNat_le.mp hmetadata
  -- The settings were checked, so that 64 bits count the record, and its length is exact.
  have hcounted : h.recordSize ≤ maxU64 :=
    Nat.le_trans (Limits.recordSize_le_longest hpass) (c.longest_le_of_validate hc)
  have hsize : size = h.recordSize := Header.size_add_following hcounted
  have hfront : d.unread.take Header.size = h.encode := by
    obtain ⟨more, hmore⟩ := hstart
    rw [← hmore]
    exact List.take_left' h.length_encode
  have hlen : Header.size ≤ d.available := by
    rw [available_eq_length, ← h.length_encode]
    exact hstart.length_le
  have ha : announced d.limits (d.unread.take Header.size) = .ok (h, size) := by
    rw [hfront, hlimits, hsize]
    exact Header.Admitted.announced ⟨hversion, hpayload, hmetadata, hcounted⟩
  have hawaited := decode_eq_none_iff_of_announced hlen ha
  have hfits := Header.recordSize_le_largestBuffer_iff (Nat.le_trans hm hlargest)
  rw [← hsize] at hfits
  refine ⟨hawaited, decode_ne_oversize_of_announced hlen ha, hfits, ?_, ?_⟩
  · intro hlong hbuffer
    apply hawaited.mpr
    calc d.available
        ≤ d.buffer.size := Nat.sub_le _ _
      _ ≤ largestBuffer := hbuffer
      _ < size := hlong
  · intro htogether
    apply hfits.mpr
    intro ht
    have hp : h.payloadLen.toNat ≤ c.limits.payload.toNat :=
      UInt64.le_iff_toNat_le.mp (hpayload ht)
    omega

/-- Limits that come to the largest limit together let a record pass that is as long as the largest
buffer, and some of it is there. -/
theorem decode_awaits_largest :
    let c : Settings := { path := [115], limits := ⟨9223372036854775776, 1⟩ }
    let h : Header := { type := .journal, payloadLen := 9223372036854775776, metadataLen := 1 }
    let d := (new c.limits).push (h.encode ++ [7, 7])
    c.validate = .ok () ∧ c.limits.check h = .ok () ∧ h.encode <+: d.unread ∧
      Header.size + h.following = largestBuffer ∧ d.decode = .ok none ∧
      ∀ field len max, d.decode ≠ .error (.oversize field len max) := by
  intro c h d
  have hc : c.validate = .ok () := rfl
  have hpass : c.limits.check h = .ok () := Limits.check_eq_ok_iff.mpr ⟨by decide, by decide⟩
  have hstart : h.encode <+: d.unread := by decide
  obtain ⟨hawaited, hpasses, -, -, -⟩ := decode_awaits hc rfl rfl hpass hstart
  have hsize : Header.size + h.following = largestBuffer := by decide
  refine ⟨hc, hpass, hstart, hsize, hawaited.mpr ?_, hpasses⟩
  rw [hsize]
  decide

/-- The settings were checked and either field is within its limit, but the record is one byte
longer than the largest buffer. Its header is answered with the wish for more bytes. -/
theorem decode_awaits_oneTooLong :
    let c : Settings := { path := [115], limits := ⟨9223372036854775777, 1⟩ }
    let h : Header := { type := .log, payloadLen := 9223372036854775777, metadataLen := 1 }
    let d := (new c.limits).push h.encode
    c.validate = .ok () ∧ c.limits.check h = .ok () ∧ d.unread = h.encode ∧
      Header.size + h.following = largestBuffer + 1 ∧ d.decode = .ok none := by
  intro c h d
  have hpass : c.limits.check h = .ok () := Limits.check_eq_ok_iff.mpr ⟨by decide, by decide⟩
  have hsize : h.recordSize = largestBuffer + 1 := by decide
  have hcounted : h.recordSize ≤ maxU64 := by
    rw [hsize]
    decide
  have hadmitted : h.Admitted c.limits := ⟨rfl, by decide, by decide, hcounted⟩
  have hunread : d.unread = h.encode := by decide
  have hshort : d.unread.length < h.recordSize := by
    rw [hsize, hunread, h.length_encode]
    decide
  have hstart : h.encode <+: d.unread := by
    refine ⟨[], ?_⟩
    rw [hunread, List.append_nil]
  have hlimits : d.limits = c.limits := limits_push _ _
  have hnone : d.decode = .ok none := by
    apply decode_of_none (sound_push (sound_new c.limits) h.encode)
    rw [hlimits]
    exact front_of_short hadmitted (.inr hstart) hshort
  exact ⟨rfl, hpass, hunread, (Header.size_add_following hcounted).trans hsize, hnone⟩

end Decoder

end LocalRecords
