import LocalRecords.Proofs.Record.Streaming
import LocalRecords.Record.Emission

namespace LocalRecords

variable {σ ρ : Type}

@[simp] theorem isFatal_failedAfter (sent total : Nat) (source : IoError) :
    (failedAfter sent total source).isFatal = decide (sent ≠ 0) := by
  rw [failedAfter]
  by_cases h : sent = 0
  · rw [if_pos h]
    simp [Failure.isFatal, h]
  · rw [if_neg h]
    simp [Failure.isFatal, h]

/-- What sending the record `w` left on the wire. -/
inductive Sending.Leaves (r : Sending σ) (w : WireRecord) : Prop
  | record (outcome : r.outcome = .ok w.encode.length) (taken : r.taken = w.encode)
      (regular : w.Regular)
  | nothing (e : Failure) (outcome : r.outcome = .error e) (harmless : e.isFatal = false)
      (taken : r.taken = [])
  | part (e : Failure) (outcome : r.outcome = .error e) (fatal : e.isFatal = true)
      (start : r.taken <+: w.encode)
      (short : r.taken.length < w.header.recordSize)

/-- An error that counts the bytes taken is fatal exactly if there are some. -/
theorem Sending.leaves_of_failedAfter {r : Sending σ} {w : WireRecord} {total : Nat}
    {source : IoError} (ho : r.outcome = .error (failedAfter r.taken.length total source))
    (hstart : r.taken <+: w.encode) (hshort : r.taken.length < w.header.recordSize) : r.Leaves w := by
  by_cases ht : r.taken = []
  · exact .nothing _ ho (by simp [ht]) ht
  · exact .part _ ho (by simp [ht]) hstart hshort

theorem WireRecord.encode_of_hasPayload {w : WireRecord} (hp : w.header.type.hasPayload = true) :
    w.encode = w.header.encode ++ (w.payload ++ (delimiter ++ (w.metadata ++ delimiter))) := by
  rw [encode, if_pos hp, List.append_assoc]

theorem WireRecord.length_encode_of_hasPayload {w : WireRecord}
    (hp : w.header.type.hasPayload = true) :
    w.encode.length = w.header.encode.length + w.payload.length +
      (delimiter ++ (w.metadata ++ delimiter)).length := by
  rw [encode_of_hasPayload hp, List.length_append, List.length_append, Nat.add_assoc]

-- A record can break off in its header, in its payload and behind it. In each place what was taken
-- lacks a delimiter at least, so it is shorter than the header announces.
/-- A record that breaks off in its header leaves a part that is no record. -/
theorem Sending.leaves_of_header {r : Sending σ} {w : WireRecord} {total : Nat} {source : IoError}
    (ho : r.outcome = .error (failedAfter r.taken.length total source))
    (hstart : r.taken <+: w.header.encode) (hshort : r.taken.length < w.header.encode.length) :
    r.Leaves w := by
  refine leaves_of_failedAfter ho (hstart.trans w.header_isPrefix) ?_
  calc r.taken.length
      < w.header.encode.length := hshort
    _ = Header.size := w.header.length_encode
    _ ≤ w.header.recordSize := w.header.size_le_recordSize

/-- A record that breaks off in its payload leaves a part that is no record. -/
theorem Sending.leaves_of_payload {r : Sending σ} {w : WireRecord} {bytes : Bytes} {total : Nat}
    {source : IoError} (hp : w.header.type.hasPayload = true)
    (ho : r.outcome = .error (failedAfter r.taken.length total source))
    (ht : r.taken = w.header.encode ++ bytes) (hb : bytes <+: w.payload)
    (hl : w.payload.length ≤ w.header.payloadLen.toNat) : r.Leaves w := by
  refine leaves_of_failedAfter ho ?_ ?_
  · rw [ht, WireRecord.encode_of_hasPayload hp, List.prefix_append_right_inj]
    exact hb.trans (List.prefix_append _ _)
  · have hd : delimiter.length = 5 := rfl
    have hle := hb.length_le
    rw [ht, List.length_append, Header.recordSize, if_pos hp, Header.length_encode]
    omega

/-- A record that breaks off behind its payload leaves a part that is no record. -/
theorem Sending.leaves_of_tail {r : Sending σ} {w : WireRecord} {part : Bytes} {total : Nat}
    {source : IoError} (hw : w.Regular) (hp : w.header.type.hasPayload = true)
    (ho : r.outcome = .error (failedAfter r.taken.length total source))
    (ht : r.taken = w.header.encode ++ (w.payload ++ part))
    (hstart : part <+: delimiter ++ (w.metadata ++ delimiter))
    (hshort : part.length < (delimiter ++ (w.metadata ++ delimiter)).length) : r.Leaves w := by
  have hencode := WireRecord.encode_of_hasPayload hp
  refine leaves_of_failedAfter ho ?_ ?_
  · rw [ht, hencode, List.prefix_append_right_inj, List.prefix_append_right_inj]
    exact hstart
  · rw [← hw.length_encode, ht, hencode]
    simp only [List.length_append] at hshort ⊢
    omega

def Streaming.sending (x : Streaming σ ρ Nat) : Sending σ := ⟨x.state, x.calls, x.outcome⟩

def Source.record (source : Source ρ) (r : ρ) (type : RecordType) (payloadLen : UInt64)
    (metadata : Bytes) : WireRecord where
  header := { type := type, payloadLen := payloadLen, metadataLen := UInt64.ofNat metadata.length }
  payload := source.given r payloadLen.toNat
  metadata := metadata

theorem Source.regular_record {source : Source ρ} {r : ρ} {type : RecordType}
    {payloadLen : UInt64} {metadata : Bytes} (hp : type.hasPayload = true)
    (hg : (source.given r payloadLen.toNat).length = payloadLen.toNat)
    (hm : metadata.length < UInt64.size) :
    (source.record r type payloadLen metadata).Regular where
  payload := hg.trans (if_pos hp).symm
  metadata := (UInt64.toNat_ofNat_of_lt' hm).symm

namespace Sink

variable (sink : Sink σ)

/-- An honest sink is left with the record, with nothing, or with a part from its front that no
receiver takes for a record. -/
theorem emitWith_leaves (hs : sink.Honest) (s : σ) {r : Record} (hr : r.received.Regular)
    (descriptors : List DescriptorNumber) : (sink.emitWith s r descriptors).Leaves r.received := by
  have hsize : r.encode.length = r.received.header.recordSize := Record.length_encode hr
  have hc := sink.sendPiece_carries hs s (r.segments.map Segment.encode)
    (some (Control.encode descriptors)) 0 (sumOf List.length (r.segments.map Segment.encode))
  change (sink.emitWith s r descriptors).Carries r.encode _ 0 _ 0 at hc
  cases hc with
  | whole outcome taken calls =>
    rw [Nat.zero_add] at outcome
    rw [Record.encode_eq_received] at outcome taken
    exact .record outcome taken hr
  | broken source outcome ended taken short =>
    rw [Nat.add_zero, Nat.zero_add] at outcome
    refine Sending.leaves_of_failedAfter outcome (Record.encode_eq_received r ▸ taken) ?_
    rw [← hsize]
    rcases short with short | ⟨hnil, -⟩
    · exact short
    · have := r.received.header.size_le_recordSize
      rw [← hsize, hnil] at this
      cases this

theorem emitFrom_leaves (hs : sink.Honest) (source : Source ρ) (s : σ) (r : ρ)
    (type : RecordType) (payloadLen : UInt64) {metadata : Bytes}
    (hm : metadata.length < UInt64.size) :
    (sink.emitFrom source s r type payloadLen metadata).sending.Leaves
      (source.record r type payloadLen metadata) := by
  by_cases htype : type.hasPayload = false
  · rw [emitFrom, if_pos htype]
    exact .nothing _ rfl rfl rfl
  replace htype : type.hasPayload = true := (Bool.not_eq_false type.hasPayload).mp htype
  have hpayload : (source.record r type payloadLen metadata).header.type.hasPayload = true := htype
  have hfits : (source.given r payloadLen.toNat).length ≤ payloadLen.toNat :=
    source.length_given_le r payloadLen.toNat
  have hregular (hg : (source.given r payloadLen.toNat).length = payloadLen.toNat) :
      (source.record r type payloadLen metadata).Regular := Source.regular_record htype hg hm
  have hemits := sink.emitFrom_emits source hs s r htype payloadLen metadata
  generalize sink.emitFrom source s r type payloadLen metadata = m at hemits ⊢
  cases hemits with
  | unheaded cause asked state outcome start short calls =>
    exact Sending.leaves_of_header outcome start short
  | broken before last cause reads outcome breaks =>
    cases breaks with
    | header asked start short calls => exact Sending.leaves_of_header outcome start short
    | chunk chunk part taken start short calls =>
      have hgiven : Source.supplied before ++ chunk <+: source.given r payloadLen.toNat := by
        have := reads.start
        simpa [Source.supplied, Source.brought] using this
      refine Sending.leaves_of_payload hpayload outcome taken ?_ hfits
      exact ((List.prefix_append_right_inj _).mpr start).trans hgiven
    | failed hard short taken calls =>
      have hall := reads.all (by simpa [Source.goesOn] using hard)
      exact Sending.leaves_of_payload hpayload outcome taken (hall ▸ List.prefix_rfl) hfits
    | ended early short taken calls =>
      have hall := reads.all (by simp [Source.goesOn])
      exact Sending.leaves_of_payload hpayload outcome taken (hall ▸ List.prefix_rfl) hfits
    | tail part length taken start short calls =>
      have hall := reads.all (by simp)
      rw [← hall] at length taken
      exact Sending.leaves_of_tail (hregular length) hpayload outcome taken start short
  | whole before reads length outcome taken =>
    have hall := reads.all (by simp)
    rw [← hall] at length taken
    have hencode : m.taken = (source.record r type payloadLen metadata).encode :=
      taken.trans (WireRecord.encode_of_hasPayload hpayload).symm
    exact .record (hencode ▸ outcome) hencode (hregular length)

end Sink

end LocalRecords
