import LocalRecords.Proofs.Message.Datagram
import LocalRecords.Proofs.Record.Conservation
import LocalRecords.Proofs.Record.Emission
import LocalRecords.Proofs.Server.Connection

namespace LocalRecords

variable {σ ρ δ : Type}

namespace Streaming

variable {sink : Sink σ} {source : Source ρ}

/-- Each chunk that a source gives is a datagram. -/
theorem payload_of_takesAll (hd : sink.sendsDatagrams = true) (total : Nat) {s : σ}
    (h : sink.Always s Exchange.TakesAll) (r : ρ) (limit : Nat) (done : Progress)
    (hg : (source.given r limit).length = limit) :
    let m := payload sink source total s r limit done
    let chunks := m.calls.map (·.offer.bytes)
    chunks.flatten = source.given r limit ∧
      (∀ chunk ∈ chunks, chunk ≠ [] ∧ chunk.length ≤ chunkLen) ∧
      m.outcome = .ok ⟨done.sent + limit, done.streamed + limit⟩ ∧
      sink.Always m.state Exchange.TakesAll := by
  -- Along the reads. A source that gives as much as it is asked for neither ends nor fails.
  fun_induction Streaming.payload with
  | case1 s r done => exact ⟨(source.given_zero r).symm, by simp, rfl, h⟩
  | case2 s r limit done hl ask r' bytes hr hb =>
    rw [source.given_of_bytes hl hr, if_pos hb] at hg
    exact absurd hg.symm hl
  | case3 s r limit done hl ask r' bytes hr hb piece e ho =>
    have hne : bytes ≠ [] := fun hnil => hb (List.length_eq_zero_iff.mpr hnil)
    have hpiece := Sink.sendPiece_of_takesAll hd h (List.flatten_singleton : [bytes].flatten = _)
      hne done.sent total
    have houtcome : piece.outcome = .ok bytes.length := hpiece.2.1
    rw [ho] at houtcome
    cases houtcome
  | case4 s r limit done hl ask r' bytes hr hb piece n ho more ih =>
    have hne : bytes ≠ [] := fun hnil => hb (List.length_eq_zero_iff.mpr hnil)
    have hpiece := Sink.sendPiece_of_takesAll hd h (List.flatten_singleton : [bytes].flatten = _)
      hne done.sent total
    have houtcome : piece.outcome = .ok bytes.length := hpiece.2.1
    rw [ho] at houtcome
    have hn : n = bytes.length := Except.ok.inj houtcome
    have hle : bytes.length ≤ ask := source.length_le r ask bytes (by rw [hr])
    have hgiven : source.given r limit = bytes ++ source.given r' (limit - bytes.length) := by
      rw [source.given_of_bytes hl hr, if_neg hb]
    rw [hgiven, List.length_append] at hg
    obtain ⟨hflatten, hchunks, hmore, hlast⟩ := ih hpiece.2.2 (by omega)
    have hcalls : (piece.calls ++ more.calls).map (·.offer.bytes) =
        bytes :: more.calls.map (·.offer.bytes) := by
      rw [List.map_append]
      exact congrArg (· ++ _) hpiece.1
    refine ⟨?_, ?_, ?_, hlast⟩
    · rw [hcalls, hgiven, List.flatten_cons, hflatten]
    · rw [hcalls]
      intro chunk hchunk
      rcases List.mem_cons.mp hchunk with rfl | hchunk
      · exact ⟨hne, Nat.le_trans hle (Nat.min_le_right limit chunkLen)⟩
      · exact hchunks chunk hchunk
    · have hsent : done.sent + n + (limit - bytes.length) = done.sent + limit := by omega
      have hstreamed : done.streamed + bytes.length + (limit - bytes.length) =
          done.streamed + limit := by omega
      rw [hmore, hsent, hstreamed]
  | case5 s r limit done hl ask r' e hr hi more ih =>
    have hgiven : source.given r limit = source.given r' limit := by
      rw [source.given_of_error hl hr, if_pos hi]
    rw [hgiven] at hg ⊢
    exact ih h hg
  | case6 s r limit done hl ask r' e hr hi =>
    rw [source.given_of_error hl hr, if_neg hi] at hg
    exact absurd hg.symm hl

end Streaming

namespace Connection

/-- The records that are handed on of a datagram are those that a scan of its bytes finds. -/
theorem map_record_ofDatagram (limits : Limits) (bytes : Bytes) (descriptors : List δ) :
    (ofDatagram limits bytes descriptors).deliveries.map Delivery.record =
      (Decoder.scan limits bytes).1 := by
  obtain ⟨d, hall, -⟩ := Decoder.decodeAll_push_new limits bytes
  rw [ofDatagram, receive, handOn_eq_decodeAll]
  dsimp only
  rw [map_record_claimAll, show (new limits : Connection δ).decoder = Decoder.new limits from rfl,
    hall]

/-- Of a datagram shorter than a record the record is not handed on. -/
theorem record_ne_of_ofDatagram {limits : Limits} {bytes : Bytes} {descriptors : List δ}
    {w : WireRecord} (hshort : bytes.length < w.encode.length) :
    ∀ d ∈ (ofDatagram limits bytes descriptors).deliveries, d.record ≠ w := by
  rintro d hd rfl
  have hmem : d.record ∈ (Decoder.scan limits bytes).1 := by
    rw [← map_record_ofDatagram limits bytes descriptors]
    exact List.mem_map_of_mem hd
  have := Decoder.length_encode_le_of_mem_scan hmem
  omega

end Connection

/-- Header, chunks and end of a record are each shorter than the record. -/
theorem WireRecord.length_lt_of_mem_datagrams {w : WireRecord}
    (hp : w.header.type.hasPayload = true) {chunks : List Bytes}
    (hflatten : chunks.flatten = w.payload) {datagram : Bytes}
    (hmem : datagram ∈ w.header.encode :: chunks ++ [delimiter ++ (w.metadata ++ delimiter)]) :
    datagram.length < w.encode.length := by
  have hencode := length_encode_of_hasPayload hp
  have hheader : w.header.encode.length = 20 := w.header.length_encode
  have hend : 0 < (delimiter ++ (w.metadata ++ delimiter)).length := Nat.zero_lt_succ _
  rw [List.cons_append, List.mem_cons, List.mem_append, List.mem_singleton] at hmem
  rcases hmem with rfl | hchunk | rfl
  · omega
  · have hle := (List.sublist_flatten_of_mem hchunk).length_le
    rw [hflatten] at hle
    omega
  · omega

namespace Sink

variable {sink : Sink σ} {source : Source ρ} {s : σ} {r : ρ} {type : RecordType}
  {payloadLen : UInt64} {metadata : Bytes}

/-- Where header and payload go out, the end of the record follows. -/
theorem emitFrom_of_ok (htype : type.hasPayload = true) {head : Sending σ}
    {mid : Streaming σ ρ Progress} {total n : Nat} {done : Progress}
    (htotal : Streaming.recordLen payloadLen.toNat metadata.length = total)
    (hhead : sink.sendPiece s [(source.record r type payloadLen metadata).header.encode] none 0
      total = head)
    (hn : head.outcome = .ok n)
    (hmid : Streaming.payload sink source total head.state r payloadLen.toNat ⟨n, 0⟩ = mid)
    (hdone : mid.outcome = .ok done) (hall : done.streamed = payloadLen.toNat) :
    let tail := sink.sendPiece mid.state [delimiter, metadata, delimiter] none done.sent total
    sink.emitFrom source s r type payloadLen metadata =
      ⟨tail.state, mid.source, head.calls ++ mid.calls ++ tail.calls, mid.asked,
        tail.outcome.map (done.sent + ·)⟩ := by
  intro tail
  dsimp only [Source.record] at hhead
  rw [emitFrom, if_neg (by simp [htype])]
  dsimp only
  rw [htotal, hhead, hn]
  dsimp only
  rw [hmid, hdone]
  dsimp only
  rw [if_neg (not_not.mpr hall)]

/-- On a sink of datagrams that takes everything a streamed record goes out in a header, chunks and
an end, each on its own. -/
theorem emitFrom_of_takesAll (hd : sink.sendsDatagrams = true)
    (h : sink.Always s Exchange.TakesAll) (htype : type.hasPayload = true)
    (hg : (source.given r payloadLen.toNat).length = payloadLen.toNat) :
    let m := sink.emitFrom source s r type payloadLen metadata
    let w := source.record r type payloadLen metadata
    ∃ chunks : List Bytes,
      m.calls.map (·.offer.bytes) =
        w.header.encode :: chunks ++ [delimiter ++ (metadata ++ delimiter)] ∧
      chunks.flatten = w.payload ∧ (∀ chunk ∈ chunks, chunk ≠ [] ∧ chunk.length ≤ chunkLen) ∧
      m.outcome = .ok w.encode.length := by
  intro m w
  have hheader : w.header.encode ≠ [] := List.ne_nil_of_length_eq_add_one w.header.length_encode
  have htail : [delimiter, metadata, delimiter].flatten = delimiter ++ (metadata ++ delimiter) := by
    simp
  have hend : delimiter ++ (metadata ++ delimiter) ≠ [] := List.cons_ne_nil _ _
  have hencode : w.encode.length = w.header.encode.length + payloadLen.toNat +
      (delimiter ++ (metadata ++ delimiter)).length := by
    rw [WireRecord.length_encode_of_hasPayload htype, show w.payload.length = _ from hg]
    rfl
  obtain ⟨total, htotal⟩ : ∃ total, Streaming.recordLen payloadLen.toNat metadata.length = total :=
    ⟨_, rfl⟩
  obtain ⟨hfirst, hhead, hmid⟩ := sendPiece_of_takesAll hd h
    (List.flatten_singleton : [w.header.encode].flatten = _) hheader 0 total
  obtain ⟨hflatten, hchunks, hmiddle, hlast⟩ := Streaming.payload_of_takesAll hd total hmid r
    payloadLen.toNat ⟨w.header.encode.length, 0⟩ hg
  obtain ⟨hfinal, hcount, -⟩ := sendPiece_of_takesAll hd hlast htail hend
    (w.header.encode.length + payloadLen.toNat) total
  have hm := emitFrom_of_ok htype htotal rfl hhead rfl hmiddle (Nat.zero_add _)
  refine ⟨_, ?_, hflatten, hchunks, ?_⟩
  · rw [show m = _ from hm, List.map_append, List.map_append, hfirst, hfinal]
    rfl
  · rw [show m = _ from hm, hcount, hencode]
    rfl

/-- A streamed record is scattered over datagrams. Where a sink of datagrams takes everything and a
source gives as much as is announced, sending succeeds, but header, chunks and end of the record
are datagrams of their own, and the receiver hands the record on from none of them. -/
theorem emitFrom_scatters (metadata : Bytes) (hd : sink.sendsDatagrams = true)
    (h : sink.Always s fun c => c.answer = .ok c.offer.bytes.length)
    (htype : type.hasPayload = true)
    (hg : (source.given r payloadLen.toNat).length = payloadLen.toNat) :
    let m := sink.emitFrom source s r type payloadLen metadata
    let w := source.record r type payloadLen metadata
    m.outcome = .ok w.encode.length ∧ 2 ≤ m.calls.length ∧
      (∃ chunks : List Bytes,
        m.calls.map (·.offer.bytes) =
          w.header.encode :: chunks ++ [delimiter ++ (metadata ++ delimiter)] ∧
        chunks.flatten = w.payload ∧ ∀ chunk ∈ chunks, chunk ≠ [] ∧ chunk.length ≤ chunkLen) ∧
      (m.calls.map (·.offer.bytes)).flatten = w.encode ∧
      ∀ c ∈ m.calls, c.offer.bytes ≠ w.encode ∧
        ∀ (limits : Limits) (descriptors : List δ),
          ∀ d ∈ (Connection.ofDatagram limits c.offer.bytes descriptors).deliveries,
            d.record ≠ w := by
  intro m w
  obtain ⟨chunks, hcalls, hflatten, hchunks, houtcome⟩ := emitFrom_of_takesAll hd h htype hg
  have hjoin : (m.calls.map (·.offer.bytes)).flatten = w.encode := by
    rw [hcalls, WireRecord.encode_of_hasPayload htype, List.flatten_append, List.flatten_cons,
      hflatten, List.flatten_singleton, List.append_assoc]
    rfl
  have hlen : m.calls.length = chunks.length + 2 := by
    rw [← List.length_map, hcalls, List.length_append, List.length_cons, List.length_singleton]
  have hshort : ∀ c ∈ m.calls, c.offer.bytes.length < w.encode.length := by
    intro c hc
    have hmem : c.offer.bytes ∈ m.calls.map (·.offer.bytes) := List.mem_map_of_mem hc
    rw [hcalls] at hmem
    exact WireRecord.length_lt_of_mem_datagrams htype hflatten hmem
  refine ⟨houtcome, by omega, ⟨chunks, hcalls, hflatten, hchunks⟩, hjoin, fun c hc => ⟨?_, ?_⟩⟩
  · intro heq
    have hlt := hshort c hc
    rw [heq] at hlt
    exact Nat.lt_irrefl _ hlt
  · intro limits descriptors
    exact Connection.record_ne_of_ofDatagram (hshort c hc)

/-- At the end of its script a sink takes everything. -/
theorem always_takesAll_script (sendsDatagrams : Bool) :
    (Script.sink sendsDatagrams).Always [] Exchange.TakesAll := by
  refine ⟨(· = []), rfl, ?_⟩
  rintro t o rfl
  exact ⟨rfl, rfl⟩

/-- Three bytes that a source gives in two reads with an interruption between them. -/
theorem emitFrom_scatters_chunks :
    let sink := Script.sink true
    let supplies : List Script.Supply := [.data [1, 2], .fail (.os 4), .data [3]]
    let w : WireRecord := ⟨⟨formatVersion, .log, 3, 1⟩, [1, 2, 3], [9]⟩
    sink.sendsDatagrams = true ∧
      (sink.Always [] fun c => c.answer = .ok c.offer.bytes.length) ∧
      RecordType.log.hasPayload = true ∧
      (Script.source.given supplies (3 : UInt64).toNat).length = (3 : UInt64).toNat ∧
      (sink.emitFrom Script.source [] supplies .log 3 [9]).outcome = .ok 34 ∧
      ∀ c ∈ (sink.emitFrom Script.source [] supplies .log 3 [9]).calls,
        ∀ d ∈ (Connection.ofDatagram {} c.offer.bytes ([] : List Nat)).deliveries,
          d.record ≠ w := by
  intro sink supplies w
  have hd : sink.sendsDatagrams = true := rfl
  have h := always_takesAll_script true
  have htype : RecordType.log.hasPayload = true := rfl
  have hgiven : Script.source.given supplies (3 : UInt64).toNat = [1, 2, 3] := by
    change Script.source.given [.data [1, 2], .fail (.os 4), .data [3]] 3 = [1, 2, 3]
    cbv
  have hg : (Script.source.given supplies (3 : UInt64).toNat).length = (3 : UInt64).toNat := by
    rw [hgiven]
    rfl
  obtain ⟨houtcome, -, -, -, hnone⟩ := emitFrom_scatters [9] hd h htype hg
  have hw : Script.source.record supplies .log 3 [9] = w := by
    rw [Source.record, hgiven]
    rfl
  rw [hw] at houtcome hnone
  exact ⟨hd, h, htype, hg, houtcome, fun c hc => (hnone c hc).2 {} []⟩

/-- Sending an empty record succeeds after two calls. -/
theorem emitFrom_empty_not_single :
    let sink := Script.sink true
    let m := sink.emitFrom Script.source [] [] .log 0 []
    sink.sendsDatagrams = true ∧
      (sink.Always [] fun c => c.answer = .ok c.offer.bytes.length) ∧
      RecordType.log.hasPayload = true ∧
      (Script.source.given [] (0 : UInt64).toNat).length = (0 : UInt64).toNat ∧
      m.outcome = .ok 30 ∧
      ¬∃ c, m.calls = [c] ∧ c.offer.bytes = (Script.source.record [] .log 0 []).encode := by
  intro sink m
  have hg : (Script.source.given [] (0 : UInt64).toNat).length = (0 : UInt64).toNat := by
    rw [show (0 : UInt64).toNat = 0 from rfl, Source.given_zero]
    rfl
  have houtcome : ((Script.sink true).emitFrom Script.source [] [] .log 0 []).outcome = .ok 30 := by
    cbv
  have hcalls : ((Script.sink true).emitFrom Script.source [] [] .log 0 []).calls.length = 2 := by
    cbv
  refine ⟨rfl, always_takesAll_script true, rfl, hg, houtcome, ?_⟩
  rintro ⟨c, hc, -⟩
  have hlen : m.calls.length = 2 := hcalls
  rw [hc] at hlen
  cases hlen

end Sink

end LocalRecords
