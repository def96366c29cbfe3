import LocalRecords.Proofs.Message.Calls
import LocalRecords.Proofs.Message.Supply
import LocalRecords.Proofs.Record.RoundTrip

namespace LocalRecords

variable {σ ρ : Type}

open Source (Reply supplied)

namespace Streaming

def taken {α : Type} (m : Streaming σ ρ α) : Bytes := m.calls.flatMap Exchange.taken

/-- How far a payload came that was sent while it was read. The bytes `read` were sent; the read
`last`, if there is one, ended it. -/
inductive Feeds (m : Streaming σ ρ Progress) (read : Bytes) (limit total : Nat) (done : Progress) :
    Option Reply → Prop
  /-- All that was asked for was sent. -/
  | full (length : read.length = limit)
      (outcome : m.outcome = .ok ⟨done.sent + read.length, done.streamed + read.length⟩)
      (taken : m.taken = read) (calls : Smooth m.calls) : Feeds m read limit total done none
  /-- The source came to its end before that. -/
  | ended (short : read.length < limit)
      (outcome : m.outcome = .ok ⟨done.sent + read.length, done.streamed + read.length⟩)
      (taken : m.taken = read) (calls : Smooth m.calls) :
      Feeds m read limit total done (some (.ok []))
  /-- The source failed. -/
  | failed (cause : IoError) (hard : cause.isInterrupted = false) (short : read.length < limit)
      (outcome : m.outcome = .error (failedAfter (done.sent + m.taken.length) total cause))
      (taken : m.taken = read) (calls : Smooth m.calls) :
      Feeds m read limit total done (some (.error cause))
  /-- The chunk that was read last was not sent as a whole. -/
  | refused (chunk part : Bytes) (cause : IoError)
      (outcome : m.outcome = .error (failedAfter (done.sent + m.taken.length) total cause))
      (taken : m.taken = read ++ part) (start : part <+: chunk)
      (short : part.length < chunk.length) (calls : LastFails m.calls cause) :
      Feeds m read limit total done (some (.ok chunk))

/-- A chunk that was sent as a whole comes in front of what is fed after it. -/
theorem Feeds.after {m : Streaming σ ρ Progress} {front : List Exchange} {asked : List Nat}
    {bytes read : Bytes} {limit total : Nat} {done : Progress} {last : Option Reply}
    (htaken : front.flatMap Exchange.taken = bytes) (hcalls : Smooth front)
    (hle : bytes.length ≤ limit)
    (h : m.Feeds read (limit - bytes.length) total
      ⟨done.sent + bytes.length, done.streamed + bytes.length⟩ last) :
    Feeds { m with calls := front ++ m.calls, asked := asked } (bytes ++ read) limit total done
      last := by
  have ht : (front ++ m.calls).flatMap Exchange.taken = bytes ++ m.taken := by
    rw [List.flatMap_append, htaken]
    rfl
  have hlen : (bytes ++ read).length = bytes.length + read.length := List.length_append
  have hsent (n k : Nat) : n + bytes.length + k = n + (bytes.length + k) := Nat.add_assoc _ _ _
  cases h with
  | full length outcome taken calls =>
    refine .full (by omega) ?_ (ht.trans (by rw [taken])) (hcalls.append calls)
    rw [hlen, ← hsent, ← hsent]
    exact outcome
  | ended short outcome taken calls =>
    refine .ended (by omega) ?_ (ht.trans (by rw [taken])) (hcalls.append calls)
    rw [hlen, ← hsent, ← hsent]
    exact outcome
  | failed cause hard short outcome taken calls =>
    refine .failed cause hard (by omega) ?_ (ht.trans (by rw [taken])) (hcalls.append calls)
    rw [Streaming.taken, ht, List.length_append, ← hsent]
    exact outcome
  | refused chunk part cause outcome taken start short calls =>
    refine .refused chunk part cause ?_ ?_ start short (calls.append hcalls)
    · rw [Streaming.taken, ht, List.length_append, ← hsent]
      exact outcome
    · rw [Streaming.taken, ht, taken, List.append_assoc]

variable (sink : Sink σ) (source : Source ρ)

/-- A payload comes as far as its source and the sink let it, and the reads are those that this
takes. -/
theorem payload_feeds (hs : sink.Honest) (total : Nat) (s : σ) (r : ρ) (limit : Nat)
    (done : Progress) :
    ∃ before last,
      source.Reads r limit (payload sink source total s r limit done).asked
        (payload sink source total s r limit done).source before last ∧
      (payload sink source total s r limit done).Feeds (supplied before) limit total done last := by
  -- Along the reads: each chunk is sent as a piece of its own before the next one is asked for.
  fun_induction Streaming.payload with
  | case1 s r done =>
    exact ⟨[], none, Source.reads_nothing r, .full rfl rfl rfl (by simp [Smooth])⟩
  | case2 s r limit done hl ask r' bytes hr hb =>
    have hnil : bytes = [] := List.length_eq_zero_iff.mp hb
    rw [hnil] at hr
    exact ⟨[], some (.ok []), Source.reads_last hl hr,
      .ended (Nat.pos_of_ne_zero hl) rfl rfl (by simp [Smooth])⟩
  | case3 s r limit done hl ask r' bytes hr hb piece e ho =>
    refine ⟨[], some (.ok bytes), Source.reads_last hl hr, ?_⟩
    have hp : piece.Brings bytes done.sent total :=
      Sink.sendPiece_brings hs List.flatten_singleton s done.sent total
    cases hp with
    | whole outcome taken calls =>
      rw [ho] at outcome
      cases outcome
    | broken cause outcome start short calls =>
      rw [ho] at outcome
      cases outcome
      exact .refused bytes piece.taken cause rfl rfl start short calls
  | case4 s r limit done hl ask r' bytes hr hb piece n ho more ih =>
    have hp : piece.Brings bytes done.sent total :=
      Sink.sendPiece_brings hs List.flatten_singleton s done.sent total
    cases hp with
    | broken cause outcome start short calls =>
      rw [ho] at outcome
      cases outcome
    | whole outcome taken calls =>
      rw [ho] at outcome
      cases outcome
      obtain ⟨before, last, hreads, hfeeds⟩ := ih
      have hgoes : Source.goesOn (.ok bytes) = true := by
        simpa [Source.goesOn] using hb
      have hle : bytes.length ≤ limit := by
        have := source.length_le r ask bytes (by rw [hr])
        omega
      exact ⟨.ok bytes :: before, last, hreads.after hl hr hgoes, hfeeds.after taken calls hle⟩
  | case5 s r limit done hl ask r' e hr hi more ih =>
    obtain ⟨before, last, hreads, hfeeds⟩ := ih
    have hnone : ([] : List Exchange).flatMap Exchange.taken = [] := rfl
    exact ⟨.error e :: before, last, hreads.after hl hr hi,
      hfeeds.after hnone (by simp [Smooth]) (Nat.zero_le _)⟩
  | case6 s r limit done hl ask r' e hr hi =>
    exact ⟨[], some (.error e), Source.reads_last hl hr,
      .failed e (by simpa using hi) (Nat.pos_of_ne_zero hl) rfl rfl (by simp [Smooth])⟩

-- The record as a whole

/-- Why a streamed record was broken off, and what of it had been sent by then. Before it was, the
source supplied the bytes `read`; the answer `last`, if there is one, was its last. -/
inductive Breaks (m : Streaming σ ρ Nat) (header metadata read : Bytes) (payloadLen : Nat)
    (cause : IoError) : Option Reply → Prop
  /-- A call failed in the header, before the source was asked for anything. -/
  | header (asked : m.asked = []) (taken : m.taken <+: header)
      (short : m.taken.length < header.length) (calls : LastFails m.calls cause) :
      Breaks m header metadata read payloadLen cause none
  /-- A call failed in the chunk that was read last. -/
  | chunk (chunk part : Bytes) (taken : m.taken = header ++ (read ++ part)) (start : part <+: chunk)
      (short : part.length < chunk.length) (calls : LastFails m.calls cause) :
      Breaks m header metadata read payloadLen cause (some (.ok chunk))
  /-- The source failed. All that it had supplied was sent. -/
  | failed (hard : cause.isInterrupted = false) (short : read.length < payloadLen)
      (taken : m.taken = header ++ read) (calls : Smooth m.calls) :
      Breaks m header metadata read payloadLen cause (some (.error cause))
  /-- The source ended early. All that it had supplied was sent. -/
  | ended (early : cause = endedEarly read.length payloadLen) (short : read.length < payloadLen)
      (taken : m.taken = header ++ read) (calls : Smooth m.calls) :
      Breaks m header metadata read payloadLen cause (some (.ok []))
  /-- A call failed behind the payload, which had been read and sent as a whole. -/
  | tail (part : Bytes) (length : read.length = payloadLen)
      (taken : m.taken = header ++ (read ++ part))
      (start : part <+: delimiter ++ (metadata ++ delimiter))
      (short : part.length < (delimiter ++ (metadata ++ delimiter)).length)
      (calls : LastFails m.calls cause) : Breaks m header metadata read payloadLen cause none

/-- How sending a streamed record came out. -/
inductive Emits (source : Source ρ) (r : ρ) (m : Streaming σ ρ Nat) (header metadata : Bytes)
    (payloadLen total : Nat) : Prop
  | unheaded (cause : IoError) (asked : m.asked = []) (state : m.source = r)
      (outcome : m.outcome = .error (failedAfter m.taken.length total cause))
      (start : m.taken <+: header) (short : m.taken.length < header.length)
      (calls : LastFails m.calls cause)
  | broken (before : List Reply) (last : Option Reply) (cause : IoError)
      (reads : source.Reads r payloadLen m.asked m.source before last)
      (outcome : m.outcome = .error (failedAfter m.taken.length total cause))
      (breaks : m.Breaks header metadata (supplied before) payloadLen cause last)
  | whole (before : List Reply)
      (reads : source.Reads r payloadLen m.asked m.source before none)
      (length : (supplied before).length = payloadLen)
      (outcome : m.outcome = .ok m.taken.length)
      (taken : m.taken = header ++ (supplied before ++ (delimiter ++ (metadata ++ delimiter))))

end Streaming

namespace Sink

variable (sink : Sink σ) (source : Source ρ)

open Streaming

/-- Behind a payload that was sent as a whole the end of the record is sent or broken off. -/
theorem emitFrom_tail (hs : sink.Honest) {header metadata : Bytes} {payloadLen total : Nat}
    {r r' : ρ} {front : List Exchange} {asked : List Nat} {before : List Reply} (s : σ)
    (hreads : source.Reads r payloadLen asked r' before none)
    (hlen : (supplied before).length = payloadLen)
    (htaken : front.flatMap Exchange.taken = header ++ supplied before) (hfront : Smooth front) :
    let sent := header.length + (supplied before).length
    let tail := sink.sendPiece s [delimiter, metadata, delimiter] none sent total
    Emits source r ⟨tail.state, r', front ++ tail.calls, asked, tail.outcome.map (sent + ·)⟩ header
      metadata payloadLen total := by
  intro sent tail
  have hflat : [delimiter, metadata, delimiter].flatten = delimiter ++ (metadata ++ delimiter) := by
    simp
  have h : tail.Brings (delimiter ++ (metadata ++ delimiter)) sent total :=
    sendPiece_brings hs hflat s sent total
  have ht : (front ++ tail.calls).flatMap Exchange.taken =
      header ++ (supplied before ++ tail.taken) := by
    rw [List.flatMap_append, htaken, List.append_assoc]
    rfl
  have hsent : (header ++ (supplied before ++ tail.taken)).length = sent + tail.taken.length := by
    rw [← List.append_assoc, List.length_append, List.length_append]
  cases h with
  | whole outcome taken calls =>
    refine .whole before hreads hlen ?_ (ht.trans (by rw [taken]))
    change tail.outcome.map (sent + ·) =
      .ok ((front ++ tail.calls).flatMap Exchange.taken).length
    rw [ht, hsent, outcome, taken]
    rfl
  | broken cause outcome start short calls =>
    refine .broken before none cause hreads ?_ (.tail tail.taken hlen ht start short
      (LastFails.append hfront calls))
    change tail.outcome.map (sent + ·) =
      .error (failedAfter ((front ++ tail.calls).flatMap Exchange.taken).length total cause)
    rw [ht, hsent, outcome]
    rfl

/-- A streamed record is sent as a whole or breaks off in its header, its payload or behind it. -/
theorem emitFrom_emits (hs : sink.Honest) (s : σ) (r : ρ) {type : RecordType}
    (htype : type.hasPayload = true) (payloadLen : UInt64) (metadata : Bytes) :
    let header : Header := ⟨formatVersion, type, payloadLen, UInt64.ofNat metadata.length⟩
    Emits source r (sink.emitFrom source s r type payloadLen metadata) header.encode metadata
      payloadLen.toNat (recordLen payloadLen.toNat metadata.length) := by
  intro header
  rw [emitFrom, if_neg (by simp [htype])]
  dsimp only
  generalize recordLen payloadLen.toNat metadata.length = total
  have hhead := sendPiece_brings hs (List.flatten_singleton : [header.encode].flatten = _) s 0 total
  generalize sink.sendPiece s [header.encode] none 0 total = head at hhead ⊢
  cases hhead with
  | broken cause outcome start short calls =>
    rw [outcome]
    refine .unheaded cause rfl rfl ?_ start short calls
    rw [Nat.zero_add]
    rfl
  | whole outcome taken calls =>
    rw [outcome]
    dsimp only
    obtain ⟨before, last, hreads, hfeeds⟩ := Streaming.payload_feeds sink source hs total head.state
      r payloadLen.toNat ⟨header.encode.length, 0⟩
    generalize Streaming.payload sink source total head.state r payloadLen.toNat
      ⟨header.encode.length, 0⟩ = mid at hreads hfeeds ⊢
    have hjoin : (head.calls ++ mid.calls).flatMap Exchange.taken = header.encode ++ mid.taken := by
      rw [List.flatMap_append]
      exact congrArg (· ++ mid.taken) taken
    have hfailed (cause : IoError) :
        (.error (failedAfter (header.encode.length + mid.taken.length) total cause) :
            Except Failure Nat) =
          .error (failedAfter ((head.calls ++ mid.calls).flatMap Exchange.taken).length total
            cause) := by
      rw [hjoin, List.length_append]
    cases hfeeds with
    | full length outcome' taken' calls' =>
      rw [outcome']
      dsimp only
      rw [if_neg (by omega)]
      exact sink.emitFrom_tail source hs mid.state hreads length (taken' ▸ hjoin)
        (Smooth.append calls calls')
    | ended short outcome' taken' calls' =>
      rw [outcome']
      dsimp only
      rw [if_pos (by omega), Nat.zero_add, ← taken', hfailed]
      refine .broken before _ _ hreads rfl (.ended ?_ short (taken' ▸ hjoin)
        (Smooth.append calls calls'))
      rw [taken']
    | failed cause hard short outcome' taken' calls' =>
      rw [outcome']
      exact .broken before _ cause hreads (hfailed cause) (.failed hard short (taken' ▸ hjoin)
        (Smooth.append calls calls'))
    | refused chunk part cause outcome' taken' start short calls' =>
      rw [outcome']
      exact .broken before _ cause hreads (hfailed cause) (.chunk chunk part (taken' ▸ hjoin) start
        short (LastFails.append calls calls'))

variable {sink} {P : Exchange → Prop}

theorem Always.payload {s : σ} (h : sink.Always s P) (total : Nat) (r : ρ) (limit : Nat)
    (done : Progress) :
    sink.Always (Streaming.payload sink source total s r limit done).state P ∧
      ∀ c ∈ (Streaming.payload sink source total s r limit done).calls, P c := by
  fun_induction Streaming.payload with
  | case1 => exact ⟨h, by simp⟩
  | case2 => exact ⟨h, by simp⟩
  | case3 s r limit done hl ask r' bytes hr hb piece e ho =>
    exact h.sendPiece [bytes] none done.sent total
  | case4 s r limit done hl ask r' bytes hr hb piece n ho more ih =>
    obtain ⟨hpiece, hcalls⟩ := h.sendPiece [bytes] none done.sent total
    obtain ⟨hmore, hcalls'⟩ := ih hpiece
    exact ⟨hmore, List.forall_mem_append.mpr ⟨hcalls, hcalls'⟩⟩
  | case5 s r limit done hl ask r' e hr hi more ih => exact ih h
  | case6 => exact ⟨h, by simp⟩

theorem Always.emitFrom {s : σ} (h : sink.Always s P) (r : ρ) (type : RecordType)
    (payloadLen : UInt64) (metadata : Bytes) :
    ∀ c ∈ (sink.emitFrom source s r type payloadLen metadata).calls, P c := by
  rw [Sink.emitFrom]
  split
  · simp
  dsimp only
  obtain ⟨hhead, hcalls⟩ := h.sendPiece
    [({ type := type, payloadLen := payloadLen, metadataLen := UInt64.ofNat metadata.length } :
      Header).encode] none 0 (recordLen payloadLen.toNat metadata.length)
  split
  · exact hcalls
  next n hn =>
    obtain ⟨hmid, hcalls'⟩ := Always.payload source hhead
      (recordLen payloadLen.toNat metadata.length) r payloadLen.toNat ⟨n, 0⟩
    have hjoin := List.forall_mem_append.mpr ⟨hcalls, hcalls'⟩
    split
    · exact hjoin
    split
    · exact hjoin
    · obtain ⟨-, htail⟩ := hmid.sendPiece [delimiter, metadata, delimiter] none _ _
      exact List.forall_mem_append.mpr ⟨hjoin, htail⟩

variable (sink)

end Sink

end LocalRecords
