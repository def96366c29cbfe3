import LocalRecords.Message.Script
import LocalRecords.Proofs.Message.Interruption
import LocalRecords.Proofs.Message.Whole
import LocalRecords.Proofs.Record.Emission

namespace LocalRecords

variable {σ τ ρ κ α : Type}

namespace Streaming

-- The recursion is well-founded, so its equations are stated once for each answer of the source.
section Equations

variable {sink : Sink σ} {source : Source ρ} {total : Nat} {s : σ} {r r' : ρ} {limit : Nat}
  {done : Progress}

theorem payload_zero : payload sink source total s r 0 done = ⟨s, r, [], [], .ok done⟩ := by
  rw [payload, dif_pos rfl]

/-- A chunk that was read is sent as a piece of its own; a read without bytes ends the payload. -/
theorem payload_of_ok {bytes : Bytes} (hl : limit ≠ 0)
    (hr : source.read r (min limit chunkLen) = (r', .ok bytes)) :
    payload sink source total s r limit done =
      if bytes.length = 0 then ⟨s, r', [], [min limit chunkLen], .ok done⟩
      else
        let piece := sink.sendPiece s [bytes] none done.sent total
        match piece.outcome with
        | .error e => ⟨piece.state, r', piece.calls, [min limit chunkLen], .error e⟩
        | .ok n =>
          let more := payload sink source total piece.state r' (limit - bytes.length)
            ⟨done.sent + n, done.streamed + bytes.length⟩
          { more with
            calls := piece.calls ++ more.calls, asked := min limit chunkLen :: more.asked } := by
  rw [payload, dif_neg hl]
  dsimp only
  split
  · next h => rw [hr] at h; cases h; rfl
  · next h => rw [hr] at h; cases h

theorem payload_of_error {e : IoError} (hl : limit ≠ 0)
    (hr : source.read r (min limit chunkLen) = (r', .error e)) :
    payload sink source total s r limit done =
      if e.isInterrupted then
        let more := payload sink source total s r' limit done
        { more with asked := min limit chunkLen :: more.asked }
      else ⟨s, r', [], [min limit chunkLen], .error (failedAfter done.sent total e)⟩ := by
  rw [payload, dif_neg hl]
  dsimp only
  split
  · next h => rw [hr] at h; cases h
  · next h => rw [hr] at h; cases h; rfl

end Equations

/-- A run that is another one without its interruptions. Of the reads it makes those alone that were
not interrupted. -/
structure Calmed (view : σ → τ) (glance : ρ → κ) (m : Streaming σ ρ α) (calm : Streaming τ κ α) :
    Prop where
  state : calm.state = view m.state
  source : calm.source = glance m.source
  calls : calm.calls = settled m.calls
  outcome : calm.outcome = m.outcome

variable {sink : Sink σ} {calmSink : Sink τ} {view : σ → τ} {source : Source ρ}
  {calmSource : Source κ} {glance : ρ → κ}

theorem payload_perseveres (sink : Sink σ) (source : Source ρ) (total : Nat) (s : σ) (r : ρ)
    (limit : Nat) (done : Progress) :
    Perseveres (payload sink source total s r limit done).calls
      (payload sink source total s r limit done).outcome := by
  fun_induction Streaming.payload with
  | case1 s r done => exact perseveres_of_ok repeated_nil done
  | case2 s r limit done => exact perseveres_of_ok repeated_nil done
  | case3 s r limit done hl ask r' bytes hr hb piece e ho =>
    have hp := sink.sendPiece_perseveres s [bytes] none done.sent total
    exact perseveres_of_error hp.repeated (hp.cause e ho)
  | case4 s r limit done hl ask r' bytes hr hb piece n ho more ih =>
    have hp := sink.sendPiece_perseveres s [bytes] none done.sent total
    exact ⟨hp.repeated.append ih.repeated, ih.cause⟩
  | case5 s r limit done hl ask r' e hr hi more ih => exact ih
  | case6 s r limit done hl ask r' e hr hi =>
    have he : e.isInterrupted = false := by simpa using hi
    exact perseveres_of_error repeated_nil (by simpa using he)

theorem payload_calmed (h : Calms sink.send calmSink.send view)
    (hd : calmSink.sendsDatagrams = sink.sendsDatagrams)
    (hsource : Calms source.read calmSource.read glance) (total : Nat) (s : σ) (r : ρ)
    (limit : Nat) (done : Progress) :
    Calmed view glance (payload sink source total s r limit done)
      (payload calmSink calmSource total (view s) (glance r) limit done) := by
  have hpiece (s : σ) (bytes : Bytes) (already : Nat) :=
    Sink.sendPiece_calmed h hd s [bytes] none already total
  -- Along the reads of the run that may be interrupted.
  fun_induction Streaming.payload with
  | case1 s r done =>
    rw [payload_zero]
    exact ⟨rfl, rfl, rfl, rfl⟩
  | case2 s r limit done hl ask r' bytes hr hb =>
    rw [payload_of_ok hl (hsource.ok hr), if_pos hb]
    exact ⟨rfl, rfl, rfl, rfl⟩
  | case3 s r limit done hl ask r' bytes hr hb piece e ho =>
    have ho' : (piece.calmed view).outcome = .error e := ho
    rw [payload_of_ok hl (hsource.ok hr), if_neg hb, hpiece]
    dsimp only
    rw [ho']
    exact ⟨rfl, rfl, rfl, rfl⟩
  | case4 s r limit done hl ask r' bytes hr hb piece n ho more ih =>
    have ho' : (piece.calmed view).outcome = .ok n := ho
    rw [payload_of_ok hl (hsource.ok hr), if_neg hb, hpiece]
    dsimp only
    rw [ho']
    have hcalls : settled (piece.calls ++ more.calls) = settled piece.calls ++ settled more.calls :=
      settled_append piece.calls more.calls
    exact ⟨ih.state, ih.source, hcalls ▸ congrArg (settled piece.calls ++ ·) ih.calls, ih.outcome⟩
  | case5 s r limit done hl ask r' e hr hi more ih =>
    rw [← hsource.interrupted hr hi]
    exact ⟨ih.state, ih.source, ih.calls, ih.outcome⟩
  | case6 s r limit done hl ask r' e hr hi =>
    have he : e.isInterrupted = false := by simpa using hi
    rw [payload_of_error hl (hsource.failed hr he), if_neg hi]
    exact ⟨rfl, rfl, rfl, rfl⟩

end Streaming

namespace Sink

variable {sink : Sink σ} {calm : Sink τ} {view : σ → τ} {source : Source ρ}
  {calmSource : Source κ} {glance : ρ → κ}

open Streaming

theorem emitFrom_perseveres (sink : Sink σ) (source : Source ρ) (s : σ) (r : ρ)
    (type : RecordType) (payloadLen : UInt64) (metadata : Bytes) :
    Perseveres (sink.emitFrom source s r type payloadLen metadata).calls
      (sink.emitFrom source s r type payloadLen metadata).outcome := by
  rw [emitFrom]
  split
  · exact perseveres_of_error repeated_nil (by simp [Failure.source?])
  dsimp only
  generalize recordLen payloadLen.toNat metadata.length = total
  have hhead := sink.sendPiece_perseveres s
    [({ type := type, payloadLen := payloadLen, metadataLen := UInt64.ofNat metadata.length } :
      Header).encode] none 0 total
  generalize sink.sendPiece s _ none 0 total = head at hhead ⊢
  split
  next e he => exact perseveres_of_error hhead.repeated (hhead.cause e he)
  next n _ =>
    have hmid := payload_perseveres sink source total head.state r payloadLen.toNat ⟨n, 0⟩
    generalize Streaming.payload sink source total head.state r payloadLen.toNat ⟨n, 0⟩ = mid
      at hmid ⊢
    have hjoin : Repeated (head.calls ++ mid.calls) := hhead.repeated.append hmid.repeated
    split
    next e he => exact perseveres_of_error hjoin (hmid.cause e he)
    next done _ =>
      split
      · exact perseveres_of_error hjoin (by simp [endedEarly, IoError.isInterrupted, IoError.kind])
      · exact .append hjoin (sink.sendPiece_perseveres mid.state _ none done.sent total) _

/-- Without the interruptions of sink and source a streamed record comes out as it does with them.
-/
theorem emitFrom_calmed (h : Calms sink.send calm.send view)
    (hd : calm.sendsDatagrams = sink.sendsDatagrams)
    (hsource : Calms source.read calmSource.read glance) (s : σ) (r : ρ) (type : RecordType)
    (payloadLen : UInt64) (metadata : Bytes) :
    Calmed view glance (sink.emitFrom source s r type payloadLen metadata)
      (calm.emitFrom calmSource (view s) (glance r) type payloadLen metadata) := by
  rw [emitFrom, emitFrom]
  split
  · exact ⟨rfl, rfl, rfl, rfl⟩
  dsimp only
  generalize recordLen payloadLen.toNat metadata.length = total
  rw [sendPiece_calmed h hd]
  generalize sink.sendPiece s _ none 0 total = head
  rcases ho : head.outcome with e | n
  · have ho' : (head.calmed view).outcome = .error e := ho
    rw [ho']
    exact ⟨rfl, rfl, rfl, rfl⟩
  have ho' : (head.calmed view).outcome = .ok n := ho
  rw [ho']
  dsimp only
  -- Both runs go on from the same header, so they come to the same end of the payload.
  have hmid : Calmed view glance
      (Streaming.payload sink source total head.state r payloadLen.toNat ⟨n, 0⟩)
      (Streaming.payload calm calmSource total (head.calmed view).state (glance r)
        payloadLen.toNat ⟨n, 0⟩) :=
    payload_calmed h hd hsource total head.state r payloadLen.toNat ⟨n, 0⟩
  generalize Streaming.payload sink source total head.state r payloadLen.toNat ⟨n, 0⟩ = mid
    at hmid ⊢
  generalize Streaming.payload calm calmSource total (head.calmed view).state (glance r)
    payloadLen.toNat ⟨n, 0⟩ = quiet at hmid ⊢
  have hcalls : (head.calmed view).calls ++ quiet.calls = settled (head.calls ++ mid.calls) := by
    rw [hmid.calls, settled_append]
    rfl
  rw [hmid.outcome]
  rcases mid.outcome with e | done
  · exact ⟨hmid.state, hmid.source, hcalls, rfl⟩
  dsimp only
  split
  · exact ⟨hmid.state, hmid.source, hcalls, rfl⟩
  · rw [hmid.state, sendPiece_calmed h hd]
    refine ⟨rfl, hmid.source, ?_, rfl⟩
    rw [hcalls]
    exact (settled_append _ _).symm

end Sink

namespace Script

def Reply.isInterrupted : Reply → Bool
  | .accept _ => false
  | .exceed _ => false
  | .fail e => e.isInterrupted

def Supply.isInterrupted : Supply → Bool
  | .data _ => false
  | .fail e => e.isInterrupted

/-- A script without its interruptions answers as the script does. -/
theorem answer_calms : Calms answer answer (List.filter (!·.isInterrupted)) where
  ok {s s' a b} h := by
    match s with
    | [] | .accept n :: rest | .exceed n :: rest =>
      cases h
      rfl
    | .fail e :: rest => cases h
  failed {s s' a e} h he := by
    match s with
    | [] | .accept n :: rest | .exceed n :: rest => cases h
    | .fail e' :: rest =>
      cases h
      rw [List.filter_cons_of_pos (by simpa [Reply.isInterrupted] using he)]
      rfl
  interrupted {s s' a e} h he := by
    match s with
    | [] | .accept n :: rest | .exceed n :: rest => cases h
    | .fail e' :: rest =>
      cases h
      rw [List.filter_cons_of_neg (by simpa [Reply.isInterrupted] using he)]

/-- A script of reads without its interruptions supplies what the script does. -/
theorem supply_calms : Calms supply supply (List.filter (!·.isInterrupted)) where
  ok {s s' n bytes} h := by
    match s with
    | [] =>
      cases h
      rfl
    | .data bs :: rest =>
      have hdata (bs : Bytes) : (Supply.data bs :: rest).filter (!·.isInterrupted) =
          .data bs :: rest.filter (!·.isInterrupted) := List.filter_cons_of_pos rfl
      rw [hdata, supply]
      rw [supply] at h
      split at h
      next hle =>
        cases h
        rw [if_pos hle]
      next hlong =>
        cases h
        rw [if_neg hlong, hdata]
    | .fail e :: rest => cases h
  failed {s s' n e} h he := by
    match s with
    | [] => cases h
    | .data bs :: rest =>
      rw [supply] at h
      split at h <;> cases h
    | .fail e' :: rest =>
      cases h
      rw [List.filter_cons_of_pos (by simpa [Supply.isInterrupted] using he)]
      rfl
  interrupted {s s' n e} h he := by
    match s with
    | [] => cases h
    | .data bs :: rest =>
      rw [supply] at h
      split at h <;> cases h
    | .fail e' :: rest =>
      cases h
      rw [List.filter_cons_of_neg (by simpa [Supply.isInterrupted] using he)]

end Script

inductive Operation (ρ : Type)
  | whole (message : Message)
  | once (segments : List Segment)
  | streamed (supply : ρ) (type : RecordType) (payloadLen : UInt64) (metadata : Bytes)

namespace Operation

def run (sink : Sink σ) (source : Source ρ) (s : σ) : Operation ρ → Sending σ
  | whole m => m.send sink s
  | once segments => sink.offerSegments s segments
  | streamed r type payloadLen metadata =>
    (sink.emitFrom source s r type payloadLen metadata).sending

def map (glance : ρ → κ) : Operation ρ → Operation κ
  | whole m => .whole m
  | once segments => .once segments
  | streamed r type payloadLen metadata => .streamed (glance r) type payloadLen metadata

variable {sink : Sink σ} {calm : Sink τ} {view : σ → τ} {source : Source ρ}
  {calmSource : Source κ} {glance : ρ → κ}

theorem run_perseveres (sink : Sink σ) (source : Source ρ) (s : σ) (op : Operation ρ) :
    Perseveres (op.run sink source s).calls (op.run sink source s).outcome := by
  cases op with
  | whole m =>
    rcases hm : m.encode with e | parts
    · obtain ⟨hsend, hnone⟩ := Message.send_of_error hm
      rw [run, hsend]
      exact perseveres_of_error repeated_nil (by simp [hnone])
    · rw [run, Message.send_of_ok hm]
      exact sink.sendPiece_perseveres s parts m.control 0 _
  | once segments =>
    rw [run, Sink.offerSegments]
    split
    · exact perseveres_of_ok repeated_nil 0
    · exact sink.offerOnce_perseveres s _
  | streamed r type payloadLen metadata =>
    exact sink.emitFrom_perseveres source s r type payloadLen metadata

/-- Without the interruptions every operation comes out as it does with them. -/
theorem run_calmed (h : Calms sink.send calm.send view)
    (hd : calm.sendsDatagrams = sink.sendsDatagrams)
    (hsource : Calms source.read calmSource.read glance) (s : σ) (op : Operation ρ) :
    (op.map glance).run calm calmSource (view s) = (op.run sink source s).calmed view := by
  cases op with
  | whole m =>
    rw [map, run, run]
    rcases hm : m.encode with e | parts
    · rw [(Message.send_of_error hm).1, (Message.send_of_error hm).1]
      rfl
    · rw [Message.send_of_ok hm, Message.send_of_ok hm]
      exact Sink.sendPiece_calmed h hd s parts m.control 0 _
  | once segments =>
    have hparts : Remainder.ofParts calm (segments.map Segment.encode) =
        Remainder.ofParts sink (segments.map Segment.encode) := Remainder.ofParts_congr hd _
    rw [map, run, run, Sink.offerSegments, Sink.offerSegments, hparts]
    split
    · rfl
    · exact Sink.offerOnce_calmed h s _
  | streamed r type payloadLen metadata =>
    have hm := Sink.emitFrom_calmed h hd hsource s r type payloadLen metadata
    rw [map, run, run, Streaming.sending, hm.state, hm.calls, hm.outcome]
    rfl

/-- Interruptions leave no trace. Without the interruptions of sink and source every operation comes
out as it does with them, the sink takes the same bytes in the same calls, and each interrupted call
is made again with the same offer; no interruption is the cause of an error. -/
theorem run_withoutInterruptions (sendsDatagrams : Bool) (replies : List Script.Reply)
    (op : Operation (List Script.Supply)) :
    let sink := Script.sink sendsDatagrams
    let r := op.run sink Script.source replies
    let calm := (op.map (List.filter (!·.isInterrupted))).run sink Script.source
      (replies.filter (!·.isInterrupted))
    calm.outcome = r.outcome ∧ calm.taken = r.taken ∧
      calm.calls = r.calls.filter (!·.isInterrupted) ∧
      calm.state = r.state.filter (!·.isInterrupted) ∧ Repeated r.calls ∧
      ∀ e, r.outcome = .error e → ∀ cause ∈ e.source?, cause.kind ≠ .interrupted := by
  intro sink r calm
  have hcalm : calm = r.calmed (List.filter (!·.isInterrupted)) :=
    run_calmed Script.answer_calms rfl Script.supply_calms replies op
  have hr : Perseveres r.calls r.outcome := run_perseveres sink Script.source replies op
  refine ⟨?_, ?_, ?_, ?_, hr.repeated, ?_⟩
  · rw [hcalm]
    rfl
  · rw [hcalm]
    exact taken_settled r.calls
  · rw [hcalm]
    rfl
  · rw [hcalm]
    rfl
  · intro e he cause hcause
    simpa [IoError.isInterrupted] using hr.cause e he cause hcause

end Operation

end LocalRecords
