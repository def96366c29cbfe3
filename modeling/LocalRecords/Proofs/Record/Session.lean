import LocalRecords.Proofs.Record.Emission

namespace LocalRecords

variable {σ : Type}

/-- What a session is asked to send: a record that is there as a whole, or one whose payload is read
from a source of any kind while it is sent. -/
inductive Task : Type 1
  | whole (record : Record) (built : record.Built)
  | streamed {ρ : Type} (source : Source ρ) (state : ρ) (type : RecordType) (payloadLen : UInt64)
    (metadata : Bytes)

namespace Task

def record : Task → WireRecord
  | whole r _ => r.received
  | streamed source state type payloadLen metadata =>
    source.record state type payloadLen metadata

def Within (limits : Limits) : Task → Prop
  | whole r _ => r.Within limits
  | streamed _ _ type payloadLen metadata =>
    (type.hasPayload = true → payloadLen ≤ limits.payload) ∧
      metadata.length ≤ limits.metadata.toNat

def send (sink : Sink σ) (s : σ) : Task → Sending σ
  | whole r _ => sink.emit s r
  | streamed source state type payloadLen metadata =>
    (sink.emitFrom source s state type payloadLen metadata).sending

theorem send_leaves {sink : Sink σ} (hs : sink.Honest) (s : σ) {task : Task} {limits : Limits}
    (hw : task.Within limits) : (task.send sink s).Leaves task.record := by
  cases task with
  | whole r built => exact sink.emitWith_leaves hs s (built.regular hw) []
  | streamed source state type payloadLen metadata =>
    have hm : metadata.length < UInt64.size :=
      Nat.lt_of_le_of_lt hw.2 limits.metadata.toNat_lt
    exact sink.emitFrom_leaves hs source s state type payloadLen hm

theorem admitted {task : Task} {limits : Limits} (hw : task.Within limits)
    (hc : task.record.header.recordSize ≤ maxU64) : task.record.header.Admitted limits := by
  cases task with
  | whole r built =>
    refine built.admitted hw ?_
    rw [Record.length_encode (built.regular hw)]
    exact hc
  | streamed source state type payloadLen metadata =>
    refine ⟨rfl, hw.1, ?_, hc⟩
    have hm : metadata.length < UInt64.size :=
      Nat.lt_of_le_of_lt hw.2 limits.metadata.toNat_lt
    rw [UInt64.le_iff_toNat_le]
    exact Nat.le_trans (Nat.le_of_eq (UInt64.toNat_ofNat_of_lt' hm)) hw.2

end Task

structure Attempt (σ : Type) : Type 1 where
  task : Task
  sending : Sending σ

namespace Attempt

def isSent (a : Attempt σ) : Bool :=
  match a.sending.outcome with
  | .ok _ => true
  | .error _ => false

def isFatal (a : Attempt σ) : Bool :=
  match a.sending.outcome with
  | .ok _ => false
  | .error e => e.isFatal

def record (a : Attempt σ) : WireRecord := a.task.record

def taken (a : Attempt σ) : Bytes := a.sending.taken

theorem of_ok {a : Attempt σ} {n : Nat} (h : a.sending.outcome = .ok n) :
    a.isSent = true ∧ a.isFatal = false := by
  rw [isSent, isFatal, h]
  exact ⟨rfl, rfl⟩

theorem of_error {a : Attempt σ} {e : Failure} (h : a.sending.outcome = .error e) :
    a.isSent = false ∧ a.isFatal = e.isFatal := by
  rw [isSent, isFatal, h]
  exact ⟨rfl, rfl⟩

end Attempt

/-- Sends one record after the other and stops at the first failure that is fatal. -/
def Sink.session (sink : Sink σ) (s : σ) : List Task → List (Attempt σ)
  | [] => []
  | task :: tasks =>
    let attempt : Attempt σ := ⟨task, task.send sink s⟩
    attempt :: if attempt.isFatal then [] else sink.session attempt.sending.state tasks

namespace Sink

variable (sink : Sink σ)

theorem task_mem_of_mem_session {a : Attempt σ} {tasks : List Task} {s : σ}
    (ha : a ∈ sink.session s tasks) : a.task ∈ tasks := by
  induction tasks generalizing s with
  | nil => cases ha
  | cons task tasks ih =>
    rw [session] at ha
    rcases List.mem_cons.mp ha with rfl | ha
    · exact List.mem_cons_self
    · split at ha
      · cases ha
      · exact List.mem_cons_of_mem task (ih ha)

/-- Every attempt of a session leaves the sink with the record, with nothing, or with a part that is
no record. -/
theorem session_leaves (hs : sink.Honest) {limits : Limits} (tasks : List Task) (s : σ)
    (hw : ∀ a ∈ sink.session s tasks, a.task.Within limits) :
    ∀ a ∈ sink.session s tasks, a.sending.Leaves a.record := by
  induction tasks generalizing s with
  | nil => exact fun a ha => absurd ha List.not_mem_nil
  | cons task tasks ih =>
    rw [session] at hw ⊢
    intro a ha
    rcases List.mem_cons.mp ha with rfl | ha
    · exact task.send_leaves hs s (hw _ List.mem_cons_self)
    · by_cases hf : (⟨task, task.send sink s⟩ : Attempt σ).isFatal = true
      · rw [if_pos hf] at ha
        cases ha
      · rw [if_neg hf] at ha hw
        exact ih _ (fun b hb => hw b (List.mem_cons_of_mem _ hb)) a ha

/-- What all attempts of a session put on the wire, scanned: the records that were sent, and the
part that a fatal failure left. -/
theorem scan_session (hs : sink.Honest) (limits : Limits) (tasks : List Task) (s : σ)
    (hw : ∀ a ∈ sink.session s tasks, a.task.Within limits)
    (hc : ∀ a ∈ sink.session s tasks, a.record.header.recordSize ≤ maxU64) :
    Decoder.scan limits ((sink.session s tasks).flatMap Attempt.taken) =
      (((sink.session s tasks).filter Attempt.isSent).map Attempt.record,
        ((sink.session s tasks).filter Attempt.isFatal).flatMap Attempt.taken, none) := by
  -- On the tasks: what an attempt leaves is a record for the scan to find, nothing, or the end.
  induction tasks generalizing s with
  | nil => exact Decoder.scan_nil limits
  | cons task tasks ih =>
    have hleaves := sink.session_leaves hs (task :: tasks) s hw
    rw [session] at hw hc hleaves ⊢
    have hadmitted := Task.admitted (hw _ List.mem_cons_self) (hc _ List.mem_cons_self)
    replace hleaves := hleaves _ List.mem_cons_self
    generalize (⟨task, task.send sink s⟩ : Attempt σ) = a at hw hc hadmitted hleaves ⊢
    have hrest := ih a.sending.state
    cases hleaves with
    | record outcome taken regular =>
      obtain ⟨hsent, hfatal⟩ := Attempt.of_ok outcome
      rw [hfatal, if_neg Bool.false_ne_true] at hw hc ⊢
      replace hrest := hrest (fun b hb => hw b (List.mem_cons_of_mem a hb))
        (fun b hb => hc b (List.mem_cons_of_mem a hb))
      generalize sink.session a.sending.state tasks = more at hrest ⊢
      have hfront := Decoder.front_encode regular hadmitted (more.flatMap Attempt.taken)
      rw [List.flatMap_cons, List.filter_cons_of_pos hsent,
        List.filter_cons_of_neg (Bool.eq_false_iff.mp hfatal), Attempt.taken, taken,
        Decoder.scan_of_record hfront, hrest]
      rfl
    | nothing e outcome harmless taken =>
      obtain ⟨hsent, hfatal⟩ := Attempt.of_error outcome
      rw [harmless] at hfatal
      rw [hfatal, if_neg Bool.false_ne_true] at hw hc ⊢
      replace hrest := hrest (fun b hb => hw b (List.mem_cons_of_mem a hb))
        (fun b hb => hc b (List.mem_cons_of_mem a hb))
      rw [List.flatMap_cons, List.filter_cons_of_neg (Bool.eq_false_iff.mp hsent),
        List.filter_cons_of_neg (Bool.eq_false_iff.mp hfatal), Attempt.taken, taken]
      exact hrest
    | part e outcome fatal start short =>
      obtain ⟨hsent, hfatal⟩ := Attempt.of_error outcome
      rw [fatal] at hfatal
      have hstart := List.prefix_or_prefix_of_prefix start a.record.header_isPrefix
      have hfront := Decoder.front_of_short hadmitted hstart short
      rw [if_pos hfatal, List.filter_cons_of_neg (Bool.eq_false_iff.mp hsent),
        List.filter_cons_of_pos hfatal, List.filter_nil, List.filter_nil, List.flatMap_singleton,
        Attempt.taken, Decoder.scan_of_none hfront]
      rfl

/-- End-to-end integrity. Of everything that the sink took the receiver decodes exactly the records
that were reported as sent, in order, and then asks for more bytes. A failure that is not fatal has
left nothing behind; a fatal one, after which the session stops, a part of a record that is not
whole. -/
theorem session_decodes (hs : sink.Honest) (limits : Limits) (s : σ) (tasks : List Task)
    (hw : ∀ a ∈ sink.session s tasks, a.task.Within limits)
    (hc : ∀ a ∈ sink.session s tasks, a.record.header.recordSize ≤ maxU64) :
    let attempts := sink.session s tasks
    ∃ d, ((Decoder.new limits).push (attempts.flatMap Attempt.taken)).decodeAll =
        ((attempts.filter Attempt.isSent).map Attempt.record, d, none) ∧
      (∀ a ∈ attempts, a.isSent = false → a.isFatal = false → a.taken = []) ∧
      (∀ a ∈ attempts, a.isFatal = true →
        a.taken <+: a.record.encode ∧ a.taken.length < a.record.header.recordSize) ∧
      d.unread = (attempts.filter Attempt.isFatal).flatMap Attempt.taken := by
  intro attempts
  have hleaves := sink.session_leaves hs tasks s hw
  have hscan := sink.scan_session hs limits tasks s hw hc
  obtain ⟨d, hall, hunread⟩ := Decoder.decodeAll_push_new limits (attempts.flatMap Attempt.taken)
  rw [hscan] at hall hunread
  refine ⟨d, hall, ?_, ?_, hunread⟩
  · intro a ha hsent hfatal
    cases hleaves a ha with
    | record outcome taken regular =>
      rw [(Attempt.of_ok outcome).1] at hsent
      cases hsent
    | nothing e outcome harmless taken => exact taken
    | part e outcome fatal start short =>
      rw [(Attempt.of_error outcome).2, fatal] at hfatal
      cases hfatal
  · intro a ha hfatal
    cases hleaves a ha with
    | record outcome taken regular =>
      rw [(Attempt.of_ok outcome).2] at hfatal
      cases hfatal
    | nothing e outcome harmless taken =>
      rw [(Attempt.of_error outcome).2, harmless] at hfatal
      cases hfatal
    | part e outcome fatal start short => exact ⟨start, short⟩

/-- A record that is taken in two calls, one of which no byte is taken, and one whose source ends
after half of its payload. -/
theorem session_decodes_endedEarly :
    let sink := (Script.sink false).capped
    let sent : Record := .inline .log [7] []
    let tasks : List Task := [.whole sent (.inline _ _ _),
      .whole (.inline .audit [8] []) (.inline _ _ _),
      .streamed Script.source [.data [9]] .log 2 []]
    let attempts := sink.session [.accept 5, .accept 100, .fail (.os 11)] tasks
    sink.Honest ∧ (∀ a ∈ attempts, a.task.Within {}) ∧
      (∀ a ∈ attempts, a.record.header.recordSize ≤ maxU64) ∧
      ∃ d, ((Decoder.new {}).push (attempts.flatMap Attempt.taken)).decodeAll =
          ([sent.received], d, none) ∧
        d.unread.length = 21 := by
  intro sink sent tasks attempts
  have hs : sink.Honest := (Script.sink false).honest_capped
  have htasks : ∀ t ∈ tasks, t.Within {} ∧ t.record.header.recordSize ≤ maxU64 := by
    intro t ht
    simp only [tasks, List.mem_cons, List.not_mem_nil, or_false] at ht
    rcases ht with rfl | rfl | rfl <;> exact ⟨⟨by decide, by decide⟩, by decide⟩
  have hw : ∀ a ∈ attempts, a.task.Within {} :=
    fun a ha => (htasks a.task (sink.task_mem_of_mem_session ha)).1
  have hc : ∀ a ∈ attempts, a.record.header.recordSize ≤ maxU64 :=
    fun a ha => (htasks a.task (sink.task_mem_of_mem_session ha)).2
  obtain ⟨d, hall, -, -, hunread⟩ := session_decodes sink hs {} _ tasks hw hc
  refine ⟨hs, hw, hc, d, ?_, ?_⟩
  · have hsent : (attempts.filter Attempt.isSent).map Attempt.record = [sent.received] := by cbv
    rw [← hsent]
    exact hall
  · have hleft : ((attempts.filter Attempt.isFatal).flatMap Attempt.taken).length = 21 := by cbv
    rw [hunread]
    exact hleft

/-- That the limits allow what is announced is not enough: the length of the whole record has to be a
64-bit number, too. Otherwise the receiver answers its header with an error. -/
theorem session_announces_oversize :
    let sink := (Script.sink false).capped
    let limits : Limits := { payload := 18446744073709551615, metadata := 0 }
    let attempts := sink.session [] [.streamed Script.source [] .log 18446744073709551615 []]
    sink.Honest ∧ (∀ a ∈ attempts, a.task.Within limits) ∧
      ¬∃ d, ((Decoder.new limits).push (attempts.flatMap Attempt.taken)).decodeAll =
        ((attempts.filter Attempt.isSent).map Attempt.record, d, none) := by
  intro sink limits attempts
  refine ⟨(Script.sink false).honest_capped, ?_, ?_⟩
  · intro a ha
    have ht := sink.task_mem_of_mem_session ha
    rw [List.mem_singleton.mp ht]
    exact ⟨by decide, by decide⟩
  · rintro ⟨d, hd⟩
    have ht : attempts.flatMap Attempt.taken =
        [1, 0, 1, 0, 255, 255, 255, 255, 255, 255, 255, 255, 0, 0, 0, 0, 0, 0, 0, 0] := by cbv
    have he : ((Decoder.new limits).push (attempts.flatMap Attempt.taken)).decodeAll.2.2 =
        some (.oversize .record maxU64 (maxU64 - Header.size)) := by
      rw [ht]
      decide +kernel
    rw [hd] at he
    cases he

end Sink

end LocalRecords
