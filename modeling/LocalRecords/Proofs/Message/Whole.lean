import LocalRecords.Record.Emission

namespace LocalRecords

variable {σ : Type}

theorem Value.eq_noSegment_of_segmentsFrom {values : List Value} {index : Nat} {e : Failure}
    (h : segmentsFrom index values = .error e) : ∃ i, e = .noSegment i := by
  induction values generalizing index with
  | nil => cases h
  | cons v rest ih =>
    rw [segmentsFrom] at h
    split at h
    · cases h
      exact ⟨index, rfl⟩
    · rcases hr : segmentsFrom (index + 1) rest with e' | ss
      · rw [hr] at h
        cases h
        exact ih hr
      · rw [hr] at h
        cases h

inductive Message
  | parts (parts : List Bytes) (control : Option Bytes)
  | segments (segments : List Segment)
  | values (values : List Value)
  | record (record : Record)
  | recordWith (record : Record) (descriptors : List DescriptorNumber)

namespace Message

def send (sink : Sink σ) (s : σ) : Message → Sending σ
  | parts ps control => sink.sendParts s ps control
  | segments ss => sink.sendMessage s ss
  | values vs => sink.sendValues s vs
  | record r => sink.emit s r
  | recordWith r ds => sink.emitWith s r ds

/-- The parts in which the bytes of a message go out, if all its values can be sent. -/
def encode : Message → Except Failure (List Bytes)
  | parts ps _ => .ok ps
  | segments ss => .ok (ss.map Segment.encode)
  | values vs => (Value.segments vs).map (List.map Segment.encode)
  | record r => .ok (r.segments.map Segment.encode)
  | recordWith r _ => .ok (r.segments.map Segment.encode)

def control : Message → Option Bytes
  | parts _ control => control.filter (!·.isEmpty)
  | recordWith _ ds => (some (Control.encode ds)).filter (!·.isEmpty)
  | segments _ => none
  | values _ => none
  | record _ => none

/-- Control data that is empty is sent like none. -/
theorem sendParts_filter (sink : Sink σ) (s : σ) (parts : List Bytes) (control : Option Bytes) :
    sink.sendParts s parts (control.filter (!·.isEmpty)) = sink.sendParts s parts control := by
  have hf : (control.filter (!·.isEmpty)).filter (!·.isEmpty) = control.filter (!·.isEmpty) := by
    rw [Option.filter_filter]
    simp only [Bool.and_self]
  rw [Sink.sendParts, Sink.sendParts, Sink.sendPiece, Sink.sendPiece, hf]

variable {sink : Sink σ} {s : σ} {m : Message}

/-- Every form of a message whose parts are known is sent as these parts, with its control data. -/
theorem send_of_ok {parts : List Bytes} (hm : m.encode = .ok parts) :
    m.send sink s = sink.sendParts s parts m.control := by
  cases m with
  | parts ps control =>
    cases hm
    exact (sendParts_filter sink s parts control).symm
  | segments ss =>
    cases hm
    rfl
  | values vs =>
    rw [encode] at hm
    rcases hv : Value.segments vs with e | ss
    · rw [hv] at hm
      cases hm
    · rw [hv] at hm
      cases hm
      rw [send, Sink.sendValues, hv]
      rfl
  | record r =>
    cases hm
    rfl
  | recordWith r ds =>
    cases hm
    exact (sendParts_filter sink s _ (some (Control.encode ds))).symm

/-- A message that cannot be sent makes no call, and its error names no system error. -/
theorem send_of_error {e : Failure} (hm : m.encode = .error e) :
    m.send sink s = ⟨s, [], .error e⟩ ∧ e.source? = none := by
  cases m with
  | values vs =>
    rw [encode] at hm
    rcases hv : Value.segments vs with e' | ss
    · rw [hv] at hm
      cases hm
      obtain ⟨index, rfl⟩ := Value.eq_noSegment_of_segmentsFrom hv
      rw [send, Sink.sendValues, hv]
      exact ⟨rfl, rfl⟩
    · rw [hv] at hm
      cases hm
  | parts | segments | record | recordWith => cases hm

end Message

end LocalRecords
