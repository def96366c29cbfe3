import LocalRecords.Proofs.Message.Control
import LocalRecords.Proofs.Message.Overreport
import LocalRecords.Proofs.Record.Layout

namespace LocalRecords

variable {σ : Type}

namespace Word

def digits (w n : Nat) : Bytes := (List.range w).map fun i => UInt8.ofNat (n / count i)

/-- A word goes out as its digits to the base 256. -/
theorem toBytes_eq_digits (w n : Nat) : toBytes w n = digits w n := by
  induction w generalizing n with
  | zero => rfl
  | succ w ih =>
    have hlow : UInt8.ofNat (n % 256) = UInt8.ofNat (n / count 0) := by
      apply UInt8.toNat_inj.mp
      simp [count]
    have hhigh (i : Nat) : UInt8.ofNat (n / 256 / count i) = UInt8.ofNat (n / count (i + 1)) := by
      rw [Nat.div_div_eq_div_mul, count]
    rw [toBytes, ih, digits, digits, List.range_succ_eq_map, List.map_cons, List.map_map, hlow]
    exact congrArg _ (List.map_congr_left fun i _ => hhigh i)

/-- Taken modulo the range of its word, a signed number is the unsigned one with the same bits. -/
theorem toNat_emod {w m : Nat} (x : BitVec w) (hm : Nat.pow 2 w = m) :
    (x.toInt % m).toNat = x.toNat := by
  have hlt : x.toNat < m := hm ▸ x.isLt
  have hsigned : x.toInt = x.toNat ∨ x.toInt = x.toNat - m := by
    rw [BitVec.toInt_eq_toNat_cond, ← hm]
    split
    · exact .inl rfl
    · exact .inr rfl
  have hmod : x.toInt % m = x.toNat := by
    rcases hsigned with h | h
    · rw [h]
      exact Int.emod_eq_of_lt (by omega) (by omega)
    · rw [h, Int.sub_emod_right]
      exact Int.emod_eq_of_lt (by omega) (by omega)
  rw [hmod, Int.toNat_natCast]

end Word

/-- A text goes out as its characters do, one after the other. -/
theorem Utf8.encode_eq (s : String) : encode s = s.toList.flatMap String.utf8EncodeChar := by
  have hbytes : s.toUTF8 = s.toList.utf8Encode := String.utf8Encode_toList.symm
  rw [encode, hbytes, List.utf8Encode, List.toList_data_toByteArray]

namespace Value

/-- The bytes that a value goes out as, if a message can carry it: the digits of a word, where a
signed one stands for the unsigned one with the same bits, the bytes of a string of bytes, and the
characters of a text. -/
def bytes? : Value → Option Bytes
  | word16 v => some (Word.digits 2 v.toNat)
  | int16 v => some (Word.digits 2 (v.toInt % Word.count 2).toNat)
  | word32 v => some (Word.digits 4 v.toNat)
  | int32 v => some (Word.digits 4 (v.toInt % Word.count 4).toNat)
  | word64 v => some (Word.digits 8 v.toNat)
  | int64 v => some (Word.digits 8 (v.toInt % Word.count 8).toNat)
  | byteString v | byteBlock v | constantBytes v => some v
  | text v | constantText v => some (v.toList.flatMap String.utf8EncodeChar)
  | other _ => none

/-- The bytes of a value are those of its segment, if it has one. -/
theorem bytes?_eq (v : Value) : v.bytes? = v.segment?.map Segment.encode := by
  cases v with
  | word16 v | word32 v | word64 v =>
    rw [bytes?, ← Word.toBytes_eq_digits]
    rfl
  | int16 v =>
    have hbits : (v.toInt % Word.count 2).toNat = v.toUInt16.toNat :=
      Word.toNat_emod v.toBitVec rfl
    rw [bytes?, hbits, ← Word.toBytes_eq_digits]
    rfl
  | int32 v =>
    have hbits : (v.toInt % Word.count 4).toNat = v.toUInt32.toNat :=
      Word.toNat_emod v.toBitVec rfl
    rw [bytes?, hbits, ← Word.toBytes_eq_digits]
    rfl
  | int64 v =>
    have hbits : (v.toInt % Word.count 8).toNat = v.toUInt64.toNat :=
      Word.toNat_emod v.toBitVec rfl
    rw [bytes?, hbits, ← Word.toBytes_eq_digits]
    rfl
  | text v | constantText v =>
    rw [bytes?, ← Utf8.encode_eq]
    rfl
  | byteString v | byteBlock v | constantBytes v => rfl
  | other typeName => rfl

/-- All values have a segment, or the first that has none is the error. -/
theorem segmentsFrom_eq (index : Nat) (values : List Value) :
    segmentsFrom index values =
      match values.findIdx? (·.bytes?.isNone) with
      | some i => .error (.noSegment (index + i))
      | none => .ok (values.filterMap segment?) := by
  induction values generalizing index with
  | nil => rfl
  | cons v rest ih =>
    rw [segmentsFrom, List.findIdx?_cons, bytes?_eq]
    rcases hv : v.segment? with _ | segment
    · rfl
    · simp only [Option.map_some, Option.isNone_some, Bool.false_eq_true, if_false]
      rw [ih (index + 1), List.filterMap_cons_some hv]
      cases rest.findIdx? (fun w => w.bytes?.isNone) with
      | none => rfl
      | some i =>
        have hindex : index + 1 + i = index + (i + 1) := by omega
        simp only [Option.map_some, Except.map, hindex]

/-- The first value that no message can carry is the error. -/
theorem segments_of_unsupported {values : List Value} {i : Nat}
    (hi : values.findIdx? (·.bytes?.isNone) = some i) :
    segments values = .error (.noSegment i) := by
  rw [segments, segmentsFrom_eq, hi]
  dsimp only
  rw [Nat.zero_add]

/-- Where a message can carry all values each of them has its segment. -/
theorem segments_of_supported {values : List Value}
    (hall : values.findIdx? (·.bytes?.isNone) = none) :
    segments values = .ok (values.filterMap segment?) := by
  rw [segments, segmentsFrom_eq, hall]

theorem map_encode_filterMap (values : List Value) :
    (values.filterMap segment?).map Segment.encode = values.filterMap bytes? := by
  rw [List.map_filterMap]
  exact congrArg (values.filterMap ·) (funext fun v => (bytes?_eq v).symm)

/-- Where every value has its bytes none is left out. -/
theorem map_some_filterMap {values : List Value}
    (hall : values.findIdx? (·.bytes?.isNone) = none) :
    (values.filterMap bytes?).map some = values.map bytes? := by
  rw [List.findIdx?_eq_none_iff] at hall
  induction values with
  | nil => rfl
  | cons v rest ih =>
    obtain ⟨hv, hrest⟩ := List.forall_mem_cons.mp hall
    rcases hb : v.bytes? with _ | bytes
    · rw [hb] at hv
      cases hv
    · rw [List.filterMap_cons_some hb, List.map_cons, List.map_cons, ih hrest, hb]

end Value

namespace Sink

variable (sink : Sink σ)

/-- Values are sent all or not at all, as far as their types go. If a message cannot carry some of
them, the first of these is the error, and the sink is not called. Otherwise the bytes of each value
are sent as the parts of a message without control data, with the same calls and the same result,
and as many bytes are reported as sent as the segments of the values are long. -/
theorem sendValues_classifies (s : σ) (values : List Value) :
    let r := sink.sendValues s values
    (∀ i, values.findIdx? (·.bytes?.isNone) = some i → r = ⟨s, [], .error (.noSegment i)⟩) ∧
      (values.findIdx? (·.bytes?.isNone) = none →
        let parts := values.filterMap Value.bytes?
        parts.map some = values.map Value.bytes? ∧
          r = sink.sendParts s parts none ∧
          (∀ c ∈ r.calls, c.offer.control = none) ∧
          ∀ n, r.outcome = .ok n → n = sumOf Segment.size (values.filterMap Value.segment?)) := by
  intro r
  constructor
  · intro i hi
    have hr : r = sink.sendValues s values := rfl
    rw [hr, sendValues, Value.segments_of_unsupported hi]
  · intro hall parts
    have hr : r = sink.sendParts s parts none := by
      calc r
          = sink.sendMessage s (values.filterMap Value.segment?) := by
            rw [show r = sink.sendValues s values from rfl, sendValues,
              Value.segments_of_supported hall]
        _ = sink.sendParts s parts none := by
            rw [sendMessage, Value.map_encode_filterMap]
    refine ⟨Value.map_some_filterMap hall, hr, ?_, ?_⟩
    · rw [hr]
      exact sink.sendRest_carriesNone rfl 0 _ s _ 0
    · intro n hn
      rw [hr] at hn
      have htally := sink.sendRest_tallies 0 (sumOf List.length parts) s (.ofParts sink parts) none
        0 (Remainder.rests_ofParts sink parts)
      have hcount := (htally.ok n hn).2
      calc n
          = 0 + (Remainder.ofParts sink parts).bytes.length := hcount
        _ = parts.flatten.length := by rw [Nat.zero_add, Remainder.bytes_ofParts]
        _ = (Segment.joined (values.filterMap Value.segment?)).length := by
            rw [Segment.joined, Value.map_encode_filterMap]
        _ = sumOf Segment.size (values.filterMap Value.segment?) := Segment.length_joined _

/-- Signed words, a text beyond ASCII and two strings of bytes, of which the sink takes one byte
first; and two values that no message carries behind one that could be sent. -/
theorem sendValues_classifies_mixed :
    let sink := Script.sink false
    let values : List Value :=
      [.int16 (-2), .int64 (-1), .text "é", .byteBlock [], .constantBytes [7]]
    let parts : List Bytes := [[254, 255], List.replicate 8 255, [195, 169], [], [7]]
    let unsupported : List Value := [.word32 1, .other "f64", .text "x", .other "bool"]
    sink.sendValues [.accept 1] values = sink.sendParts [.accept 1] parts none ∧
      (sink.sendValues [.accept 1] values).outcome = .ok 13 ∧
      sink.sendValues [.accept 1] unsupported = ⟨[.accept 1], [], .error (.noSegment 1)⟩ := by
  intro sink values parts unsupported
  have hall : values.findIdx? (·.bytes?.isNone) = none := by decide
  have hparts : values.filterMap Value.bytes? = parts := by decide
  have hfirst : unsupported.findIdx? (·.bytes?.isNone) = some 1 := by decide
  obtain ⟨-, hsent, -, -⟩ := (sink.sendValues_classifies [.accept 1] values).2 hall
  rw [hparts] at hsent
  refine ⟨hsent, ?_, (sink.sendValues_classifies [.accept 1] unsupported).1 1 hfirst⟩
  rw [hsent]
  cbv

end Sink

end LocalRecords
