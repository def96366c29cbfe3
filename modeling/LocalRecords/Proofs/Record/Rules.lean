import LocalRecords.Proofs.Record.Places
import LocalRecords.Proofs.Settings.Bounds

/-!
What a decoder answers, by rules over its unread bytes and over numbers of any size: the first rule
that applies decides. The decoder adds lengths up to 64 bits only, and it looks at places of its
buffer; no sum that is cut off changes an answer, and no place lies outside.
-/

namespace LocalRecords

namespace Word

def ofPlace (w place : Nat) (bs : Bytes) : Nat := ofBytes ((bs.drop place).take w)

theorem ofPlace_lt (w place : Nat) (bs : Bytes) : ofPlace w place bs < count w := by
  have hlen : ((bs.drop place).take w).length ≤ w := List.length_take_le _ _
  have hcount : count ((bs.drop place).take w).length ≤ count w := by
    generalize ((bs.drop place).take w).length = k at hlen
    induction hlen with
    | refl => exact Nat.le_refl _
    | step _ ih =>
      rw [count]
      omega
  exact Nat.lt_of_lt_of_le (ofBytes_lt _) hcount

/-- What stands in the front of some bytes does not hang on what follows it. -/
theorem ofPlace_take {w place n : Nat} (h : place + w ≤ n) (bs : Bytes) :
    ofPlace w place (bs.take n) = ofPlace w place bs := by
  have hmin : min w (n - place) = w := by omega
  rw [ofPlace, ofPlace, List.drop_take, List.take_take, hmin]

end Word

/-- However the lengths are added up, the sum stops where the exact one passes 64 bits. -/
theorem Header.following_eq_min (h : Header) :
    h.following = min (h.recordSize - Header.size) maxU64 := by
  rw [following, recordSize]
  dsimp only [satAdd]
  split <;> omega

structure Preamble where
  version : Nat
  code : Nat
  payloadLen : Nat
  metadataLen : Nat

namespace Preamble

def ofBytes (u : Bytes) : Preamble where
  version := Word.ofPlace 2 0 u
  code := Word.ofPlace 2 2 u
  payloadLen := Word.ofPlace 8 4 u
  metadataLen := Word.ofPlace 8 12 u

def size (p : Preamble) : Nat :=
  20 + (if p.code = 4 then 0 else p.payloadLen + 5) + p.metadataLen + 5

def type (p : Preamble) : RecordType :=
  if p.code = 1 then .log
  else if p.code = 2 then .audit
  else if p.code = 3 then .journal
  else .passedJournal

def header (p : Preamble) : Header where
  version := UInt16.ofNat p.version
  type := p.type
  payloadLen := UInt64.ofNat p.payloadLen
  metadataLen := UInt64.ofNat p.metadataLen

end Preamble

namespace Decoder

/-- The answer to some unread bytes: the first of these rules that applies decides. -/
def ruling (limits : Limits) (u : Bytes) : Except Failure (Option WireRecord) :=
  let p := Preamble.ofBytes u
  if u.length < 20 then .ok none
  else if p.version ≠ 1 then .error (.malformed (.version (UInt16.ofNat p.version)))
  else if p.code < 1 ∨ 4 < p.code then .error (.unknownType (UInt16.ofNat p.code))
  else if p.code ≠ 4 ∧ limits.payload.toNat < p.payloadLen then
    .error (.oversize .payload p.payloadLen limits.payload.toNat)
  else if limits.metadata.toNat < p.metadataLen then
    .error (.oversize .metadata p.metadataLen limits.metadata.toNat)
  else if Word.count 8 ≤ p.size then
    .error (.oversize .record (min (p.size - 20) maxU64) (maxU64 - 20))
  else if u.length < p.size then .ok none
  else if p.code ≠ 4 ∧ (u.drop (20 + p.payloadLen)).take 5 ≠ delimiter then
    .error (.malformed (.missingDelimiter .payload))
  else if (u.drop (p.size - 5)).take 5 ≠ delimiter then
    .error (.malformed (.missingDelimiter .metadata))
  else
    .ok (some
      { header := p.header
        payload := if p.code = 4 then [] else (u.drop 20).take p.payloadLen
        metadata := (u.drop (p.size - 5 - p.metadataLen)).take p.metadataLen })

end Decoder

namespace Preamble

variable (u : Bytes)

theorem version_lt : (ofBytes u).version < 65536 := Word.ofPlace_lt 2 0 u

theorem code_lt : (ofBytes u).code < 65536 := Word.ofPlace_lt 2 2 u

theorem payloadLen_lt : (ofBytes u).payloadLen < 18446744073709551616 := Word.ofPlace_lt 8 4 u

theorem metadataLen_lt : (ofBytes u).metadataLen < 18446744073709551616 := Word.ofPlace_lt 8 12 u

theorem payloadLen_header : (ofBytes u).header.payloadLen.toNat = (ofBytes u).payloadLen :=
  UInt64.toNat_ofNat_of_lt' (payloadLen_lt u)

theorem metadataLen_header : (ofBytes u).header.metadataLen.toNat = (ofBytes u).metadataLen :=
  UInt64.toNat_ofNat_of_lt' (metadataLen_lt u)

theorem hasPayload_type {p : Preamble} (h1 : 1 ≤ p.code) (h4 : p.code ≤ 4) :
    p.type.hasPayload = true ↔ p.code ≠ 4 := by
  rw [type]
  repeat' split
  all_goals simp only [RecordType.hasPayload, true_iff, Bool.false_eq_true, false_iff]
  all_goals omega

/-- The table of types as a rule over the number: it knows 1 to 4 and no other. -/
theorem ofCode_code {p : Preamble} (hlt : p.code < 65536) :
    RecordType.ofCode (UInt16.ofNat p.code) =
      if p.code < 1 ∨ 4 < p.code then .error (.unknownType (UInt16.ofNat p.code))
      else .ok p.type := by
  have heq (k : Nat) (hk : k < 65536) : UInt16.ofNat p.code = UInt16.ofNat k ↔ p.code = k := by
    rw [← UInt16.toNat_inj, UInt16.toNat_ofNat_of_lt' hlt, UInt16.toNat_ofNat_of_lt' hk]
  have hlog : UInt16.ofNat p.code = 1 ↔ p.code = 1 := heq 1 (by decide)
  have haudit : UInt16.ofNat p.code = 2 ↔ p.code = 2 := heq 2 (by decide)
  have hjournal : UInt16.ofNat p.code = 3 ↔ p.code = 3 := heq 3 (by decide)
  have hpassed : UInt16.ofNat p.code = 4 ↔ p.code = 4 := heq 4 (by decide)
  rw [RecordType.ofCode, type]
  by_cases h1 : p.code = 1
  · rw [if_pos (hlog.mpr h1), if_pos h1, if_neg (by omega)]
  rw [if_neg (mt hlog.mp h1), if_neg h1]
  by_cases h2 : p.code = 2
  · rw [if_pos (haudit.mpr h2), if_pos h2, if_neg (by omega)]
  rw [if_neg (mt haudit.mp h2), if_neg h2]
  by_cases h3 : p.code = 3
  · rw [if_pos (hjournal.mpr h3), if_pos h3, if_neg (by omega)]
  rw [if_neg (mt hjournal.mp h3), if_neg h3]
  by_cases h4 : p.code = 4
  · rw [if_pos (hpassed.mpr h4), if_neg (by omega)]
  · rw [if_neg (mt hpassed.mp h4), if_pos (by omega)]

/-- Reading a header is reading its numbers, if version and type are those of a record. -/
theorem decode_header :
    Header.decode (u.take Header.size) =
      if (ofBytes u).version ≠ 1 then
        .error (.malformed (.version (UInt16.ofNat (ofBytes u).version)))
      else if (ofBytes u).code < 1 ∨ 4 < (ofBytes u).code then
        .error (.unknownType (UInt16.ofNat (ofBytes u).code))
      else .ok (ofBytes u).header := by
  have hfront : 0 + 2 ≤ Header.size := by decide
  have hversion : Word.ofBytes ((u.take Header.size).take 2) = (ofBytes u).version :=
    Word.ofPlace_take hfront u
  have hcode : Word.ofBytes (((u.take Header.size).drop 2).take 2) = (ofBytes u).code :=
    Word.ofPlace_take (by decide) u
  have hpayload : Word.ofBytes (((u.take Header.size).drop 4).take 8) = (ofBytes u).payloadLen :=
    Word.ofPlace_take (by decide) u
  have hmetadata :
      Word.ofBytes (((u.take Header.size).drop 12).take 8) = (ofBytes u).metadataLen :=
    Word.ofPlace_take (by decide) u
  have hspoken : UInt16.ofNat (ofBytes u).version = formatVersion ↔ (ofBytes u).version = 1 := by
    rw [← UInt16.toNat_inj, UInt16.toNat_ofNat_of_lt' (version_lt u)]
    exact Iff.rfl
  rw [Header.decode, hversion, hcode, hpayload, hmetadata, ofCode_code (code_lt u)]
  by_cases hv : (ofBytes u).version = 1
  · have hours : ¬(ofBytes u).version ≠ 1 := not_not_intro hv
    rw [if_neg (not_not_intro (hspoken.mpr hv)), if_neg hours]
    by_cases hc : (ofBytes u).code < 1 ∨ 4 < (ofBytes u).code
    · rw [if_pos hc, if_pos hc]
    · rw [if_neg hc, if_neg hc]
      rfl
  · rw [if_pos (mt hspoken.mp hv), if_pos hv]

/-- For a known type the exact length by the header is the one by the rules. -/
theorem recordSize_header (hc : ¬((ofBytes u).code < 1 ∨ 4 < (ofBytes u).code)) :
    (ofBytes u).header.recordSize = (ofBytes u).size := by
  have hp : (ofBytes u).header.type.hasPayload = true ↔ (ofBytes u).code ≠ 4 :=
    hasPayload_type (by omega) (by omega)
  rw [Header.recordSize, payloadLen_header, metadataLen_header, size]
  by_cases h4 : (ofBytes u).code = 4
  · rw [if_neg (fun h => hp.mp h h4), if_pos h4]
    rfl
  · rw [if_pos (hp.mpr h4), if_neg h4]
    rfl

end Preamble

namespace Decoder

/-- A header is announced if none of the rules that look at its numbers alone refuses it. -/
theorem announced_eq_rules (limits : Limits) (u : Bytes) :
    let p := Preamble.ofBytes u
    announced limits (u.take Header.size) =
      if p.version ≠ 1 then .error (.malformed (.version (UInt16.ofNat p.version)))
      else if p.code < 1 ∨ 4 < p.code then .error (.unknownType (UInt16.ofNat p.code))
      else if p.code ≠ 4 ∧ limits.payload.toNat < p.payloadLen then
        .error (.oversize .payload p.payloadLen limits.payload.toNat)
      else if limits.metadata.toNat < p.metadataLen then
        .error (.oversize .metadata p.metadataLen limits.metadata.toNat)
      else if Word.count 8 ≤ p.size then
        .error (.oversize .record (min (p.size - 20) maxU64) (maxU64 - 20))
      else .ok (p.header, p.size) := by
  intro p
  simp only [announced, bind, Except.bind, pure, Except.pure]
  rw [Preamble.decode_header]
  by_cases hv : p.version ≠ 1
  · rw [if_pos hv, if_pos hv]
  rw [if_neg hv, if_neg hv]
  by_cases hc : p.code < 1 ∨ 4 < p.code
  · rw [if_pos hc, if_pos hc]
  rw [if_neg hc, if_neg hc]
  have htype : p.header.type.hasPayload = true ↔ p.code ≠ 4 :=
    Preamble.hasPayload_type (by omega) (by omega)
  have hpayload : p.header.payloadLen > limits.payload ↔ limits.payload.toNat < p.payloadLen := by
    rw [gt_iff_lt, UInt64.lt_iff_toNat_lt, Preamble.payloadLen_header]
  have hmetadata : p.header.metadataLen > limits.metadata ↔
      limits.metadata.toNat < p.metadataLen := by
    rw [gt_iff_lt, UInt64.lt_iff_toNat_lt, Preamble.metadataLen_header]
  have hsize : p.header.recordSize = p.size := Preamble.recordSize_header u hc
  dsimp only
  rw [Limits.check]
  by_cases hp : p.code ≠ 4 ∧ limits.payload.toNat < p.payloadLen
  · rw [if_pos ⟨htype.mpr hp.1, hpayload.mpr hp.2⟩, if_pos hp, Preamble.payloadLen_header]
  rw [if_neg (fun h => hp ⟨htype.mp h.1, hpayload.mp h.2⟩), if_neg hp]
  by_cases hm : limits.metadata.toNat < p.metadataLen
  · rw [if_pos (hmetadata.mpr hm), if_pos hm, Preamble.metadataLen_header]
  rw [if_neg (mt hmetadata.mp hm), if_neg hm, recordLen_eq, hsize]
  have hcount : Word.count 8 = maxU64 + 1 := by decide
  by_cases hlarge : Word.count 8 ≤ p.size
  · rw [if_neg (by omega), if_pos hlarge, Header.following_eq_min, hsize]
    rfl
  · rw [if_pos (by omega), if_neg hlarge]

/-- The fields of a record are read if the rules that look at its delimiters let them pass. -/
theorem fields_eq_rules {p : Preamble} (hpayload : p.header.payloadLen.toNat = p.payloadLen)
    (hmetadata : p.header.metadataLen.toNat = p.metadataLen)
    (hcode : ¬(p.code < 1 ∨ 4 < p.code)) (u : Bytes) :
    fields p.header (u.drop 20) =
      if p.code ≠ 4 ∧ (u.drop (20 + p.payloadLen)).take 5 ≠ delimiter then
        .error (.malformed (.missingDelimiter .payload))
      else if (u.drop (p.size - 5)).take 5 ≠ delimiter then
        .error (.malformed (.missingDelimiter .metadata))
      else .ok
        { header := p.header
          payload := if p.code = 4 then [] else (u.drop 20).take p.payloadLen
          metadata := (u.drop (p.size - 5 - p.metadataLen)).take p.metadataLen } := by
  have htype : p.header.type.hasPayload = true ↔ p.code ≠ 4 :=
    Preamble.hasPayload_type (by omega) (by omega)
  have h5 : delimiter.length = 5 := rfl
  rw [fields, hpayload, hmetadata]
  dsimp only [bind, Except.bind, pure, Except.pure]
  by_cases h4 : p.code = 4
  · have hplace : p.size - 5 = 20 + p.metadataLen := by
      rw [Preamble.size, if_pos h4]
      omega
    rw [if_neg (fun h => htype.mp h h4), if_neg (fun h => h.1 h4), if_pos h4, hplace,
      Nat.add_sub_cancel, cut, List.drop_drop, h5]
    by_cases hm : (u.drop (20 + p.metadataLen)).take 5 = delimiter
    · rw [if_pos hm, if_neg (not_not_intro hm)]
    · rw [if_neg hm, if_pos hm]
  · have hplace : p.size - 5 = 20 + (p.payloadLen + 5) + p.metadataLen := by
      rw [Preamble.size, if_neg h4]
      omega
    rw [if_pos (htype.mpr h4), if_neg h4, hplace, Nat.add_sub_cancel, cut, List.drop_drop, h5]
    by_cases hp : (u.drop (20 + p.payloadLen)).take 5 = delimiter
    · rw [if_pos hp, if_neg (fun h => h.2 hp)]
      dsimp only
      rw [List.drop_drop, cut, List.drop_drop, h5]
      by_cases hm : (u.drop (20 + (p.payloadLen + 5) + p.metadataLen)).take 5 = delimiter
      · rw [if_pos hm, if_neg (not_not_intro hm)]
      · rw [if_neg hm, if_pos hm]
    · rw [if_neg hp, if_pos ⟨h4, hp⟩]

/-- What is found at the front of some bytes is what the rules say. -/
theorem front_eq_ruling (limits : Limits) (u : Bytes) :
    (front limits u).map (Option.map Prod.fst) = ruling limits u := by
  have h20 : Header.size = 20 := rfl
  rw [front, ruling, announced_eq_rules, h20]
  by_cases hlen : u.length < 20
  · rw [if_pos hlen, if_pos hlen]
    rfl
  rw [if_neg hlen, if_neg hlen]
  generalize hp : Preamble.ofBytes u = p
  by_cases hv : p.version ≠ 1
  · rw [if_pos hv, if_pos hv]
    rfl
  rw [if_neg hv, if_neg hv]
  by_cases hc : p.code < 1 ∨ 4 < p.code
  · rw [if_pos hc, if_pos hc]
    rfl
  rw [if_neg hc, if_neg hc]
  by_cases hpayload : p.code ≠ 4 ∧ limits.payload.toNat < p.payloadLen
  · rw [if_pos hpayload, if_pos hpayload]
    rfl
  rw [if_neg hpayload, if_neg hpayload]
  by_cases hmetadata : limits.metadata.toNat < p.metadataLen
  · rw [if_pos hmetadata, if_pos hmetadata]
    rfl
  rw [if_neg hmetadata, if_neg hmetadata]
  by_cases hlarge : Word.count 8 ≤ p.size
  · rw [if_pos hlarge, if_pos hlarge]
    rfl
  rw [if_neg hlarge, if_neg hlarge]
  dsimp only
  by_cases hshort : u.length < p.size
  · rw [if_pos hshort, if_pos hshort]
    rfl
  rw [if_neg hshort, if_neg hshort]
  rw [fields_eq_rules (hp ▸ Preamble.payloadLen_header u) (hp ▸ Preamble.metadataLen_header u) hc]
  by_cases hend : p.code ≠ 4 ∧ (u.drop (20 + p.payloadLen)).take 5 ≠ delimiter
  · rw [if_pos hend, if_pos hend]
    rfl
  rw [if_neg hend, if_neg hend]
  by_cases hlast : (u.drop (p.size - 5)).take 5 ≠ delimiter
  · rw [if_pos hlast, if_pos hlast]
    rfl
  · rw [if_neg hlast, if_neg hlast]
    rfl

/-- A record takes as many bytes as the lengths in front of it add up to. -/
theorem rest_of_front {limits : Limits} {u rest : Bytes} {r : WireRecord}
    (h : front limits u = .ok (some (r, rest))) : rest = u.drop (Preamble.ofBytes u).size := by
  rw [front] at h
  split at h
  · cases h
  split at h
  · cases h
  next hdr needed ha =>
    have hneeded : needed = (Preamble.ofBytes u).size := by
      obtain ⟨hdecode, -, -, hneeded⟩ := announced_eq_ok_iff.mp ha
      rw [Preamble.decode_header] at hdecode
      split at hdecode
      · cases hdecode
      split at hdecode
      · cases hdecode
      next hcode =>
        cases hdecode
        exact hneeded.trans (Preamble.recordSize_header u hcode)
    split at h
    · cases h
    split at h
    · cases h
    · cases h
      rw [hneeded]

theorem ite_ne {α : Type} {c : Prop} [Decidable c] {a b x : α} (ha : c → a ≠ x)
    (hb : ¬c → b ≠ x) : (if c then a else b) ≠ x :=
  iteInduction (motive := fun y => y ≠ x) ha hb

/-- Under limits that let no record be too long to count none is refused for its length as a whole.
-/
theorem ruling_ne_record {limits : Limits} (hl : limits.longest ≤ maxU64) (u : Bytes)
    (len max : Nat) : ruling limits u ≠ .error (.oversize .record len max) := by
  have hcount : Word.count 8 = maxU64 + 1 := by decide
  have hlongest : limits.longest = 30 + limits.payload.toNat + limits.metadata.toNat := rfl
  rw [ruling]
  generalize Preamble.ofBytes u = p
  refine ite_ne (fun _ => nofun) fun _ => ?_
  refine ite_ne (fun _ => nofun) fun _ => ?_
  refine ite_ne (fun _ => nofun) fun _ => ?_
  refine ite_ne (fun _ => nofun) fun hpayload => ?_
  refine ite_ne (fun _ => nofun) fun hmetadata => ?_
  refine ite_ne (fun hlarge => ?_) fun _ => ?_
  -- The lengths have passed the limits, and with them the sum is too small.
  · rw [Preamble.size] at hlarge
    split at hlarge <;> omega
  refine ite_ne (fun _ => nofun) fun _ => ?_
  refine ite_ne (fun _ => nofun) fun _ => ?_
  exact ite_ne (fun _ => nofun) fun _ => nofun

/-- What a decoder answers, whatever its limits are and whatever it was given: the first of the
rules that applies decides, with a length that is added up exactly. It has its answer without a look
at a place that is not in its buffer; a record takes its bytes and leaves the others; and where the
limits come from settings that were checked, no record is too long to be counted. -/
theorem decode_follows_rules {d : Decoder} (hd : d.Sound) :
    d.decode? = some d.decode ∧
      d.decode.map (Option.map Prod.fst) = ruling d.limits d.unread ∧
      (∀ r d', d.decode = .ok (some (r, d')) →
        d.Returned d' (d.unread.drop (Preamble.ofBytes d.unread).size)) ∧
      ∀ c : Settings, c.validate = .ok () → c.limits = d.limits →
        ∀ len max, d.decode ≠ .error (.oversize .record len max) := by
  have hfront := decode_eq_front hd
  have hrules : d.decode.map (Option.map Prod.fst) = ruling d.limits d.unread := by
    rw [← front_eq_ruling]
    rcases hf : front d.limits d.unread with e | found
    · rw [decode_of_error hd hf]
      rfl
    rcases found with _ | ⟨r, rest⟩
    · rw [decode_of_none hd hf]
      rfl
    · obtain ⟨d', hdec, -⟩ := decode_of_record hd hf
      rw [hdec]
      rfl
  refine ⟨decode?_eq hd, hrules, ?_, ?_⟩
  · intro r d' hdec
    rcases hf : front d.limits d.unread with e | found
    · rw [decode_of_error hd hf] at hdec
      cases hdec
    rcases found with _ | ⟨r₁, rest⟩
    · rw [decode_of_none hd hf] at hdec
      cases hdec
    · obtain ⟨d₁, hdec₁, hreturned⟩ := decode_of_record hd hf
      rw [hdec₁] at hdec
      cases hdec
      rw [← rest_of_front hf]
      exact hreturned
  · intro c hc hlimits len max hdec
    apply ruling_ne_record (hlimits ▸ c.longest_le_of_validate hc) d.unread len max
    rw [← hrules, hdec]
    rfl

/-- The header after a record announces one byte more than 64 bits count, and the largest limits of
all let its lengths pass. The largest limits of settings that were checked are reached as well. -/
theorem decode_follows_rules_oneTooMany :
    let first : WireRecord := ⟨{ type := .log, payloadLen := 1, metadataLen := 0 }, [7], []⟩
    let next : Header := { type := .audit, payloadLen := 18446744073709551586, metadataLen := 0 }
    let d : Decoder :=
      { limits := ⟨18446744073709551615, 18446744073709551615⟩
        buffer := (first.encode ++ next.encode).toArray
        position := 31 }
    let settings : Settings :=
      { path := [115], limits := ⟨9223372036854775777, 9223372036854775777⟩ }
    let longest : Header :=
      { type := .audit, payloadLen := 9223372036854775777, metadataLen := 9223372036854775777 }
    let checked : Decoder := { limits := settings.limits, buffer := longest.encode.toArray }
    d.Sound ∧ (Preamble.ofBytes d.unread).size = Word.count 8 ∧
      d.decode? = some d.decode ∧
      d.decode.map (Option.map Prod.fst) =
        .error (.oversize .record 18446744073709551596 18446744073709551595) ∧
      checked.Sound ∧ settings.validate = .ok () ∧
      ∀ len max, checked.decode ≠ .error (.oversize .record len max) := by
  intro first next d settings longest checked
  have hsound : d.Sound := Nat.le_of_ble_eq_true rfl
  obtain ⟨hlooks, hrules, -, -⟩ := decode_follows_rules hsound
  have hsize : (Preamble.ofBytes d.unread).size = Word.count 8 := by decide
  have hchecked : checked.Sound := Nat.zero_le _
  have hvalid : settings.validate = .ok () := rfl
  obtain ⟨-, -, -, hcounted⟩ := decode_follows_rules hchecked
  refine ⟨hsound, hsize, hlooks, ?_, hchecked, hvalid, hcounted settings hvalid rfl⟩
  rw [hrules, ruling, if_neg (by decide), if_neg (by decide), if_neg (by decide),
    if_neg (by decide), if_neg (by decide), hsize]
  rfl

end Decoder

end LocalRecords
