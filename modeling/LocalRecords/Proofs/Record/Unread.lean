import LocalRecords.Record.Decoder

/-!
What a decoder answers depends on its limits and on its unread bytes alone, and an answer other
than the wish for more bytes does not change when more bytes arrive.
-/

namespace LocalRecords

/-- The length of the record that a header announces, however large it is. -/
def Header.recordSize (h : Header) : Nat :=
  Header.size + (if h.type.hasPayload then h.payloadLen.toNat + delimiter.length else 0) +
    h.metadataLen.toNat + delimiter.length

theorem Header.size_le_recordSize (h : Header) : Header.size ≤ h.recordSize := by
  rw [Header.recordSize]
  omega

/-- Below the largest 64-bit number nothing is cut off when the lengths are added up. -/
theorem Header.size_add_following {h : Header} (hm : h.recordSize ≤ maxU64) :
    Header.size + h.following = h.recordSize := by
  have hd : delimiter.length = 5 := rfl
  simp only [Header.following, Header.recordSize, Header.size, satAdd, hd] at hm ⊢
  by_cases hp : h.type.hasPayload = true
  · simp only [if_pos hp] at hm ⊢
    omega
  · simp only [if_neg hp] at hm ⊢
    omega

/-- A header is within the limits if no field that they hold for is longer than they allow. -/
theorem Limits.check_eq_ok_iff {l : Limits} {h : Header} :
    l.check h = .ok () ↔
      (h.type.hasPayload = true → h.payloadLen ≤ l.payload) ∧ h.metadataLen ≤ l.metadata := by
  rw [check]
  by_cases hp : h.type.hasPayload = true ∧ h.payloadLen > l.payload
  · rw [if_pos hp]
    apply iff_of_false
    · intro hok
      cases hok
    · intro hle
      exact UInt64.not_lt.mpr (hle.1 hp.1) hp.2
  rw [if_neg hp]
  have hpayload (ht : h.type.hasPayload = true) : h.payloadLen ≤ l.payload :=
    UInt64.not_lt.mp fun hlt => hp ⟨ht, hlt⟩
  by_cases hm : h.metadataLen > l.metadata
  · rw [if_pos hm]
    apply iff_of_false
    · intro hok
      cases hok
    · intro hle
      exact UInt64.not_lt.mpr hle.2 hm
  · rw [if_neg hm]
    exact iff_of_true rfl ⟨hpayload, UInt64.not_lt.mp hm⟩

namespace Decoder

/-- The length of a record is the exact one as far as 64 bits count, and an error beyond. -/
theorem recordLen_eq (h : Header) :
    recordLen h = if h.recordSize ≤ maxU64 then .ok h.recordSize
      else .error (.oversize .record h.following (maxU64 - Header.size)) := by
  have hf : h.following + Header.size > maxU64 ↔ ¬h.recordSize ≤ maxU64 := by
    have hd : delimiter.length = 5 := rfl
    simp only [Header.following, Header.recordSize, Header.size, satAdd, hd]
    split <;> omega
  rw [recordLen]
  by_cases hm : h.recordSize ≤ maxU64
  · rw [if_neg (fun hn => hf.mp hn hm), if_pos hm, Nat.add_comm, Header.size_add_following hm]
  · rw [if_pos (hf.mpr hm), if_neg hm]

/-- A header and a length are announced if the header is read, is within the limits and announces
that length. -/
theorem announced_eq_ok_iff {limits : Limits} {bytes : Bytes} {h : Header} {n : Nat} :
    announced limits bytes = .ok (h, n) ↔
      Header.decode bytes = .ok h ∧ limits.check h = .ok () ∧ h.recordSize ≤ maxU64 ∧
        n = h.recordSize := by
  simp only [announced, bind, Except.bind, pure, Except.pure, recordLen_eq]
  rcases Header.decode bytes with e | h'
  · simp only [reduceCtorEq, false_and]
  rcases hc : limits.check h' with e | u
  · simp only [hc, reduceCtorEq, false_iff, Except.ok.injEq]
    rintro ⟨rfl, hc', -⟩
    rw [hc] at hc'
    cases hc'
  by_cases hle : h'.recordSize ≤ maxU64
  · simp only [hc, if_pos hle, Except.ok.injEq, Prod.mk.injEq]
    constructor
    · rintro ⟨rfl, rfl⟩
      exact ⟨rfl, hc, hle, rfl⟩
    · rintro ⟨rfl, -, -, rfl⟩
      exact ⟨rfl, rfl⟩
  · simp only [hc, if_neg hle, reduceCtorEq, false_iff, Except.ok.injEq]
    rintro ⟨rfl, -, hle', -⟩
    exact hle hle'

-- Decoding some bytes

def cut (u : Bytes) (len : Nat) (field : Field) : Except Failure (Bytes × Bytes) :=
  if (u.drop len).take delimiter.length = delimiter then
    .ok (u.take len, u.drop (len + delimiter.length))
  else .error (.malformed (.missingDelimiter field))

def fields (h : Header) (u : Bytes) : Except Failure WireRecord :=
  if h.type.hasPayload then do
    let payload ← cut u h.payloadLen.toNat .payload
    let metadata ← cut payload.2 h.metadataLen.toNat .metadata
    return { header := h, payload := payload.1, metadata := metadata.1 }
  else do
    let metadata ← cut u h.metadataLen.toNat .metadata
    return { header := h, payload := [], metadata := metadata.1 }

/-- The record at the front of some bytes and the bytes after it; `none` if it is not there as a
whole. -/
def front (limits : Limits) (u : Bytes) : Except Failure (Option (WireRecord × Bytes)) :=
  if u.length < Header.size then .ok none
  else
    match announced limits (u.take Header.size) with
    | .error e => .error e
    | .ok (h, needed) =>
      if u.length < needed then .ok none
      else
        match fields h (u.drop Header.size) with
        | .error e => .error e
        | .ok r => .ok (some (r, u.drop needed))

/-- Bytes behind a field and its delimiter do not matter to it. -/
theorem cut_append {u : Bytes} {len : Nat} (h : len + delimiter.length ≤ u.length) (v : Bytes)
    (field : Field) : cut (u ++ v) len field = (cut u len field).map (fun p => (p.1, p.2 ++ v)) := by
  have hl : len ≤ u.length := by omega
  have hm : ((u ++ v).drop len).take delimiter.length = (u.drop len).take delimiter.length := by
    rw [List.drop_append_of_le_length hl, List.take_append_of_le_length]
    rw [List.length_drop]
    omega
  rw [cut, cut, hm]
  split
  · rw [List.take_append_of_le_length hl, List.drop_append_of_le_length h]
    rfl
  · rfl

theorem length_of_cut {u : Bytes} {len : Nat} {field : Field} {p : Bytes × Bytes}
    (h : cut u len field = .ok p) : p.2.length = u.length - (len + delimiter.length) := by
  rw [cut] at h
  split at h
  · cases h
    rw [List.length_drop]
  · cases h

/-- With more bytes behind them the fields of a whole record are read as before. -/
theorem fields_append {h : Header} {u : Bytes} (hu : h.recordSize ≤ Header.size + u.length)
    (v : Bytes) : fields h (u ++ v) = fields h u := by
  rw [Header.recordSize] at hu
  rw [fields, fields]
  split
  · next hp =>
    rw [if_pos hp] at hu
    rw [cut_append (by omega)]
    rcases hc : cut u h.payloadLen.toNat .payload with e | p
    · rfl
    · have hl := length_of_cut hc
      simp only [Except.map, bind, Except.bind]
      rw [cut_append (by omega)]
      rcases cut p.2 h.metadataLen.toNat .metadata with e | q <;> rfl
  · next hp =>
    rw [if_neg hp] at hu
    rw [cut_append (by omega)]
    rcases cut u h.metadataLen.toNat .metadata with e | q <;> rfl

theorem length_lt_of_front {limits : Limits} {u rest : Bytes} {r : WireRecord}
    (h : front limits u = .ok (some (r, rest))) : rest.length < u.length := by
  unfold front at h
  split at h
  · cases h
  split at h
  · cases h
  next ha =>
    split at h
    · cases h
    next hle =>
      split at h
      · cases h
      · cases h
        obtain ⟨-, -, -, rfl⟩ := announced_eq_ok_iff.mp ha
        have hs := Header.size_le_recordSize ‹_›
        rw [List.length_drop]
        simp only [Header.size] at *
        omega

/-- What is found at the front of some bytes is found with more bytes behind them, too, and these
are left over. -/
theorem front_append {limits : Limits} {u : Bytes} (h : front limits u ≠ .ok none) (v : Bytes) :
    front limits (u ++ v) =
      (front limits u).map (Option.map fun p => (p.1, p.2 ++ v)) := by
  have hlen : ¬u.length < Header.size := fun hl => h (if_pos hl)
  have hlen' : ¬(u ++ v).length < Header.size := by
    rw [List.length_append]
    omega
  -- Header and fields lie in `u`, so `v` is not looked at.
  have ht : (u ++ v).take Header.size = u.take Header.size :=
    List.take_append_of_le_length (by omega)
  have hd : (u ++ v).drop Header.size = u.drop Header.size ++ v :=
    List.drop_append_of_le_length (by omega)
  rw [front, if_neg hlen] at h
  rw [front, front, if_neg hlen, if_neg hlen', ht, hd]
  rcases ha : announced limits (u.take Header.size) with e | ⟨hdr, needed⟩
  · rfl
  · have hn : ¬u.length < needed := by
      intro hn
      simp only [ha, if_pos hn] at h
      exact h rfl
    have hn' : ¬(u ++ v).length < needed := by
      rw [List.length_append]
      omega
    obtain ⟨-, -, -, hsize⟩ := announced_eq_ok_iff.mp ha
    have hf : fields hdr (u.drop Header.size ++ v) = fields hdr (u.drop Header.size) := by
      apply fields_append
      rw [List.length_drop]
      omega
    simp only [if_neg hn, if_neg hn', hf]
    rcases fields hdr (u.drop Header.size) with e | r
    · rfl
    · rw [List.drop_append_of_le_length (by omega)]
      rfl

/-- A record that stands in front is found whatever bytes follow, and these are left over. -/
theorem front_append_of_record {limits : Limits} {u rest : Bytes} {r : WireRecord}
    (h : front limits u = .ok (some (r, rest))) (v : Bytes) :
    front limits (u ++ v) = .ok (some (r, rest ++ v)) := by
  rw [front_append (by rw [h]; simp), h]
  rfl

/-- An error in front is found whatever bytes follow. -/
theorem front_append_of_error {limits : Limits} {u : Bytes} {e : Failure}
    (h : front limits u = .error e) (v : Bytes) : front limits (u ++ v) = .error e := by
  rw [front_append (by rw [h]; simp), h]
  rfl

/-- Everything that can be decoded of some bytes: the records, the bytes after them, and the error
that ended the run, if one did. -/
def scan (limits : Limits) (u : Bytes) : List WireRecord × Bytes × Option Failure :=
  match _h : front limits u with
  | .error e => ([], u, some e)
  | .ok none => ([], u, none)
  | .ok (some (r, rest)) =>
    let more := scan limits rest
    (r :: more.1, more.2)
termination_by u.length
decreasing_by exact length_lt_of_front _h

theorem scan_of_error {limits : Limits} {u : Bytes} {e : Failure}
    (h : front limits u = .error e) : scan limits u = ([], u, some e) := by
  rw [scan]
  split
  · next h' => rw [h] at h'; cases h'; rfl
  · next h' => rw [h] at h'; cases h'
  · next h' => rw [h] at h'; cases h'

theorem scan_of_none {limits : Limits} {u : Bytes} (h : front limits u = .ok none) :
    scan limits u = ([], u, none) := by
  rw [scan]
  split
  · next h' => rw [h] at h'; cases h'
  · rfl
  · next h' => rw [h] at h'; cases h'

/-- After a record the scan goes on with the bytes behind it. -/
theorem scan_of_record {limits : Limits} {u rest : Bytes} {r : WireRecord}
    (h : front limits u = .ok (some (r, rest))) :
    scan limits u = (r :: (scan limits rest).1, (scan limits rest).2) := by
  rw [scan]
  split
  · next h' => rw [h] at h'; cases h'
  · next h' => rw [h] at h'; cases h'
  · next h' => rw [h] at h'; cases h'; rfl

theorem scan_nil (limits : Limits) : scan limits [] = ([], [], none) := scan_of_none rfl

/-- More bytes behind some that are no records change nothing. -/
theorem scan_append_of_error {limits : Limits} {u : Bytes} {e : Failure}
    (h : (scan limits u).2.2 = some e) (v : Bytes) :
    (scan limits (u ++ v)).1 = (scan limits u).1 ∧ (scan limits (u ++ v)).2.2 = some e := by
  fun_induction scan limits u with
  | case1 u e' hf =>
    rw [scan_of_error (front_append_of_error hf v)]
    exact ⟨rfl, h⟩
  | case2 u hf => cases h
  | case3 u r rest hf more ih =>
    obtain ⟨hrecords, herror⟩ := ih h
    rw [scan_of_record (front_append_of_record hf v)]
    exact ⟨congrArg (r :: ·) hrecords, herror⟩

/-- Bytes behind some that hold records alone are scanned with what those leave over. -/
theorem scan_append_of_ok {limits : Limits} {u : Bytes} (h : (scan limits u).2.2 = none)
    (v : Bytes) :
    scan limits (u ++ v) =
      let more := scan limits ((scan limits u).2.1 ++ v)
      ((scan limits u).1 ++ more.1, more.2) := by
  fun_induction scan limits u with
  | case1 u e hf => cases h
  | case2 u hf => rfl
  | case3 u r rest hf more ih =>
    rw [scan_of_record (front_append_of_record hf v), ih h]
    rfl

-- The decoder and its unread bytes

/-- The position stands in the buffer or at its end. -/
def Sound (d : Decoder) : Prop := d.position ≤ d.buffer.size

theorem sound_new (limits : Limits) : (new limits).Sound := Nat.zero_le _

@[simp] theorem unread_new (limits : Limits) : (new limits).unread = [] := rfl

theorem available_eq_length (d : Decoder) : d.available = d.unread.length := by
  rw [available, unread, List.length_drop, Array.length_toList]

theorem sound_compact {d : Decoder} (hd : d.Sound) : d.compact.Sound := by
  rw [compact]
  split
  · exact Nat.zero_le _
  · exact hd

/-- Dropping what was returned does not change what is unread. -/
theorem unread_compact (d : Decoder) : d.compact.unread = d.unread := by
  rw [compact]
  split
  · simp [unread, List.take_of_length_le]
  · rfl

theorem sound_push {d : Decoder} (hd : d.Sound) (bytes : Bytes) : (d.push bytes).Sound := by
  have hc := sound_compact hd
  have hs : (d.push bytes).buffer.size = d.compact.buffer.size + bytes.length := by
    simp [push, ← Array.length_toList]
  simp only [Sound] at hc ⊢
  rw [hs]
  exact Nat.le_trans hc (Nat.le_add_right _ _)

/-- A push adds to the unread bytes and changes none of them. -/
theorem unread_push {d : Decoder} (hd : d.Sound) (bytes : Bytes) :
    (d.push bytes).unread = d.unread ++ bytes := by
  have hc : d.compact.position ≤ d.compact.buffer.toList.length := by
    rw [Array.length_toList]
    exact sound_compact hd
  rw [← unread_compact d]
  simp only [push, unread, Array.appendList_eq_append, Array.toList_appendList]
  exact List.drop_append_of_le_length hc

@[simp] theorem limits_push (d : Decoder) (bytes : Bytes) : (d.push bytes).limits = d.limits := by
  simp only [push, compact]
  split <;> rfl

/-- A slice from the position on is one of the unread bytes. -/
theorem slice_eq (d : Decoder) (offset len : Nat) :
    d.slice (d.position + offset) len = (d.unread.drop offset).take len := by
  simp [slice, unread, List.take_drop, Nat.add_assoc]

/-- A field in the buffer is a field of the unread bytes, and the walk goes on behind its delimiter.
-/
theorem delimited_eq (d : Decoder) (offset len : Nat) (field : Field) :
    d.delimited (d.position + offset) len field =
      (cut (d.unread.drop offset) len field).map fun p =>
        (p.1, d.position + offset + len + delimiter.length) := by
  rw [delimited, cut, slice_eq, Nat.add_assoc d.position offset len, slice_eq, List.drop_drop]
  split <;> rfl

/-- The walk through the fields of a record ends where the length that its header announces does. -/
theorem body_eq (d : Decoder) (h : Header) :
    d.body h =
      (fields h (d.unread.drop Header.size)).map fun r => (r, d.position + h.recordSize) := by
  rw [body, fields]
  by_cases hp : h.type.hasPayload = true
  · rw [if_pos hp, if_pos hp, delimited_eq]
    rcases hc : cut (d.unread.drop Header.size) h.payloadLen.toNat .payload with e | p
    · rfl
    · have hplace : d.position + Header.size + h.payloadLen.toNat + delimiter.length =
          d.position + (Header.size + h.payloadLen.toNat + delimiter.length) := by omega
      have hleft : p.2 = d.unread.drop (Header.size + h.payloadLen.toNat + delimiter.length) := by
        rw [cut] at hc
        split at hc
        · cases hc
          rw [List.drop_drop, Nat.add_assoc]
        · cases hc
      have hend : d.position + (Header.size + h.payloadLen.toNat + delimiter.length) +
          h.metadataLen.toNat + delimiter.length = d.position + h.recordSize := by
        rw [Header.recordSize, if_pos hp]
        omega
      simp only [Except.map, bind, Except.bind, hplace, delimited_eq, hleft, hend]
      rcases cut (d.unread.drop (Header.size + h.payloadLen.toNat + delimiter.length))
        h.metadataLen.toNat .metadata with e | q <;> rfl
  · have hend : d.position + Header.size + h.metadataLen.toNat + delimiter.length =
        d.position + h.recordSize := by
      rw [Header.recordSize, if_neg hp]
      omega
    rw [if_neg hp, if_neg hp, delimited_eq, hend]
    rcases cut (d.unread.drop Header.size) h.metadataLen.toNat .metadata with e | q <;> rfl

theorem header_of_fields {h : Header} {u : Bytes} {r : WireRecord} (hf : fields h u = .ok r) :
    r.header = h := by
  simp only [fields, bind, Except.bind, pure, Except.pure] at hf
  repeat' split at hf
  all_goals cases hf
  all_goals rfl

/-- A record that is returned moves the position by the length that its header announces. -/
theorem position_of_decode {d d' : Decoder} {r : WireRecord}
    (h : d.decode = .ok (some (r, d'))) : d'.position = d.position + r.header.recordSize := by
  rw [decode] at h
  split at h
  · cases h
  rcases ha : announced d.limits (d.slice d.position Header.size) with e | ⟨hdr, needed⟩
  · simp only [ha, reduceCtorEq] at h
  simp only [ha, body_eq] at h
  split at h
  · cases h
  rcases hf : fields hdr (d.unread.drop Header.size) with e | w
  · simp only [hf, Except.map, reduceCtorEq] at h
  · simp only [hf, Except.map] at h
    cases h
    rw [header_of_fields hf]

structure Returned (d d' : Decoder) (rest : Bytes) : Prop where
  sound : d'.Sound
  limits : d'.limits = d.limits
  unread : d'.unread = rest

/-- A decoder answers what is at the front of its unread bytes, and keeps the rest of them. -/
theorem decode_eq_front {d : Decoder} (hd : d.Sound) :
    match front d.limits d.unread with
    | .error e => d.decode = .error e
    | .ok none => d.decode = .ok none
    | .ok (some (r, rest)) => ∃ d', d.decode = .ok (some (r, d')) ∧ d.Returned d' rest := by
  have hheader : d.slice d.position Header.size = d.unread.take Header.size := d.slice_eq 0 _
  rw [front, decode, available_eq_length, hheader]
  by_cases hlen : d.unread.length < Header.size
  · simp only [if_pos hlen]
  simp only [if_neg hlen]
  rcases ha : announced d.limits (d.unread.take Header.size) with e | ⟨h, needed⟩
  · rfl
  obtain ⟨-, -, -, rfl⟩ := announced_eq_ok_iff.mp ha
  by_cases hn : d.unread.length < h.recordSize
  · simp only [if_pos hn]
  simp only [if_neg hn, body_eq]
  rcases fields h (d.unread.drop Header.size) with e | r
  · rfl
  · refine ⟨_, rfl, ?_, rfl, ?_⟩
    · rw [← available_eq_length, available] at hn
      simp only [Sound] at hd ⊢
      omega
    · simp only [unread, List.drop_drop]

/-- A record that stands in front of the unread bytes is returned, and leaves the bytes behind it.
-/
theorem decode_of_record {d : Decoder} (hd : d.Sound) {r : WireRecord} {rest : Bytes}
    (h : front d.limits d.unread = .ok (some (r, rest))) :
    ∃ d', d.decode = .ok (some (r, d')) ∧ d.Returned d' rest := by
  have hf := decode_eq_front hd
  rwa [h] at hf

theorem decode_of_none {d : Decoder} (hd : d.Sound) (h : front d.limits d.unread = .ok none) :
    d.decode = .ok none := by
  have hf := decode_eq_front hd
  rwa [h] at hf

theorem decode_of_error {d : Decoder} (hd : d.Sound) {e : Failure}
    (h : front d.limits d.unread = .error e) : d.decode = .error e := by
  have hf := decode_eq_front hd
  rwa [h] at hf

theorem decodeAll_of_error {d : Decoder} {e : Failure} (h : d.decode = .error e) :
    d.decodeAll = ([], d, some e) := by
  rw [decodeAll]
  split
  · next h' => rw [h] at h'; cases h'; rfl
  · next h' => rw [h] at h'; cases h'
  · next h' => rw [h] at h'; cases h'

theorem decodeAll_of_none {d : Decoder} (h : d.decode = .ok none) :
    d.decodeAll = ([], d, none) := by
  rw [decodeAll]
  split
  · next h' => rw [h] at h'; cases h'
  · rfl
  · next h' => rw [h] at h'; cases h'

/-- After a record everything else is decoded from where it ended. -/
theorem decodeAll_of_record {d d' : Decoder} {r : WireRecord} (h : d.decode = .ok (some (r, d'))) :
    d.decodeAll = (r :: d'.decodeAll.1, d'.decodeAll.2) := by
  rw [decodeAll]
  split
  · next h' => rw [h] at h'; cases h'
  · next h' => rw [h] at h'; cases h'
  · next h' => rw [h] at h'; cases h'; rfl

/-- Decoding until nothing more is found is a scan of the unread bytes. -/
theorem decodeAll_eq_scan (limits : Limits) (u : Bytes) :
    ∀ d : Decoder, d.Sound → d.limits = limits → d.unread = u →
      ∃ d', d.decodeAll = ((scan limits u).1, d', (scan limits u).2.2) ∧
        d.Returned d' (scan limits u).2.1 := by
  -- Along the scan, for every decoder that has these bytes unread.
  fun_induction scan limits u with
  | case1 u e h =>
    intro d hd hl hu
    refine ⟨d, decodeAll_of_error (decode_of_error hd ?_), hd, rfl, hu⟩
    rw [hl, hu]
    exact h
  | case2 u h =>
    intro d hd hl hu
    refine ⟨d, decodeAll_of_none (decode_of_none hd ?_), hd, rfl, hu⟩
    rw [hl, hu]
    exact h
  | case3 u r rest h more ih =>
    intro d hd hl hu
    have hfront : front d.limits d.unread = .ok (some (r, rest)) := by
      rw [hl, hu]
      exact h
    obtain ⟨d₁, hdec, h₁⟩ := decode_of_record hd hfront
    obtain ⟨d₂, hall, h₂⟩ := ih d₁ h₁.sound (h₁.limits.trans hl) h₁.unread
    refine ⟨d₂, ?_, h₂.sound, h₂.limits.trans h₁.limits, h₂.unread⟩
    rw [decodeAll_of_record hdec, hall]

/-- Decoding all of some bytes, with a decoder that was given nothing else, is a scan of them. -/
theorem decodeAll_push_new (limits : Limits) (bytes : Bytes) :
    ∃ d, ((new limits).push bytes).decodeAll =
        ((scan limits bytes).1, d, (scan limits bytes).2.2) ∧
      d.unread = (scan limits bytes).2.1 := by
  have hunread : ((new limits).push bytes).unread = bytes := by
    rw [unread_push (sound_new limits), unread_new, List.nil_append]
  obtain ⟨d, hall, h⟩ := decodeAll_eq_scan limits bytes ((new limits).push bytes)
    (sound_push (sound_new limits) bytes) (limits_push _ bytes) hunread
  exact ⟨d, hall, h.unread⟩

end Decoder

end LocalRecords
