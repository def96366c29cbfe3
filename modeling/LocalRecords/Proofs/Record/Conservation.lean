import LocalRecords.Proofs.Record.Layout
import LocalRecords.Proofs.Record.Pieces

namespace LocalRecords

namespace Word

theorem toBytes_uint16 {bs : Bytes} (h : bs.length = 2) :
    toBytes 2 (UInt16.ofNat (ofBytes bs)).toNat = bs := by
  have hlt : ofBytes bs < 65536 := by
    have := ofBytes_lt bs
    rwa [h] at this
  rw [UInt16.toNat_ofNat_of_lt' hlt, ← h, toBytes_ofBytes]

theorem toBytes_uint64 {bs : Bytes} (h : bs.length = 8) :
    toBytes 8 (UInt64.ofNat (ofBytes bs)).toNat = bs := by
  have hlt : ofBytes bs < 18446744073709551616 := by
    have := ofBytes_lt bs
    rwa [h] at this
  rw [UInt64.toNat_ofNat_of_lt' hlt, ← h, toBytes_ofBytes]

end Word

namespace Header

theorem version_of_decode {bs : Bytes} {h : Header} (hd : decode bs = .ok h) :
    h.version = formatVersion := by
  simp only [decode] at hd
  split at hd
  · cases hd
  next hv =>
    split at hd
    · cases hd
    · cases hd
      exact Decidable.not_not.mp hv

/-- The bytes of a header that can be read are the bytes of that header. -/
theorem encode_of_decode {bs : Bytes} {h : Header} (hlen : bs.length = Header.size)
    (hd : decode bs = .ok h) : h.encode = bs := by
  simp only [decode] at hd
  split at hd
  · cases hd
  split at hd
  · cases hd
  next ht =>
    cases hd
    rw [Header.size] at hlen
    have hcode := RecordType.code_of_ofCode ht
    have hversion : (bs.take 2).length = 2 := by
      rw [List.length_take]
      omega
    have htype : ((bs.drop 2).take 2).length = 2 := by
      rw [List.length_take, List.length_drop]
      omega
    have hpayload : ((bs.drop 4).take 8).length = 8 := by
      rw [List.length_take, List.length_drop]
      omega
    have hmetadata : ((bs.drop 12).take 8).length = 8 := by
      rw [List.length_take, List.length_drop]
      omega
    have hend : (bs.drop 12).take 8 = bs.drop 12 := by
      apply List.take_of_length_le
      rw [List.length_drop]
      omega
    simp only [encode, hcode]
    rw [Word.toBytes_uint16 hversion, Word.toBytes_uint16 htype, Word.toBytes_uint64 hpayload,
      Word.toBytes_uint64 hmetadata, hend, List.append_assoc, List.append_assoc]
    have h12 : (bs.drop 4).take 8 ++ bs.drop 12 = bs.drop 4 := by
      have := List.take_append_drop 8 (bs.drop 4)
      rwa [List.drop_drop] at this
    have h4 : (bs.drop 2).take 2 ++ bs.drop 4 = bs.drop 2 := by
      have := List.take_append_drop 2 (bs.drop 2)
      rwa [List.drop_drop] at this
    rw [h12, h4, List.take_append_drop]

theorem admitted_of_announced {limits : Limits} {bytes : Bytes} {h : Header} {n : Nat}
    (ha : Decoder.announced limits bytes = .ok (h, n)) : h.Admitted limits := by
  obtain ⟨hd, hc, hsize, -⟩ := Decoder.announced_eq_ok_iff.mp ha
  obtain ⟨hpayload, hmetadata⟩ := Limits.check_eq_ok_iff.mp hc
  exact ⟨version_of_decode hd, hpayload, hmetadata, hsize⟩

end Header

namespace Decoder

/-- What is taken off is the field and its delimiter, and the rest stays. -/
theorem eq_append_of_cut {u : Bytes} {len : Nat} {field : Field} {p : Bytes × Bytes}
    (h : cut u len field = .ok p) : u = p.1 ++ (delimiter ++ p.2) ∧ p.1.length = len := by
  rw [cut] at h
  split at h
  next hd =>
    cases h
    have hlen : len ≤ u.length := by
      have := congrArg List.length hd
      rw [List.length_take, List.length_drop] at this
      have h5 : delimiter.length = 5 := rfl
      omega
    refine ⟨?_, List.length_take_of_le hlen⟩
    have hdrop : u.drop len = delimiter ++ u.drop (len + delimiter.length) := by
      calc u.drop len
          = (u.drop len).take delimiter.length ++ (u.drop len).drop delimiter.length :=
            (List.take_append_drop _ _).symm
        _ = delimiter ++ u.drop (len + delimiter.length) := by rw [hd, List.drop_drop]
    rw [← hdrop]
    exact (List.take_append_drop len u).symm
  · cases h

/-- The fields that are read stand at the front of the bytes, each with its delimiter behind it. -/
theorem isPrefix_of_fields {h : Header} {u : Bytes} {w : WireRecord} (hf : fields h u = .ok w) :
    w.header = h ∧ w.Regular ∧
      (if h.type.hasPayload then w.payload ++ delimiter else []) ++ (w.metadata ++ delimiter) <+:
        u := by
  rw [fields] at hf
  split at hf
  next hp =>
    rcases hc : cut u h.payloadLen.toNat .payload with e | p
    · rw [hc] at hf
      cases hf
    rcases hm : cut p.2 h.metadataLen.toNat .metadata with e | q
    · simp only [hc, bind, Except.bind, hm] at hf
      cases hf
    simp only [hc, bind, Except.bind, hm, pure, Except.pure] at hf
    cases hf
    obtain ⟨hu, hplen⟩ := eq_append_of_cut hc
    obtain ⟨hrest, hmlen⟩ := eq_append_of_cut hm
    refine ⟨rfl, ⟨hplen.trans (if_pos hp).symm, hmlen⟩, q.2, ?_⟩
    rw [if_pos hp, hu, hrest]
    simp only [List.append_assoc]
  next hp =>
    rcases hm : cut u h.metadataLen.toNat .metadata with e | q
    · rw [hm] at hf
      cases hf
    simp only [hm, bind, Except.bind, pure, Except.pure] at hf
    cases hf
    obtain ⟨hu, hmlen⟩ := eq_append_of_cut hm
    refine ⟨rfl, ⟨(if_neg hp).symm, hmlen⟩, q.2, ?_⟩
    rw [if_neg hp, hu]
    simp only [List.nil_append, List.append_assoc]

/-- A record that is found is spelled by the bytes in front, which it keeps to, and the rest follows
it. -/
theorem eq_encode_append_of_front {limits : Limits} {u rest : Bytes} {w : WireRecord}
    (h : front limits u = .ok (some (w, rest))) :
    u = w.encode ++ rest ∧ w.Regular ∧ w.header.Admitted limits := by
  rw [front] at h
  split at h
  · cases h
  next hlen =>
    split at h
    · cases h
    next hdr needed ha =>
      split at h
      · cases h
      split at h
      · cases h
      next r hf =>
        cases h
        obtain ⟨hheader, hregular, hbody⟩ := isPrefix_of_fields hf
        obtain ⟨hdecode, -, -, hneeded⟩ := announced_eq_ok_iff.mp ha
        have hsize : (u.take Header.size).length = Header.size :=
          List.length_take_of_le (Nat.le_of_not_lt hlen)
        have hhead : w.header.encode = u.take Header.size := by
          rw [hheader]
          exact Header.encode_of_decode hsize hdecode
        obtain ⟨more, hmore⟩ := hbody
        have hu : u = w.encode ++ more := by
          rw [WireRecord.encode, hhead, hheader, List.append_assoc, hmore, List.take_append_drop]
        refine ⟨?_, hregular, hheader ▸ Header.admitted_of_announced ha⟩
        rw [hneeded, ← hheader, ← hregular.length_encode, hu, List.drop_left]

/-- A record that is found in some bytes is no longer than they are. -/
theorem length_encode_le_of_mem_scan {limits : Limits} {u : Bytes} {w : WireRecord}
    (hw : w ∈ (scan limits u).1) : w.encode.length ≤ u.length := by
  fun_induction scan limits u with
  | case1 => cases hw
  | case2 => cases hw
  | case3 u r rest hf more ih =>
    obtain ⟨hu, -, -⟩ := eq_encode_append_of_front hf
    rw [hu, List.length_append]
    rcases List.mem_cons.mp hw with rfl | hw
    · exact Nat.le_add_right _ _
    · exact Nat.le_trans (ih hw) (Nat.le_add_left _ _)

/-- One string of bytes has one reading: a record is found at the front of some bytes exactly if they
start with its encoding and its header keeps to the limits. -/
theorem front_eq_some_iff {limits : Limits} {u rest : Bytes} {w : WireRecord} :
    front limits u = .ok (some (w, rest)) ↔
      u = w.encode ++ rest ∧ w.Regular ∧ w.header.Admitted limits := by
  constructor
  · exact eq_encode_append_of_front
  · rintro ⟨rfl, hw, ha⟩
    exact front_encode hw ha rest

/-- What one call of `decode` takes off the unread bytes: the record that it returns, or nothing. -/
inductive Takes (d : Decoder) : Decoder × Answer → Prop
  | record {d' : Decoder} {w : WireRecord} (bytes : d.unread = w.encode ++ d'.unread)
      (regular : w.Regular) (admitted : w.header.Admitted d.limits) (sound : d'.Sound)
      (limits : d'.limits = d.limits) : Takes d (d', .ok (some w))
  | nothing : Takes d (d, .ok none)
  | error (e : Failure) : Takes d (d, .error e)

/-- One call of `decode` takes the bytes of the record that it returns off the unread ones, or none.
-/
theorem ask_takes {d : Decoder} (hd : d.Sound) : d.Takes d.ask := by
  rcases hf : front d.limits d.unread with e | found
  · rw [ask_of_front_error hd hf]
    exact .error e
  · rcases found with _ | ⟨w, rest⟩
    · rw [ask_of_front_none hd hf]
      exact .nothing
    · obtain ⟨d', hask, h⟩ := ask_of_front_record hd hf
      obtain ⟨hbytes, hregular, hadmitted⟩ := eq_encode_append_of_front hf
      rw [hask]
      exact .record (by rw [h.unread, hbytes]) hregular hadmitted h.sound h.limits

def found : List Answer → List WireRecord
  | [] => []
  | .ok (some w) :: rest => w :: found rest
  | .ok none :: rest => found rest
  | .error _ :: rest => found rest

/-- What a run leaves of the bytes that were unread before it and of those that it pushed. -/
structure Balanced (d : Decoder) (actions : List Action) (r : Decoder × List Answer) : Prop where
  bytes : d.unread ++ pushed actions = (found r.2).flatMap WireRecord.encode ++ r.1.unread
  lawful : ∀ w ∈ found r.2, w.Regular ∧ w.header.Admitted d.limits
  sound : r.1.Sound
  limits : r.1.limits = d.limits

/-- Over any run, what was unread and what was pushed make up the records returned and what is
unread after it. -/
theorem run_balanced (actions : List Action) :
    ∀ d : Decoder, d.Sound → d.Balanced actions (d.run actions) := by
  -- On the actions, from any sound decoder: `push` moves bytes in, a record moves its own out.
  induction actions with
  | nil =>
    intro d hd
    exact ⟨by simp [pushed, found, run], by simp [found, run], hd, rfl⟩
  | cons action rest ih =>
    intro d hd
    cases action with
    | push bytes =>
      have h := ih (d.push bytes) (sound_push hd bytes)
      refine ⟨?_, ?_, h.sound, ?_⟩
      · rw [pushed, ← List.append_assoc, ← unread_push hd bytes]
        exact h.bytes
      · have hl := h.lawful
        rwa [limits_push] at hl
      · rw [← limits_push d bytes]
        exact h.limits
    | decode =>
      have ht := ask_takes hd
      rcases hask : d.ask with ⟨d', a⟩
      rw [hask] at ht
      have hrun : d.run (.decode :: rest) = ((d'.run rest).1, a :: (d'.run rest).2) := by
        rw [run, hask]
      rw [hrun]
      cases ht with
      | @record _ w bytes regular admitted sound limits =>
        have h := ih d' sound
        refine ⟨?_, ?_, h.sound, h.limits.trans limits⟩
        · rw [pushed, bytes, List.append_assoc, h.bytes, found, List.flatMap_cons,
            List.append_assoc]
        · intro v hv
          rcases List.mem_cons.mp hv with rfl | hv
          · exact ⟨regular, admitted⟩
          · exact limits ▸ h.lawful v hv
      | nothing =>
        have h := ih d hd
        exact ⟨h.bytes, h.lawful, h.sound, h.limits⟩
      | error e =>
        have h := ih d hd
        exact ⟨h.bytes, h.lawful, h.sound, h.limits⟩

/-- A record whose header passed the limits is as long as its header announces. -/
theorem length_encode_of_admitted {w : WireRecord} {limits : Limits} (hw : w.Regular)
    (ha : w.header.Admitted limits) : w.encode.length = Header.size + w.header.following := by
  rw [hw.length_encode, Header.size_add_following ha.size_le]

/-- No byte is lost, invented or skipped. Whatever was pushed, and wherever `decode` was called, the
bytes pushed are those of the records returned, each written in the only way there is, and the bytes
still unread. Every record returned keeps to its header and to the limits; the next call takes
exactly the bytes of the record that it returns, and none if it returns no record. -/
theorem run_conserves_bytes (limits : Limits) (actions : List Action) :
    let r := (new limits).run actions
    pushed actions = (found r.2).flatMap WireRecord.encode ++ r.1.unread ∧
      r.1.available = r.1.unread.length ∧
      (∀ w ∈ found r.2, w.Regular ∧ w.header.Admitted limits) ∧
      match r.1.ask with
      | (d, .ok (some w)) =>
        r.1.unread = w.encode ++ d.unread ∧ w.Regular ∧ w.header.Admitted limits ∧
          r.1.available = Header.size + w.header.following + d.available ∧
          25 ≤ Header.size + w.header.following
      | (d, .ok none) => d = r.1
      | (d, .error _) => d = r.1 := by
  intro r
  have h : (new limits).Balanced actions r := run_balanced actions (new limits) (sound_new limits)
  have hbytes := h.bytes
  rw [unread_new, List.nil_append] at hbytes
  refine ⟨hbytes, available_eq_length r.1, h.lawful, ?_⟩
  have ht := ask_takes h.sound
  generalize r.1.ask = asked at ht ⊢
  cases ht with
  | @record _ w bytes regular admitted sound limits' =>
    have hadmitted : w.header.Admitted limits := by
      rw [h.limits] at admitted
      exact admitted
    have hlen := length_encode_of_admitted regular hadmitted
    refine ⟨bytes, regular, hadmitted, ?_, ?_⟩
    · rw [available_eq_length, available_eq_length, bytes, List.length_append, hlen]
    · have h5 : delimiter.length = 5 := rfl
      rw [Header.size_add_following hadmitted.size_le, Header.recordSize, Header.size]
      omega
  | nothing => rfl
  | error e => rfl

/-- A journal record that announces what it does not carry, its last bytes pushed after it was asked
for, and the start of a record of an unknown type. -/
theorem run_conserves_bytes_announced :
    let actions : List Action := [.push [1, 0, 4, 0, 255, 255, 255, 255, 255, 255, 255, 255], .decode,
      .push [1, 0, 0, 0, 0, 0, 0, 0, 7, 0x42, 0x52, 0x45, 0x41], .decode, .push [0x4B, 1, 0, 9, 0],
      .decode]
    let r := (new {}).run actions
    let w : WireRecord := ⟨⟨1, .passedJournal, 18446744073709551615, 1⟩, [], [7]⟩
    found r.2 = [w] ∧ w.Regular ∧ w.header.Admitted {} ∧ pushed actions = w.encode ++ [1, 0, 9, 0] := by
  intro actions r w
  obtain ⟨hbytes, -, hlawful, -⟩ := run_conserves_bytes {} actions
  have hfound : found r.2 = [w] := by decide +kernel
  have hunread : r.1.unread = [1, 0, 9, 0] := by decide +kernel
  have hw := hlawful w (by rw [hfound]; exact List.mem_singleton_self w)
  refine ⟨hfound, hw.1, hw.2, ?_⟩
  rw [hbytes, hfound, hunread, List.flatMap_singleton]

end Decoder

end LocalRecords
