import LocalRecords.Proofs.Message.Delivery
import LocalRecords.Proofs.Socket.Reading

namespace LocalRecords

def sum? (a b : UInt64) : Option UInt64 := if a + b < a then none else some (a + b)

/-- A range has no end in its buffer: it ends behind it, or the place of its end is no word. -/
def Leaves (capacity : Nat) (offset len : UInt64) : Prop :=
  ∀ last, sum? offset len = some last → capacity < last.toNat

/-- A sum of words is told if and only if it is the sum of the numbers. -/
theorem sum?_eq_some_iff (a b last : UInt64) :
    sum? a b = some last ↔ last.toNat = a.toNat + b.toNat := by
  have hadd := UInt64.toNat_add a b
  have ha := a.toNat_lt
  have hb := b.toNat_lt
  have hlast := last.toNat_lt
  rw [sum?]
  by_cases hwrap : a + b < a
  · rw [if_pos hwrap]
    have hlt := UInt64.lt_iff_toNat_lt.mp hwrap
    constructor
    · exact nofun
    · intro h
      omega
  · rw [if_neg hwrap, Option.some_inj, ← UInt64.toNat_inj]
    have hle := mt UInt64.lt_iff_toNat_lt.mpr hwrap
    omega

/-- The end of a range is found in words as it would be without a bound on numbers. -/
theorem leaves_iff {capacity : Nat} (hc : capacity < UInt64.size) (offset len : UInt64) :
    Leaves capacity offset len ↔ capacity < offset.toNat + len.toNat := by
  constructor
  · intro h
    by_contra hle
    have hword : offset.toNat + len.toNat < UInt64.size := by omega
    have hlast := UInt64.toNat_ofNat_of_lt' hword
    have hlt := h _ ((sum?_eq_some_iff offset len _).mpr hlast)
    omega
  · intro h last hlast
    rw [(sum?_eq_some_iff offset len last).mp hlast]
    exact h

/-- A buffer with some bytes in place of those that stood at a place, and no other change. -/
def Overwritten (before after : Bytes) (offset : Nat) (bytes : Bytes) : Prop :=
  after.length = before.length ∧ ∀ i, after[i]? =
    if offset ≤ i ∧ i < offset + bytes.length then bytes[i - offset]? else before[i]?

/-- Bytes that are spliced in overwrite those that stood there and nothing else. -/
theorem overwritten_splice {buffer : Bytes} {offset : Nat} (bytes : Bytes)
    (h : offset + bytes.length ≤ buffer.length) :
    Overwritten buffer (buffer.take offset ++ bytes ++ buffer.drop (offset + bytes.length)) offset
      bytes := by
  have hfront : (buffer.take offset).length = offset := List.length_take_of_le (by omega)
  constructor
  · rw [List.length_append, List.length_append, hfront, List.length_drop]
    omega
  intro i
  rw [List.append_assoc]
  by_cases hbefore : i < offset
  · rw [List.getElem?_append_left (by omega), List.getElem?_take_of_lt hbefore,
      if_neg fun hi => Nat.not_lt.mpr hi.1 hbefore]
  rw [List.getElem?_append_right (by omega), hfront]
  by_cases hin : i < offset + bytes.length
  · rw [List.getElem?_append_left (by omega), if_pos ⟨Nat.not_lt.mp hbefore, hin⟩]
  · rw [List.getElem?_append_right (by omega), List.getElem?_drop, if_neg fun hi => hin hi.2]
    congr 1
    omega

variable {σ : Type}

theorem Sink.Honest.sendThrough_le {sink : Sink σ} (honest : sink.Honest) {s : σ} {bytes : Bytes}
    {n : Nat} (h : (sink.sendThrough s bytes).2 = .ok n) : n ≤ bytes.length := by
  fun_induction Sink.sendThrough sink s bytes with
  | case1 s s' m hsend =>
    have hle := honest s ⟨[bytes], none⟩ m (congrArg Prod.snd hsend)
    cases h
    rwa [Offer.bytes, List.flatten_singleton] at hle
  | case2 s s' e hsend hi ih => exact ih h
  | case3 s s' e hsend hi => cases h

/-- A socket of a host never reports more than it was offered. -/
theorem Host.honest_sink (d : Nat) (kind : SocketType) : (Host.sink d kind).Honest := by
  intro h o n hn
  change (h.send d o).2 = .ok n at hn
  rw [Host.send] at hn
  split at hn
  · cases hn
  split at hn
  · cases hn
  split at hn
  · rw [Host.sendStream] at hn
    repeat' split at hn
    all_goals cases hn
    · exact Nat.zero_le _
    · exact Nat.le_refl _
  · rw [Host.sendDatagram] at hn
    repeat' split at hn
    all_goals cases hn
    exact Nat.le_refl _

theorem outside_eq_iff {α : Type} (offset len capacity a b c : Nat) :
    (.error (.outside offset len capacity) : Except Failure α) = .error (.outside a b c) ↔
      a = offset ∧ b = len ∧ c = capacity := by
  rw [Except.error.injEq, Failure.outside.injEq]
  constructor
  · rintro ⟨rfl, rfl, rfl⟩
    exact ⟨rfl, rfl, rfl⟩
  · rintro ⟨rfl, rfl, rfl⟩
    exact ⟨rfl, rfl, rfl⟩

/-- A range that leaves the buffer is named with the length of the buffer, and no other is. -/
theorem readRange_outside_iff (source : Source σ) (kind : SocketType) (s : σ) (buffer : Bytes)
    (offset len a b c : Nat) :
    (readRange source kind s buffer offset len).2.2 = .error (.outside a b c) ↔
      buffer.length < offset + len ∧ a = offset ∧ b = len ∧ c = buffer.length := by
  rw [readRange]
  by_cases hrange : buffer.length < offset + len
  · rw [if_pos hrange, outside_eq_iff]
    exact (and_iff_right hrange).symm
  rw [if_neg hrange]
  constructor
  · intro h
    split at h
    · cases h
    split at h
    · cases h
    · cases h
  · intro h
    exact absurd h.1 hrange

@[inherit_doc readRange_outside_iff]
theorem writeRange_outside_iff (sink : Sink σ) (s : σ) (buffer : Bytes)
    (offset len a b c : Nat) :
    (writeRange sink s buffer offset len).2 = .error (.outside a b c) ↔
      buffer.length < offset + len ∧ a = offset ∧ b = len ∧ c = buffer.length := by
  rw [writeRange]
  by_cases hrange : buffer.length < offset + len
  · rw [if_pos hrange, outside_eq_iff]
    exact (and_iff_right hrange).symm
  rw [if_neg hrange]
  dsimp only
  constructor
  · intro h
    cases hsent : (sink.sendThrough s ((buffer.drop offset).take len)).2 with
    | error e =>
      rw [hsent] at h
      cases h
    | ok n =>
      rw [hsent] at h
      cases h
  · intro h
    exact absurd h.1 hrange

-- What moves

/-- What may become of reading to a range: its front is filled with the next bytes of a queue, as
many as the answer says, or neither the buffer nor a queue changes. -/
structure View.Fills (view : View σ) (side : Side) (s : σ) (buffer : Bytes) (offset len : Nat)
    (r : σ × Bytes × Except Failure Reading) : Prop where
  data : ∀ n, r.2.2 = .ok (.data n) → n ≤ len ∧ ∃ bytes, bytes.length = n ∧
    view.queued side s = bytes ++ view.queued side r.1 ∧
    view.queued side.other r.1 = view.queued side.other s ∧
    Overwritten buffer r.2.1 offset bytes
  otherwise : (∀ n, r.2.2 ≠ .ok (.data n)) →
    r.2.1 = buffer ∧ ∀ each, view.queued each r.1 = view.queued each s

variable {view : View σ} {side : Side} {s s' : σ}

theorem View.Rests.fills (h : view.Rests s s') (side : Side) (buffer : Bytes) (offset len : Nat)
    (e : Failure) : view.Fills side s buffer offset len (s', buffer, .error e) where
  data n hn := by cases hn
  otherwise _ := ⟨rfl, h.queued⟩

theorem View.Takes.fills {bytes buffer : Bytes} {offset len : Nat}
    (h : view.Takes side len bytes s s') (hfits : offset + bytes.length ≤ buffer.length)
    (kind : SocketType) :
    view.Fills side s buffer offset len
      (s', buffer.take offset ++ bytes ++ buffer.drop (offset + bytes.length),
        .ok (.ofCount kind bytes.length)) := by
  by_cases hended : bytes.length = 0 ∧ kind.connects = true
  · -- The end brings no bytes, so that nothing is put in their place.
    have hnil : bytes = [] := List.length_eq_zero_iff.mp hended.1
    rw [Reading.ofCount, if_pos hended, hnil, List.append_nil, List.length_nil, Nat.add_zero,
      List.take_append_drop]
    refine ⟨fun n hn => ?_, fun _ => ⟨rfl, fun each => ?_⟩⟩
    · cases hn
    by_cases heach : each = side
    · rw [heach, h.queued, hnil, List.nil_append]
    · rw [Side.eq_other_of_ne heach]
      exact h.other
  · rw [Reading.ofCount, if_neg hended]
    refine ⟨fun n hn => ?_, fun hn => absurd rfl (hn bytes.length)⟩
    cases hn
    exact ⟨h.length_le, bytes, rfl, h.queued, h.other, overwritten_splice bytes hfits⟩

namespace Link

variable {link : Link σ}

/-- Reading to a range that lies in its buffer fills a part of the range or changes nothing. -/
theorem IsStream.fills (hl : link.IsStream view) (hs : view.isUp s) (side : Side)
    (buffer : Bytes) (offset len : Nat) :
    view.Fills side s buffer offset len
      (readRange (link.source side) link.kind s buffer offset len) := by
  have hread := hl.readThrough side len hs
  rw [readRange]
  by_cases hrange : buffer.length < offset + len
  · rw [if_pos hrange]
    exact (View.Rests.refl hs).fills side buffer offset len _
  rw [if_neg hrange]
  by_cases hlen : len = 0
  · rw [if_pos hlen]
    refine ⟨fun n hn => ?_, fun hn => absurd rfl (hn 0)⟩
    cases hn
    exact ⟨Nat.zero_le _, [], rfl, rfl, rfl, rfl, fun i => (if_neg (by simp)).symm⟩
  rw [if_neg hlen]
  rcases hcame : (link.source side).readThrough s len with ⟨s', e | bytes⟩
  · rw [hcame] at hread
    have hrests : view.Rests s s' := hread
    exact hrests.fills side buffer offset len _
  · rw [hcame] at hread
    have htakes : view.Takes side len bytes s s' := hread
    have hle := htakes.length_le
    exact htakes.fills (by omega) link.kind

/-- What writing from a range does to the queues. -/
theorem IsStream.appends (hl : link.IsStream view) (honest : (link.sink side).Honest)
    (hs : view.isUp s) (buffer : Bytes) (offset len : Nat) :
    let r := writeRange (link.sink side) s buffer offset len
    (∀ n, r.2 = .ok n → n ≤ len ∧
      view.queued side.other r.1 = view.queued side.other s ++ (buffer.drop offset).take n ∧
      view.queued side r.1 = view.queued side s) ∧
    ((∀ n, r.2 ≠ .ok n) → ∀ each, view.queued each r.1 = view.queued each s) := by
  have hsend := hl.sendThrough side ((buffer.drop offset).take len) hs
  intro r
  have hr : r = writeRange (link.sink side) s buffer offset len := rfl
  rw [writeRange] at hr
  by_cases hrange : buffer.length < offset + len
  · rw [if_pos hrange] at hr
    rw [hr]
    refine ⟨fun n hn => ?_, fun _ _ => rfl⟩
    cases hn
  rw [if_neg hrange] at hr
  rcases hsent : (link.sink side).sendThrough s ((buffer.drop offset).take len) with ⟨s', e | n⟩
  · rw [hsent] at hsend hr
    have hrests : view.Rests s s' := hsend
    rw [hr]
    refine ⟨fun n hn => ?_, fun _ => hrests.queued⟩
    cases hn
  have hle := (honest.sendThrough_le (congrArg Prod.snd hsent)).trans (List.length_take_le _ _)
  rw [hsent] at hsend hr
  have hadds : view.Adds side (((buffer.drop offset).take len).take n) s s' := hsend
  rw [List.take_take, Nat.min_eq_left hle] at hadds
  rw [hr]
  refine ⟨fun m hm => ?_, fun hm => absurd rfl (hm n)⟩
  cases hm
  exact ⟨hle, hadds.queued, hadds.own⟩

/-- Over a kernel that keeps a queue of bytes for either side and takes no more of them than it was
offered, whatever the buffer and the range. A call says that the range leaves the buffer exactly if
it does, which the sum of two words tells too that does not wrap around, and then nothing moves.
Otherwise reading puts the next bytes of the queue, and no more than were asked for, in the place of
those that stood there and leaves all else as it was, and writing adds a front of the range to the
queue of the other side. A call that brings or takes no bytes changes neither buffer nor queue. -/
theorem ranges_in_bounds (hl : link.IsStream view) (honest : (link.sink side).Honest)
    (hs : view.isUp s) (buffer : Bytes) (offset len : Nat) :
    let read := readRange (link.source side) link.kind s buffer offset len
    let wrote := writeRange (link.sink side) s buffer offset len
    (∀ a b c, (read.2.2 = .error (.outside a b c) ↔
        buffer.length < offset + len ∧ a = offset ∧ b = len ∧ c = buffer.length) ∧
      (wrote.2 = .error (.outside a b c) ↔
        buffer.length < offset + len ∧ a = offset ∧ b = len ∧ c = buffer.length)) ∧
    (∀ place count : UInt64, place.toNat = offset → count.toNat = len →
      buffer.length < UInt64.size →
        (Leaves buffer.length place count ↔ buffer.length < offset + len)) ∧
    (buffer.length < offset + len → read.1 = s ∧ read.2.1 = buffer ∧ wrote.1 = s) ∧
    (∀ n, read.2.2 = .ok (.data n) → n ≤ len ∧ ∃ bytes, bytes.length = n ∧
      view.queued side s = bytes ++ view.queued side read.1 ∧
      view.queued side.other read.1 = view.queued side.other s ∧
      Overwritten buffer read.2.1 offset bytes) ∧
    ((∀ n, read.2.2 ≠ .ok (.data n)) →
      read.2.1 = buffer ∧ ∀ each, view.queued each read.1 = view.queued each s) ∧
    (∀ n, wrote.2 = .ok n → n ≤ len ∧
      view.queued side.other wrote.1 = view.queued side.other s ++ (buffer.drop offset).take n ∧
      view.queued side wrote.1 = view.queued side s) ∧
    ((∀ n, wrote.2 ≠ .ok n) → ∀ each, view.queued each wrote.1 = view.queued each s) := by
  intro read wrote
  have hfills := hl.fills hs side buffer offset len
  obtain ⟨hwrote, hnone⟩ := hl.appends honest hs buffer offset len
  refine ⟨fun a b c => ⟨?_, ?_⟩, fun place count hplace hcount hc => ?_, fun hrange => ?_,
    hfills.data, hfills.otherwise, hwrote, hnone⟩
  · exact readRange_outside_iff _ _ _ _ _ _ _ _ _
  · exact writeRange_outside_iff _ _ _ _ _ _ _ _
  · rw [leaves_iff hc, hplace, hcount]
  · have hread : read = (s, buffer, .error (.outside offset len buffer.length)) := if_pos hrange
    have hwrite : wrote = (s, .error (.outside offset len buffer.length)) := if_pos hrange
    rw [hread, hwrite]
    exact ⟨rfl, rfl, rfl⟩

/-- Five bytes from within a buffer are written, and four of them read to within another. A range
whose end would wrap around to a place in the buffer moves nothing; the empty one at the end of the
buffer is no such range. -/
theorem ranges_in_bounds_wrapped :
    let ends := Side.pick ⟨3, .stream⟩ ⟨4, .stream⟩
    let link := Socket.link ends
    let view := Socket.view ends
    let h := (Socket.pair {} .stream).1
    let letters : Bytes := [120, 120, 104, 101, 108, 108, 111, 121, 121]
    let wrote := writeRange (link.sink .first) h letters 2 5
    let s := (link.run h [(.first, .write letters 2 5)]).1
    let read := readRange (link.source .second) link.kind s [0, 0, 0, 0, 0, 0, 0, 0] 3 4
    let refused := readRange (link.source .second) link.kind s [1, 2] 18446744073709551615 2
    let empty := readRange (link.source .second) link.kind s [1, 2] 2 0
    link.IsStream view ∧ (∀ side, (link.sink side).Honest) ∧ view.isUp h ∧ view.isUp s ∧
      wrote.2 = .ok 5 ∧
      view.queued .second wrote.1 = view.queued .second h ++ [104, 101, 108, 108, 111] ∧
      read.2 = ([0, 0, 0, 104, 101, 108, 108, 0], .ok (.data 4)) ∧
      (∃ bytes, bytes.length = 4 ∧ view.queued .second s = bytes ++ view.queued .second read.1 ∧
        Overwritten [0, 0, 0, 0, 0, 0, 0, 0] read.2.1 3 bytes) ∧
      refused.2.2 = .error (.outside 18446744073709551615 2 2) ∧ refused.1 = s ∧
      Leaves 2 18446744073709551615 2 ∧
      empty.2 = ([1, 2], .ok (.data 0)) ∧ ¬Leaves 2 2 0 := by
  intro ends link view h letters wrote s read refused empty
  have hl : link.IsStream view := Socket.isStream_link rfl
  have honest (side : Side) : (link.sink side).Honest := Host.honest_sink _ _
  have hfresh : view.Fresh h := (Socket.fresh_pair (h := {}) rfl).2
  have hs : view.isUp s := (run_settled hl hfresh.settled _).isUp
  have hwrote : wrote.2 = .ok 5 := by decide +kernel
  have hread : read.2 = ([0, 0, 0, 104, 101, 108, 108, 0], .ok (.data 4)) := by decide +kernel
  have hempty : empty.2 = ([1, 2], .ok (.data 0)) := by decide +kernel
  obtain ⟨-, -, -, -, -, hadded, -⟩ := ranges_in_bounds hl (honest .first) hfresh.isUp letters 2 5
  obtain ⟨-, -, -, htaken, -⟩ :=
    ranges_in_bounds hl (honest .second) hs [0, 0, 0, 0, 0, 0, 0, 0] 3 4
  obtain ⟨-, bytes, hlen, hqueued, -, hover⟩ := htaken 4 (congrArg Prod.snd hread)
  obtain ⟨hnamed, hwords, hstays, -⟩ :=
    ranges_in_bounds hl (honest .second) hs [1, 2] 18446744073709551615 2
  obtain ⟨-, hinside, -⟩ := ranges_in_bounds hl (honest .second) hs [1, 2] 2 0
  have hout : ([1, 2] : Bytes).length < 18446744073709551615 + 2 := by decide
  refine ⟨hl, honest, hfresh.isUp, hs, hwrote, (hadded 5 hwrote).2.1, hread,
    ⟨bytes, hlen, hqueued, hover⟩, (hnamed _ _ _).1.mpr ⟨hout, rfl, rfl, rfl⟩, (hstays hout).1,
    (hwords _ _ rfl rfl (by decide)).mpr hout, hempty, fun hleaves => ?_⟩
  exact absurd ((hinside 2 0 rfl rfl (by decide)).mp hleaves) (by decide)

end Link

end LocalRecords
