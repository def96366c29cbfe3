import LocalRecords.Proofs.Host.Pair

namespace LocalRecords

variable {σ : Type}

namespace View

/-- What one call does to both queues and what it may answer. -/
structure Accounts (view : View σ) (s s' : σ) (e : Entry) : Prop where
  isUp : view.isUp s'
  bytes : ∀ side,
    view.queued side s ++ accepted side.other [e] = returned side [e] ++ view.queued side s'
  ended : ∀ side, view.ended side s' →
    view.ended side s ∨ HasShut side .reading [e] ∨ HasShut side.other .writing [e]
  atEnd : ∀ after, e.answer = .brought .ended after →
    0 < e.call.asked ∧ view.queued e.side s = [] ∧ view.ended e.side s
  data : ∀ count after, e.answer = .brought (.data count) after →
    count ≤ e.call.asked ∧ (0 < e.call.asked → 0 < count)

variable {view : View σ} {side : Side} {s s' : σ} {e : Entry}

theorem balance_of_sides (own : view.queued e.side s = e.returned ++ view.queued e.side s')
    (other : view.queued e.side.other s' = view.queued e.side.other s ++ e.accepted) (side : Side) :
    view.queued side s ++ accepted side.other [e] = returned side [e] ++ view.queued side s' := by
  rw [accepted, returned, bytesOf_singleton, bytesOf_singleton]
  by_cases hside : e.side = side
  · rw [← hside, if_neg e.side.other_ne.symm, if_pos rfl, List.append_nil]
    exact own
  · have hother : side = e.side.other := Side.eq_other_of_ne (Ne.symm hside)
    rw [if_neg hside, if_pos (Side.eq_other_of_ne hside), List.nil_append, hother]
    exact other.symm

theorem Rests.accounts (h : view.Rests s s') (call : Call) (failure : Failure) :
    view.Accounts s s' ⟨side, call, .failed failure⟩ where
  isUp := h.isUp
  bytes := by
    apply balance_of_sides
    · exact (h.queued side).symm
    · rw [Entry.accepted_of_not_wrote, List.append_nil]
      · exact h.queued side.other
      · exact fun _ => nofun
  ended each he := .inl (h.ended each he)
  atEnd _ ha := Answer.noConfusion ha
  data _ _ ha := Answer.noConfusion ha

theorem Adds.accounts {buffer : Bytes} {offset len count : Nat}
    (h : view.Adds side (((buffer.drop offset).take len).take count) s s') :
    view.Accounts s s' ⟨side, .write buffer offset len, .wrote count⟩ where
  isUp := h.isUp
  bytes := balance_of_sides h.own.symm h.queued
  ended each he := .inl (h.ended each he)
  atEnd _ ha := Answer.noConfusion ha
  data _ _ ha := Answer.noConfusion ha

theorem Shuts.accounts {half : Half} (h : view.Shuts side half s s') :
    view.Accounts s s' ⟨side, .shut half, .shut⟩ where
  isUp := h.isUp
  bytes := by
    apply balance_of_sides
    · exact (h.queued side).symm
    · exact (h.queued side.other).trans (List.append_nil _).symm
  ended each he := by
    rcases h.ended each he with hbefore | ⟨rfl, rfl⟩ | ⟨rfl, rfl⟩
    · exact .inl hbefore
    · exact .inr (.inl List.mem_cons_self)
    · exact .inr (.inr List.mem_cons_self)
  atEnd _ ha := Answer.noConfusion ha
  data _ _ ha := Answer.noConfusion ha

/-- A kernel's count of bytes on a stream, by how many were asked for: zero of some is the end. -/
theorem reading_cases {n : Nat} {bytes : Bytes} (hlen : bytes.length ≤ n) :
    let reading := if n = 0 then .data 0 else Reading.ofCount .stream bytes.length
    reading = .data bytes.length ∧ (0 < n → 0 < bytes.length) ∨
      reading = .ended ∧ 0 < n ∧ bytes = [] := by
  intro reading
  by_cases hn : n = 0
  · have hzero : bytes.length = 0 := by omega
    refine .inl ⟨?_, fun hpos => absurd hn (Nat.ne_of_gt hpos)⟩
    rw [hzero]
    exact if_pos hn
  have hreading : reading = .ofCount .stream bytes.length := if_neg hn
  rw [hreading]
  by_cases hzero : bytes.length = 0
  · exact .inr ⟨if_pos ⟨hzero, rfl⟩, Nat.pos_of_ne_zero hn, List.length_eq_zero_iff.mp hzero⟩
  · exact .inl ⟨if_neg fun h => hzero h.1, fun _ => Nat.pos_of_ne_zero hzero⟩

/-- A call that read says what it means that so many bytes were read, unless none were asked for. -/
theorem Takes.accounts {n : Nat} {bytes after : Bytes} (h : view.Takes side n bytes s s')
    (call : Call) (hasked : call.asked = n) (hafter : bytes <+: after) :
    view.Accounts s s'
      ⟨side, call, .brought (if n = 0 then .data 0 else .ofCount .stream bytes.length) after⟩ := by
  have hmoves {reading : Reading}
      (hreturned : Entry.returned ⟨side, call, .brought reading after⟩ = bytes) (each : Side) :
      view.queued each s ++ accepted each.other [⟨side, call, .brought reading after⟩] =
        returned each [⟨side, call, .brought reading after⟩] ++ view.queued each s' := by
    apply balance_of_sides
    · rw [hreturned]
      exact h.queued
    · rw [Entry.accepted_of_not_wrote, List.append_nil]
      · exact h.other
      · exact fun _ => nofun
  rcases reading_cases h.length_le with ⟨hdata, hpos⟩ | ⟨hended, hpos, hnil⟩
  · rw [hdata]
    refine ⟨h.isUp, hmoves (List.prefix_iff_eq_take.mp hafter).symm,
      fun each he => .inl (h.ended each he), fun _ ha => ?_, fun count _ ha => ?_⟩
    · cases ha
    · cases ha
      rw [hasked]
      exact ⟨h.length_le, hpos⟩
  · rw [hended]
    refine ⟨h.isUp, hmoves hnil.symm, fun each he => .inl (h.ended each he), fun _ ha => ?_,
      fun count _ ha => ?_⟩
    · rw [hasked]
      exact ⟨hpos, h.empty hpos hnil⟩
    · cases ha

theorem Takes.nothing (hs : view.isUp s) (side : Side) : view.Takes side 0 [] s s :=
  ⟨hs, rfl, rfl, fun _ he => he, Nat.le_refl 0, fun hpos => absurd hpos (Nat.lt_irrefl 0)⟩

/-- What a log and the queues after it have to do with one another. -/
structure Settled (view : View σ) (log : List Entry) (s : σ) : Prop where
  isUp : view.isUp s
  bytes : ∀ side, accepted side.other log = returned side log ++ view.queued side s
  ended : ∀ side, view.ended side s → HasShut side .reading log ∨ HasShut side.other .writing log

theorem Fresh.settled (h : view.Fresh s) : view.Settled [] s where
  isUp := h.isUp
  bytes side := (h.queued side).symm
  ended side he := absurd he (h.ended side)

theorem Settled.after {log : List Entry} (h : view.Settled log s) (he : view.Accounts s s' e) :
    view.Settled (log ++ [e]) s' where
  isUp := he.isUp
  bytes side := by
    calc accepted side.other (log ++ [e])
        = accepted side.other log ++ accepted side.other [e] := bytesOf_append _ _ _ _
      _ = returned side log ++ (view.queued side s ++ accepted side.other [e]) := by
        rw [h.bytes, List.append_assoc]
      _ = returned side log ++ returned side [e] ++ view.queued side s' := by
        rw [he.bytes, List.append_assoc]
      _ = returned side (log ++ [e]) ++ view.queued side s' := by
        rw [returned, returned, returned, bytesOf_append]
  ended side hside := by
    rcases he.ended side hside with hbefore | hnow
    · exact (h.ended side hbefore).imp (List.mem_append_left _) (List.mem_append_left _)
    · exact hnow.imp (List.mem_append_right _) (List.mem_append_right _)

end View

namespace Link

variable {link : Link σ} {view : View σ} {s : σ}

/-- A range that is read to begins with what was read. -/
theorem prefix_of_range {buffer bytes : Bytes} {offset len : Nat}
    (hrange : ¬buffer.length < offset + len) :
    bytes <+: (buffer.take offset ++ bytes ++ buffer.drop (offset + bytes.length)).drop offset := by
  have hoffset : (buffer.take offset).length = offset := List.length_take_of_le (by omega)
  rw [List.append_assoc, List.drop_left' hoffset]
  exact List.prefix_append _ _

-- Calls and runs

/-- Every call, whatever it is, moves bytes from the front of one queue or to the end of the other,
or none. -/
theorem step_accounts (hl : link.IsStream view) (hs : view.isUp s) (side : Side) (call : Call) :
    view.Accounts s (link.step s side call).1 ⟨side, call, (link.step s side call).2⟩ := by
  cases call with
  | write buffer offset len =>
    have hsend := hl.sendThrough side ((buffer.drop offset).take len) hs
    rw [step, writeRange]
    by_cases hrange : buffer.length < offset + len
    · rw [if_pos hrange]
      exact (View.Rests.refl hs).accounts _ _
    rw [if_neg hrange]
    rcases hsent : (link.sink side).sendThrough s ((buffer.drop offset).take len) with
      ⟨s', e | count⟩
    · rw [hsent] at hsend
      exact View.Rests.accounts hsend _ _
    · rw [hsent] at hsend
      exact View.Adds.accounts hsend
  | read buffer offset len =>
    have hread := hl.readThrough side len hs
    rw [step, readRange, hl.kind]
    by_cases hrange : buffer.length < offset + len
    · rw [if_pos hrange]
      exact (View.Rests.refl hs).accounts _ _
    rw [if_neg hrange]
    by_cases hlen : len = 0
    · rw [if_pos hlen]
      have h := (View.Takes.nothing hs side).accounts (.read buffer offset len) hlen
        (List.nil_prefix (l := buffer.drop offset))
      rwa [if_pos rfl] at h
    rw [if_neg hlen]
    rcases hcame : (link.source side).readThrough s len with ⟨s', e | bytes⟩
    · rw [hcame] at hread
      exact View.Rests.accounts hread _ _
    · rw [hcame] at hread
      have h := View.Takes.accounts hread (.read buffer offset len) rfl (prefix_of_range hrange)
      rwa [if_neg hlen] at h
  | receive capacity maxDescriptors =>
    have hreceive := hl.receiveThrough side capacity
      (Control.room (min maxDescriptors Control.maxDescriptors)) hs
    rw [step, Receiver.receiveInto, hl.kind]
    dsimp only
    rcases hcame : (link.receiver side).receiveThrough s capacity
      (Control.room (min maxDescriptors Control.maxDescriptors)) with ⟨s', e | r⟩
    · rw [hcame] at hreceive
      exact View.Rests.accounts hreceive _ _
    · rw [hcame] at hreceive
      obtain ⟨htakes, hwhole⟩ := hreceive
      dsimp only
      rw [hwhole, if_neg Bool.false_ne_true]
      exact htakes.accounts _ rfl List.prefix_rfl
  | shut half =>
    have hshut := hl.shut side half hs
    rw [step]
    rcases hdone : link.shut side half s with ⟨s', e | ⟨⟩⟩
    · rw [hdone] at hshut
      exact View.Rests.accounts hshut _ _
    · rw [hdone] at hshut
      exact View.Shuts.accounts hshut

/-- After any calls the log and the queues account for every byte. -/
theorem run_settled (hl : link.IsStream view) {before : List Entry} (hs : view.Settled before s)
    (calls : List (Side × Call)) :
    view.Settled (before ++ (link.run s calls).2) (link.run s calls).1 := by
  -- On the calls, with the log of everything before them.
  induction calls generalizing s before with
  | nil =>
    rw [run, List.append_nil]
    exact hs
  | cons c calls ih =>
    have hnext := hs.after (step_accounts hl hs.isUp c.1 c.2)
    have hrest := ih hnext
    rw [List.append_assoc] at hrest
    exact hrest

/-- Reading no bytes to a place of a buffer does not ask the kernel. -/
theorem step_read_nothing (link : Link σ) (s : σ) (side : Side) {buffer : Bytes} {offset : Nat}
    (ho : offset ≤ buffer.length) :
    link.step s side (.read buffer offset 0) = (s, .brought (.data 0) (buffer.drop offset)) := by
  have hrange : ¬buffer.length < offset + 0 := Nat.not_lt.mpr ho
  rw [step, readRange, if_neg hrange, if_pos rfl]

/-- Receiving no bytes asks the kernel and takes none. -/
theorem step_receive_nothing (hl : link.IsStream view) (hs : view.isUp s) (side : Side)
    (maxDescriptors : Nat) :
    let next := link.step s side (.receive 0 maxDescriptors)
    (∀ each, view.queued each next.1 = view.queued each s) ∧
      (next.2 = .brought (.data 0) [] ∨ ∃ e, next.2 = .failed (.refused .recv e)) := by
  have hreceive := hl.receiveThrough side 0
    (Control.room (min maxDescriptors Control.maxDescriptors)) hs
  intro next
  have hnext : next = link.step s side (.receive 0 maxDescriptors) := rfl
  rw [step, Receiver.receiveInto] at hnext
  dsimp only at hnext
  rcases hcame : (link.receiver side).receiveThrough s 0
    (Control.room (min maxDescriptors Control.maxDescriptors)) with ⟨s', e | r⟩
  · rw [hcame] at hreceive hnext
    have hrests : view.Rests s s' := hreceive
    rw [hnext]
    exact ⟨hrests.queued, .inr ⟨e, rfl⟩⟩
  · rw [hcame] at hreceive hnext
    obtain ⟨htakes, hwhole⟩ := hreceive
    have hnil : r.bytes = [] := List.length_eq_zero_iff.mp (Nat.le_zero.mp htakes.length_le)
    dsimp only at hnext
    rw [hwhole, if_neg Bool.false_ne_true, hnil] at hnext
    rw [hnext]
    refine ⟨fun each => ?_, .inl rfl⟩
    by_cases heach : each = side
    · rw [heach, htakes.queued, hnil]
      rfl
    · rw [Side.eq_other_of_ne heach]
      exact htakes.other

-- Datagrams

theorem ofCount_datagram (count : Nat) : Reading.ofCount .datagram count = .data count :=
  if_neg fun h => Bool.false_ne_true h.2

/-- A socket that receives datagrams is never told of an end. -/
theorem readRange_of_datagram (source : Source σ) (s : σ) (buffer : Bytes) (offset len : Nat) :
    (readRange source .datagram s buffer offset len).2.2 ≠ .ok .ended := by
  intro hended
  rw [readRange] at hended
  split at hended
  · cases hended
  split at hended
  · cases hended
  split at hended
  · cases hended
  · rw [ofCount_datagram] at hended
    cases hended

theorem receiveInto_of_datagram (receiver : Receiver σ) (s : σ) (capacity maxDescriptors : Nat)
    {r : Received} (hr : (receiver.receiveInto .datagram s capacity maxDescriptors).2 = .ok r) :
    r.reading ≠ .ended := by
  intro hended
  rw [Receiver.receiveInto] at hr
  dsimp only at hr
  split at hr
  · cases hr
  split at hr
  · cases hr
  · cases hr
    dsimp only at hended
    rw [ofCount_datagram] at hended
    split at hended
    · cases hended
    · cases hended

/-- Datagrams have no end: a kernel's zero is an empty one, or nothing was asked for. -/
theorem step_of_datagram (hk : link.kind = .datagram) (s : σ) (side : Side) (call : Call)
    (after : Bytes) : (link.step s side call).2 ≠ .brought .ended after := by
  intro hended
  cases call with
  | write buffer offset len =>
    rw [step] at hended
    split at hended
    · cases hended
    · cases hended
  | read buffer offset len =>
    have hread := readRange_of_datagram (link.source side) s buffer offset len
    rw [step, hk] at hended
    split at hended
    · cases hended
    next hanswer =>
      rw [hanswer] at hread
      cases hended
      exact hread rfl
  | receive capacity maxDescriptors =>
    rw [step, hk] at hended
    split at hended
    · cases hended
    next r hanswer =>
      have hreading := receiveInto_of_datagram _ s capacity maxDescriptors
        (congrArg Prod.snd hanswer)
      rw [Answer.brought.injEq] at hended
      exact hreading hended.1
  | shut half =>
    rw [step] at hended
    split at hended
    · cases hended
    · cases hended

/-- Over a kernel that keeps a queue of bytes for either side, whatever calls are made on two
connected stream sockets and in whatever order. The bytes that one side was told to be written are
those that the other has read, in order, and those that wait for it. The end is told only in answer
to a call that asked for bytes, when all of them were read and the reader has shut its reading half
or the writer its writing half; any other zero is the answer to a call that asked for none, which
takes none. Where sockets send datagrams no call is told of an end. -/
theorem run_reads_in_order (hl : link.IsStream view) (hs : view.Fresh s)
    (calls : List (Side × Call)) :
    let r := link.run s calls
    (∀ side, accepted side.other r.2 = returned side r.2 ++ view.queued side r.1) ∧
      (∀ side call,
        let answer := (link.step r.1 side call).2
        (∀ after, answer = .brought .ended after →
          0 < call.asked ∧ returned side r.2 = accepted side.other r.2 ∧
            (HasShut side .reading r.2 ∨ HasShut side.other .writing r.2)) ∧
          ∀ count after, answer = .brought (.data count) after →
            count ≤ call.asked ∧ (0 < call.asked → 0 < count)) ∧
      (∀ side buffer offset, offset ≤ buffer.length →
        link.step r.1 side (.read buffer offset 0) =
          (r.1, .brought (.data 0) (buffer.drop offset))) ∧
      (∀ side maxDescriptors,
        let next := link.step r.1 side (.receive 0 maxDescriptors)
        (∀ each, view.queued each next.1 = view.queued each r.1) ∧
          (next.2 = .brought (.data 0) [] ∨ ∃ e, next.2 = .failed (.refused .recv e))) ∧
      ∀ {τ : Type} (datagrams : Link τ), datagrams.kind = .datagram →
        ∀ t side call after, (datagrams.step t side call).2 ≠ .brought .ended after := by
  intro r
  have hsettled : view.Settled r.2 r.1 := run_settled hl hs.settled calls
  refine ⟨hsettled.bytes, fun side call => ?_, fun side buffer offset ho => ?_, fun side most => ?_,
    fun datagrams hk => datagrams.step_of_datagram hk⟩
  · have hnext := step_accounts hl hsettled.isUp side call
    refine ⟨fun after hanswer => ?_, hnext.data⟩
    obtain ⟨hasked, hqueued, hended⟩ := hnext.atEnd after hanswer
    have hbytes := hsettled.bytes side
    rw [hqueued, List.append_nil] at hbytes
    exact ⟨hasked, hbytes.symm, hsettled.ended side hended⟩
  · exact link.step_read_nothing r.1 side ho
  · exact step_receive_nothing hl hsettled.isUp side most

/-- Both ways of reading, and requests for nothing before bytes come, between them and at the end.
Where an empty datagram waits nothing ends. -/
theorem run_reads_in_order_toTheEnd :
    let h := (Socket.pair {} .stream).1
    let link := Socket.link (Side.pick ⟨3, .stream⟩ ⟨4, .stream⟩)
    let view := Socket.view (Side.pick ⟨3, .stream⟩ ⟨4, .stream⟩)
    let calls : List (Side × Call) :=
      [(.second, .read [0, 0] 1 0), (.first, .write [9, 1, 2, 3, 4, 5] 1 5),
        (.second, .receive 2 0), (.second, .receive 0 1), (.first, .shut .writing),
        (.second, .read [0, 0, 0, 0, 0] 1 4), (.second, .receive 0 1)]
    let r := link.run h calls
    let datagrams := Socket.link (Side.pick ⟨3, .datagram⟩ ⟨4, .datagram⟩)
    let t := (datagrams.run (Socket.pair {} .datagram).1 [(.first, .write [] 0 0)]).1
    link.IsStream view ∧ view.Fresh h ∧
      r.2.map Entry.answer =
        [.brought (.data 0) [0], .wrote 5, .brought (.data 2) [1, 2], .brought (.data 0) [], .shut,
          .brought (.data 3) [3, 4, 5, 0], .brought (.data 0) []] ∧
      (link.step r.1 .second (.read [7] 0 1)).2 = .brought .ended [7] ∧
      returned .second r.2 = accepted .first r.2 ∧
      (HasShut .second .reading r.2 ∨ HasShut .first .writing r.2) ∧
      (link.step r.1 .second (.read [7] 0 0)).2 = .brought (.data 0) [7] ∧
      (datagrams.step t .second (.receive 4 1)).2 = .brought (.data 0) [] ∧
      (datagrams.step t .second (.receive 4 1)).2 ≠ .brought .ended [] := by
  intro h link view calls r datagrams t
  have hl : link.IsStream view := Socket.isStream_link rfl
  have hs : view.Fresh h := (Socket.fresh_pair (h := {}) rfl).2
  have hanswers : r.2.map Entry.answer =
      [.brought (.data 0) [0], .wrote 5, .brought (.data 2) [1, 2], .brought (.data 0) [], .shut,
        .brought (.data 3) [3, 4, 5, 0], .brought (.data 0) []] := by
    decide +kernel
  have hended : (link.step r.1 .second (.read [7] 0 1)).2 = .brought .ended [7] := by
    decide +kernel
  have hempty : (datagrams.step t .second (.receive 4 1)).2 = .brought (.data 0) [] := by
    decide +kernel
  obtain ⟨-, hcalls, hnothing, -, hdatagrams⟩ := run_reads_in_order hl hs calls
  obtain ⟨-, hall, hshut⟩ := (hcalls .second (.read [7] 0 1)).1 [7] hended
  have hzero := hnothing .second [7] 0 (Nat.zero_le _)
  exact ⟨hl, hs, hanswers, hended, hall, hshut, congrArg Prod.snd hzero, hempty,
    hdatagrams datagrams rfl t .second (.receive 4 1) []⟩

end Link

end LocalRecords
