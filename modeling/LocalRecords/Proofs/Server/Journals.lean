import LocalRecords.Proofs.Server.Isolation
import LocalRecords.Proofs.Server.Memory

namespace LocalRecords.Connection

variable {δ : Type}

/-- The descriptor that is due to a record after some others were handed on, if it has come. -/
def due (come : List δ) (before : List (Delivery δ)) (w : WireRecord) : Option δ :=
  if w.header.type = .passedJournal then come[(before.filterMap Delivery.journal).length]? else none

/-- What is due to a record is at hand in the queue, behind what is due to those before it. -/
theorem due_of_queue {come queue : List δ} {handed : List (Delivery δ)}
    (h : handed.filterMap Delivery.journal ++ queue = come) (before : List (Delivery δ))
    (w : WireRecord) : due queue before w = due come (handed ++ before) w := by
  rw [due, due, ← h]
  apply congrArg (if w.header.type = .passedJournal then · else none)
  rw [List.filterMap_append, List.length_append, List.getElem?_append_right (Nat.le_add_right _ _),
    Nat.add_sub_cancel_left]

theorem claim_due (w : WireRecord) (queue : List δ) :
    (claim w.header.type queue).1 = due queue [] w := by
  rw [claim, due]
  split
  · exact List.head?_eq_getElem?
  · rfl

/-- Among records that claim one after the other each gets what is due to it. -/
theorem claimAll_due {ws : List WireRecord} {queue : List δ} {earlier later : List (Delivery δ)}
    {d : Delivery δ} (h : (claimAll ws queue).1 = earlier ++ d :: later) :
    d.journal = due queue earlier d.record := by
  induction ws generalizing queue earlier with
  | nil => exact absurd h.symm (List.append_ne_nil_of_right_ne_nil _ (List.cons_ne_nil _ _))
  | cons w ws ih =>
    rw [claimAll] at h
    cases earlier with
    | nil =>
      cases h
      exact claim_due w queue
    | cons first earlier =>
      obtain ⟨hfirst, hrest⟩ := List.cons.inj h
      have hqueue :
          [first].filterMap Delivery.journal ++ (claim w.header.type queue).2 = queue := by
        have hclaim := claim_journals w.header.type queue
        rw [← hfirst]
        generalize claim w.header.type queue = claimed at hclaim ⊢
        obtain ⟨_ | j, left⟩ := claimed
        · exact hclaim
        · exact hclaim
      rw [ih hrest, due_of_queue hqueue]
      rfl

theorem receive_due {c : Connection δ} {r : Bytes × List δ} {earlier later : List (Delivery δ)}
    {d : Delivery δ} (h : (c.receive r.1 r.2).deliveries = earlier ++ d :: later) :
    d.journal = due (c.queue ++ r.2) earlier d.record := by
  rw [receive, handOn_eq_decodeAll] at h
  exact claimAll_due h

/-- A record is handed on after the read that brings its last byte, with what is due to it of all
that came up to then. -/
structure DueAt (c : Connection δ) (past : List (Bytes × List δ)) (r : Bytes × List δ)
    (earlier : List (Delivery δ)) (d : Delivery δ) : Prop where
  after : (c.receiveAll past).deliveries <+: earlier
  by_then : earlier ++ [d] <+: (c.receiveAll (past ++ [r])).deliveries
  journal : d.journal = due (c.queue ++ (past ++ [r]).flatMap Prod.snd) earlier d.record

theorem receiveAll_singleton (c : Connection δ) (r : Bytes × List δ) :
    c.receiveAll [r] = c.receive r.1 r.2 := by
  rw [receiveAll]
  split
  · rfl
  next hok =>
    have herror : (c.receive r.1 r.2).error = none := Option.not_isSome_iff_eq_none.mp hok
    generalize c.receive r.1 r.2 = first at herror ⊢
    obtain ⟨deliveries, connection, error⟩ := first
    cases herror
    exact congrArg (Handover.mk · connection none) (List.append_nil deliveries)

theorem dueAt_first {c : Connection δ} {r : Bytes × List δ} {earlier later : List (Delivery δ)}
    {d : Delivery δ} (h : (c.receive r.1 r.2).deliveries = earlier ++ d :: later) :
    c.DueAt [] r earlier d where
  after := List.nil_prefix
  by_then := by
    rw [List.nil_append, receiveAll_singleton, h]
    exact ⟨later, List.append_cons _ _ _ |>.symm⟩
  journal := by
    rw [List.nil_append, List.flatMap_singleton]
    exact receive_due h

/-- What is due after later reads is due after all of them. -/
theorem DueAt.cons {c : Connection δ} {first r : Bytes × List δ} {past : List (Bytes × List δ)}
    (hok : (c.receive first.1 first.2).error = none) {earlier : List (Delivery δ)} {d : Delivery δ}
    (h : (c.receive first.1 first.2).connection.DueAt past r earlier d) :
    c.DueAt (first :: past) r ((c.receive first.1 first.2).deliveries ++ earlier) d where
  after := by
    rw [receiveAll_of_ok hok]
    exact (List.prefix_append_right_inj _).mpr h.after
  by_then := by
    rw [List.cons_append, receiveAll_of_ok hok, List.append_assoc]
    exact (List.prefix_append_right_inj _).mpr h.by_then
  journal := by
    have hqueue :=
      congrArg (· ++ (past ++ [r]).flatMap Prod.snd) (c.receive_journals first.1 first.2)
    rw [List.append_assoc] at hqueue
    rw [h.journal, due_of_queue hqueue, List.cons_append, List.flatMap_cons, List.append_assoc]

/-- Every record that is handed on over some reads is so after one of them, with what is due to it
then. -/
theorem receiveAll_due {c : Connection δ} {reads : List (Bytes × List δ)}
    {earlier later : List (Delivery δ)} {d : Delivery δ}
    (h : (c.receiveAll reads).deliveries = earlier ++ d :: later) :
    ∃ past r future, reads = past ++ r :: future ∧ c.DueAt past r earlier d := by
  induction reads generalizing c earlier with
  | nil => exact absurd h.symm (List.append_ne_nil_of_right_ne_nil _ (List.cons_ne_nil _ _))
  | cons r reads ih =>
    cases herror : (c.receive r.1 r.2).error with
    | some e =>
      rw [receiveAll_of_error herror] at h
      exact ⟨[], r, reads, rfl, dueAt_first h⟩
    | none =>
      rw [receiveAll_of_ok herror] at h
      have hlater (behind : List (Delivery δ))
          (hbehind : ((c.receive r.1 r.2).connection.receiveAll reads).deliveries =
            behind ++ d :: later) :
          ∃ past r' future, r :: reads = past ++ r' :: future ∧
            c.DueAt past r' ((c.receive r.1 r.2).deliveries ++ behind) d := by
        obtain ⟨past, r', future, hreads, hdue⟩ := ih hbehind
        exact ⟨r :: past, r', future, congrArg (r :: ·) hreads, hdue.cons herror⟩
      rcases List.append_eq_append_iff.mp h with ⟨behind, rfl, hrest⟩ | ⟨ahead, hfirst, hrest⟩
      · exact hlater _ hrest
      · cases ahead with
        | nil =>
          have hmore := hlater [] hrest.symm
          rw [hfirst, List.append_nil, List.append_nil] at hmore
          exact hmore
        | cons d' ahead =>
          cases hrest
          exact ⟨[], r, reads, rfl, dueAt_first hfirst⟩

/-- Whatever descriptors come, the records that are handed on are those in the bytes. -/
theorem receiveAll_eq_scan {limits : Limits} {c : Connection δ} (hc : c.decoder.Drained limits)
    (reads : List (Bytes × List δ)) :
    let found := Decoder.scan limits (c.decoder.unread ++ reads.flatMap Prod.fst)
    (c.receiveAll reads).deliveries.map Delivery.record = found.1 ∧
      (c.receiveAll reads).error = found.2.2 := by
  -- On the reads. Between two of them no whole record is unread.
  induction reads generalizing c with
  | nil =>
    have hnone : Decoder.front limits c.decoder.unread = .ok none := by
      have hfront := Decoder.decode_eq_front hc.sound
      rw [hc.limits, hc.decode] at hfront
      split at hfront
      · cases hfront
      next h => exact h
      · obtain ⟨_, hdecode, -⟩ := hfront
        cases hdecode
    rw [List.flatMap_nil, List.append_nil, Decoder.scan_of_none hnone]
    exact ⟨rfl, rfl⟩
  | cons r reads ih =>
    have hunread := Decoder.unread_push hc.sound r.1
    obtain ⟨d, hall, hd⟩ := Decoder.decodeAll_eq_scan limits (c.decoder.unread ++ r.1)
      (c.decoder.push r.1) (Decoder.sound_push hc.sound r.1)
      ((Decoder.limits_push c.decoder r.1).trans hc.limits) hunread
    have hhandOn := handOn_eq_decodeAll
      ({ c with decoder := c.decoder.push r.1, queue := c.queue ++ r.2 } : Connection δ)
    rw [hall] at hhandOn
    have hreceive : (c.receive r.1 r.2).deliveries.map Delivery.record =
        (Decoder.scan limits (c.decoder.unread ++ r.1)).1 := by
      rw [receive, hhandOn]
      exact map_record_claimAll _ _
    have hfailed : (c.receive r.1 r.2).error =
        (Decoder.scan limits (c.decoder.unread ++ r.1)).2.2 := by
      rw [receive, hhandOn]
    have hleft : (c.receive r.1 r.2).connection.decoder.unread =
        (Decoder.scan limits (c.decoder.unread ++ r.1)).2.1 := by
      rw [receive, hhandOn]
      exact hd.unread
    rw [List.flatMap_cons, ← List.append_assoc]
    cases herror : (c.receive r.1 r.2).error with
    | some e =>
      rw [herror] at hfailed
      obtain ⟨hrecords, hsame⟩ :=
        Decoder.scan_append_of_error hfailed.symm (reads.flatMap Prod.fst)
      rw [receiveAll_of_error herror]
      exact ⟨hreceive.trans hrecords.symm, herror.trans hsame.symm⟩
    | none =>
      rw [herror] at hfailed
      obtain ⟨hrecords, hmore⟩ := ih (drained_receive hc r.1 r.2 herror)
      rw [hleft] at hrecords hmore
      rw [receiveAll_of_ok herror, Decoder.scan_append_of_ok hfailed.symm]
      refine ⟨?_, hmore⟩
      rw [List.map_append, hreceive, hrecords]

/-- Whatever bytes and descriptors the reads of a connection bring: the records that are handed on
are those in its bytes, all of them and in order, whether or not a descriptor is there for them. One
that passes a journal is handed on with the first descriptor of those that came, up to the read that
completes it, and were not handed on before it; if there is none it is handed on without. No other
record is handed on with one. A datagram is a connection of one read. -/
theorem receiveAll_hands_on_all (limits : Limits) (reads : List (Bytes × List δ)) :
    let c : Connection δ := new limits
    let whole := c.receiveAll reads
    let once := ((Decoder.new limits).push (reads.flatMap Prod.fst)).decodeAll
    whole.deliveries.map Delivery.record = once.1 ∧ whole.error = once.2.2 ∧
      (∀ earlier d later, whole.deliveries = earlier ++ d :: later →
        ∃ past r future, reads = past ++ r :: future ∧
          (c.receiveAll past).deliveries <+: earlier ∧
          earlier ++ [d] <+: (c.receiveAll (past ++ [r])).deliveries ∧
          d.journal = due ((past ++ [r]).flatMap Prod.snd) earlier d.record) ∧
      ∀ bytes descriptors,
        ofDatagram limits bytes descriptors = c.receiveAll [(bytes, descriptors)] := by
  intro c whole once
  obtain ⟨hrecords, herror⟩ := receiveAll_eq_scan (c := c) (Decoder.drained_new limits) reads
  obtain ⟨d, honce, -⟩ := Decoder.decodeAll_push_new limits (reads.flatMap Prod.fst)
  have hdecoded : once = _ := honce
  rw [hdecoded]
  refine ⟨hrecords, herror, ?_, ?_⟩
  · intro earlier d later hd
    obtain ⟨past, r, future, hreads, hdue⟩ := receiveAll_due hd
    exact ⟨past, r, future, hreads, hdue.after, hdue.by_then, hdue.journal⟩
  · intro bytes descriptors
    exact (receiveAll_singleton c (bytes, descriptors)).symm

/-- The descriptor comes after the record that it was to come with, and the next record takes it. -/
theorem receiveAll_hands_on_all_late :
    let c : Connection Nat := new {}
    let journal := Record.behindDescriptor 9 []
    let reads := [(journal.encode ++ journal.encode.take 10, []), (journal.encode.drop 10, [7])]
    let whole := c.receiveAll reads
    whole.deliveries = [⟨journal.received, none⟩] ++ ⟨journal.received, some 7⟩ :: [] ∧
      ∃ past r future, reads = past ++ r :: future ∧
        some 7 =
          due ((past ++ [r]).flatMap Prod.snd) [⟨journal.received, none⟩] journal.received := by
  intro c journal reads whole
  have hwhole : whole.deliveries =
      [⟨journal.received, none⟩] ++ ⟨journal.received, some 7⟩ :: [] := by
    decide +kernel
  obtain ⟨-, -, hdue, -⟩ := receiveAll_hands_on_all {} reads
  obtain ⟨past, r, future, hreads, -, -, hjournal⟩ := hdue _ _ _ hwhole
  exact ⟨hwhole, past, r, future, hreads, hjournal⟩

/-- A record that passes a journal, between two others and with no descriptor, and alone in a
datagram. -/
theorem receiveAll_hands_on_unpaired :
    let log := Record.inline .log [1] []
    let journal := Record.behindDescriptor 9 []
    let bytes := log.encode ++ journal.encode ++ log.encode
    let whole := (new {} : Connection Nat).receiveAll [(bytes, [])]
    let alone := ofDatagram {} journal.encode ([] : List Nat)
    whole.deliveries =
        [⟨log.received, none⟩, ⟨journal.received, none⟩, ⟨log.received, none⟩] ∧
      alone.deliveries = [⟨journal.received, none⟩] ∧
      ¬∀ d ∈ whole.deliveries, d.record.header.type = .passedJournal → d.journal.isSome := by
  decide +kernel

end LocalRecords.Connection
