import LocalRecords.Proofs.Server.Table

namespace LocalRecords

variable {δ : Type}

namespace Connection

theorem claim_journals (type : RecordType) (queue : List δ) :
    (claim type queue).1.toList ++ (claim type queue).2 = queue := by
  rw [claim]
  split
  · cases queue with
    | nil => rfl
    | cons d queue => rfl
  · rfl

/-- Descriptors are handed out from the front of the queue, and none of them twice. -/
theorem claimAll_journals (ws : List WireRecord) (queue : List δ) :
    (claimAll ws queue).1.filterMap Delivery.journal ++ (claimAll ws queue).2 = queue := by
  induction ws generalizing queue with
  | nil => rfl
  | cons w ws ih =>
    have hrest := ih (claim w.header.type queue).2
    have hfirst := claim_journals w.header.type queue
    rw [claimAll]
    dsimp only
    cases hclaim : (claim w.header.type queue).1 with
    | none =>
      rw [hclaim] at hfirst
      rw [List.filterMap_cons_none rfl, hrest]
      exact hfirst
    | some d =>
      rw [hclaim] at hfirst
      rw [List.filterMap_cons_some (f := Delivery.journal) rfl, List.cons_append, hrest]
      exact hfirst

/-- The descriptors that a read hands on and those that then wait are those that waited before and
those it brought, in order. -/
theorem receive_journals (c : Connection δ) (bytes : Bytes) (descriptors : List δ) :
    (c.receive bytes descriptors).deliveries.filterMap Delivery.journal ++
        (c.receive bytes descriptors).connection.queue =
      c.queue ++ descriptors := by
  rw [receive, handOn_eq_decodeAll]
  exact claimAll_journals _ _

theorem receive_records (c : Connection δ) (bytes : Bytes) (descriptors : List δ) :
    (c.receive bytes descriptors).connection.records =
      c.records + (c.receive bytes descriptors).deliveries.length := by
  rw [receive, handOn_eq_decodeAll]
  dsimp only
  rw [← List.length_map Delivery.record, map_record_claimAll]

theorem receiveAll_of_error {c : Connection δ} {r : Bytes × List δ} {e : Failure}
    (herr : (c.receive r.1 r.2).error = some e) (rs : List (Bytes × List δ)) :
    c.receiveAll (r :: rs) = c.receive r.1 r.2 := by
  rw [receiveAll, herr]
  rfl

/-- What was handed out and what waits are the first of the descriptors received. -/
theorem receiveAll_journals (c : Connection δ) (reads : List (Bytes × List δ)) :
    (c.receiveAll reads).deliveries.filterMap Delivery.journal ++
        (c.receiveAll reads).connection.queue <+:
      c.queue ++ reads.flatMap Prod.snd := by
  induction reads generalizing c with
  | nil =>
    rw [List.flatMap_nil, List.append_nil]
    exact List.prefix_rfl
  | cons r rs ih =>
    have hfirst := c.receive_journals r.1 r.2
    rw [List.flatMap_cons, ← List.append_assoc, ← hfirst]
    cases herr : (c.receive r.1 r.2).error with
    | some e =>
      rw [receiveAll_of_error herr]
      exact List.prefix_append _ _
    | none =>
      rw [receiveAll_of_ok herr, List.filterMap_append, List.append_assoc, List.append_assoc]
      exact (List.prefix_append_right_inj _).mpr (ih _)

theorem receiveAll_records (c : Connection δ) (reads : List (Bytes × List δ)) :
    (c.receiveAll reads).connection.records =
      c.records + (c.receiveAll reads).deliveries.length := by
  induction reads generalizing c with
  | nil => rfl
  | cons r rs ih =>
    have hfirst := c.receive_records r.1 r.2
    cases herr : (c.receive r.1 r.2).error with
    | some e =>
      rw [receiveAll_of_error herr]
      exact hfirst
    | none =>
      rw [receiveAll_of_ok herr]
      dsimp only
      rw [ih, hfirst, List.length_append]
      omega

end Connection

namespace Server

-- Numbers and reads of a connection

def new (limits : Limits) (owner maxLive : Nat) : Server δ where
  limits := limits
  owner := owner
  maxLive := maxLive

def Event.isEndOf (id : ConnectionNumber) : Event δ → Bool
  | ended other => other = id
  | _ => false

def readsToEnd (id : ConnectionNumber) (events : List (Event δ)) : List (Bytes × List δ) :=
  reads id (events.takeWhile fun e => !e.isEndOf id)

variable {s : Server δ} {id : ConnectionNumber} {c : Connection δ} {e : Event δ}

theorem Event.eq_of_isEndOf (h : e.isEndOf id = true) : e = ended id := by
  cases e with
  | ended other => rw [of_decide_eq_true h]
  | _ => cases h

theorem readsToEnd_cons_of_end (h : e.isEndOf id = true) (events : List (Event δ)) :
    readsToEnd id (e :: events) = [] := by
  rw [readsToEnd, List.takeWhile_cons, h]
  rfl

theorem readsToEnd_cons_of_other (h : e.isEndOf id = false) (hread : e.readOf id = none)
    (events : List (Event δ)) : readsToEnd id (e :: events) = readsToEnd id events := by
  rw [readsToEnd, List.takeWhile_cons, h]
  exact List.filterMap_cons_none hread

theorem readsToEnd_cons_of_read (h : e.isEndOf id = false) {read : Bytes × List δ}
    (hread : e.readOf id = some read) (events : List (Event δ)) :
    readsToEnd id (e :: events) = read :: readsToEnd id events := by
  rw [readsToEnd, List.takeWhile_cons, h]
  exact List.filterMap_cons_some hread

/-- What an event may change. The rest a server keeps as it was set up. -/
theorem step_changes (s : Server δ) (e : Event δ) :
    ∃ given live stopping, (s.step e).server =
      { s with nextNumber := s.nextNumber + given, live := live, isStopping := stopping } := by
  cases e with
  | acceptFailed => exact ⟨0, _, _, rfl⟩
  | stopped => exact ⟨0, _, _, rfl⟩
  | ended id => exact ⟨0, _, _, rfl⟩
  | arrived user hasHandler =>
    rw [step]
    split
    · split
      · exact ⟨1, _, _, rfl⟩
      · exact ⟨1, _, _, rfl⟩
    · exact ⟨0, _, _, rfl⟩
  | received id bytes descriptors =>
    rw [step]
    split
    · exact ⟨0, _, _, rfl⟩
    · rw [receive]
      split
      · exact ⟨0, _, _, rfl⟩
      · exact ⟨0, _, _, rfl⟩

theorem nextNumber_le_step (s : Server δ) (e : Event δ) :
    s.nextNumber ≤ (s.step e).server.nextNumber := by
  obtain ⟨given, _, _, h⟩ := s.step_changes e
  rw [h]
  exact Nat.le_add_right _ given

theorem nextNumber_le_run (s : Server δ) (events : List (Event δ)) :
    s.nextNumber ≤ (s.run events).server.nextNumber := by
  induction events generalizing s with
  | nil => exact Nat.le_refl _
  | cons e events ih => exact Nat.le_trans (s.nextNumber_le_step e) (ih _)

theorem step_keeps (s : Server δ) (e : Event δ) :
    (s.step e).server.limits = s.limits ∧ (s.step e).server.owner = s.owner ∧
      (s.step e).server.maxLive = s.maxLive := by
  obtain ⟨_, _, _, h⟩ := s.step_changes e
  rw [h]
  exact ⟨rfl, rfl, rfl⟩

/-- No event changes the limits, the owner or the bound of the table. -/
theorem run_keeps (s : Server δ) (events : List (Event δ)) :
    (s.run events).server.limits = s.limits ∧ (s.run events).server.owner = s.owner ∧
      (s.run events).server.maxLive = s.maxLive := by
  induction events generalizing s with
  | nil => exact ⟨rfl, rfl, rfl⟩
  | cons e events ih =>
    obtain ⟨hlimits, howner, hmax⟩ := s.step_keeps e
    obtain ⟨hlimits', howner', hmax'⟩ := ih (s.step e).server
    exact ⟨hlimits'.trans hlimits, howner'.trans howner, hmax'.trans hmax⟩

-- A connection before, in and after the table

/-- A number that is not in the table stays out of it, unless it is the one that is given next. -/
theorem step_of_absent (h : s.find? id = none) (e : Event δ)
    (hnot : id < s.nextNumber ∨ (s.step e).server.nextNumber ≤ id) :
    (s.step e).server.find? id = none ∧ (s.step e).deliveriesOf id = [] := by
  cases e with
  | acceptFailed => exact ⟨h, rfl⟩
  | stopped => exact ⟨h, rfl⟩
  | arrived user hasHandler =>
    rw [step] at hnot ⊢
    split at hnot
    next htakes =>
      rw [if_pos htakes]
      split at hnot
      next hhandler =>
        rw [if_pos hhandler]
        have hne : id ≠ s.nextNumber := by
          rintro rfl
          exact hnot.elim (Nat.lt_irrefl _) (Nat.not_succ_le_self _)
        refine ⟨?_, rfl⟩
        rw [find?] at h
        rw [find?, enrol, List.lookup_append, h, Option.none_or, List.lookup_cons,
          beq_false_of_ne hne]
        rfl
      next hhandler =>
        rw [if_neg hhandler]
        exact ⟨h, rfl⟩
    next htakes =>
      rw [if_neg htakes]
      exact ⟨h, rfl⟩
  | ended other =>
    refine ⟨?_, rfl⟩
    rw [step, find?_remove, h, ite_self]
  | received other bytes descriptors =>
    rw [step]
    split
    · exact ⟨h, rfl⟩
    next d hd =>
      have hne : id ≠ other := by
        rintro rfl
        rw [h] at hd
        cases hd
      rw [receive]
      split
      · rw [find?_remove, deliveriesOf_map, if_neg hne, if_neg hne]
        exact ⟨h, rfl⟩
      · rw [find?_set, deliveriesOf_map, if_neg hne, if_neg hne]
        exact ⟨h, rfl⟩

/-- A number that is not in the table, and is not given during a run, hands nothing on in it. -/
theorem run_of_absent (events : List (Event δ)) (h : s.find? id = none)
    (hnot : id < s.nextNumber ∨ (s.run events).server.nextNumber ≤ id) :
    (s.run events).server.find? id = none ∧ (s.run events).deliveriesOf id = [] := by
  induction events generalizing s with
  | nil => exact ⟨h, rfl⟩
  | cons e events ih =>
    have hstep : id < s.nextNumber ∨ (s.step e).server.nextNumber ≤ id :=
      hnot.imp_right (Nat.le_trans ((s.step e).server.nextNumber_le_run events))
    have hrest : id < (s.step e).server.nextNumber ∨
        ((s.step e).server.run events).server.nextNumber ≤ id :=
      hnot.imp_left (fun hlt => Nat.lt_of_lt_of_le hlt (s.nextNumber_le_step e))
    obtain ⟨hfind, hnone⟩ := step_of_absent h e hstep
    obtain ⟨hfind', hnone'⟩ := ih hfind hrest
    rw [deliveriesOf_run_cons, hnone, hnone']
    exact ⟨hfind', rfl⟩

/-- A read that brings what is no record hands on what came before that and takes the connection out
of the table. -/
theorem step_of_error (h : s.find? id = some c) {bytes : Bytes} {descriptors : List δ}
    {failure : Failure} (herr : (c.receive bytes descriptors).error = some failure) :
    let r := s.step (.received id bytes descriptors)
    r.server.find? id = none ∧ r.deliveriesOf id = (c.receive bytes descriptors).deliveries := by
  intro r
  have hr : r = ⟨s.remove id, (c.receive bytes descriptors).deliveries.map (id, ·),
      (c.receive bytes descriptors).connection.queue⟩ := by
    simp only [r, step, h, receive, herr]
    rfl
  rw [hr, find?_remove, deliveriesOf_map, if_pos rfl, if_pos rfl]
  exact ⟨rfl, rfl⟩

/-- A run does with a connection what its own reads do. After its end, and after a read that brings
what is no record, it is not in the table any more. -/
theorem run_of_live (events : List (Event δ)) (h : s.find? id = some c) (hid : id < s.nextNumber) :
    let alone := c.receiveAll (readsToEnd id events)
    (s.run events).deliveriesOf id = alone.deliveries ∧
      (s.run events).server.find? id =
        if alone.error.isSome || events.any (Event.isEndOf id) then none
        else some alone.connection := by
  -- On the events, as long as the connection is in the table. Once it is not, its number is
  -- never given again.
  induction events generalizing s c with
  | nil => exact ⟨rfl, h⟩
  | cons e events ih =>
    have hid' : id < (s.step e).server.nextNumber := Nat.lt_of_lt_of_le hid (s.nextNumber_le_step e)
    rw [deliveriesOf_run_cons, List.any_cons]
    change _ ∧ ((s.step e).server.run events).server.find? id = _
    cases hend : e.isEndOf id with
    | true =>
      obtain rfl := Event.eq_of_isEndOf hend
      have hgone : (s.step (.ended id)).server.find? id = none := by
        rw [step, find?_remove, if_pos rfl]
      obtain ⟨hfind, hnone⟩ := run_of_absent events hgone (.inl hid')
      rw [readsToEnd_cons_of_end hend, hfind, hnone]
      exact ⟨rfl, rfl⟩
    | false =>
      rw [Bool.false_or]
      cases hread : e.readOf id with
      | none =>
        have hne : e ≠ .ended id := by
          rintro rfl
          rw [Event.isEndOf, decide_eq_false_iff_not] at hend
          exact hend rfl
        obtain ⟨hfind, hnone⟩ := step_of_other h hread hne
        rw [readsToEnd_cons_of_other hend hread, hnone, List.nil_append]
        exact ih hfind hid'
      | some read =>
        rw [readsToEnd_cons_of_read hend hread]
        obtain rfl := Event.eq_of_readOf hread
        cases herr : (c.receive read.1 read.2).error with
        | none =>
          obtain ⟨hfind, hsome⟩ := step_of_read h herr
          obtain ⟨hmore, hfind'⟩ := ih hfind hid'
          rw [Connection.receiveAll_of_ok herr, hsome, hmore, hfind']
          exact ⟨rfl, rfl⟩
        | some failure =>
          obtain ⟨hgone, hsome⟩ := step_of_error h herr
          obtain ⟨hfind, hnone⟩ := run_of_absent events hgone (.inl hid')
          rw [Connection.receiveAll_of_error herr, hsome, hnone, hfind, herr, List.append_nil]
          exact ⟨rfl, rfl⟩

theorem run_append (s : Server δ) (first second : List (Event δ)) :
    s.run (first ++ second) =
      let r := s.run first
      let rest := r.server.run second
      ⟨rest.server, r.deliveries ++ rest.deliveries, r.unclaimed ++ rest.unclaimed⟩ := by
  induction first generalizing s with
  | nil => rfl
  | cons e first ih =>
    rw [List.cons_append, run, ih, run]
    simp only [List.append_assoc]

theorem deliveriesOf_run_append (s : Server δ) (first second : List (Event δ))
    (id : ConnectionNumber) :
    (s.run (first ++ second)).deliveriesOf id =
      (s.run first).deliveriesOf id ++ ((s.run first).server.run second).deliveriesOf id := by
  rw [run_append]
  exact List.filterMap_append

/-- Of every connection that a server takes up it hands on what the reads of that connection alone
bring, up to the first that brings what is no record or to its end, whatever happens to the others
and in whatever order. As long as it is in the table its counter tells how many records these were,
and the descriptors they were handed on with are the first that came on it, in order. -/
theorem run_isolates (limits : Limits) (owner maxLive : Nat) (before after : List (Event δ))
    (user : Option Nat)
    (htaken : ((new limits owner maxLive).run before).server.takesUp user = true) :
    let id := ((new limits owner maxLive).run before).server.nextNumber
    let r := (new limits owner maxLive).run (before ++ .arrived user true :: after)
    let alone := (Connection.new limits).receiveAll (readsToEnd id after)
    r.deliveriesOf id = alone.deliveries ∧
      r.server.find? id =
        (if alone.error.isSome || after.any (Event.isEndOf id) then none
          else some alone.connection) ∧
      (∀ c, r.server.find? id = some c → c.records = (r.deliveriesOf id).length) ∧
      (r.deliveriesOf id).filterMap Delivery.journal <+:
        (readsToEnd id after).flatMap Prod.snd := by
  intro id r alone
  let s := ((new limits owner maxLive).run before).server
  obtain ⟨habsent, hsilent⟩ : s.find? id = none ∧
      ((new limits owner maxLive).run before).deliveriesOf id = [] :=
    run_of_absent before rfl (.inr (Nat.le_refl _))
  have harrival : s.step (.arrived user true) = ⟨s.enrol, [], []⟩ := by
    rw [step, if_pos htaken]
    rfl
  have hlimits : s.limits = limits := (run_keeps _ before).1
  have hlive : s.enrol.find? id = some (.new limits) := by
    rw [find?] at habsent
    rw [find?, enrol, List.lookup_append, habsent, hlimits, Option.none_or, List.lookup_cons,
      beq_self_eq_true]
  obtain ⟨hserved, hfind⟩ := run_of_live after hlive (Nat.lt_succ_self _)
  have hdeliveries : r.deliveriesOf id = alone.deliveries := by
    rw [deliveriesOf_run_append, hsilent, deliveriesOf_run_cons, harrival, List.nil_append]
    exact hserved
  have hserver : r.server = (s.enrol.run after).server := by
    simp only [r, run_append]
    rw [run, harrival]
  rw [← hserver] at hfind
  refine ⟨hdeliveries, hfind, ?_, ?_⟩
  · intro c hc
    rw [hfind] at hc
    split at hc
    · cases hc
    · cases hc
      rw [hdeliveries, Connection.receiveAll_records]
      exact Nat.zero_add _
  · rw [hdeliveries]
    exact (List.prefix_append _ _).trans (Connection.receiveAll_journals _ _)

/-- The reads of two connections alternate, and what comes on the first one is no record. -/
theorem run_isolates_fromMalformed :
    let before : List (Event Nat) := [.arrived (some 0) true]
    let journal := Record.behindDescriptor 4096 [9]
    let after : List (Event Nat) :=
      [.received 1 (List.replicate 12 9) [3], .received 2 (journal.encode.take 10) [7],
        .received 1 (List.replicate 12 9) [4], .arrived (some 5) true,
        .received 2 (journal.encode.drop 10) [8]]
    let s := ((new {} 0 2).run before).server
    let r := (new {} 0 2).run (before ++ .arrived none true :: after)
    s.takesUp none = true ∧ s.nextNumber = 2 ∧ r.deliveriesOf 2 = [⟨journal.received, some 7⟩] ∧
      ∀ c, r.server.find? 2 = some c → c.records = 1 := by
  intro before journal after s r
  have htaken : s.takesUp none = true := rfl
  obtain ⟨hdeliveries, -, hcount, -⟩ := run_isolates {} 0 2 before after none htaken
  have halone : ((Connection.new {}).receiveAll (readsToEnd 2 after)).deliveries =
      [⟨journal.received, some 7⟩] := by
    decide +kernel
  have hone : r.deliveriesOf 2 = [⟨journal.received, some 7⟩] := hdeliveries.trans halone
  refine ⟨htaken, rfl, hone, fun c hc => ?_⟩
  have hrecords : c.records = (r.deliveriesOf 2).length := hcount c hc
  rw [hone] at hrecords
  exact hrecords

end Server

end LocalRecords
