import LocalRecords.Proofs.Lookup
import LocalRecords.Proofs.Server.Connection
import LocalRecords.Server.Basic

namespace LocalRecords

variable {δ : Type}

namespace Server

def Event.readOf (id : ConnectionNumber) : Event δ → Option (Bytes × List δ)
  | received other bytes descriptors => if other = id then some (bytes, descriptors) else none
  | _ => none

theorem Event.eq_of_readOf {id : ConnectionNumber} {e : Event δ} {read : Bytes × List δ}
    (h : e.readOf id = some read) : e = received id read.1 read.2 := by
  cases e with
  | received other bytes descriptors =>
    rw [readOf] at h
    split at h
    next hother =>
      cases h
      rw [hother]
    · cases h
  | _ => cases h

def reads (id : ConnectionNumber) (events : List (Event δ)) : List (Bytes × List δ) :=
  events.filterMap (Event.readOf id)

def Outcome.deliveriesOf (o : Outcome δ) (id : ConnectionNumber) : List (Delivery δ) :=
  o.deliveries.filterMap fun d => if d.1 = id then some d.2 else none

variable {s : Server δ} {id : ConnectionNumber} {c : Connection δ}

/-- Changing the entry of a connection changes no other one. -/
theorem find?_set (s : Server δ) (id other : ConnectionNumber) (d : Connection δ) :
    (s.set id d).find? other =
      if other = id then (s.find? id).map fun _ => d else s.find? other :=
  lookup_update s.live id other d

theorem find?_remove (s : Server δ) (id other : ConnectionNumber) :
    (s.remove id).find? other = if other = id then none else s.find? other :=
  lookup_remove s.live id other

theorem find?_enrol (h : s.find? id = some c) : s.enrol.find? id = some c := by
  rw [find?] at h
  rw [find?, enrol, List.lookup_append, h]
  rfl

theorem deliveriesOf_map (s : Server δ) (id other : ConnectionNumber)
    (deliveries : List (Delivery δ)) (unclaimed : List δ) :
    Outcome.deliveriesOf ⟨s, deliveries.map (id, ·), unclaimed⟩ other =
      if other = id then deliveries else [] := by
  by_cases h : other = id
  · simp [Outcome.deliveriesOf, List.filterMap_map, h]
  · simp [Outcome.deliveriesOf, List.filterMap_map, h, Ne.symm h]

/-- What happens to another connection, and what happens to none, leaves a connection as it is. -/
theorem step_of_other (h : s.find? id = some c) {e : Event δ} (hread : e.readOf id = none)
    (hend : e ≠ .ended id) :
    (s.step e).server.find? id = some c ∧ (s.step e).deliveriesOf id = [] := by
  cases e with
  | acceptFailed => exact ⟨h, rfl⟩
  | stopped => exact ⟨h, rfl⟩
  | arrived user hasHandler =>
    rw [step]
    split
    · split
      · exact ⟨find?_enrol h, rfl⟩
      · exact ⟨h, rfl⟩
    · exact ⟨h, rfl⟩
  | ended closed =>
    have hne : id ≠ closed := by
      rintro rfl
      exact hend rfl
    refine ⟨?_, rfl⟩
    rw [step, find?_remove, if_neg hne]
    exact h
  | received read bytes descriptors =>
    have hne : id ≠ read := by
      rintro rfl
      rw [Event.readOf, if_pos rfl] at hread
      cases hread
    rw [step]
    split
    · exact ⟨h, rfl⟩
    · rw [receive]
      split
      · rw [find?_remove, deliveriesOf_map, if_neg hne, if_neg hne]
        exact ⟨h, rfl⟩
      · rw [find?_set, deliveriesOf_map, if_neg hne, if_neg hne]
        exact ⟨h, rfl⟩

/-- A read of a connection in the table does with it what it does by itself, and hands that on. -/
theorem step_of_read (h : s.find? id = some c) {bytes : Bytes} {descriptors : List δ}
    (hok : (c.receive bytes descriptors).error = none) :
    let r := s.step (.received id bytes descriptors)
    r.server.find? id = some (c.receive bytes descriptors).connection ∧
      r.deliveriesOf id = (c.receive bytes descriptors).deliveries := by
  intro r
  have hr : r = ⟨s.set id (c.receive bytes descriptors).connection,
      (c.receive bytes descriptors).deliveries.map (id, ·), []⟩ := by
    simp only [r, step, h, receive, hok]
    rfl
  rw [hr, find?_set, deliveriesOf_map, if_pos rfl, if_pos rfl, h]
  exact ⟨rfl, rfl⟩

theorem deliveriesOf_run_cons (s : Server δ) (e : Event δ) (events : List (Event δ))
    (id : ConnectionNumber) :
    (s.run (e :: events)).deliveriesOf id =
      (s.step e).deliveriesOf id ++ ((s.step e).server.run events).deliveriesOf id :=
  List.filterMap_append

/-- A run does with a connection what the reads of it do, if these bring nothing but records. -/
theorem run_serves {events : List (Event δ)} (h : s.find? id = some c)
    (hend : .ended id ∉ events) (hok : (c.receiveAll (reads id events)).error = none) :
    (s.run events).server.find? id = some (c.receiveAll (reads id events)).connection ∧
      (s.run events).deliveriesOf id = (c.receiveAll (reads id events)).deliveries := by
  -- On the events: one that is a read of the connection is the next of its reads, and every other
  -- leaves it alone.
  induction events generalizing s c with
  | nil => exact ⟨h, rfl⟩
  | cons e events ih =>
    have hend' : .ended id ∉ events := fun hm => hend (List.mem_cons_of_mem e hm)
    have hne : e ≠ .ended id := fun he => hend (he ▸ List.mem_cons_self)
    rw [deliveriesOf_run_cons]
    cases hread : e.readOf id with
    | none =>
      have hreads : reads id (e :: events) = reads id events := List.filterMap_cons_none hread
      obtain ⟨hfind, hnone⟩ := step_of_other h hread hne
      rw [hreads] at hok ⊢
      rw [hnone, List.nil_append]
      exact ih hfind hend' hok
    | some read =>
      have hreads : reads id (e :: events) = read :: reads id events :=
        List.filterMap_cons_some hread
      rw [hreads] at hok ⊢
      have hread' := Connection.receive_ok_of_receiveAll hok
      rw [Connection.receiveAll_of_ok hread'] at hok ⊢
      obtain ⟨hfind, hsome⟩ := step_of_read h hread'
      rw [← Event.eq_of_readOf hread] at hfind hsome
      obtain ⟨hfind', hmore⟩ := ih hfind hend' hok
      rw [hsome, hmore]
      exact ⟨hfind', rfl⟩

end Server

end LocalRecords
