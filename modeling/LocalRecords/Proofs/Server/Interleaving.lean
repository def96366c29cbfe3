import LocalRecords.Proofs.Server.Isolation
import LocalRecords.Proofs.Server.Threads

/-!
The threads of a server, in any order of their steps, do what the server does event by event. What
one of them has read and not yet handed on the other has handed on already, and a connection that a
thread is about to take out of the table is not in that of the other any more.
-/

namespace LocalRecords

variable {δ : Type}

namespace Handler

/-- The connection as it is once everything is handed on that was read, if that is no error. -/
def connection? : Handler δ → Option (Connection δ)
  | waiting c => some c
  | draining c => if c.handOn.error.isSome then none else some c.handOn.connection
  | leaving | left | finished => none

/-- What was read and is still to be handed on. -/
def pending : Handler δ → List (Delivery δ)
  | draining c => c.handOn.deliveries
  | waiting _ | leaving | left | finished => []

theorem isPresent_of_connection {p : Handler δ} {c : Connection δ} (h : p.connection? = some c) :
    p.isPresent = true := by
  cases p with
  | waiting c => rfl
  | draining c => rfl
  | leaving => cases h
  | left => cases h
  | finished => cases h

end Handler

namespace Threads

def live (s : Threads δ) : List (ConnectionNumber × Connection δ) :=
  s.handlers.filterMap fun h => h.2.connection?.map (h.1, ·)

/-- The server whose events the steps of the threads are. It gives a number with the thread. -/
def server (s : Threads δ) : Server δ where
  limits := s.limits
  owner := s.owner
  maxLive := s.maxLive
  nextNumber := s.acceptor.unstarted.headD s.nextNumber
  live := s.live
  isStopping := s.acceptor.isStopping

def pendingOf (s : Threads δ) (id : ConnectionNumber) : List (Delivery δ) :=
  ((s.handler? id).map Handler.pending).getD []

/-- Some events lead a server to where the threads are. It has handed on what they have handed on,
and what they read and will hand on. -/
def Shows (s : Threads δ) (first : Server δ) : Prop :=
  ∃ events, (first.run events).server = s.server ∧
    ∀ id, (first.run events).deliveriesOf id = s.callsOf id ++ s.pendingOf id

variable {s t : Threads δ} {first : Server δ} {id : ConnectionNumber} {p q : Handler δ}
  {c : Connection δ}

theorem shows_new (limits : Limits) (owner maxLive : Nat) :
    (new limits owner maxLive : Threads δ).Shows (.new limits owner maxLive) :=
  ⟨[], rfl, fun _ => rfl⟩

/-- A step that the server does not notice. -/
theorem Shows.same (h : s.Shows first) (hserver : t.server = s.server)
    (hcalls : ∀ id, t.callsOf id ++ t.pendingOf id = s.callsOf id ++ s.pendingOf id) :
    t.Shows first := by
  obtain ⟨events, hrun, hdeliveries⟩ := h
  refine ⟨events, hrun.trans hserver.symm, fun id => ?_⟩
  rw [hcalls]
  exact hdeliveries id

/-- A step that is an event of the server. -/
theorem Shows.next (h : s.Shows first) (e : Server.Event δ)
    (hserver : t.server = (s.server.step e).server)
    (hcalls : ∀ id, t.callsOf id ++ t.pendingOf id =
      s.callsOf id ++ s.pendingOf id ++ (s.server.step e).deliveriesOf id) : t.Shows first := by
  obtain ⟨events, hrun, hdeliveries⟩ := h
  refine ⟨events ++ [e], ?_, fun id => ?_⟩
  · have happend := first.run_append events [e]
    dsimp only at happend
    rw [happend, hrun]
    exact hserver.symm
  · rw [Server.deliveriesOf_run_append, hdeliveries, hrun, hcalls, Server.deliveriesOf_run_cons]
    exact congrArg _ (List.append_nil _)

-- The table of the server

theorem handler_setHandler (hfind : s.handler? id = some p) (q : Handler δ)
    (other : ConnectionNumber) :
    (s.setHandler id q).handler? other = if other = id then some q else s.handler? other := by
  have hlookup := lookup_update s.handlers id other q
  rw [handler?] at hfind
  rw [hfind] at hlookup
  exact hlookup

theorem pendingOf_of_handler (hfind : s.handler? id = some p) : s.pendingOf id = p.pending := by
  rw [pendingOf, hfind]
  rfl

theorem pendingOf_setHandler (hfind : s.handler? id = some p) (q : Handler δ)
    (other : ConnectionNumber) :
    (s.setHandler id q).pendingOf other = if other = id then q.pending else s.pendingOf other := by
  rw [pendingOf, handler_setHandler hfind]
  split
  · rfl
  · rfl

/-- A thread that is about to leave takes its connection out of the server's table. -/
theorem live_setHandler_of_none (hq : q.connection? = none) :
    (s.setHandler id q).live = s.live.filter fun entry => entry.1 ≠ id := by
  apply filterMap_setHandler_of_none Prod.fst
  · intro a b hb
    obtain ⟨c, _, rfl⟩ := Option.map_eq_some_iff.mp hb
    rfl
  · rw [hq]
    rfl

/-- What a thread does with its connection changes its own entry and no other. -/
theorem live_setHandler_of_some (h : s.Sound) (hfind : s.handler? id = some p)
    (hp : p.connection? = some c) {d : Connection δ} (hq : q.connection? = some d) :
    (s.setHandler id q).live =
      s.live.map fun entry => if entry.1 = id then (id, d) else entry := by
  rw [live, setHandler, live, List.map_filterMap, List.filterMap_map]
  apply List.filterMap_congr
  intro a ha
  rw [Function.comp_apply]
  by_cases heq : a.1 = id
  · have hhandler := h.handler_of_mem ha
    rw [heq, hfind] at hhandler
    rw [if_pos heq, hq, ← Option.some.inj hhandler, hp]
    simp [heq]
  · rw [if_neg heq]
    cases a.2.connection? with
    | none => rfl
    | some e => simp [heq]

theorem live_setHandler (h : s.Sound) (hfind : s.handler? id = some p)
    (hsame : q.connection? = p.connection?) : (s.setHandler id q).live = s.live :=
  h.filterMap_setHandler hfind (by rw [hsame])

/-- The server has the connection of every thread that serves one, and as it will be. -/
theorem find?_server (hfind : s.handler? id = some p)
    (hp : p.connection? = some c) : s.server.find? id = some c := by
  have hlookup := hfind
  rw [handler?, List.lookup_eq_some_iff] at hlookup
  obtain ⟨before, after, heq, hbefore⟩ := hlookup
  change s.live.lookup id = some c
  rw [live, heq, List.filterMap_append, List.filterMap_cons_some (by rw [hp]; rfl),
    List.lookup_eq_some_iff]
  refine ⟨_, _, rfl, fun entry hentry => ?_⟩
  obtain ⟨a, ha, hentry⟩ := List.mem_filterMap.mp hentry
  obtain ⟨d, _, rfl⟩ := Option.map_eq_some_iff.mp hentry
  exact hbefore a ha

theorem length_live_le (s : Threads δ) : s.live.length ≤ s.present.length := by
  rw [live, present, List.length_filterMap_eq_countP, List.length_filterMap_eq_countP]
  apply List.countP_mono_left
  intro a _ hsome
  rw [Option.isSome_map, Option.isSome_iff_exists] at hsome
  obtain ⟨c, hc⟩ := hsome
  rw [Handler.isPresent_of_connection hc]
  rfl

/-- The connection whose thread is about to be started has a place at the server. -/
theorem takesUp_server (h : s.Sound) {user : Option Nat}
    (hstands : s.acceptor = .starting id user) : s.server.takesUp user = true := by
  have hallows : s.allows user = true := by
    apply h.user
    rw [hstands]
    rfl
  have hlength : s.table.length = s.present.length + 1 := by
    rw [← List.length_map Prod.fst, h.entries, hstands, List.length_append]
    rfl
  have hlt : s.live.length < s.maxLive := by
    have hlive := s.length_live_le
    have hroom := h.room
    omega
  have hgoing : s.server.isStopping = false := by
    rw [server, hstands]
    rfl
  rw [Server.takesUp, hgoing, Bool.not_false, Bool.true_and, Bool.and_eq_true]
  exact ⟨decide_eq_true hlt, hallows⟩

-- Steps of the accepting thread

/-- The accepting thread moves on, and the server does not notice. -/
theorem Shows.moveOn (h : s.Shows first) (next : Acceptor) {here : Acceptor}
    (hstands : s.acceptor = here) (hunstarted : next.unstarted = here.unstarted)
    (hstopping : next.isStopping = here.isStopping) :
    ({ s with acceptor := next } : Threads δ).Shows first := by
  apply h.same
  · rw [server, server, hstands, ← hunstarted, ← hstopping]
    rfl
  · exact fun id => rfl

/-- It sees that the server was told to stop. -/
theorem Shows.stop (h : s.Shows first) {here : Acceptor} (hstands : s.acceptor = here)
    (hunstarted : here.unstarted = []) :
    ({ s with acceptor := .collecting } : Threads δ).Shows first := by
  apply h.next .stopped
  · rw [Server.step, server, server, hstands, hunstarted]
    rfl
  · exact fun id => (List.append_nil _).symm

theorem server_of_starting {user : Option Nat} (hstands : s.acceptor = .starting id user) :
    s.server = ⟨s.limits, s.owner, s.maxLive, id, s.live, false⟩ := by
  rw [server, hstands]
  rfl

theorem Shows.start (h : s.Shows first) (hs : s.Sound) {user : Option Nat}
    (hstands : s.acceptor = .starting id user) : (s.start id).Shows first := by
  have hlast : id + 1 = s.nextNumber := by
    apply hs.last
    rw [hstands]
    exact List.mem_cons_self
  have hstarted : (s.start id).server =
      ⟨s.limits, s.owner, s.maxLive, id + 1, s.live ++ [(id, .new s.limits)], false⟩ := by
    rw [server, live, Threads.start, List.filterMap_append, hlast]
    rfl
  have harrival : s.server.step (.arrived user true) = ⟨s.server.enrol, [], []⟩ := by
    rw [Server.step, if_pos (takesUp_server hs hstands)]
    rfl
  apply h.next (.arrived user true)
  · rw [harrival, hstarted, server_of_starting hstands]
    rfl
  · intro other
    rw [harrival]
    refine Eq.trans ?_ (List.append_nil _).symm
    have hpending : (s.start id).pendingOf other = s.pendingOf other := by
      rw [pendingOf, pendingOf, handler?, handler?, Threads.start, List.lookup_append]
      cases s.handlers.lookup other with
      | some p => rfl
      | none =>
        rw [Option.none_or, List.lookup_cons]
        split
        · rfl
        · rfl
    rw [hpending]
    rfl

theorem Shows.refuse (h : s.Shows first) (hs : s.Sound) {user : Option Nat}
    (hstands : s.acceptor = .starting id user) :
    ({ s with acceptor := .refused id, refused := s.refused ++ [id] } : Threads δ).Shows first := by
  have hlast : id + 1 = s.nextNumber := by
    apply hs.last
    rw [hstands]
    exact List.mem_cons_self
  apply h.next (.arrived user false)
  · rw [Server.step, if_pos (takesUp_server hs hstands), server_of_starting hstands]
    dsimp only
    rw [hlast]
    rfl
  · intro other
    rw [Server.step, if_pos (takesUp_server hs hstands)]
    exact (List.append_nil _).symm

/-- A thread goes on, and the server does not notice. -/
theorem Shows.setHandler (h : s.Shows first) (hs : s.Sound) (hfind : s.handler? id = some p)
    (hsame : q.connection? = p.connection?) (hpending : q.pending = p.pending) :
    (s.setHandler id q).Shows first := by
  apply h.same
  · have hlive := live_setHandler hs hfind hsame
    rw [server, hlive]
    rfl
  · intro other
    rw [pendingOf_setHandler hfind]
    split
    next heq =>
      rw [heq, pendingOf_of_handler hfind, hpending]
      rfl
    next => rfl

/-- A step of the accepting thread shows as an event of the server or as none. -/
theorem Shows.accept (h : s.Shows first) (hs : s.Sound) (found : Findings) :
    (s.accept found).Shows first := by
  cases hstands : s.acceptor with
  | top =>
    simp only [Threads.accept, hstands]
    split
    · exact h.stop hstands rfl
    · exact h.moveOn .listening hstands rfl rfl
  | listening =>
    simp only [Threads.accept, hstands]
    cases found.arrival with
    | none => exact h.moveOn .top hstands rfl rfl
    | some user => exact h.moveOn (.came user) hstands rfl rfl
  | came user =>
    simp only [Threads.accept, hstands]
    split
    · exact h.stop hstands rfl
    · exact h.moveOn (.reaping user) hstands rfl rfl
  | reaping user =>
    simp only [Threads.accept, hstands]
    exact h.moveOn (.counting user) hstands rfl rfl
  | counting user =>
    simp only [Threads.accept, hstands]
    split
    · exact h.moveOn (.checking user) hstands rfl rfl
    · exact h.moveOn .top hstands rfl rfl
  | checking user =>
    simp only [Threads.accept, hstands]
    split
    · exact h.moveOn (.entering user) hstands rfl rfl
    · exact h.moveOn .top hstands rfl rfl
  | entering user =>
    simp only [Threads.accept, hstands]
    apply h.same
    · rw [server, server, hstands]
      rfl
    · exact fun id => rfl
  | starting id user =>
    simp only [Threads.accept, hstands]
    split
    · exact h.start hs hstands
    · exact h.refuse hs hstands
  | refused id =>
    simp only [Threads.accept, hstands]
    exact h.moveOn .collecting hstands rfl rfl
  | collecting =>
    simp only [Threads.accept, hstands]
    exact h.moveOn (.closing _) hstands rfl rfl
  | closing unshut =>
    cases unshut with
    | nil =>
      simp only [Threads.accept, hstands]
      exact h.moveOn .joining hstands rfl rfl
    | cons id unshut =>
      simp only [Threads.accept, hstands]
      exact h.moveOn (.closing unshut) hstands rfl rfl
  | joining =>
    simp only [Threads.accept, hstands]
    split
    · exact h.moveOn .done hstands rfl rfl
    · split
      · rw [← hstands]
        exact h.same rfl fun id => rfl
      · exact h
  | done =>
    simp only [Threads.accept, hstands]
    exact h

-- Steps of the thread of a connection

/-- A read of a thread is one of the server, which hands on at once what the thread hands on later.
-/
theorem Shows.read (h : s.Shows first) (hs : s.Sound) (hfind : s.handler? id = some (.waiting c))
    (bytes : Bytes) (descriptors : List δ) :
    (s.setHandler id (.draining
      { c with decoder := c.decoder.push bytes, queue := c.queue ++ descriptors })).Shows first := by
  -- The server hands on what the read brings at once, and here it is pending.
  let r := c.receive bytes descriptors
  let q : Handler δ := .draining
    { c with decoder := c.decoder.push bytes, queue := c.queue ++ descriptors }
  have hq : q.connection? = if r.error.isSome then none else some r.connection := rfl
  have hlive : s.server.find? id = some c := find?_server hfind rfl
  have hpending (other : ConnectionNumber) : (s.setHandler id q).pendingOf other =
      s.pendingOf other ++ if other = id then r.deliveries else [] := by
    rw [pendingOf_setHandler hfind]
    split
    next heq =>
      rw [heq, pendingOf_of_handler hfind]
      rfl
    next => exact (List.append_nil _).symm
  have hstep : s.server.step (.received id bytes descriptors) =
      s.server.receive id c bytes descriptors := by
    rw [Server.step, hlive]
  apply h.next (.received id bytes descriptors)
  · rw [hstep, Server.receive]
    change (s.setHandler id q).server = _
    split
    next herr =>
      have hnone : q.connection? = none := by rw [hq, if_pos herr]
      rw [server, live_setHandler_of_none hnone]
      rfl
    next hok =>
      have hsome : q.connection? = some r.connection := by rw [hq, if_neg hok]
      rw [server, live_setHandler_of_some hs hfind rfl hsome]
      rfl
  · intro other
    have hdeliveries : (s.server.receive id c bytes descriptors).deliveriesOf other =
        if other = id then r.deliveries else [] := by
      rw [Server.receive]
      split
      · exact Server.deliveriesOf_map _ _ _ _ _
      · exact Server.deliveriesOf_map _ _ _ _ _
    rw [hstep, hdeliveries, List.append_assoc]
    exact congrArg _ (hpending other)

theorem Shows.close (h : s.Shows first) (hfind : s.handler? id = some (.waiting c)) :
    (s.setHandler id .leaving).Shows first := by
  apply h.next (.ended id)
  · rw [Server.step, server, live_setHandler_of_none rfl]
    rfl
  · intro other
    refine Eq.trans ?_ (List.append_nil _).symm
    rw [pendingOf_setHandler hfind]
    split
    next heq =>
      rw [heq, pendingOf_of_handler hfind]
      rfl
    next => rfl

/-- Handing on what was read is no event of the server any more. -/
theorem Shows.drain (h : s.Shows first) (hs : s.Sound)
    (hfind : s.handler? id = some (.draining c)) : (s.drain id c).Shows first := by
  rw [Threads.drain]
  split
  next e herr =>
    have hhandOn := Connection.handOn_of_error herr
    apply h.setHandler hs hfind
    · rw [Handler.connection?, Handler.connection?, hhandOn]
      rfl
    · rw [Handler.pending, Handler.pending, hhandOn]
  next hnone =>
    have hhandOn := Connection.handOn_of_none hnone
    apply h.setHandler hs hfind
    · rw [Handler.connection?, Handler.connection?, hhandOn]
      rfl
    · rw [Handler.pending, Handler.pending, hhandOn]
  next record decoder hrecord =>
    let d : Delivery δ := ⟨record, (Connection.claim record.header.type c.queue).1⟩
    let q : Handler δ :=
      .draining ⟨decoder, (Connection.claim record.header.type c.queue).2, c.records + 1⟩
    have hhandOn := Connection.handOn_of_record hrecord
    have hsame : q.connection? = (Handler.draining c).connection? := by
      rw [Handler.connection?, Handler.connection?, hhandOn]
    have hpending : (Handler.draining c).pending = d :: q.pending := by
      rw [Handler.pending, Handler.pending, hhandOn]
    change ((s.call id d).setHandler id q).Shows first
    apply h.same
    · have hlive : (s.setHandler id q).live = s.live := live_setHandler hs hfind hsame
      change (s.setHandler id q).server = s.server
      rw [server, hlive]
      rfl
    · intro other
      have hcalls : ((s.call id d).setHandler id q).callsOf other =
          s.callsOf other ++ if other = id then [d] else [] := s.callsOf_call id other d
      have hrest : ((s.call id d).setHandler id q).pendingOf other =
          if other = id then q.pending else s.pendingOf other := pendingOf_setHandler hfind q other
      rw [hcalls, hrest]
      split
      next heq =>
        rw [heq, pendingOf_of_handler hfind, hpending, List.append_assoc]
        rfl
      next => rw [List.append_nil]

/-- Every step of the threads is an event of the server, or the server does not notice it. -/
theorem Shows.step (h : s.Shows first) (hs : s.Sound) (e : Event δ) : (s.step e).Shows first := by
  cases e with
  | told => exact h.same rfl fun id => rfl
  | accepts found => exact h.accept hs found
  | reads id bytes descriptors =>
    rw [Threads.step]
    split
    next c hfind => exact h.read hs hfind bytes descriptors
    next => exact h
  | ends id =>
    rw [Threads.step]
    split
    next c hfind => exact h.close hfind
    next => exact h
  | goes id =>
    rw [Threads.step]
    split
    next c hfind => exact h.drain hs hfind
    next hfind => exact h.setHandler hs hfind rfl rfl
    next hfind => exact h.setHandler hs hfind rfl rfl
    next => exact h

/-- Whatever the threads do, some events lead the server to where they are. -/
theorem Shows.run (h : s.Shows first) (hs : s.Sound) (events : List (Event δ)) :
    (s.run events).Shows first := by
  -- On the steps, with the invariant of the threads carried along.
  induction events generalizing s with
  | nil => exact h
  | cons e events ih => exact ih (h.step hs e) (hs.step e)

/-- In whatever order the threads of a server take their steps, the table never holds more than
it may. Connections are numbered as they are admitted, no number is given twice, and each is of a
user that may connect. The table holds those whose thread has not taken them out, and one that was
entered and has no thread yet, or could not be given one. Nothing is handed on but of connections
whose thread was started, and each entry counts how much it was. While the accepting thread waits
for the others, all that still read were shut down. When it is done the table is empty and every
thread is finished. What the threads do, the server does that takes each read at once. -/
theorem run_keeps_table (limits : Limits) (owner maxLive : Nat) (events : List (Event δ)) :
    let s := (new limits owner maxLive).run events
    s.table.length ≤ maxLive ∧ (s.table.map Prod.fst).Nodup ∧
      s.admitted.map Prod.fst = List.range' 1 s.admitted.length ∧
      (∀ a ∈ s.admitted, a.2.all (Server.new limits owner maxLive : Server δ).admits = true) ∧
      s.table.map Prod.fst = s.present ++ s.acceptor.entered ∧
      s.admitted.map Prod.fst = s.started ++ s.refused ++ s.acceptor.unstarted ∧
      (∀ id ∈ s.refused, s.callsOf id = [] ∧
        (id ∈ s.table.map Prod.fst → s.acceptor = .refused id)) ∧
      (∀ d ∈ s.calls, d.1 ∈ s.started) ∧
      (∀ entry ∈ s.table, entry.2 = (s.callsOf entry.1).length) ∧
      (s.acceptor = .joining → ∀ h ∈ s.handlers, h.2.isServing = true → h.1 ∈ s.shut) ∧
      (s.acceptor = .done → s.table = [] ∧ ∀ h ∈ s.handlers, h.2.isFinished = true) ∧
      s.Shows (.new limits owner maxLive) := by
  intro s
  have h : s.Sound := (sound_new limits owner maxLive).run events
  have hshows : s.Shows (.new limits owner maxLive) :=
    (shows_new limits owner maxLive).run (sound_new limits owner maxLive) events
  obtain ⟨shown, hrun, -⟩ := id hshows
  obtain ⟨-, howner, hmax⟩ := (Server.new limits owner maxLive).run_keeps shown
  rw [hrun] at howner hmax
  refine ⟨?_, h.nodup_entries, h.numbers, ?_, h.entries, h.settled, ?_, h.called, h.counted, ?_, ?_,
    hshows⟩
  · exact h.length_le.trans_eq hmax
  · intro a ha
    have hallows := h.allowed a ha
    have hsame : s.owner = owner := howner
    rw [allows, hsame] at hallows
    exact hallows
  · intro id hid
    have hnone : id ∉ s.started := h.not_started_of_refused hid
    constructor
    · rw [callsOf, List.filterMap_eq_nil_iff]
      intro d hd
      apply if_neg
      rintro rfl
      exact hnone (h.called d hd)
    · intro hmem
      rw [h.entries, List.mem_append] at hmem
      have hentered : id ∈ s.acceptor.entered :=
        hmem.resolve_left fun hpresent => hnone (s.present_sublist_started.mem hpresent)
      cases hstands : s.acceptor with
      | starting other user =>
        rw [h.refused_eq_nil (by rw [hstands]; rfl)] at hid
        cases hid
      | refused other =>
        rw [hstands] at hentered
        rw [List.mem_singleton.mp hentered]
      | _ =>
        rw [hstands] at hentered
        cases hentered
  · intro hstands a ha hserves
    have hshut := h.shut
    rw [hstands] at hshut
    exact (hshut [] rfl a ha hserves).resolve_left List.not_mem_nil
  · intro hstands
    have hfinished : ∀ a ∈ s.handlers, a.2.isFinished = true := by
      intro a ha
      apply (h.joinable a ha).resolve_right
      rw [h.joined hstands]
      exact List.not_mem_nil
    refine ⟨?_, hfinished⟩
    have hpresent : s.present = [] := by
      rw [present, List.filterMap_eq_nil_iff]
      intro a ha
      apply if_neg
      intro hpresent
      have hrunning := hfinished a ha
      rw [Handler.not_isFinished_of_isPresent hpresent] at hrunning
      cases hrunning
    rw [← List.map_eq_nil_iff, h.entries, hpresent, hstands]
    rfl

/-- The second connection finds no place. The server is told to stop while the first is served. -/
theorem run_keeps_table_tillStopped :
    let journal := Record.behindDescriptor 4096 [9]
    let go : Event Nat := .accepts {}
    let events : List (Event Nat) :=
      [go, .accepts { arrival := some (some 7) }, go, go, go, go, go, go,
        go, .accepts { arrival := some none }, go, go, go, .reads 1 journal.encode [5], .goes 1,
        .told, .goes 1, go, go, go, go, go, .ends 1, .goes 1, .goes 1, go, go]
    let s := (new {} 7 1).run events
    s.acceptor = .done ∧ s.admitted = [(1, some 7)] ∧ s.calls = [(1, ⟨journal.received, some 5⟩)] ∧
      s.table = [] ∧ ∀ h ∈ s.handlers, h.2.isFinished = true := by
  intro journal go events s
  have hdone : s.acceptor = .done := by decide +kernel
  have hadmitted : s.admitted = [(1, some 7)] := by decide +kernel
  have hcalls : s.calls = [(1, ⟨journal.received, some 5⟩)] := by decide +kernel
  obtain ⟨-, -, -, -, -, -, -, -, -, -, hstopped, -⟩ := run_keeps_table {} 7 1 events
  exact ⟨hdone, hadmitted, hcalls, hstopped hdone⟩

end Threads

end LocalRecords
