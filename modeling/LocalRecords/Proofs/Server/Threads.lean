import Mathlib.Data.List.Nodup
import LocalRecords.Server.Threads

/-!
What the threads of a server keep among them. The table holds the connections whose threads have not
left it, and the one that the accepting thread is about to start, and never more than it may.
-/

namespace LocalRecords

variable {δ : Type}

namespace Handler

def isPresent : Handler δ → Bool
  | waiting _ | draining _ | leaving => true
  | left | finished => false

def isServing : Handler δ → Bool
  | waiting _ | draining _ => true
  | leaving | left | finished => false

theorem isPresent_of_isServing {p : Handler δ} (h : p.isServing = true) : p.isPresent = true := by
  cases p with
  | waiting c => rfl
  | draining c => rfl
  | leaving => cases h
  | left => cases h
  | finished => cases h

theorem not_isFinished_of_isPresent {p : Handler δ} (h : p.isPresent = true) :
    p.isFinished = false := by
  cases p with
  | finished => cases h
  | _ => rfl

end Handler

namespace Acceptor

def entered : Acceptor → List ConnectionNumber
  | starting id _ | refused id => [id]
  | _ => []

def unstarted : Acceptor → List ConnectionNumber
  | starting id _ => [id]
  | _ => []

/-- How many connections are about to be entered, once a place for them was found. -/
def room : Acceptor → Nat
  | checking _ | entering _ => 1
  | _ => 0

def user? : Acceptor → Option (Option Nat)
  | entering user | starting _ user => some user
  | _ => none

def isStopping : Acceptor → Bool
  | refused _ | collecting | closing _ | joining | done => true
  | _ => false

def unshut? : Acceptor → Option (List ConnectionNumber)
  | closing unshut => some unshut
  | joining | done => some []
  | _ => none

end Acceptor

namespace Threads

def new (limits : Limits) (owner maxLive : Nat) : Threads δ where
  limits := limits
  owner := owner
  maxLive := maxLive

def started (s : Threads δ) : List ConnectionNumber := s.handlers.map Prod.fst

def present (s : Threads δ) : List ConnectionNumber :=
  s.handlers.filterMap fun h => if h.2.isPresent then some h.1 else none

def callsOf (s : Threads δ) (id : ConnectionNumber) : List (Delivery δ) :=
  s.calls.filterMap fun d => if d.1 = id then some d.2 else none

/-- What holds between any two steps, wherever the threads stand. -/
structure Sound (s : Threads δ) : Prop where
  entries : s.table.map Prod.fst = s.present ++ s.acceptor.entered
  numbers : s.admitted.map Prod.fst = List.range' 1 s.admitted.length
  next : s.nextNumber = s.admitted.length + 1
  last : ∀ id ∈ s.acceptor.unstarted, id + 1 = s.nextNumber
  settled : s.admitted.map Prod.fst = s.started ++ s.refused ++ s.acceptor.unstarted
  unstarted : ∀ id ∈ s.acceptor.entered, id ∉ s.started
  stopping : s.refused ≠ [] → s.acceptor.isStopping = true
  allowed : ∀ a ∈ s.admitted, s.allows a.2 = true
  user : ∀ u ∈ s.acceptor.user?, s.allows u = true
  room : s.table.length + s.acceptor.room ≤ s.maxLive
  called : ∀ d ∈ s.calls, d.1 ∈ s.started
  counted : ∀ entry ∈ s.table, entry.2 = (s.callsOf entry.1).length
  joinable : ∀ h ∈ s.handlers, h.2.isFinished = true ∨ h.1 ∈ s.unjoined
  joined : s.acceptor = .done → s.unjoined = []
  shut : ∀ unshut ∈ s.acceptor.unshut?, ∀ h ∈ s.handlers, h.2.isServing = true →
    h.1 ∈ unshut ∨ h.1 ∈ s.shut

variable {s : Threads δ} {id : ConnectionNumber} {p q : Handler δ}

theorem sound_new (limits : Limits) (owner maxLive : Nat) :
    (new limits owner maxLive : Threads δ).Sound where
  entries := rfl
  numbers := rfl
  next := rfl
  last := by simp [new, Acceptor.unstarted]
  settled := rfl
  unstarted := by simp [new, Acceptor.entered]
  stopping := by simp [new]
  allowed := by simp [new]
  user := by simp [new, Acceptor.user?]
  room := Nat.zero_le _
  called := by simp [new]
  counted := by simp [new]
  joinable := by simp [new]
  joined := by simp [new]
  shut := by simp [new]

-- Tables and threads

theorem map_filter_fst (table : List (ConnectionNumber × Nat)) (id : ConnectionNumber) :
    (table.map Prod.fst).filter (· ≠ id) = (table.filter fun entry => entry.1 ≠ id).map Prod.fst :=
  List.filter_map

theorem filter_append_singleton {ids : List ConnectionNumber} (h : id ∉ ids) :
    (ids ++ [id]).filter (· ≠ id) = ids := by
  rw [List.filter_append, List.filter_eq_self.mpr]
  · simp
  · intro other hother
    exact decide_eq_true fun heq => h (heq ▸ hother)

theorem callsOf_call (s : Threads δ) (id other : ConnectionNumber) (d : Delivery δ) :
    (s.call id d).callsOf other = s.callsOf other ++ if other = id then [d] else [] := by
  rw [callsOf, call, List.filterMap_append]
  by_cases h : other = id
  · simp [callsOf, h]
  · simp [callsOf, h, Ne.symm h]

theorem mem_handlers (hfind : s.handler? id = some p) : (id, p) ∈ s.handlers := by
  rw [handler?, List.lookup_eq_some_iff] at hfind
  obtain ⟨before, after, heq, -⟩ := hfind
  rw [heq]
  exact List.mem_append_right _ List.mem_cons_self

theorem mem_started (hfind : s.handler? id = some p) : id ∈ s.started :=
  List.mem_map_of_mem (mem_handlers hfind)

theorem mem_setHandler {a : ConnectionNumber × Handler δ}
    (ha : a ∈ (s.setHandler id q).handlers) : a ∈ s.handlers ∨ a = (id, q) := by
  obtain ⟨b, hb, rfl⟩ := List.mem_map.mp ha
  split
  · exact .inr rfl
  · exact .inl hb

theorem started_setHandler (s : Threads δ) (id : ConnectionNumber) (q : Handler δ) :
    (s.setHandler id q).started = s.started := by
  rw [started, setHandler, List.map_map]
  apply List.map_congr_left
  intro a _
  rw [Function.comp_apply]
  split
  next heq => exact heq.symm
  next => rfl

/-- What is seen of the threads does not show one any more of which nothing is seen. -/
theorem filterMap_setHandler_of_none {β : Type} {g : ConnectionNumber × Handler δ → Option β}
    (key : β → ConnectionNumber) (hkey : ∀ a b, g a = some b → key b = a.1)
    (hq : g (id, q) = none) :
    (s.setHandler id q).handlers.filterMap g =
      (s.handlers.filterMap g).filter fun b => key b ≠ id := by
  rw [setHandler, List.filterMap_map, List.filter_filterMap]
  apply List.filterMap_congr
  intro a _
  rw [Function.comp_apply]
  cases ha : g a with
  | none =>
    split
    · exact hq
    · exact ha
  | some b =>
    have hb := hkey a b ha
    split
    next heq =>
      rw [Option.filter_some, if_neg (by simp [hb, heq])]
      exact hq
    next hne =>
      rw [Option.filter_some, if_pos (by simp [hb, hne])]
      exact ha

theorem present_setHandler_of_absent (hq : q.isPresent = false) :
    (s.setHandler id q).present = s.present.filter (· ≠ id) := by
  apply filterMap_setHandler_of_none fun other => other
  · intro a b hb
    split at hb
    · exact (Option.some.inj hb).symm
    · cases hb
  · rw [hq]
    rfl

theorem present_sublist_started (s : Threads δ) : s.present.Sublist s.started := by
  rw [present, started]
  generalize s.handlers = handlers
  induction handlers with
  | nil => exact List.Sublist.slnil
  | cons a handlers ih =>
    rw [List.map_cons, List.filterMap_cons]
    cases a.2.isPresent with
    | true => exact ih.cons_cons a.1
    | false => exact ih.cons a.1

namespace Sound

theorem nodup_admitted (h : s.Sound) : (s.admitted.map Prod.fst).Nodup := by
  rw [h.numbers]
  exact List.nodup_range'

theorem nodup_started (h : s.Sound) : s.started.Nodup := by
  have hnodup := h.nodup_admitted
  rw [h.settled, List.append_assoc] at hnodup
  exact hnodup.of_append_left

/-- No connection is in the table twice. -/
theorem nodup_entries (h : s.Sound) : (s.table.map Prod.fst).Nodup := by
  have hpresent : s.present.Nodup := s.present_sublist_started.nodup h.nodup_started
  have hentered : s.acceptor.entered.Nodup := by
    cases s.acceptor with
    | starting id user => exact List.nodup_singleton id
    | refused id => exact List.nodup_singleton id
    | _ => exact List.nodup_nil
  rw [h.entries, List.nodup_append]
  refine ⟨hpresent, hentered, fun id hid other hother heq => h.unstarted other hother ?_⟩
  rw [← heq]
  exact s.present_sublist_started.mem hid

theorem not_started_of_refused (h : s.Sound) (hid : id ∈ s.refused) : id ∉ s.started := by
  have hnodup := h.nodup_admitted
  rw [h.settled, List.append_assoc, List.nodup_append] at hnodup
  intro hstarted
  exact hnodup.2.2 id hstarted id (List.mem_append_left _ hid) rfl

/-- Every thread has a number that was given. -/
theorem lt_nextNumber (h : s.Sound) (hid : id ∈ s.started) : id < s.nextNumber := by
  have hmem : id ∈ s.admitted.map Prod.fst := by
    rw [h.settled, List.append_assoc]
    exact List.mem_append_left _ hid
  rw [h.numbers, List.mem_range'_1] at hmem
  rw [h.next, Nat.add_comm]
  exact hmem.2

theorem refused_eq_nil (h : s.Sound) (hgoing : s.acceptor.isStopping = false) :
    s.refused = [] := by
  by_contra hne
  have hstopping := h.stopping hne
  rw [hgoing] at hstopping
  cases hstopping

/-- A thread is found by the number of its connection. -/
theorem handler_of_mem (h : s.Sound) {a : ConnectionNumber × Handler δ} (ha : a ∈ s.handlers) :
    s.handler? a.1 = some a.2 := by
  obtain ⟨before, after, heq⟩ := List.append_of_mem ha
  -- A connection has one thread, so the first that is found with its number is this one.
  have hnodup := h.nodup_started
  rw [started, heq, List.map_append, List.map_cons, List.nodup_append] at hnodup
  rw [handler?, List.lookup_eq_some_iff]
  refine ⟨before, after, heq, fun b hb => ?_⟩
  rw [bne_iff_ne]
  exact (hnodup.2.2 b.1 (List.mem_map_of_mem hb) a.1 List.mem_cons_self).symm

/-- What is seen of the threads stays the same if the one that goes on looks the same. -/
theorem filterMap_setHandler (h : s.Sound) {β : Type} {g : ConnectionNumber × Handler δ → Option β}
    (hfind : s.handler? id = some p) (hsame : g (id, q) = g (id, p)) :
    (s.setHandler id q).handlers.filterMap g = s.handlers.filterMap g := by
  rw [Threads.setHandler, List.filterMap_map]
  apply List.filterMap_congr
  intro a ha
  rw [Function.comp_apply]
  split
  next heq =>
    have hhandler := h.handler_of_mem ha
    rw [heq, hfind] at hhandler
    rw [hsame, Option.some.inj hhandler, ← heq]
  next => rfl

theorem isFinished_of_hasFinished (h : s.Sound) {a : ConnectionNumber × Handler δ}
    (ha : a ∈ s.handlers) (hfinished : s.hasFinished a.1 = true) : a.2.isFinished = true := by
  rw [hasFinished, h.handler_of_mem ha] at hfinished
  exact hfinished

theorem length_le (h : s.Sound) : s.table.length ≤ s.maxLive :=
  Nat.le_trans (Nat.le_add_right _ _) h.room

-- Steps of the accepting thread

/-- The accepting thread moves on, and changes nothing that is shared. -/
theorem moveOn (h : s.Sound) (next : Acceptor) {here : Acceptor} (hstands : s.acceptor = here)
    (hentered : next.entered = here.entered) (hunstarted : next.unstarted = here.unstarted)
    (hstopping : here.isStopping = true → next.isStopping = true)
    (huser : ∀ u ∈ next.user?, s.allows u = true) (hroom : s.table.length + next.room ≤ s.maxLive)
    (hjoined : next = .done → s.unjoined = [])
    (hshut : ∀ unshut ∈ next.unshut?, ∀ a ∈ s.handlers, a.2.isServing = true →
      a.1 ∈ unshut ∨ a.1 ∈ s.shut) :
    ({ s with acceptor := next } : Threads δ).Sound := by
  subst hstands
  exact { h with
    entries := by
      rw [hentered]
      exact h.entries
    last := by
      rw [hunstarted]
      exact h.last
    settled := by
      rw [hunstarted]
      exact h.settled
    unstarted := by
      rw [hentered]
      exact h.unstarted
    stopping := fun hne => hstopping (h.stopping hne)
    user := huser
    room := hroom
    joined := hjoined
    shut := hshut }

/-- It moves on to where nothing has to be known. -/
theorem passOn (h : s.Sound) (next : Acceptor) {here : Acceptor} (hstands : s.acceptor = here)
    (hentered : next.entered = here.entered) (hunstarted : next.unstarted = here.unstarted)
    (hstopping : here.isStopping = true → next.isStopping = true) (huser : next.user? = none)
    (hroom : next.room = 0) (hshut : next.unshut? = none) :
    ({ s with acceptor := next } : Threads δ).Sound := by
  apply h.moveOn next hstands hentered hunstarted hstopping
  · intro u hu
    rw [huser] at hu
    cases hu
  · rw [hroom]
    exact h.length_le
  · rintro rfl
    cases hshut
  · intro unshut hunshut
    rw [hshut] at hunshut
    cases hunshut

/-- Entering a connection keeps the invariant: there is a place for it, and its number is new. -/
theorem enter (h : s.Sound) {user : Option Nat} (hstands : s.acceptor = .entering user) :
    (s.enter user).Sound := by
  have hentries : s.table.map Prod.fst = s.present := by
    rw [h.entries, hstands]
    exact List.append_nil _
  have hsettled : s.admitted.map Prod.fst = s.started ++ s.refused := by
    rw [h.settled, hstands]
    exact List.append_nil _
  have hroom : s.table.length + 1 ≤ s.maxLive := by
    have hroom := h.room
    rw [hstands] at hroom
    exact hroom
  have huser : s.allows user = true := by
    apply h.user
    rw [hstands]
    rfl
  have hnew : s.nextNumber ∉ s.started := fun hmem => Nat.lt_irrefl _ (h.lt_nextNumber hmem)
  have hsilent : s.callsOf s.nextNumber = [] := by
    rw [callsOf, List.filterMap_eq_nil_iff]
    intro d hd
    apply if_neg
    intro heq
    have hcalled := h.called d hd
    rw [heq] at hcalled
    exact hnew hcalled
  have hnumber : s.nextNumber = 1 + s.admitted.length := by rw [h.next, Nat.add_comm]
  exact { h with
    entries := by
      rw [Threads.enter, List.map_append, hentries]
      rfl
    numbers := by
      rw [Threads.enter, List.map_append, h.numbers, List.length_append]
      change _ ++ [s.nextNumber] = _
      rw [hnumber]
      exact List.range'_1_concat.symm
    next := by
      rw [Threads.enter, List.length_append]
      change s.nextNumber + 1 = _
      rw [h.next]
      rfl
    last := fun id hid => by rw [List.mem_singleton.mp hid]; rfl
    settled := by
      rw [Threads.enter, List.map_append, hsettled]
      rfl
    unstarted := fun id hid => by
      rw [List.mem_singleton.mp hid]
      exact hnew
    stopping := fun hne => by
      have hstopping := h.stopping hne
      rw [hstands] at hstopping
      cases hstopping
    allowed := fun a ha => by
      rcases List.mem_append.mp ha with ha | ha
      · exact h.allowed a ha
      · rw [List.mem_singleton.mp ha]
        exact huser
    user := fun u hu => by
      obtain rfl : user = u := Option.some.inj hu
      exact huser
    room := by
      rw [Threads.enter, List.length_append]
      exact hroom
    counted := fun entry hentry => by
      rcases List.mem_append.mp hentry with hentry | hentry
      · exact h.counted entry hentry
      · rw [List.mem_singleton.mp hentry]
        change 0 = (s.callsOf s.nextNumber).length
        rw [hsilent]
        rfl
    joined := fun hdone => by cases hdone
    shut := fun unshut hunshut => by cases hunshut }

theorem start (h : s.Sound) {user : Option Nat} (hstands : s.acceptor = .starting id user) :
    (s.start id).Sound := by
  have hrefused : s.refused = [] := h.refused_eq_nil (by rw [hstands]; rfl)
  exact { h with
    entries := by
      have hentries := h.entries
      rw [hstands] at hentries
      rw [Threads.start, present, List.filterMap_append]
      exact hentries.trans (List.append_nil _).symm
    last := fun id hid => by cases hid
    settled := by
      have hsettled := h.settled
      rw [hstands, hrefused, List.append_nil] at hsettled
      rw [Threads.start, started, List.map_append, hrefused, List.append_nil]
      exact hsettled.trans (List.append_nil _).symm
    unstarted := fun id hid => by cases hid
    stopping := fun hne => absurd hrefused hne
    user := fun u hu => by cases hu
    room := h.length_le
    called := fun d hd => by
      rw [Threads.start, started, List.map_append]
      exact List.mem_append_left _ (h.called d hd)
    joinable := fun a ha => by
      rcases List.mem_append.mp ha with ha | ha
      · exact (h.joinable a ha).imp_right (List.mem_append_left _)
      · rw [List.mem_singleton.mp ha]
        exact .inr (List.mem_append_right _ List.mem_cons_self)
    joined := fun hdone => by cases hdone
    shut := fun unshut hunshut => by cases hunshut }

theorem refuse (h : s.Sound) {user : Option Nat} (hstands : s.acceptor = .starting id user) :
    ({ s with acceptor := .refused id, refused := s.refused ++ [id] } : Threads δ).Sound :=
  { h with
    entries := by
      rw [h.entries, hstands]
      rfl
    last := fun id hid => by cases hid
    settled := by
      rw [h.settled, hstands, List.append_assoc]
      exact (List.append_nil _).symm
    unstarted := by
      have hunstarted := h.unstarted
      rw [hstands] at hunstarted
      exact hunstarted
    stopping := fun _ => rfl
    user := fun u hu => by cases hu
    room := h.length_le
    joined := fun hdone => by cases hdone
    shut := fun unshut hunshut => by cases hunshut }

/-- The entry of a connection without a thread is taken back. -/
theorem takeBack (h : s.Sound) (hstands : s.acceptor = .refused id) :
    ({ s.remove id with acceptor := .collecting } : Threads δ).Sound :=
  { h with
    entries := by
      have hentries : s.table.map Prod.fst = s.present ++ [id] := by
        rw [h.entries, hstands]
        rfl
      have hnone : id ∉ s.present := by
        intro hmem
        apply h.unstarted id _ (s.present_sublist_started.mem hmem)
        rw [hstands]
        exact List.mem_cons_self
      rw [remove]
      change _ = s.present ++ []
      rw [← map_filter_fst, hentries, List.append_nil, filter_append_singleton hnone]
    last := fun id hid => by cases hid
    settled := by
      have hsettled := h.settled
      rw [hstands] at hsettled
      exact hsettled
    unstarted := fun id hid => by cases hid
    stopping := fun _ => rfl
    user := fun u hu => by cases hu
    room := by
      have hroom := h.room
      rw [hstands] at hroom
      exact Nat.le_trans (List.length_filter_le _ _) hroom
    counted := fun entry hentry => h.counted entry (List.mem_of_mem_filter hentry)
    joined := fun hdone => by cases hdone
    shut := fun unshut hunshut => by cases hunshut }

/-- The accepting thread no longer waits for some threads, which are finished. -/
theorem join (h : s.Sound) {unjoined : List ConnectionNumber} (hstands : s.acceptor ≠ .done)
    (hkept : ∀ id ∈ s.unjoined, id ∉ unjoined → s.hasFinished id = true) :
    ({ s with unjoined := unjoined } : Threads δ).Sound :=
  { h with
    joinable := fun a ha => by
      by_cases hmem : a.1 ∈ unjoined
      · exact .inr hmem
      · rcases h.joinable a ha with hfinished | hwaits
        · exact .inl hfinished
        · exact .inl (h.isFinished_of_hasFinished ha (hkept a.1 hwaits hmem))
    joined := fun hdone => absurd hdone hstands }

-- Steps of the thread of a connection

/-- A thread goes on, and leaves of the table what those that are still there have in it. -/
theorem goOn (h : s.Sound) (hfind : s.handler? id = some p) {table : List (ConnectionNumber × Nat)}
    (htable : table.Sublist s.table)
    (hentries : table.map Prod.fst = (s.setHandler id q).present ++ s.acceptor.entered)
    (hserving : q.isServing = true → p.isServing = true)
    (hfinished : p.isFinished = true → q.isFinished = true) :
    ({ s.setHandler id q with table := table } : Threads δ).Sound :=
  { h with
    entries := hentries
    settled := by
      have hsettled := h.settled
      rw [← started_setHandler s id q] at hsettled
      exact hsettled
    unstarted := by
      have hunstarted := h.unstarted
      rw [← started_setHandler s id q] at hunstarted
      exact hunstarted
    room := Nat.le_trans (Nat.add_le_add_right htable.length_le _) h.room
    called := by
      have hcalled := h.called
      rw [← started_setHandler s id q] at hcalled
      exact hcalled
    counted := fun entry hentry => h.counted entry (htable.mem hentry)
    joinable := fun a ha => by
      rcases mem_setHandler ha with ha | rfl
      · exact h.joinable a ha
      · exact (h.joinable (id, p) (mem_handlers hfind)).imp_left hfinished
    shut := fun unshut hunshut a ha hserves => by
      rcases mem_setHandler ha with ha | rfl
      · exact h.shut unshut hunshut a ha hserves
      · exact h.shut unshut hunshut (id, p) (mem_handlers hfind) (hserving hserves) }

/-- A step of a thread that neither enters nor leaves the table keeps the invariant. -/
theorem setHandler (h : s.Sound) (hfind : s.handler? id = some p)
    (hpresent : q.isPresent = p.isPresent) (hserving : q.isServing = true → p.isServing = true)
    (hfinished : p.isFinished = true → q.isFinished = true) : (s.setHandler id q).Sound := by
  have hsame : (s.setHandler id q).present = s.present :=
    h.filterMap_setHandler hfind (by rw [hpresent])
  have hentries : s.table.map Prod.fst = (s.setHandler id q).present ++ s.acceptor.entered := by
    rw [hsame]
    exact h.entries
  exact h.goOn hfind (List.Sublist.refl _) hentries hserving hfinished

/-- A thread takes its connection out of the table. -/
theorem leave (h : s.Sound) (hfind : s.handler? id = some .leaving) :
    ((s.remove id).setHandler id .left).Sound := by
  have hpresent : (s.setHandler id .left).present = s.present.filter (· ≠ id) :=
    present_setHandler_of_absent rfl
  have hentered : s.acceptor.entered.filter (· ≠ id) = s.acceptor.entered := by
    rw [List.filter_eq_self]
    intro other hother
    refine decide_eq_true fun hsame => h.unstarted other hother ?_
    rw [hsame]
    exact mem_started hfind
  have hentries : (s.table.filter fun entry => entry.1 ≠ id).map Prod.fst =
      (s.setHandler id .left).present ++ s.acceptor.entered := by
    rw [← map_filter_fst, h.entries, List.filter_append, hpresent, hentered]
  exact h.goOn hfind List.filter_sublist hentries (fun hserves => by cases hserves)
    (fun hfinished => by cases hfinished)

theorem call (h : s.Sound) (hid : id ∈ s.started) (d : Delivery δ) : (s.call id d).Sound :=
  { h with
    entries := by
      rw [Threads.call, List.map_map]
      refine Eq.trans ?_ h.entries
      apply List.map_congr_left
      intro entry _
      rw [Function.comp_apply]
      split
      next heq => exact heq.symm
      next => rfl
    room := by
      rw [Threads.call, List.length_map]
      exact h.room
    called := fun e he => by
      rcases List.mem_append.mp he with he | he
      · exact h.called e he
      · rw [List.mem_singleton.mp he]
        exact hid
    counted := fun entry hentry => by
      obtain ⟨old, hold, rfl⟩ := List.mem_map.mp hentry
      have hcount := h.counted old hold
      split
      next heq =>
        rw [callsOf_call, if_pos rfl, List.length_append, ← heq, ← hcount]
        rfl
      next hne =>
        rw [callsOf_call, if_neg hne, List.append_nil]
        exact hcount }

-- Stopping

/-- The connections that are still to be shut down for reading are known from the table. -/
theorem collect (h : s.Sound) (hstands : s.acceptor = .collecting) :
    ({ s with acceptor := .closing (s.table.map (·.1)) } : Threads δ).Sound := by
  have hentries : s.table.map Prod.fst = s.present := by
    rw [h.entries, hstands]
    exact List.append_nil _
  apply h.moveOn (.closing _) hstands rfl rfl id
  · exact fun u hu => by cases hu
  · exact h.length_le
  · exact fun hdone => by cases hdone
  · intro unshut hunshut a ha hserves
    obtain rfl : s.table.map Prod.fst = unshut := Option.some.inj hunshut
    refine .inl ?_
    rw [hentries]
    refine List.mem_filterMap.mpr ⟨a, ha, ?_⟩
    rw [Handler.isPresent_of_isServing hserves]
    rfl

theorem close (h : s.Sound) {unshut : List ConnectionNumber}
    (hstands : s.acceptor = .closing (id :: unshut)) :
    ({ s with acceptor := .closing unshut, shut := id :: s.shut } : Threads δ).Sound := by
  have hshut := h.shut
  rw [hstands] at hshut
  have hwider : ({ s with shut := id :: s.shut } : Threads δ).Sound :=
    { h with
      shut := fun unshut hunshut a ha hserves =>
        (h.shut unshut hunshut a ha hserves).imp_right (List.mem_cons_of_mem id) }
  apply hwider.moveOn (.closing unshut) hstands rfl rfl (fun _ => rfl)
  · exact fun u hu => by cases hu
  · exact h.length_le
  · exact fun hdone => by cases hdone
  · intro rest hrest a ha hserves
    obtain rfl : unshut = rest := Option.some.inj hrest
    rcases hshut _ rfl a ha hserves with hmem | hmem
    · rcases List.mem_cons.mp hmem with heq | hmem
      · rw [heq]
        exact .inr List.mem_cons_self
      · exact .inl hmem
    · exact .inr (List.mem_cons_of_mem id hmem)

/-- Every step of the accepting thread keeps the invariant. -/
theorem accept (h : s.Sound) (found : Findings) : (s.accept found).Sound := by
  cases hstands : s.acceptor with
  | top =>
    simp only [Threads.accept, hstands]
    split
    · exact h.passOn .collecting hstands rfl rfl (fun _ => rfl) rfl rfl rfl
    · exact h.passOn .listening hstands rfl rfl id rfl rfl rfl
  | listening =>
    simp only [Threads.accept, hstands]
    cases found.arrival with
    | none => exact h.passOn .top hstands rfl rfl id rfl rfl rfl
    | some user => exact h.passOn (.came user) hstands rfl rfl id rfl rfl rfl
  | came user =>
    simp only [Threads.accept, hstands]
    split
    · exact h.passOn .collecting hstands rfl rfl (fun _ => rfl) rfl rfl rfl
    · exact h.passOn (.reaping user) hstands rfl rfl id rfl rfl rfl
  | reaping user =>
    simp only [Threads.accept, hstands]
    have hmoved := h.passOn (.counting user) hstands rfl rfl id rfl rfl rfl
    apply hmoved.join (fun hdone => by cases hdone)
    intro id hid hgone
    by_contra hrunning
    refine hgone (List.mem_filter.mpr ⟨hid, ?_⟩)
    have hfalse : s.hasFinished id = false := Bool.eq_false_iff.mpr hrunning
    rw [hfalse, Bool.and_false]
    rfl
  | counting user =>
    simp only [Threads.accept, hstands]
    split
    -- The others only take entries out, so the place that is there now stays until it is taken.
    · apply h.moveOn (.checking user) hstands rfl rfl id
      · exact fun u hu => by cases hu
      · assumption
      · exact fun hdone => by cases hdone
      · exact fun unshut hunshut => by cases hunshut
    · exact h.passOn .top hstands rfl rfl id rfl rfl rfl
  | checking user =>
    simp only [Threads.accept, hstands]
    have hroom := h.room
    rw [hstands] at hroom
    split
    next hallows =>
      apply h.moveOn (.entering user) hstands rfl rfl id
      · intro u hu
        obtain rfl : user = u := Option.some.inj hu
        exact hallows
      · exact hroom
      · exact fun hdone => by cases hdone
      · exact fun unshut hunshut => by cases hunshut
    next => exact h.passOn .top hstands rfl rfl id rfl rfl rfl
  | entering user =>
    simp only [Threads.accept, hstands]
    exact h.enter hstands
  | starting id user =>
    simp only [Threads.accept, hstands]
    split
    · exact h.start hstands
    · exact h.refuse hstands
  | refused id =>
    simp only [Threads.accept, hstands]
    exact h.takeBack hstands
  | collecting =>
    simp only [Threads.accept, hstands]
    exact h.collect hstands
  | closing unshut =>
    cases unshut with
    | nil =>
      simp only [Threads.accept, hstands]
      have hshut := h.shut
      rw [hstands] at hshut
      apply h.moveOn .joining hstands rfl rfl id
      · exact fun u hu => by cases hu
      · exact h.length_le
      · exact fun hdone => by cases hdone
      · exact hshut
    | cons id unshut =>
      simp only [Threads.accept, hstands]
      exact h.close hstands
  | joining =>
    simp only [Threads.accept, hstands]
    have hshut := h.shut
    rw [hstands] at hshut
    split
    next hnone =>
      apply h.moveOn .done hstands rfl rfl id
      · exact fun u hu => by cases hu
      · exact h.length_le
      · exact fun _ => hnone
      · exact hshut
    next id unjoined hsome =>
      split
      next hfinished =>
        rw [← hstands]
        apply h.join (fun hdone => by rw [hstands] at hdone; cases hdone)
        intro other hother hgone
        rw [hsome, List.mem_cons] at hother
        rw [hother.resolve_right hgone]
        exact hfinished
      next => exact h
  | done =>
    simp only [Threads.accept, hstands]
    exact h

/-- Handing on a record, or finding none, keeps the invariant. -/
theorem drain (h : s.Sound) {c : Connection δ} (hfind : s.handler? id = some (.draining c)) :
    (s.drain id c).Sound := by
  rw [Threads.drain]
  split
  · exact h.setHandler hfind rfl (fun hserves => by cases hserves)
      (fun hfinished => by cases hfinished)
  · exact h.setHandler hfind rfl (fun _ => rfl) (fun hfinished => by cases hfinished)
  next record decoder _ =>
    have hcalled := h.call (mem_started hfind)
      ⟨record, (Connection.claim record.header.type c.queue).1⟩
    exact hcalled.setHandler hfind rfl (fun _ => rfl) (fun hfinished => by cases hfinished)

/-- No step of any thread breaks what holds, wherever the others stand. -/
theorem step (h : s.Sound) (e : Event δ) : (s.step e).Sound := by
  cases e with
  | told => exact { h with }
  | accepts found => exact h.accept found
  | reads id bytes descriptors =>
    rw [Threads.step]
    split
    next c hfind =>
      exact h.setHandler hfind rfl (fun _ => rfl) (fun hfinished => by cases hfinished)
    next => exact h
  | ends id =>
    rw [Threads.step]
    split
    next c hfind =>
      exact h.setHandler hfind rfl (fun hserves => by cases hserves)
        (fun hfinished => by cases hfinished)
    next => exact h
  | goes id =>
    rw [Threads.step]
    split
    next c hfind => exact h.drain hfind
    next hfind => exact h.leave hfind
    next hfind =>
      exact h.setHandler hfind rfl (fun hserves => by cases hserves) (fun _ => rfl)
    next => exact h

theorem run (h : s.Sound) (events : List (Event δ)) : (s.run events).Sound := by
  induction events generalizing s with
  | nil => exact h
  | cons e events ih => exact ih (h.step e)

end Sound

end Threads

end LocalRecords
