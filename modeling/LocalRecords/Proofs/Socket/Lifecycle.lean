import LocalRecords.Proofs.Host.Kernel

namespace LocalRecords

/-- The calls `steps` were made and none was refused; the first one made the socket `d`. -/
structure Granted (steps : List Step) (d : Nat) (log : List SystemCall) : Prop where
  calls : log.map SystemCall.step = steps
  all : ∀ c ∈ log, c.IsGranted
  made : log.head? = some ⟨.create, .ok (some d)⟩

theorem Granted.after {steps : List Step} {d : Nat} {log : List SystemCall}
    (h : Granted steps d log) (step : Step) (made : Option Nat) :
    Granted (steps ++ [step]) d (log ++ [⟨step, .ok made⟩]) where
  calls := by
    rw [List.map_append, h.calls]
    rfl
  all c hc := by
    rcases List.mem_append.mp hc with hc | hc
    · exact h.all c hc
    · rw [List.mem_singleton.mp hc]
      exact ⟨made, rfl⟩
  made := by
    rw [List.head?_append, h.made]
    rfl

/-- The next call is the next of those that the operation makes. -/
theorem Granted.calls_isPrefix {steps : List Step} {d : Nat} {log : List SystemCall}
    (h : Granted steps d log) (step : Step) :
    log.map SystemCall.step ++ [step] <+: steps ++ [step] := by
  have hcalls : log.map SystemCall.step ++ [step] = steps ++ [step] :=
    congrArg (· ++ [step]) h.calls
  exact hcalls ▸ List.prefix_rfl

namespace Kernel

variable {σ ρ : Type} {kernel : Kernel σ} {table : σ → Nat → Option ρ} {before : σ}

/-- A descriptor that is new and closed again is not seen in the table. -/
theorem Keeps.table_close (hk : kernel.Keeps table) {s : σ} {d : Nat} {x : ρ}
    (fresh : table before d = none)
    (after : table s = Function.update (table before) d (some x)) :
    table (kernel.close s d).1 = table before := by
  calc table (kernel.close s d).1
      = Function.update (Function.update (table before) d (some x)) d none := by
        rw [hk.close, after]
    _ = Function.update (table before) d none := Function.update_idem _ _ _
    _ = table before := by rw [← fresh, Function.update_eq_self]

inductive CameTo (table : σ → Nat → Option ρ) (before : σ) (kind : SocketType)
    (steps : List Step) : (σ × List SystemCall) × Except Failure Socket → Prop
  /-- No call was refused, and the socket that the first one made is all that is new. -/
  | granted {s : σ} {log : List SystemCall} {d : Nat} {x : ρ} (granted : Granted steps d log)
      (fresh : table before d = none)
      (after : table s = Function.update (table before) d (some x)) :
      CameTo table before kind steps ((s, log), .ok ⟨d, kind⟩)
  /-- The last call was refused and none before it, and nothing is new. -/
  | refused {s : σ} {log : List SystemCall} {step : Step} {e : IoError}
      (calls : log.map SystemCall.step ++ [step] <+: steps) (all : ∀ c ∈ log, c.IsGranted)
      (after : table s = table before) :
      CameTo table before kind steps
        ((s, log ++ [⟨step, .error e⟩]), .error (.refused step e))

namespace CameTo

variable {kind : SocketType} {steps : List Step}

/-- Making a socket is the first call, and a new descriptor if it is granted. -/
theorem create (hk : kernel.Keeps table) (s : σ) (kind : SocketType) :
    CameTo table s kind [.create] (kernel.logged.create (s, []) kind) := by
  have hopens := hk.socket s kind
  rw [Kernel.create, logged]
  dsimp only
  rcases hr : kernel.socket s kind with ⟨s', e | d⟩
  · rw [hr] at hopens
    exact .refused List.prefix_rfl (fun _ hc => absurd hc List.not_mem_nil) hopens
  · rw [hr] at hopens
    obtain ⟨hfresh, x, hafter⟩ := hopens
    refine .granted ⟨rfl, fun c hc => ?_, rfl⟩ hfresh hafter
    rw [List.mem_singleton.mp hc]
    exact ⟨some d, rfl⟩

/-- More calls, which are made only where all before them were granted. -/
theorem onOk {r : (σ × List SystemCall) × Except Failure Socket} (more : List Step)
    {next : σ × List SystemCall → Socket → (σ × List SystemCall) × Except Failure Socket}
    (h : CameTo table before kind steps r)
    (hnext : ∀ t socket, CameTo table before kind steps (t, .ok socket) →
      CameTo table before kind (steps ++ more) (next t socket)) :
    CameTo table before kind (steps ++ more) (LocalRecords.onOk r next) := by
  cases h with
  | granted granted fresh after => exact hnext _ _ (.granted granted fresh after)
  | refused calls all after => exact .refused (calls.trans (List.prefix_append _ _)) all after

/-- One more call on the socket that was made. -/
theorem orClose (hk : kernel.Keeps table) {s : σ} {log : List SystemCall} {socket : Socket}
    (h : CameTo table before kind steps ((s, log), .ok socket)) {step : Step}
    {r : σ × Except IoError Unit} (hr : table r.1 = table s) :
    CameTo table before kind (steps ++ [step])
      (kernel.logged.orClose step socket (noted log step (fun _ => none) r)) := by
  cases h with
  | granted granted fresh after =>
    rw [after] at hr
    rcases r with ⟨s', e | ⟨⟩⟩
    · exact .refused (granted.calls_isPrefix step) granted.all (hk.table_close fresh hr)
    · exact .granted (granted.after step none) fresh hr

/-- Connecting comes as far as its calls are granted, and closes its socket otherwise. -/
theorem connectTo (hk : kernel.Keeps table) (s : σ) {path : Bytes} {address : Address}
    (ha : Address.ofPath path = .ok address) (kind : SocketType) :
    CameTo table s kind (Opening.connect path kind).steps
      (kernel.logged.connectTo (s, []) path kind) := by
  rw [Kernel.connectTo, ha]
  apply (create hk s kind).onOk [.connect]
  intro t socket hmade
  exact hmade.orClose hk (hk.connect _ _ _)

theorem listenAt (hk : kernel.Keeps table) (s : σ) {path : Bytes} {address : Address}
    (ha : Address.ofPath path = .ok address) (kind : SocketType) (backlog : Int32) :
    CameTo table s kind (Opening.listen path kind backlog).steps
      (kernel.logged.listenAt (s, []) path kind backlog) := by
  rw [Kernel.listenAt, ha]
  cases kind with
  | datagram =>
    apply (create hk s .datagram).onOk [.bind]
    intro t socket hmade
    apply (hmade.orClose hk (hk.bind _ _ _)).onOk []
    intro t socket hbound
    exact hbound
  | stream =>
    apply (create hk s .stream).onOk [.bind, .listen]
    intro t socket hmade
    apply (hmade.orClose hk (hk.bind _ _ _)).onOk [.listen]
    intro t socket hbound
    exact hbound.orClose hk (hk.listen _ _ _)

end CameTo

/-- What may become of an operation that starts with nothing written down. -/
structure Outcome (table : σ → Nat → Option ρ) (before : σ) (op : Opening)
    (r : (σ × List SystemCall) × Except Failure Socket) : Prop where
  /-- The table is as it was. Either the path is no address and nothing was asked of the kernel, or
  the last call was refused and none before it. -/
  failed : ∀ e, r.2 = .error e → table r.1.1 = table before ∧
    (Address.ofPath op.path = .error e ∧ r.1 = (before, []) ∨
      (∃ address, Address.ofPath op.path = .ok address) ∧
        ∃ granted step x, e = .refused step x ∧ r.1.2 = granted ++ [⟨step, .error x⟩] ∧
          (∀ c ∈ granted, c.IsGranted) ∧ r.1.2.map SystemCall.step <+: op.steps)
  /-- All calls were granted, and one descriptor is new: that of the connection that came in, or
  else of the socket that was made. -/
  opened : ∀ socket, r.2 = .ok socket → socket.kind = op.kind ∧
    table before socket.descriptor = none ∧
    (∃ x, table r.1.1 = Function.update (table before) socket.descriptor (some x)) ∧
    ∃ made, Granted op.steps made r.1.2 ∧
      if op.accepts then
        r.1.2.getLast? = some ⟨.accept, .ok (some socket.descriptor)⟩ ∧ table r.1.1 made = none
      else made = socket.descriptor

namespace Outcome

variable {op : Opening}

/-- A path that is no address is refused before the kernel is asked. -/
theorem noAddress {e : Failure} (he : Address.ofPath op.path = .error e) :
    Outcome table before op ((before, []), .error e) where
  failed e' h := by
    cases h
    exact ⟨rfl, .inl ⟨he, rfl⟩⟩
  opened _ hs := nomatch hs

theorem refused {address : Address} (ha : Address.ofPath op.path = .ok address) {s : σ}
    {log : List SystemCall} {step : Step} {e : IoError}
    (calls : log.map SystemCall.step ++ [step] <+: op.steps) (all : ∀ c ∈ log, c.IsGranted)
    (after : table s = table before) :
    Outcome table before op ((s, log ++ [⟨step, .error e⟩]), .error (.refused step e)) where
  failed e' h := by
    cases h
    refine ⟨after, .inr ⟨⟨address, ha⟩, log, step, e, rfl, rfl, all, ?_⟩⟩
    rw [List.map_append]
    exact calls
  opened _ hs := nomatch hs

/-- An operation that takes no connection has the outcome of how far it came. -/
theorem of_cameTo {address : Address} {r : (σ × List SystemCall) × Except Failure Socket}
    (ha : Address.ofPath op.path = .ok address) (hop : op.accepts = false)
    (h : CameTo table before op.kind op.steps r) : Outcome table before op r := by
  cases h with
  | @granted s log d x granted fresh after =>
    refine ⟨fun _ he => (nomatch he), fun socket hs => ?_⟩
    cases hs
    refine ⟨rfl, fresh, ⟨x, after⟩, d, granted, ?_⟩
    rw [hop]
    rfl
  | refused calls all after => exact refused ha calls all after

/-- One connection is taken in place of the socket that listens, and that one is closed. -/
theorem accept (hk : kernel.Keeps table) {path : Bytes} {address : Address}
    (ha : Address.ofPath (Opening.serveOne path .stream).path = .ok address)
    {t : σ × List SystemCall} {listener : Socket}
    (h : CameTo table before .stream [.create, .bind, .listen] (t, .ok listener)) :
    Outcome table before (.serveOne path .stream)
      ((kernel.logged.close (kernel.logged.acceptOn t listener).1 listener.descriptor).1,
        (kernel.logged.acceptOn t listener).2) := by
  cases h with
  | @granted s log d x granted fresh after =>
    have hopens := hk.accept s d
    have haccept : kernel.logged.acceptOn (s, log) ⟨d, .stream⟩ =
        made .accept .stream (noted log .accept some (kernel.accept s d)) := if_pos rfl
    rw [haccept]
    rcases hr : kernel.accept s d with ⟨s', e | c⟩
    · rw [hr] at hopens
      have hsame : table s' = Function.update (table before) d (some x) := hopens.trans after
      exact refused ha (granted.calls_isPrefix .accept) granted.all (hk.table_close fresh hsame)
    · rw [hr] at hopens
      obtain ⟨hnew, y, hafter⟩ := hopens
      -- The connection has another descriptor, since that of the listener was in use.
      have hne : c ≠ d := by
        rintro rfl
        rw [after, Function.update_self] at hnew
        cases hnew
      have hfresh : table before c = none := by
        rwa [after, Function.update_of_ne hne] at hnew
      have hclosed : table (kernel.close s' d).1 = Function.update (table before) c (some y) := by
        calc table (kernel.close s' d).1
            = Function.update (Function.update (Function.update (table before) d (some x)) c
                (some y)) d none := by rw [hk.close, hafter, after]
          _ = Function.update (Function.update (Function.update (table before) d (some x)) d none)
                c (some y) := Function.update_comm hne _ _ _
          _ = Function.update (table before) c (some y) := by
            rw [Function.update_idem, ← fresh, Function.update_eq_self]
      refine ⟨fun _ he => (nomatch he), fun socket hs => ?_⟩
      cases hs
      have hgone : table (kernel.close s' d).1 d = none := by
        rw [hclosed, Function.update_of_ne hne.symm, fresh]
      refine ⟨rfl, hfresh, ⟨y, hclosed⟩, d, granted.after .accept (some c), ?_⟩
      exact (if_pos rfl).mpr ⟨List.getLast?_concat, hgone⟩

/-- Of taking one connection that connection alone is left, or nothing. -/
theorem serveOne (hk : kernel.Keeps table) (s : σ) {path : Bytes} {kind : SocketType}
    {address : Address} (ha : Address.ofPath (Opening.serveOne path kind).path = .ok address) :
    Outcome table s (.serveOne path kind) (kernel.logged.serveOne (s, []) path kind) := by
  have hlistens : CameTo table s kind (Opening.listen path kind 0).steps
      (kernel.logged.listenAt (s, []) path kind 0) := CameTo.listenAt hk s ha kind 0
  rw [Kernel.serveOne]
  generalize kernel.logged.listenAt (s, []) path kind 0 = r at hlistens
  cases kind with
  | datagram =>
    cases hlistens with
    | granted granted fresh after => exact of_cameTo ha rfl (.granted granted fresh after)
    | refused calls all after => exact refused ha calls all after
  | stream =>
    cases hlistens with
    | granted granted fresh after => exact accept hk ha (.granted granted fresh after)
    | refused calls all after =>
      exact refused ha (calls.trans (List.prefix_append _ [Step.accept])) all after

/-- What one operation does to the table and what it says. -/
theorem perform (hk : kernel.Keeps table) (s : σ) (op : Opening) :
    Outcome table s op (kernel.logged.perform (s, []) op) := by
  cases ha : Address.ofPath op.path with
  | error e =>
    have hnothing : kernel.logged.perform (s, []) op = ((s, []), .error e) := by
      cases op with
      | connect path kind =>
        change Address.ofPath path = .error e at ha
        rw [Kernel.perform, connectTo, ha]
      | listen path kind backlog =>
        change Address.ofPath path = .error e at ha
        rw [Kernel.perform, listenAt, ha]
      | serveOne path kind =>
        change Address.ofPath path = .error e at ha
        rw [Kernel.perform, Kernel.serveOne, listenAt, ha]
        rfl
    rw [hnothing]
    exact noAddress ha
  | ok address =>
    cases op with
    | connect path kind => exact of_cameTo ha rfl (CameTo.connectTo hk s ha kind)
    | listen path kind backlog => exact of_cameTo ha rfl (CameTo.listenAt hk s ha kind backlog)
    | serveOne path kind => exact serveOne hk s ha

end Outcome

-- Several operations

def opened (answers : List (Except Failure Socket)) : List Nat :=
  answers.filterMap fun a => a.toOption.map Socket.descriptor

/-- Some descriptors are new in a table, each once, and nothing else is. -/
structure Opened (before after : Nat → Option ρ) (descriptors : List Nat) : Prop where
  fresh : ∀ d ∈ descriptors, before d = none
  found : ∀ d ∈ descriptors, ∃ x, after d = some x
  distinct : descriptors.Nodup
  others : ∀ d, d ∉ descriptors → after d = before d

theorem Opened.cons {before between after : Nat → Option ρ} {d : Nat} {x : ρ} {ds : List Nat}
    (fresh : before d = none) (hfirst : between = Function.update before d (some x))
    (hrest : Opened between after ds) : Opened before after (d :: ds) := by
  have hd : between d = some x := by rw [hfirst, Function.update_self]
  have hnot : d ∉ ds := by
    intro hmem
    rw [hrest.fresh d hmem] at hd
    cases hd
  have hbetween {other : Nat} (hne : other ≠ d) : between other = before other := by
    rw [hfirst, Function.update_of_ne hne]
  refine ⟨fun other ho => ?_, fun other ho => ?_, List.nodup_cons.mpr ⟨hnot, hrest.distinct⟩,
    fun other ho => ?_⟩
  · rcases List.mem_cons.mp ho with rfl | ho
    · exact fresh
    · have hne : other ≠ d := fun he => hnot (he ▸ ho)
      rw [← hbetween hne]
      exact hrest.fresh other ho
  · rcases List.mem_cons.mp ho with rfl | ho
    · exact ⟨x, (hrest.others other hnot).trans hd⟩
    · exact hrest.found other ho
  · obtain ⟨hne, hmore⟩ := not_or.mp (mt List.mem_cons.mpr ho)
    rw [hrest.others other hmore, hbetween hne]

theorem perform_logged (kernel : Kernel σ) (s : σ) (op : Opening) :
    kernel.perform s op =
      ((kernel.logged.perform (s, []) op).1.1, (kernel.logged.perform (s, []) op).2) :=
  (covers_logged kernel).perform (s, []) op

/-- After any operations just the sockets that they answered with are new. -/
theorem performAll_opened (hk : kernel.Keeps table) (s : σ) (ops : List Opening) :
    let r := kernel.performAll s ops
    Opened (table s) (table r.1) (opened r.2) := by
  -- On the operations, from whatever the ones before them left.
  induction ops generalizing s with
  | nil =>
    exact ⟨fun _ hd => absurd hd List.not_mem_nil, fun _ hd => absurd hd List.not_mem_nil,
      List.nodup_nil, fun _ _ => rfl⟩
  | cons op ops ih =>
    have hrest := ih (kernel.perform s op).1
    have hfirst := Outcome.perform hk s op
    dsimp only at hrest ⊢
    rw [performAll]
    rw [kernel.perform_logged s op] at hrest ⊢
    cases hanswer : (kernel.logged.perform (s, []) op).2 with
    | error e =>
      have hsame := (hfirst.failed e hanswer).1
      dsimp only at hrest ⊢
      rw [hsame] at hrest
      exact hrest
    | ok socket =>
      obtain ⟨-, hfresh, ⟨x, hafter⟩, -⟩ := hfirst.opened socket hanswer
      exact hrest.cons hfresh hafter

/-- Over a kernel whose calls change the table of descriptors as they should and are refused or
granted at its pleasure, whatever its state. An operation that fails leaves the table as it was, and
names either what is wrong with the path, nothing having been asked of the kernel, or the first call
that was refused of those it makes, which was the last that it made. One that does not fail made all
of them and leaves one descriptor more; where it takes a connection, that is the one that came in,
and the socket that listened is closed. After any number of operations there are the descriptors of
those that did not fail, all different, and what was there before. -/
theorem perform_leaks_nothing (hk : kernel.Keeps table) (s : σ) :
    (∀ op, let r := kernel.logged.perform (s, []) op
      kernel.perform s op = (r.1.1, r.2) ∧ Outcome table s op r) ∧
    ∀ ops, let r := kernel.performAll s ops
      Opened (table s) (table r.1) (opened r.2) :=
  ⟨fun op => ⟨kernel.perform_logged s op, Outcome.perform hk s op⟩, performAll_opened hk s⟩

/-- A host with a client that connects while someone waits for it. Of a listening that is refused
nothing is left, though closing is refused too; granted, the listening socket makes way for the
connection. Of four operations two fail, and two descriptors are new. -/
theorem perform_leaks_nothing_refused :
    let h := (({} : Host).socket .stream).1
    let visit (h : Host) := (h.connect 3 ⟨97 :: List.replicate 107 0, 3⟩).1
    let kernel := Host.kernel visit
    let strict := { h with
      refuse := fun step => if step = .listen ∨ step = .close then some .noDevice else none }
    let refused := kernel.logged.perform (strict, []) (.serveOne [97] .stream)
    let served := kernel.logged.perform (h, []) (.serveOne [97] .stream)
    let all := kernel.performAll h [.connect [98] .stream, .listen [98] .datagram 0,
      .serveOne [97] .stream, .connect [0] .stream]
    kernel.Keeps Host.resource? ∧
      refused.2 = .error (.refused .listen .noDevice) ∧
      refused.1.2 = [⟨.create, .ok (some 4)⟩, ⟨.bind, .ok none⟩, ⟨.listen, .error .noDevice⟩] ∧
      refused.1.1.resource? = strict.resource? ∧
      served.2 = .ok ⟨5, .stream⟩ ∧
      served.1.2 = [⟨.create, .ok (some 4)⟩, ⟨.bind, .ok none⟩, ⟨.listen, .ok none⟩,
        ⟨.accept, .ok (some 5)⟩] ∧
      (∃ x, served.1.1.resource? = Function.update h.resource? 5 (some x)) ∧
      opened all.2 = [4, 6] ∧ Opened h.resource? all.1.resource? [4, 6] := by
  intro h visit kernel strict refused served all
  have hk : kernel.Keeps Host.resource? :=
    Host.keeps_kernel fun h => Host.resource?_congr (h.descriptors_connect _ _)
  have hrefused : refused.2 = .error (.refused .listen .noDevice) := by decide +kernel
  have hstopped : refused.1.2 =
      [⟨.create, .ok (some 4)⟩, ⟨.bind, .ok none⟩, ⟨.listen, .error .noDevice⟩] := by
    decide +kernel
  have hserved : served.2 = .ok ⟨5, .stream⟩ := by decide +kernel
  have hcalls : served.1.2 = [⟨.create, .ok (some 4)⟩, ⟨.bind, .ok none⟩, ⟨.listen, .ok none⟩,
      ⟨.accept, .ok (some 5)⟩] := by
    decide +kernel
  have hopened : opened all.2 = [4, 6] := by decide +kernel
  obtain ⟨hone, hmany⟩ := perform_leaks_nothing hk h
  have hall := hmany [.connect [98] .stream, .listen [98] .datagram 0, .serveOne [97] .stream,
    .connect [0] .stream]
  have hstrict := (perform_leaks_nothing hk strict).1 (.serveOne [97] .stream)
  obtain ⟨-, -, hafter, -⟩ := (hone (.serveOne [97] .stream)).2.opened _ hserved
  have hkept := (hstrict.2.failed _ hrefused).1
  have hnew : Opened h.resource? all.1.resource? [4, 6] := by
    rw [← hopened]
    exact hall
  exact ⟨hk, hrefused, hstopped, hkept, hserved, hcalls, hafter, hopened, hnew⟩

end Kernel

end LocalRecords
