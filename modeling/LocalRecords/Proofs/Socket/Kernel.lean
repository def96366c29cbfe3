import Mathlib.Control.Monad.Basic
import Mathlib.Logic.Function.Basic
import LocalRecords.Socket.Lifecycle

/-!
The calls that an operation makes of a kernel, and what a call does to the table of descriptors of
whoever makes it. The operations look at the answers of a kernel and at nothing else, so that they
do the same over a kernel that also writes down which calls it was asked for.
-/

namespace LocalRecords

/-- A call by which sockets come to be, and its answer: a descriptor, if the call makes one. -/
structure SystemCall where
  step : Step
  answer : Except IoError (Option Nat)
  deriving DecidableEq

def SystemCall.IsGranted (a : SystemCall) : Prop := ∃ made, a.answer = .ok made

variable {σ τ ρ : Type}

def noted {α : Type} (log : List SystemCall) (step : Step) (made : α → Option Nat)
    (r : σ × Except IoError α) : (σ × List SystemCall) × Except IoError α :=
  ((r.1, log ++ [⟨step, r.2.map made⟩]), r.2)

inductive Opening
  | connect (path : Bytes) (kind : SocketType)
  | listen (path : Bytes) (kind : SocketType) (backlog : Int32)
  | serveOne (path : Bytes) (kind : SocketType)
  deriving DecidableEq

namespace Opening

def path : Opening → Bytes
  | connect path _ => path
  | listen path _ _ => path
  | serveOne path _ => path

def kind : Opening → SocketType
  | connect _ kind => kind
  | listen _ kind _ => kind
  | serveOne _ kind => kind

def accepts : Opening → Bool
  | serveOne _ kind => kind.connects
  | _ => false

def steps : Opening → List Step
  | connect _ _ => [.create, .connect]
  | listen _ .datagram _ => [.create, .bind]
  | listen _ .stream _ => [.create, .bind, .listen]
  | serveOne _ .datagram => [.create, .bind]
  | serveOne _ .stream => [.create, .bind, .listen, .accept]

end Opening

namespace Kernel

/-- A kernel that writes down the calls it was asked for. What is closed is to be seen in the
table. -/
def logged (kernel : Kernel σ) : Kernel (σ × List SystemCall) where
  socket s kind := noted s.2 .create some (kernel.socket s.1 kind)
  bind s d address := noted s.2 .bind (fun _ => none) (kernel.bind s.1 d address)
  listen s d backlog := noted s.2 .listen (fun _ => none) (kernel.listen s.1 d backlog)
  accept s d := noted s.2 .accept some (kernel.accept s.1 d)
  connect s d address := noted s.2 .connect (fun _ => none) (kernel.connect s.1 d address)
  close s d := (((kernel.close s.1 d).1, s.2), (kernel.close s.1 d).2)

def perform (kernel : Kernel σ) (s : σ) : Opening → σ × Except Failure Socket
  | .connect path kind => kernel.connectTo s path kind
  | .listen path kind backlog => kernel.listenAt s path kind backlog
  | .serveOne path kind => kernel.serveOne s path kind

def performAll (kernel : Kernel σ) (s : σ) : List Opening → σ × List (Except Failure Socket)
  | [] => (s, [])
  | op :: ops =>
    let first := kernel.perform s op
    let rest := kernel.performAll first.1 ops
    (rest.1, first.2 :: rest.2)

/-- What a kernel does to a part of its state is what another one does to all of its own. -/
structure Covers (whole : Kernel τ) (kernel : Kernel σ) (part : τ → σ) : Prop where
  socket : ∀ t kind, kernel.socket (part t) kind = (whole.socket t kind).map part id
  bind : ∀ t d address, kernel.bind (part t) d address = (whole.bind t d address).map part id
  listen : ∀ t d backlog, kernel.listen (part t) d backlog = (whole.listen t d backlog).map part id
  accept : ∀ t d, kernel.accept (part t) d = (whole.accept t d).map part id
  connect : ∀ t d address,
    kernel.connect (part t) d address = (whole.connect t d address).map part id
  close : ∀ t d, kernel.close (part t) d = (whole.close t d).map part id

/-- A kernel that writes its calls down does to its own part what the kernel does. -/
theorem covers_logged (kernel : Kernel σ) : kernel.logged.Covers kernel Prod.fst :=
  ⟨fun _ _ => rfl, fun _ _ _ => rfl, fun _ _ _ => rfl, fun _ _ => rfl, fun _ _ _ => rfl,
    fun _ _ => rfl⟩

theorem onOk_map {α β : Type} (part : τ → σ) (r : τ × Except Failure α)
    {next : σ → α → σ × Except Failure β} {next' : τ → α → τ × Except Failure β}
    (h : ∀ t a, next (part t) a = (next' t a).map part id) :
    onOk (r.map part id) next = (onOk r next').map part id := by
  rcases r with ⟨t, e | a⟩
  · rfl
  · exact h t a

namespace Covers

variable {whole : Kernel τ} {kernel : Kernel σ} {part : τ → σ}

theorem create (h : whole.Covers kernel part) (t : τ) (kind : SocketType) :
    kernel.create (part t) kind = (whole.create t kind).map part id := by
  rw [Kernel.create, h.socket]
  rfl

theorem orClose (h : whole.Covers kernel part) (step : Step) (socket : Socket)
    (r : τ × Except IoError Unit) :
    kernel.orClose step socket (r.map part id) = (whole.orClose step socket r).map part id := by
  rcases r with ⟨t, e | ⟨⟩⟩
  · have hclose := congrArg Prod.fst (h.close t socket.descriptor)
    exact Prod.ext hclose rfl
  · rfl

theorem listenAt (h : whole.Covers kernel part) (t : τ) (path : Bytes) (kind : SocketType)
    (backlog : Int32) :
    kernel.listenAt (part t) path kind backlog =
      (whole.listenAt t path kind backlog).map part id := by
  rw [Kernel.listenAt, Kernel.listenAt]
  cases Address.ofPath path with
  | error e => rfl
  | ok address =>
    dsimp only
    rw [h.create]
    apply onOk_map
    intro t socket
    rw [h.bind, h.orClose]
    apply onOk_map
    intro t socket
    cases kind with
    | datagram => rfl
    | stream =>
      change kernel.orClose .listen socket (kernel.listen (part t) socket.descriptor backlog) = _
      rw [h.listen, h.orClose]
      rfl

theorem connectTo (h : whole.Covers kernel part) (t : τ) (path : Bytes) (kind : SocketType) :
    kernel.connectTo (part t) path kind = (whole.connectTo t path kind).map part id := by
  rw [Kernel.connectTo, Kernel.connectTo]
  cases Address.ofPath path with
  | error e => rfl
  | ok address =>
    dsimp only
    rw [h.create]
    apply onOk_map
    intro t socket
    rw [h.connect, h.orClose]

theorem acceptOn (h : whole.Covers kernel part) (t : τ) (listener : Socket) :
    kernel.acceptOn (part t) listener = (whole.acceptOn t listener).map part id := by
  rw [Kernel.acceptOn, Kernel.acceptOn]
  split
  · rw [h.accept]
    rfl
  · rfl

theorem serveOne (h : whole.Covers kernel part) (t : τ) (path : Bytes) (kind : SocketType) :
    kernel.serveOne (part t) path kind = (whole.serveOne t path kind).map part id := by
  rw [Kernel.serveOne, Kernel.serveOne, h.listenAt]
  apply onOk_map
  intro t listener
  cases kind with
  | datagram => rfl
  | stream =>
    dsimp only
    rw [h.acceptOn]
    have hclose := congrArg Prod.fst (h.close (whole.acceptOn t listener).1 listener.descriptor)
    exact Prod.ext hclose rfl

theorem perform (h : whole.Covers kernel part) (t : τ) (op : Opening) :
    kernel.perform (part t) op = (whole.perform t op).map part id := by
  cases op with
  | connect path kind => exact h.connectTo t path kind
  | listen path kind backlog => exact h.listenAt t path kind backlog
  | serveOne path kind => exact h.serveOne t path kind

end Covers

def Opens (table : σ → Nat → Option ρ) (before : σ) : σ × Except IoError Nat → Prop
  | (after, .error _) => table after = table before
  | (after, .ok d) =>
    table before d = none ∧ ∃ x, table after = Function.update (table before) d (some x)

/-- What is asked of a kernel: which calls change the table of descriptors, and how. -/
structure Keeps (kernel : Kernel σ) (table : σ → Nat → Option ρ) : Prop where
  socket : ∀ s kind, Opens table s (kernel.socket s kind)
  accept : ∀ s d, Opens table s (kernel.accept s d)
  bind : ∀ s d address, table (kernel.bind s d address).1 = table s
  listen : ∀ s d backlog, table (kernel.listen s d backlog).1 = table s
  connect : ∀ s d address, table (kernel.connect s d address).1 = table s
  close : ∀ s d, table (kernel.close s d).1 = Function.update (table s) d none

end Kernel

end LocalRecords
