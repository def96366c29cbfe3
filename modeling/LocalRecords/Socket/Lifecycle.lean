import LocalRecords.Failure
import LocalRecords.Socket.Address
import LocalRecords.Socket.SocketType

/-!
How sockets come to be, over whatever kernel: made, bound, listening, connected, accepted. An
operation makes its calls in order up to the first that is refused. The error names that call, and
the socket that the operation made by then is closed.
-/

namespace LocalRecords

structure Socket where
  descriptor : Nat
  kind : SocketType
  deriving DecidableEq, Repr

/-- The calls by which sockets come to be, with a state `σ` of the kernel. Accepting waits for
others, and goes on where it is interrupted. -/
structure Kernel (σ : Type) where
  socket : σ → SocketType → σ × Except IoError Nat
  bind : σ → Nat → Address → σ × Except IoError Unit
  listen : σ → Nat → Int32 → σ × Except IoError Unit
  accept : σ → Nat → σ × Except IoError Nat
  connect : σ → Nat → Address → σ × Except IoError Unit
  /-- The descriptor is free afterwards even if the call fails. -/
  close : σ → Nat → σ × Except IoError Unit

def onOk {σ α β : Type} (r : σ × Except Failure α) (next : σ → α → σ × Except Failure β) :
    σ × Except Failure β :=
  match r with
  | (s, .error e) => (s, .error e)
  | (s, .ok a) => next s a

namespace Kernel

variable {σ : Type} (kernel : Kernel σ)

def made (step : Step) (kind : SocketType) (r : σ × Except IoError Nat) :
    σ × Except Failure Socket :=
  (r.1, match r.2 with
    | .error e => .error (.refused step e)
    | .ok d => .ok ⟨d, kind⟩)

/-- What becomes of a socket that nobody knows of yet after a call on it. A refused one closes it,
and whether that fails is not told. -/
def orClose (step : Step) (socket : Socket) (r : σ × Except IoError Unit) :
    σ × Except Failure Socket :=
  match r with
  | (s, .error e) => ((kernel.close s socket.descriptor).1, .error (.refused step e))
  | (s, .ok ()) => (s, .ok socket)

def create (s : σ) (kind : SocketType) : σ × Except Failure Socket :=
  made .create kind (kernel.socket s kind)

def listenAt (s : σ) (path : Bytes) (kind : SocketType) (backlog : Int32) :
    σ × Except Failure Socket :=
  match Address.ofPath path with
  | .error e => (s, .error e)
  | .ok address =>
    onOk (kernel.create s kind) fun s socket =>
      onOk (kernel.orClose .bind socket (kernel.bind s socket.descriptor address)) fun s socket =>
        if kind.connects then
          kernel.orClose .listen socket (kernel.listen s socket.descriptor backlog)
        else (s, .ok socket)

def acceptOn (s : σ) (listener : Socket) : σ × Except Failure Socket :=
  if listener.kind.connects then
    made .accept listener.kind (kernel.accept s listener.descriptor)
  else (s, .error (.unsupported .acceptOnDatagram))

def connectTo (s : σ) (path : Bytes) (kind : SocketType) : σ × Except Failure Socket :=
  match Address.ofPath path with
  | .error e => (s, .error e)
  | .ok address =>
    onOk (kernel.create s kind) fun s socket =>
      kernel.orClose .connect socket (kernel.connect s socket.descriptor address)

def serveOne (s : σ) (path : Bytes) (kind : SocketType) : σ × Except Failure Socket :=
  onOk (kernel.listenAt s path kind 0) fun s listener =>
    match kind with
    | .datagram => (s, .ok listener)
    | .stream =>
      let r := kernel.acceptOn s listener
      ((kernel.close r.1 listener.descriptor).1, r.2)

end Kernel

end LocalRecords
