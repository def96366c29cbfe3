import LocalRecords.Command.Daemon
import LocalRecords.Command.Send

namespace LocalRecords.Trial

structure Caught where
  connected : Bool := false
  bytes : Bytes := []
  descriptors : List Nat := []
  deriving DecidableEq, Repr

def collect (h : Host) (listener : Socket) : Host × Caught :=
  match listener.kind with
  | .stream =>
    match Socket.accept h listener with
    | (h, .error _) => (h, {})
    | (h, .ok s) =>
      let (h, bytes, descriptors) := Socket.receiveAll h s
      (h, ⟨true, bytes, descriptors⟩)
  | .datagram =>
    let (h, bytes, descriptors) := Socket.receiveAll h listener
    (h, ⟨!bytes.isEmpty || !descriptors.isEmpty, bytes, descriptors⟩)

def backlog : Int32 := 8

def send (h : Host) (env : Environment) (account : Account) (arguments : List String)
    (input : Bytes) (at? : Option (Bytes × SocketType)) : Host × CommandLine.Exit × Caught :=
  match at? with
  | none =>
    let (h, exit) := SendCommand.run h env account arguments input
    (h, exit, {})
  | some (path, kind) =>
    match Socket.listen h path kind backlog with
    | (h, .error _) =>
      let (h, exit) := SendCommand.run h env account arguments input
      (h, exit, {})
    | (h, .ok listener) =>
      let (h, exit) := SendCommand.run h env account arguments input
      let (h, caught) := collect h listener
      (h, exit, caught)

structure Visit where
  isUp : Bool := false
  kind : Option SocketType := none
  closed : Option Bool := none
  deriving DecidableEq, Repr

def connect (h : Host) (path : Bytes) : Host × Option Socket :=
  match Socket.connect h path .stream with
  | (h, .ok s) => (h, some s)
  | (h, .error _) =>
    let (h, s) := Socket.connect h path .datagram
    (h, s.toOption)

def visit (h : Host) (service : Service) (path data : Bytes) : Host × Service × Visit :=
  if h.files.mode? path = some Service.mode then
    match connect h path with
    | (h, none) => (h, service, { isUp := true })
    | (h, some s) =>
      let sent := s.sink.sendParts h [data] none
      match s.kind with
      | .datagram =>
        let (h, service) := service.work sent.state
        (h, service, { isUp := true, kind := some s.kind })
      | .stream =>
        let (h, _) := Socket.endWriting sent.state s
        let (h, service) := service.work h
        let (h, ended) := Socket.hasEnded h s
        (h, service, { isUp := true, kind := some s.kind, closed := some ended })
  else (h, service, {})

def daemon (h : Host) (env : Environment) (account : Account) (arguments : List String)
    (path data : Bytes) : Host × CommandLine.Exit × Visit × List Handled :=
  match DaemonCommand.start h env account arguments with
  | (h, .error exit) => (h, exit, {}, [])
  | (h, .ok service) =>
    let (h, service, seen) := visit h service path data
    let (h, service, exit) := DaemonCommand.stop h service
    (h, exit, seen, service.handled)

end LocalRecords.Trial
