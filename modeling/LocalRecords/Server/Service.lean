import LocalRecords.Report
import LocalRecords.Server.Basic
import LocalRecords.Settings.Basic
import LocalRecords.Socket.Receive

namespace LocalRecords

structure Handled where
  connection : ConnectionNumber
  record : WireRecord
  journal : Option OpenFile
  deriving DecidableEq, Repr

inductive ServiceFault
  | directory (path : Bytes) (source : IoError)
  | stale (path : Bytes) (source : Failure)
  | listen (path : Bytes) (source : Failure)
  | bind (path : Bytes) (source : Failure)
  | permissions (path : Bytes) (source : IoError)
  | cleanup (path : Bytes) (source : Failure)
  deriving DecidableEq, Repr

def ServiceFault.report : ServiceFault → Report
  | directory path source =>
    .because ("Failed to create socket directory: " ++ Text.quote path) (.ofIo source)
  | stale path source =>
    .because ("Failed to remove stale socket: " ++ Text.quote path) (.ofTransport source)
  | listen path source => .because ("Failed to listen on " ++ Text.quote path) (.ofTransport source)
  | bind path source => .because ("Failed to bind " ++ Text.quote path) (.ofTransport source)
  | permissions path source =>
    .because ("Failed to set permissions on " ++ Text.quote path) (.ofIo source)
  | cleanup path source =>
    .because ("Failed to remove socket: " ++ Text.quote path) (.ofTransport source)

variable {σ η : Type}

def handleEach {α : Type} (handle : σ → α → σ × η) (s : σ) : List α → σ × List η
  | [] => (s, [])
  | a :: more =>
    let first := handle s a
    let rest := handleEach handle first.1 more
    (rest.1, first.2 :: rest.2)

/-- Takes one datagram and has the records in it handled. Descriptors that no record claims are
closed. -/
def Receiver.serveDatagram (receiver : Receiver σ) (handle : σ → Delivery Nat → σ × η)
    (settings : Settings) (s : σ) : σ × List η :=
  match receiver.receiveInto .datagram s settings.readSize.toNat Server.maxDescriptorsPerRead with
  | (s', .error _) => (s', [])
  | (s', .ok r) =>
    match r.reading with
    | .ended => (receiver.closeAll s' r.descriptors, [])
    | .data 0 => (receiver.closeAll s' r.descriptors, [])
    | .data _ =>
      let handover := Connection.ofDatagram settings.limits r.bytes r.descriptors
      let handled := handleEach handle s' handover.deliveries
      (receiver.closeAll handled.1 handover.connection.queue, handled.2)

def Host.readAnnounced (h : Host) (d : Nat) (len : Nat) : Host :=
  match h.file? d with
  | none => h
  | some (id, f) =>
    if f.isReadable then
      let f := { f with offset := min (f.offset + len) (max f.offset f.content.length) }
      { h with openFiles := h.openFiles.map fun p => if p.1 = id then (id, f) else p }
    else h

structure Service where
  settings : Settings
  socket : Socket
  table : Server Nat
  sockets : List (ConnectionNumber × Socket) := []
  handled : List Handled := []

namespace Service

def mode : Nat := 0o600

def prepare (h : Host) (path : Bytes) : Host × Except ServiceFault Unit :=
  let made : Except ServiceFault Files :=
    match Path.parent? path with
    | none => .ok h.files
    | some parent =>
      if parent.isEmpty || h.files.contains parent then .ok h.files
      else (h.files.makeDirectories parent).mapError (.directory parent)
  match made with
  | .error e => (h, .error e)
  | .ok files =>
    let h := { h with files := files }
    if h.files.contains path then
      let r := h.unlink path
      (r.1, r.2.mapError (.stale path))
    else (h, .ok ())

def cleanUp (h : Host) (path : Bytes) : Host × Except ServiceFault Unit :=
  if h.files.contains path then
    let r := h.unlink path
    (r.1, r.2.mapError (.cleanup path))
  else (h, .ok ())

def firstNumber : ConnectionNumber := 1

def bind (h : Host) (settings : Settings) : Host × Except ServiceFault Socket :=
  let fault := match settings.kind with
    | .stream => ServiceFault.listen settings.path
    | .datagram => ServiceFault.bind settings.path
  match Socket.listen h settings.path settings.kind settings.backlog with
  | (h, .error e) => (h, .error (fault e))
  | (h, .ok s) =>
    match h.files.setMode settings.path mode with
    | .ok files => ({ h with files := files }, .ok s)
    | .error e => (h.close s.descriptor, .error (.permissions settings.path e))

def start (h : Host) (settings : Settings) (user : Nat) : Host × Except ServiceFault Service :=
  match prepare h settings.path with
  | (h, .error e) => (h, .error e)
  | (h, .ok ()) =>
    match bind h settings with
    | (h, .error e) => ((cleanUp h settings.path).1, .error e)
    | (h, .ok s) =>
      let table : Server Nat := { limits := settings.limits, owner := user }
      (h, .ok { settings := settings, socket := s, table := table })

def handle (h : Host) (id : ConnectionNumber) (d : Delivery Nat) : Host × Handled :=
  match d.journal with
  | none => (h, ⟨id, d.record, none⟩)
  | some descriptor =>
    let h := h.readAnnounced descriptor d.record.header.payloadLen.toNat
    (h.close descriptor, ⟨id, d.record, (h.file? descriptor).map (·.2)⟩)

def handleAll (h : Host) (sv : Service) (ds : List (ConnectionNumber × Delivery Nat)) :
    Host × Service :=
  let r := handleEach (fun h d => handle h d.1 d.2) h ds
  (r.1, { sv with handled := sv.handled ++ r.2 })

/-- The work that an event of the table makes: records are handled, and connections that the table
gave up are closed with the descriptors they still have. -/
def apply (h : Host) (sv : Service) (e : Server.Event Nat) : Host × Service :=
  let outcome := sv.table.step e
  let (h, sv) := handleAll h { sv with table := outcome.server } outcome.deliveries
  let (kept, gone) := sv.sockets.partition fun s => (outcome.server.find? s.1).isSome
  let closed := gone.map (fun s => s.2.descriptor) ++ outcome.unclaimed
  (h.closeAll closed, { sv with sockets := kept })

def takeConnection (h : Host) (sv : Service) : Host × Service :=
  match Socket.accept h sv.socket with
  | (h, .error _) => apply h sv .acceptFailed
  | (h, .ok s) =>
    -- Every process on the host is of one user, so it is the owner if it is known at all.
    let user := if (Socket.knowsPeer h s).toOption = some true then some sv.table.owner else none
    let id := sv.table.nextNumber
    let taken := sv.table.takesUp user
    let (h, sv) := apply h sv (.arrived user true)
    if taken then (h, { sv with sockets := sv.sockets ++ [(id, s)] })
    else (h.close s.descriptor, sv)

def read (h : Host) (sv : Service) (id : ConnectionNumber) (s : Socket) : Host × Service :=
  match Socket.receive h s sv.settings.readSize.toNat Server.maxDescriptorsPerRead with
  | (h, .error _) => apply h sv (.ended id)
  | (h, .ok r) =>
    match r.reading with
    | .ended => apply (h.closeAll r.descriptors) sv (.ended id)
    | .data _ => apply h sv (.received id r.bytes r.descriptors)

def readDatagram (h : Host) (sv : Service) : Host × Service :=
  let r := sv.socket.receiver.serveDatagram (fun h d => handle h firstNumber d) sv.settings h
  (r.1, { sv with handled := sv.handled ++ r.2 })

def work? (h : Host) (sv : Service) : Option (Host × Service) :=
  if sv.settings.kind.connects then
    if h.isReadable sv.socket.descriptor then some (takeConnection h sv)
    else
      (sv.sockets.find? fun s => h.isReadable s.2.descriptor).map fun s => read h sv s.1 s.2
  else if h.isReadable sv.socket.descriptor then some (readDatagram h sv)
  else none

def workWithin : Nat → Host → Service → Host × Service
  | 0, h, sv => (h, sv)
  | n + 1, h, sv =>
    match work? h sv with
    | none => (h, sv)
    | some (h, sv) => workWithin n h sv

/-- No less than the steps that there are to do: each takes a connection, a datagram, a byte at
least, or comes to the end of a connection. -/
def steps (h : Host) : Nat :=
  sumOf (fun e => e.2.pendingReads + e.2.waiting.length + 2) h.endpoints

def work (h : Host) (sv : Service) : Host × Service := workWithin (steps h) h sv

/-- Stops: connections are read to what has come, then closed, and the socket is removed. -/
def stop (h : Host) (sv : Service) : Host × Service × Except ServiceFault Unit :=
  let (h, sv) := work h sv
  let (h, sv) := apply h sv .stopped
  let h := h.close sv.socket.descriptor
  let h := sv.sockets.foldl (fun h s => (Socket.endReading h s.2).1) h
  -- A connection that is shut for reading comes to its end.
  let (h, sv) := sv.sockets.foldl (fun (r : Host × Service) s => apply r.1 r.2 (.ended s.1)) (h, sv)
  let (h, result) := cleanUp h sv.settings.path
  (h, sv, result)

end Service

end LocalRecords
