import LocalRecords.Command.Line
import LocalRecords.Message.Script
import LocalRecords.Record.Emission
import LocalRecords.Socket.Receive

namespace LocalRecords.SendCommand

open CommandLine

def type? (operand : String) : Option RecordType := (RecordType.parse operand).toOption

def spec : Spec where
  switches := commonSwitches ++
    [{ long := "payload", letter := some 'p', takes := .value isPath },
     { long := "metadata", letter := some 'm', takes := .value isPath },
     { long := "send-buffer", takes := .value fun v => (size? v).isSome },
     { long := "stream", takes := .nothing }]
  operands := 1
  acceptsOperand a := (type? a).isSome

structure Request where
  type : RecordType
  given : Given

def request (env : Environment) (arguments : List String) : Except Stop Request := do
  let g ← parse spec env arguments
  match g.operands.head?.bind type? with
  | none => .error .misuse
  | some type => if g.has "stream" && !g.has "payload" then .error .misuse else .ok ⟨type, g⟩

def Request.readsInput (r : Request) : Bool := r.type ≠ .passedJournal && !r.given.has "payload"

def directorySize : Nat := 4096

def openFile (files : Files) (path : Bytes) : Except Report (Option Bytes) :=
  (files.openFile path).mapError fun e =>
    .because ("Failed to open " ++ Utf8.display path) (.ofIo e)

def readFile (files : Files) (path : Bytes) : Except Report Bytes := do
  match ← openFile files path with
  | some content => .ok content
  | none => .error (.because ("Failed to read " ++ Utf8.display path) (.ofIo .isADirectory))

def sendBehind (h : Host) (s : Socket) (content : Option Bytes) (metadata : Bytes) :
    Host × Except Report Unit :=
  let len := (content.map List.length).getD directorySize
  let record := Record.behindDescriptor (UInt64.ofNat len) metadata
  let opened := h.openFile { content := content.getD [], isReadable := content.isSome }
  let sent := s.sink.emitWith opened.1 record [UInt32.ofNat opened.2]
  (sent.state.close opened.2, (sent.outcome.mapError .ofTransport).map fun _ => ())

def sendStreaming (h : Host) (s : Socket) (type : RecordType) (content : Option Bytes)
    (metadata : Bytes) : Host × Except Report Unit :=
  let len := (content.map List.length).getD directorySize
  let supply := match content with
    | some bytes => [Script.Supply.data bytes]
    | none => [.fail .isADirectory]
  let sent := s.sink.emitFrom Script.source h supply type (UInt64.ofNat len) metadata
  (sent.state, (sent.outcome.mapError .ofTransport).map fun _ => ())

def sendInline (h : Host) (s : Socket) (type : RecordType) (payload metadata : Bytes) :
    Host × Except Report Unit :=
  let sent := s.sink.emit h (.inline type payload metadata)
  (sent.state, (sent.outcome.mapError .ofTransport).map fun _ => ())

def send (h : Host) (s : Socket) (r : Request) (input metadata : Bytes) :
    Host × Except Report Unit :=
  let payload := r.given.path? "payload"
  match r.type, payload with
  | .passedJournal, none =>
    (h, .error { message := "journal-fd records need --payload naming the journal file" })
  | .passedJournal, some path =>
    match openFile h.files path with
    | .error e => (h, .error e)
    | .ok content => sendBehind h s content metadata
  | type, some path =>
    if r.given.has "stream" then
      match openFile h.files path with
      | .error e => (h, .error e)
      | .ok content => sendStreaming h s type content metadata
    else
      match readFile h.files path with
      | .error e => (h, .error e)
      | .ok bytes => sendInline h s type bytes metadata
  | type, none => sendInline h s type input metadata

def setRoom (h : Host) (s : Socket) (r : Request) : Host × Except Report Unit :=
  match (r.given.value? "send-buffer").bind size? with
  | none => (h, .ok ())
  | some bytes =>
    let set := Socket.setSendRoom h s bytes
    (set.1, set.2.mapError fun e => .because "Failed to set send buffer size" (.ofTransport e))

def prepare (files : Files) (env : Environment) (account : Account) (r : Request) :
    Except Report (Settings × Bytes) := do
  let settings ← settings files env account r.given
  let metadata ← match r.given.path? "metadata" with
    | none => pure []
    | some path => readFile files path
  return (settings, metadata)

def perform (h : Host) (settings : Settings) (r : Request) (input metadata : Bytes) : Host × Exit :=
  match Socket.connect h settings.path settings.kind with
  | (h, .error e) =>
    let message := "Failed to connect to " ++ Utf8.display settings.path
    (h, .failure (.because message (.ofTransport e)))
  | (h, .ok s) =>
    let sent : Host × Except Report Unit :=
      match setRoom h s r with
      | (h, .error e) => (h, .error e)
      | (h, .ok ()) => send h s r input metadata
    let closed := Socket.close sent.1 s
    (closed.1, match sent.2, closed.2 with
      | .error e, _ => .failure e
      | .ok (), .error e => .failure (.ofTransport e)
      | .ok (), .ok () => .success)

def run (h : Host) (env : Environment) (account : Account) (arguments : List String)
    (input : Bytes) : Host × Exit :=
  match request env arguments with
  | .error stop => (h, .ofStop stop)
  | .ok r =>
    match prepare h.files env account r with
    | .error e => (h, .failure e)
    | .ok (settings, metadata) => perform h settings r input metadata

end LocalRecords.SendCommand
