import LocalRecords.Host.Files
import LocalRecords.Record.Decoder
import LocalRecords.Report
import LocalRecords.Settings.FileSettings
import LocalRecords.Settings.Layer
import LocalRecords.Socket.Address

/-!
The settings of the transport. Each is taken from the highest of four layers that gives it: the
command line, the environment, the configuration file, the defaults.
-/

namespace LocalRecords

inductive SettingsFault
  | emptyPath
  | longPath (len : Nat)
  | negativeBacklog (backlog : Int32)
  | emptyReadBuffer
  | limitTooLarge (name : String) (value : UInt64)
  deriving DecidableEq, Repr

def SettingsFault.message : SettingsFault → String
  | emptyPath => "socket_path must not be empty"
  | longPath len => s!"socket_path is {len} bytes, limit is {Address.longest}"
  | negativeBacklog backlog => s!"backlog must not be negative, got {backlog.toInt}"
  | emptyReadBuffer => "read_buffer_size must be greater than zero"
  | limitTooLarge name value => s!"{name} is {value.toNat}, limit is {Limits.maxLimit}"

inductive SettingsFailure
  | unreadable (path : Bytes) (source : IoError)
  | malformed
  | invalid (fault : SettingsFault)
  deriving DecidableEq, Repr

def notADocument : String := "TOML parse error"

def SettingsFailure.message : SettingsFailure → String
  | unreadable path source =>
    "Failed to read config file at " ++ Utf8.display path ++ ": " ++ source.message
  | malformed => "Failed to parse TOML config: " ++ notADocument
  | invalid fault => "Invalid configuration: " ++ fault.message

def SettingsFailure.report (e : SettingsFailure) : Report where
  message := e.message
  causes := match e with
    | unreadable _ source => [source.message]
    | malformed => [notADocument]
    | invalid _ => []

structure Settings where
  path : Bytes
  kind : SocketType := .standard
  backlog : Int32 := 16
  readSize : UInt64 := 65536
  limits : Limits := {}
  file : Option Bytes := none
  /-- The highest layer that was applied. -/
  source : Layer := .standard
  deriving DecidableEq, Repr

namespace Settings

def directoryOf (env : Environment) (name : String) : Option Bytes :=
  (env name).map Utf8.encode |>.filter Path.isAbsolute

def below (directory : Bytes) (file : String) : Bytes :=
  Path.join (Path.join directory (Utf8.encode "udsock")) (Utf8.encode file)

/-- The socket path where none is set: in the directory for the time of a session, else in one of
the account's own for temporary files. -/
def standardPath (env : Environment) (account : Account) : Bytes :=
  match directoryOf env "XDG_RUNTIME_DIR" with
  | some directory => below directory "udsock.sock"
  | none => Utf8.encode s!"/tmp/udsock-{account.uid}/udsock.sock"

def home (env : Environment) (account : Account) : Bytes :=
  match (env "HOME").map Utf8.encode with
  | none => account.home
  | some directory => if directory.isEmpty then account.home else directory

def standardFile (env : Environment) (account : Account) : Bytes :=
  let directory := (directoryOf env "XDG_CONFIG_HOME").getD
    (Path.join (home env account) (Utf8.encode ".config"))
  below directory "udsock.toml"

def standard (env : Environment) (account : Account) : Settings where
  path := standardPath env account

def withFile (c : Settings) (path : Bytes) (s : FileSettings) : Settings where
  path := s.path.getD c.path
  kind := s.kind.getD c.kind
  backlog := s.backlog.getD c.backlog
  readSize := s.readSize.getD c.readSize
  limits :=
    { payload := s.payloadLimit.getD c.limits.payload
      metadata := s.metadataLimit.getD c.limits.metadata }
  file := some path
  source := .file

def parseInt32 (s : String) : Option Int32 := do
  let (negative, digits) := match s.toList with
    | '-' :: cs => (true, cs)
    | '+' :: cs => (false, cs)
    | cs => (false, cs)
  if digits.isEmpty || !digits.all Char.isDigit then none
  let size := digits.foldl (fun acc c => 10 * acc + (c.toNat - '0'.toNat)) 0
  Word.int32? (if negative then -size else size)

def ofEnvironment (env : Environment) : Overrides where
  path := (env "UDSOCK_SOCKET").map Utf8.encode |>.filter (!·.isEmpty)
  kind := (env "UDSOCK_KIND").bind fun s => (SocketType.parse s).toOption
  backlog := (env "UDSOCK_BACKLOG").bind parseInt32

def withOverrides (c : Settings) (layer : Layer) (o : Overrides) : Settings :=
  { c with
    path := o.path.getD c.path
    kind := o.kind.getD c.kind
    backlog := o.backlog.getD c.backlog
    source := if o.isSet then layer else c.source }

def readFile (files : Files) (path : Bytes) : Except SettingsFailure (Option FileSettings) :=
  -- A path that leads nowhere is one without a file, whatever the reason.
  if files.contains path then
    match files.read path with
    | .error e => .error (.unreadable path e)
    | .ok bytes =>
      match Utf8.text? bytes with
      | none =>
        .error (.unreadable path (.described .invalidData "stream did not contain valid UTF-8"))
      | some text =>
        match FileSettings.parse text with
        | none => .error .malformed
        | some settings => .ok (some settings)
  else .ok none

/-- The settings of all layers below the command line. Without a path no file is read, and a file
that is not there sets nothing. -/
def load (files : Files) (env : Environment) (account : Account) (path : Option Bytes) :
    Except SettingsFailure Settings := do
  let base := standard env account
  let settings ← match path with
    | none => pure base
    | some path => do
      match ← readFile files path with
      | none => pure base
      | some settings => pure (base.withFile path settings)
  return settings.withOverrides .environment (ofEnvironment env)

def fault? (c : Settings) : Option SettingsFault :=
  if c.path.isEmpty then some .emptyPath
  else if c.path.length > Address.longest then some (.longPath c.path.length)
  else if c.backlog < 0 then some (.negativeBacklog c.backlog)
  else if c.readSize = 0 then some .emptyReadBuffer
  else if c.limits.payload.toNat > Limits.maxLimit then
    some (.limitTooLarge "max_payload_len" c.limits.payload)
  else if c.limits.metadata.toNat > Limits.maxLimit then
    some (.limitTooLarge "max_metadata_len" c.limits.metadata)
  else none

def validate (c : Settings) : Except SettingsFailure Unit :=
  match c.fault? with
  | some fault => .error (.invalid fault)
  | none => .ok ()

end Settings

end LocalRecords
