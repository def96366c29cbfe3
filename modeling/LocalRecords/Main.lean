import LocalRecords.Command.Trial

namespace LocalRecords.Main

open CommandLine

partial def readRest (stream : IO.FS.Stream) (sofar : ByteArray) : IO ByteArray := do
  let bytes ← stream.read 65536
  if bytes.isEmpty then return sofar else readRest stream (sofar ++ bytes)

def readInput : IO Bytes := do
  return (← readRest (← IO.getStdin) .empty).toList

def variableNames : List String :=
  ["HOME", "XDG_CONFIG_HOME", "XDG_RUNTIME_DIR", "UDSOCK_SOCKET", "UDSOCK_KIND", "UDSOCK_BACKLOG",
   "UDSOCK_CONFIG", "UDSOCK_LOG_LEVEL"]

def readEnvironment : IO Environment := do
  let values ← variableNames.mapM fun name => do return (name, ← IO.getEnv name)
  return fun name => (values.lookup name).join

def uid? (status : String) : Option Nat :=
  (status.splitOn "\n").findSome? fun line =>
    match line.splitOn "\t" with
    | "Uid:" :: real :: _ => real.toNat?
    | _ => none

def readAccount : IO Account := do
  let status ← try IO.FS.readFile "/proc/self/status" catch _ => pure ""
  return { uid := (uid? status).getD 0, home := Utf8.encode "/" }

def readFiles (env : Environment) (account : Account) (g : Given) : IO Files := do
  let here ← IO.currentDir
  let mut fs : Files := { workingDirectory := Path.resolve [] (Utf8.encode here.toString) }
  fs := fs.plant fs.workingDirectory .directory
  for path in settingsFile env account g :: ["payload", "metadata"].filterMap g.path? do
    try
      fs := fs.plantAt path (.file (← IO.FS.readBinFile (Utf8.display path)).toList)
    catch _ => pure ()
  return fs

def leave (exit : Exit) : IO UInt32 := do
  if let some text := exit.text? then IO.eprintln text
  return .ofNat exit.code

def send (env : Environment) (account : Account) (arguments : List String) : IO UInt32 := do
  match SendCommand.request env arguments with
  | .error stop => leave (.ofStop stop)
  | .ok r =>
    let mut files ← readFiles env account r.given
    let input ← if r.readsInput then readInput else pure []
    let target := (settings files env account r.given).toOption.map fun c => (c.path, c.kind)
    if let some parent := target.bind (Path.parent? ·.1) then
      files := files.plantAt parent .directory
    let (_, exit, caught) := Trial.send { files := files } env account arguments input target
    let output ← IO.getStdout
    output.write ⟨caught.bytes.toArray⟩
    output.flush
    leave exit

def line (r : Handled) : String :=
  s!"{r.connection.name} {r.record.header.type.name} " ++
    s!"{r.record.payload.length} {r.record.metadata.length}"

def daemon (env : Environment) (account : Account) (arguments : List String) : IO UInt32 := do
  match parse DaemonCommand.spec env arguments with
  | .error stop => leave (.ofStop stop)
  | .ok g =>
    let files ← readFiles env account g
    let path := (settings files env account g).toOption.elim [] (·.path)
    let (_, exit, _, handled) :=
      Trial.daemon { files := files } env account arguments path (← readInput)
    for r in handled do IO.println (line r)
    leave exit

end LocalRecords.Main

def main (arguments : List String) : IO UInt32 := do
  let env ← LocalRecords.Main.readEnvironment
  let account ← LocalRecords.Main.readAccount
  match arguments with
  | "send" :: rest => LocalRecords.Main.send env account rest
  | "daemon" :: rest => LocalRecords.Main.daemon env account rest
  | _ =>
    IO.eprintln "expected: send ARGUMENTS, or daemon ARGUMENTS"
    return 2
