import LocalRecords.Command.Line
import LocalRecords.Server.Service

namespace LocalRecords.DaemonCommand

open CommandLine

def spec : Spec where
  switches := commonSwitches ++
    [{ long := "backlog", letter := some 'b'
       takes := .value fun v => (Settings.parseInt32 v).isSome }]
  operands := 0
  acceptsOperand _ := false

def checkedSettings (files : Files) (env : Environment) (account : Account) (g : Given) :
    Except Report Settings := do
  let settings ← settings files env account g
  match settings.validate with
  | .error e => .error (.because "Invalid configuration" e.report)
  | .ok () => .ok settings

def start (h : Host) (env : Environment) (account : Account) (arguments : List String) :
    Host × Except Exit Service :=
  match parse spec env arguments with
  | .error stop => (h, .error (.ofStop stop))
  | .ok g =>
    match checkedSettings h.files env account g with
    | .error e => (h, .error (.failure e))
    | .ok settings =>
      let r := Service.start h settings account.uid
      (r.1, r.2.mapError fun fault => .failure fault.report)

def stop (h : Host) (service : Service) : Host × Service × Exit :=
  let r := service.stop h
  (r.1, r.2.1, match r.2.2 with
    | .error fault => .failure fault.report
    | .ok () => .success)

end LocalRecords.DaemonCommand
