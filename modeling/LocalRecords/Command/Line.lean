import LocalRecords.Settings.Basic

namespace LocalRecords.CommandLine

inductive Takes
  | nothing
  | value (accepts : String → Bool)
  | information

structure Switch where
  long : String
  letter : Option Char := none
  takes : Takes
  /-- The variable that stands in for it. -/
  standIn : Option String := none

structure Spec where
  switches : List Switch
  operands : Nat
  acceptsOperand : String → Bool

inductive Stop
  | misuse
  | information
  deriving DecidableEq, Repr

structure Given where
  values : List (String × String) := []
  operands : List String := []
  deriving DecidableEq, Repr

namespace Given

def value? (g : Given) (long : String) : Option String := g.values.lookup long

def path? (g : Given) (long : String) : Option Bytes := (g.value? long).map Utf8.encode

def has (g : Given) (long : String) : Bool := (g.value? long).isSome

def give (g : Given) (sw : Switch) (value : String) : Except Stop Given :=
  let accepted := match sw.takes with
    | .value accepts => accepts value
    | _ => true
  if g.has sw.long || !accepted then .error .misuse
  else .ok { g with values := g.values ++ [(sw.long, value)] }

end Given

/-- Whether an argument is a switch and not a value. A lone dash is a value. -/
def isSwitch (argument : String) : Bool :=
  match argument.toList with
  | '-' :: _ :: _ => true
  | _ => false

def anything (_ : String) : Bool := true

def isPath (value : String) : Bool := !value.isEmpty

def isKind (value : String) : Bool := (SocketType.parse value).isOk

def size? (value : String) : Option Nat :=
  let digits := match value.toList with
    | '+' :: cs => cs
    | cs => cs
  if digits.isEmpty || !digits.all Char.isDigit then none
  else
    let n := digits.foldl (fun acc c => 10 * acc + (c.toNat - '0'.toNat)) 0
    if n < Word.count 8 then some n else none

def splitLong : List Char → List Char × Option (List Char)
  | [] => ([], none)
  | '=' :: cs => ([], some cs)
  | c :: cs =>
    let r := splitLong cs
    (c :: r.1, r.2)

def readLong (spec : Spec) (g : Given) (cs : List Char) : Except Stop (Given × Option Switch) :=
  let (name, attached) := splitLong cs
  match spec.switches.find? (·.long = String.ofList name) with
  | none => .error .misuse
  | some sw =>
    match sw.takes, attached with
    | .value _, some v => (g.give sw (String.ofList v)).map (·, none)
    | .value _, none => .ok (g, some sw)
    | _, some _ => .error .misuse
    | .information, none => .error .information
    | .nothing, none => (g.give sw "").map (·, none)

def readLetters (spec : Spec) : Given → List Char → Except Stop (Given × Option Switch)
  | g, [] => .ok (g, none)
  | g, c :: cs =>
    match spec.switches.find? (·.letter = some c) with
    | none => .error .misuse
    | some sw =>
      match sw.takes with
      | .information => .error .information
      | .nothing =>
        match g.give sw "" with
        | .error e => .error e
        | .ok g => readLetters spec g cs
      | .value _ =>
        match cs with
        | [] => .ok (g, some sw)
        | '=' :: v => (g.give sw (String.ofList v)).map (·, none)
        | v => (g.give sw (String.ofList v)).map (·, none)

def readOperand (spec : Spec) (g : Given) (a : String) : Except Stop Given :=
  if g.operands.length < spec.operands && spec.acceptsOperand a then
    .ok { g with operands := g.operands ++ [a] }
  else .error .misuse

def readArgument (spec : Spec) (g : Given) (a : String) : Except Stop (Given × Option Switch) :=
  match a.toList with
  | '-' :: '-' :: cs => readLong spec g cs
  | '-' :: c :: cs => readLetters spec g (c :: cs)
  | _ => (readOperand spec g a).map (·, none)

def scan (spec : Spec) : List String → Given → Option Switch → Except Stop Given
  | [], g, none => .ok g
  | [], _, some _ => .error .misuse
  | a :: rest, g, some sw =>
    if isSwitch a then .error .misuse
    else
      match g.give sw a with
      | .error e => .error e
      | .ok g => scan spec rest g none
  | a :: rest, g, none =>
    if a = "--" then rest.foldlM (readOperand spec) g
    else
      match readArgument spec g a with
      | .error e => .error e
      | .ok (g, due) => scan spec rest g due

def addVariables (spec : Spec) (env : Environment) (g : Given) : Except Stop Given :=
  spec.switches.foldlM (fun g sw =>
    match sw.standIn.bind env with
    | some value => if g.has sw.long then .ok g else g.give sw value
    | none => .ok g) g

def parse (spec : Spec) (env : Environment) (arguments : List String) : Except Stop Given := do
  let g ← scan spec arguments {} none
  let g ← addVariables spec env g
  if g.operands.length = spec.operands then .ok g else .error .misuse

def commonSwitches : List Switch :=
  [{ long := "help", letter := some 'h', takes := .information },
   { long := "version", letter := some 'V', takes := .information },
   { long := "socket-path", letter := some 's', takes := .value isPath },
   { long := "config", letter := some 'c', takes := .value isPath
     standIn := some "UDSOCK_CONFIG" },
   { long := "kind", letter := some 'k', takes := .value isKind },
   { long := "log-level", letter := some 'l', takes := .value anything
     standIn := some "UDSOCK_LOG_LEVEL" }]

def overrides (g : Given) : Overrides where
  path := g.path? "socket-path"
  kind := (g.value? "kind").bind fun v => (SocketType.parse v).toOption
  backlog := (g.value? "backlog").bind Settings.parseInt32

structure Exit where
  code : Nat
  report : Option Report := none
  deriving DecidableEq, Repr

namespace Exit

def success : Exit where
  code := 0

def failure (r : Report) : Exit where
  code := 1
  report := some r

def ofStop : Stop → Exit
  | .misuse => { code := 2 }
  | .information => { code := 0 }

def text? (e : Exit) : Option String := e.report.map fun r => "Error: " ++ r.render

end Exit

def settingsFile (env : Environment) (account : Account) (g : Given) : Bytes :=
  (g.path? "config").getD (Settings.standardFile env account)

def settings (files : Files) (env : Environment) (account : Account) (g : Given) :
    Except Report Settings :=
  match Settings.load files env account (some (settingsFile env account g)) with
  | .error e => .error (.because "Failed to load configuration" e.report)
  | .ok c => .ok (c.withOverrides .commandLine (overrides g))

end LocalRecords.CommandLine
