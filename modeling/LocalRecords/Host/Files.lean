import LocalRecords.IoError
import LocalRecords.Path

namespace LocalRecords

abbrev Place := List Bytes

inductive Node
  | directory
  | file (content : Bytes)
  /-- The name of the endpoint that was bound here, and who may use it. -/
  | socket (owner : Nat) (mode : Nat)
  deriving DecidableEq, Repr

structure Files where
  nodes : List (Place × Node) := []
  workingDirectory : Place := []

namespace Files

def at? (fs : Files) (place : Place) : Option Node :=
  if place.isEmpty then some .directory else (fs.nodes.find? (·.1 = place)).map (·.2)

def put (fs : Files) (place : Place) (node : Node) : Files :=
  { fs with nodes := (place, node) :: fs.nodes.filter fun n => n.1 ≠ place }

def remove (fs : Files) (place : Place) : Files :=
  { fs with nodes := fs.nodes.filter fun n => n.1 ≠ place }

/-- The longest name and the longest path. -/
def longestName : Nat := 255

@[inherit_doc longestName]
def longestPath : Nat := 4095

def walk (fs : Files) (place : Place) : List Bytes → Except IoError Place
  | [] => .ok place
  | name :: rest =>
    match fs.at? place with
    | none => .error .noEntry
    | some .directory =>
      if name = [] ∨ name = [Path.dot] then walk fs place rest
      else if name = [Path.dot, Path.dot] then walk fs place.dropLast rest
      else if longestName < name.length then .error .nameTooLong
      else walk fs (place ++ [name]) rest
    | some _ => .error .notADirectory

def locate (fs : Files) (path : Bytes) : Except IoError Place :=
  if path.contains 0 then
    .error (.described .invalidInput "file name contained an unexpected NUL byte")
  else if path.isEmpty then .error .noEntry
  else if longestPath < path.length then .error .nameTooLong
  else fs.walk (if Path.isAbsolute path then [] else fs.workingDirectory) (Path.names path)

/-- The place that a path names for something that is to be made there. Slashes at its end are
passed over. -/
def locateNew (fs : Files) (path : Bytes) : Except IoError Place := fs.locate (Path.stem path)

def find (fs : Files) (path : Bytes) : Except IoError Node := do
  let place ← fs.locate path
  match fs.at? place with
  | some node => return node
  | none => .error .noEntry

def contains (fs : Files) (path : Bytes) : Bool := (fs.find path).isOk

def openFile (fs : Files) (path : Bytes) : Except IoError (Option Bytes) := do
  match ← fs.find path with
  | .directory => return none
  | .file content => return some content
  | .socket .. => .error .noDevice

def read (fs : Files) (path : Bytes) : Except IoError Bytes := do
  match ← fs.openFile path with
  | some content => return content
  | none => .error .isADirectory

def unlink (fs : Files) (path : Bytes) : Except IoError Files := do
  let place ← fs.locate path
  match fs.at? place with
  | none => .error .noEntry
  | some .directory => .error .isADirectory
  | some _ => return fs.remove place

def makeDirectory (fs : Files) (path : Bytes) : Except IoError Files := do
  let place ← fs.locateNew path
  match fs.at? place with
  | none => return fs.put place .directory
  | some _ => .error .entryExists

def makeDirectoriesWithin : Nat → Files → Bytes → Except IoError Files
  | 0, _, _ => .error .nameTooLong
  | n + 1, fs, path =>
    if path.isEmpty then .ok fs
    else
      match fs.makeDirectory path with
      | .ok fs => .ok fs
      | .error e =>
        if e.kind = .notFound then
          match Path.parent? path with
          | none => .error (.described .uncategorized "failed to create whole tree")
          | some parent =>
            match makeDirectoriesWithin n fs parent with
            | .error e => .error e
            | .ok fs =>
              match fs.makeDirectory path with
              | .ok fs => .ok fs
              -- A path may end in a dot, and then its parent was the directory itself.
              | .error e => if fs.find path matches .ok .directory then .ok fs else .error e
        else if fs.find path matches .ok .directory then .ok fs
        else .error e

def makeDirectories (fs : Files) (path : Bytes) : Except IoError Files :=
  makeDirectoriesWithin (path.length + 1) fs path

def write (fs : Files) (path : Bytes) (content : Bytes) : Except IoError Files := do
  let place ← fs.locateNew path
  if Path.endsInSlash path then .error .isADirectory
  match fs.at? place with
  | some .directory => .error .isADirectory
  | some (.socket ..) => .error .noDevice
  | _ => return fs.put place (.file content)

def plant (fs : Files) (place : Place) (node : Node) : Files :=
  let above := ((List.range place.length).map place.take).filter fun p => (fs.at? p).isNone
  (above.foldl (fun fs p => fs.put p .directory) fs).put place node

def plantAt (fs : Files) (path : Bytes) (node : Node) : Files :=
  fs.plant (Path.resolve fs.workingDirectory path) node

def setMode (fs : Files) (path : Bytes) (mode : Nat) : Except IoError Files := do
  let place ← fs.locate path
  match fs.at? place with
  | some (.socket owner _) => return fs.put place (.socket owner mode)
  | some _ => return fs
  | none => .error .noEntry

def mode? (fs : Files) (path : Bytes) : Option Nat :=
  match fs.find path with
  | .ok (.socket _ mode) => some mode
  | _ => none

end Files

end LocalRecords
