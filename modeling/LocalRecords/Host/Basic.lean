import LocalRecords.Failure
import LocalRecords.Host.Endpoint
import LocalRecords.Host.Files

namespace LocalRecords

structure OpenFile where
  content : Bytes
  offset : Nat := 0
  isReadable : Bool := true
  deriving DecidableEq, Repr

structure Host where
  files : Files := {}
  endpoints : List (Nat × Endpoint) := []
  openFiles : List (Nat × OpenFile) := []
  descriptors : List (Nat × Resource) := []
  fresh : Nat := 0
  /-- The calls that the system refuses whatever their arguments. -/
  refuse : Step → Option IoError := fun _ => none

namespace Host

def endpoint? (h : Host) (id : Nat) : Option Endpoint := h.endpoints.lookup id

def setEndpoint (h : Host) (id : Nat) (e : Endpoint) : Host :=
  { h with endpoints := h.endpoints.map fun p => if p.1 = id then (id, e) else p }

def modifyEndpoint (h : Host) (id : Nat) (f : Endpoint → Endpoint) : Host :=
  match h.endpoint? id with
  | some e => h.setEndpoint id (f e)
  | none => h

def addEndpoint (h : Host) (e : Endpoint) : Host × Nat :=
  ({ h with endpoints := (h.fresh, e) :: h.endpoints, fresh := h.fresh + 1 }, h.fresh)

def addFile (h : Host) (f : OpenFile) : Host × Nat :=
  ({ h with openFiles := (h.fresh, f) :: h.openFiles, fresh := h.fresh + 1 }, h.fresh)

def resource? (h : Host) (descriptor : Nat) : Option Resource := h.descriptors.lookup descriptor

/-- A descriptor above all that are in use; the first three are never free. -/
def freshDescriptor (h : Host) : Nat := (h.descriptors.map (·.1)).foldr max 2 + 1

def install (h : Host) (r : Resource) : Host × Nat :=
  ({ h with descriptors := (h.freshDescriptor, r) :: h.descriptors }, h.freshDescriptor)

def installAll (h : Host) : List Resource → Host × List Nat
  | [] => (h, [])
  | r :: rs =>
    let (h, d) := h.install r
    let (h, ds) := installAll h rs
    (h, d :: ds)

def socket? (h : Host) (descriptor : Nat) : Except IoError (Nat × Endpoint) :=
  match h.resource? descriptor with
  | none => .error .badDescriptor
  | some (.file _) => .error .notASocket
  | some (.endpoint id) =>
    match h.endpoint? id with
    | none => .error .badDescriptor
    | some e => .ok (id, e)

def file? (h : Host) (descriptor : Nat) : Option (Nat × OpenFile) :=
  match h.resource? descriptor with
  | some (.file id) => (h.openFiles.lookup id).map (id, ·)
  | _ => none

def leavePeer (h : Host) (e : Endpoint) (unread : Bool) : Host :=
  match e.kind, e.peer with
  | .stream, some p => h.modifyEndpoint p fun o =>
      { o with readShut := true, writeShut := true, isReset := o.isReset || unread }
  | _, _ => h

/-- Takes an endpoint away. One that nobody accepted leaves everything unread. -/
def drop (h : Host) (id : Nat) (isAccepted : Bool) : Host :=
  match h.endpoint? id with
  | none => h
  | some e =>
    { h with endpoints := h.endpoints.filter fun p => p.1 ≠ id }.leavePeer e
      (!isAccepted || !e.inbox.isEmpty)

def release (h : Host) (id : Nat) : Host :=
  match h.endpoint? id with
  | none => h
  | some e => e.waiting.foldl (fun h w => h.drop w false) (h.drop id true)

def refersTo (h : Host) (r : Resource) : Bool := h.descriptors.any fun d => d.2 = r

def close (h : Host) (descriptor : Nat) : Host :=
  match h.resource? descriptor with
  | none => h
  | some r =>
    let h := { h with descriptors := h.descriptors.filter fun d => d.1 ≠ descriptor }
    match r with
    | .endpoint id => if h.refersTo r then h else h.release id
    | .file _ => h

def closeAll (h : Host) (descriptors : List Nat) : Host := descriptors.foldl close h

def onFiles (h : Host) (change : Files → Except IoError Files) : Host × Except IoError Unit :=
  match change h.files with
  | .error e => (h, .error e)
  | .ok files => ({ h with files := files }, .ok ())

def unlink (h : Host) (path : Bytes) : Host × Except Failure Unit :=
  let r := h.onFiles fun fs => fs.unlink path
  (r.1, r.2.mapError (.refused .unlink))

def openFile (h : Host) (file : OpenFile) : Host × Nat :=
  let r := h.addFile file
  r.1.install (.file r.2)

end Host

end LocalRecords
