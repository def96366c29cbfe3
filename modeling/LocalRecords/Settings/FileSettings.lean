import LocalRecords.Socket.SocketType
import LocalRecords.Text.Utf8
import LocalRecords.Toml.Document

namespace LocalRecords

structure FileSettings where
  path : Option Bytes := none
  kind : Option SocketType := none
  backlog : Option Int32 := none
  readSize : Option UInt64 := none
  payloadLimit : Option UInt64 := none
  metadataLimit : Option UInt64 := none
  deriving DecidableEq, Repr

namespace FileSettings

open Toml (Item Entries)

def pathOf : Item → Option Bytes
  | .text s => some (Utf8.encode s)
  | _ => none

def kindOfName : String → Option SocketType
  | "stream" => some .stream
  | "datagram" => some .datagram
  | _ => none

def isEmptyItem : Item → Bool
  | .array [] => true
  | .table _ [] => true
  | .tables [] => true
  | _ => false

/-- A kind of socket: its name, or a table whose key it is. Braces hold no other key. -/
def kindOf : Item → Option SocketType
  | .text s => kindOfName s
  | .table origin entries =>
    match entries with
    | [] => none
    | (name, item) :: rest =>
      if isEmptyItem item && (!origin.isInline || rest.isEmpty) then kindOfName name else none
  | _ => none

def int32Of : Item → Option Int32
  | .integer n => Word.int32? n
  | _ => none

def uint64Of : Item → Option UInt64
  | .integer n => if 0 ≤ n then some (UInt64.ofNat n.toNat) else none
  | _ => none

def optionally {α : Type} (f : Item → Option α) : Option Item → Option (Option α)
  | none => some none
  | some item => (f item).map some

def ofItems (find : String → Nat → Option Item) : Option FileSettings := do
  let path ← optionally pathOf (find "socket_path" 0)
  let kind ← optionally kindOf (find "kind" 1)
  let backlog ← optionally int32Of (find "backlog" 2)
  let readSize ← optionally uint64Of (find "read_buffer_size" 3)
  let payloadLimit ← optionally uint64Of (find "max_payload_len" 4)
  let metadataLimit ← optionally uint64Of (find "max_metadata_len" 5)
  return { path, kind, backlog, readSize, payloadLimit, metadataLimit }

def ofEntries (es : Entries) : Option FileSettings :=
  match es.get? "transport" with
  | none => some {}
  | some (.table _ entries) => ofItems fun name _ => Entries.get? entries name
  | some (.array items) => ofItems fun _ i => items[i]?
  | some (.moment _) => some {}
  | some _ => none

def parse (text : String) : Option FileSettings := (Toml.Document.parse text).bind ofEntries

end FileSettings

end LocalRecords
