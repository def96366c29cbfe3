import LocalRecords.Toml.Item
import LocalRecords.Toml.Number

/-!
TOML documents: keys, values and headers, and the table that they add up to. Arrays and tables in
braces are nested to a fixed depth, which is also what their reading recurses on.
-/

namespace LocalRecords.Toml

/-- How deep arrays and tables in braces may be nested, and how many parts a key may have. -/
def maxDepth : Nat := 79

def isBare (c : Char) : Bool :=
  ('a' ≤ c && c ≤ 'z') || ('A' ≤ c && c ≤ 'Z') || ('0' ≤ c && c ≤ '9') || c == '-' || c == '_'

def keyPart : Reader String := do
  Reader.blanks
  let key ← Quoted.line <|> (String.ofList <$> Reader.span1 isBare)
  Reader.blanks
  return key

def key : Reader (List String × String) := do
  let parts ← Reader.separated (Reader.char '.') keyPart
  match parts.getLast? with
  | none => failure
  | some last =>
    Reader.require (parts.length ≤ maxDepth)
    return (parts.dropLast, last)

def scalar : Reader Item :=
  (.text <$> Quoted.any) <|> (.moment <$> Number.moment) <|> (.float <$> Number.float) <|>
    (.integer <$> Number.integer) <|> (do Reader.word "true"; return .boolean true) <|>
    (do Reader.word "false"; return .boolean false)

def arrayRest (value : Reader Item) : Reader Item := do
  let items ← Reader.separated (Reader.char ',') (do
    Reader.layout
    let v ← value
    Reader.layout
    return v)
  if !items.isEmpty then
    let _ ← Reader.optional (Reader.char ',')
  Reader.layout
  Reader.char ']'
  return .array items

def inlineRest (value : Reader Item) : Reader Item := do
  let pairs ← Reader.separated (Reader.char ',') (do
    let k ← key
    Reader.char '='
    Reader.blanks
    let v ← value
    Reader.blanks
    return (k, v))
  Reader.blanks
  Reader.char '\x7d'
  let entries ← (pairs.foldlM (fun es p =>
    Entries.assign .inlineDotted p.1.1 p.1.2 p.2 .inline es) [] : Option Entries)
  return .table .inline entries

def value : Nat → Reader Item
  | 0 => scalar
  | depth + 1 => do
    match ← Reader.peek with
    | some '[' =>
      Reader.char '['
      arrayRest (value depth)
    | some '\x7b' =>
      Reader.char '\x7b'
      inlineRest (value depth)
    | _ => scalar

inductive Statement
  | blank
  | header (path : List String) (key : String)
  | element (path : List String) (key : String)
  | assignment (path : List String) (key : String) (item : Item)
  deriving Repr

namespace Statement

def readElement : Reader Statement := do
  Reader.word "[["
  let (path, k) ← key
  Reader.word "]]"
  Reader.lineEnd
  return .element path k

def readHeader : Reader Statement := do
  Reader.char '['
  let (path, k) ← key
  Reader.char ']'
  Reader.lineEnd
  return .header path k

def readAssignment : Reader Statement := do
  let (path, k) ← key
  Reader.char '='
  Reader.blanks
  let v ← value maxDepth
  Reader.lineEnd
  return .assignment path k v

def read : Reader Statement := do
  match ← Reader.peek with
  | some '[' => readElement <|> readHeader
  | some '#' => Reader.lineEnd; return .blank
  | some '\n' => Reader.newline; return .blank
  | some '\r' => Reader.newline; return .blank
  | _ => readAssignment

end Statement

structure Document where
  entries : Entries := []
  path : List String := []

namespace Document

/-- Adds a table with a header of its own, for which it may have been implied so far. -/
def openTable (key : String) (es : Entries) : Option Entries :=
  match es.get? key with
  | none => some (es ++ [(key, .table .written [])])
  -- A table that was implied moves to where its header stands.
  | some (.table .implied inner) => some (es.erase key ++ [(key, .table .written inner)])
  | some _ => none

def openElement (key : String) (es : Entries) : Option Entries :=
  match es.get? key with
  | none => some (es ++ [(key, .tables [[]])])
  | some (.tables elements) => some (es.replace key (.tables (elements ++ [[]])))
  | some _ => none

def add (d : Document) : Statement → Option Document
  | .blank => some d
  | .header path key => do
    let es ← Entries.update .implied (fun _ es => openTable key es) path .written d.entries
    return { entries := es, path := path ++ [key] }
  | .element path key => do
    let es ← Entries.update .implied (fun _ es => openElement key es) path .written d.entries
    return { entries := es, path := path ++ [key] }
  | .assignment path key item => do
    let assign := Entries.assign .dotted path key item
    let es ← Entries.update .implied assign d.path .written d.entries
    return { d with entries := es }

def statements : Nat → Document → List Char → Option Document
  | 0, d, cs => if cs.isEmpty then some d else none
  | n + 1, d, cs =>
    if cs.isEmpty then some d
    else do
      let (s, rest) ← Statement.read cs
      let d ← d.add s
      statements n d (rest.dropWhile Reader.isBlank)

def parse (text : String) : Option Entries :=
  let cs := text.toList
  let cs := if cs.head? = some '\ufeff' then cs.drop 1 else cs
  (statements (cs.length + 1) {} (cs.dropWhile Reader.isBlank)).map (·.entries)

end Document

end LocalRecords.Toml
