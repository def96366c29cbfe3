import LocalRecords.Word

namespace LocalRecords.Path

def slash : UInt8 := 0x2F

def dot : UInt8 := 0x2E

def isAbsolute (path : Bytes) : Bool := path.head? == some slash

def names : Bytes → List Bytes
  | [] => [[]]
  | b :: bs =>
    match names bs with
    | [] => [[]]
    | n :: ns => if b = slash then [] :: n :: ns else (b :: n) :: ns

def endsInSlash (path : Bytes) : Bool := path.getLast? == some slash

def stem (path : Bytes) : Bytes :=
  let r := path.reverse.dropWhile (· = slash)
  if r.isEmpty then path.take 1 else r.reverse

def join (path name : Bytes) : Bytes :=
  if isAbsolute name then name
  else if path.isEmpty || endsInSlash path then path ++ name
  else path ++ slash :: name

/-- The names from the root to where a path leads from a directory, each name on the way taken for
that of a directory. -/
def resolve (directory : List Bytes) (path : Bytes) : List Bytes :=
  (names path).foldl (fun place name =>
    if name = [] ∨ name = [dot] then place
    else if name = [dot, dot] then place.dropLast
    else place ++ [name]) (if isAbsolute path then [] else directory)

/-- The reverse of a path without the slashes and single dots at its start; a lone slash stays. -/
def trimmed : Bytes → Bytes
  | [] => []
  | [b] => [b]
  | b :: c :: rest =>
    if b = slash then trimmed (c :: rest)
    else if b = dot ∧ c = slash then trimmed (c :: rest)
    else b :: c :: rest

def parent? (path : Bytes) : Option Bytes :=
  -- From the end backwards: the last name goes, then the slash before it.
  let r := trimmed path.reverse
  if r = [] ∨ r = [slash] then none
  else some (trimmed (r.dropWhile (· ≠ slash))).reverse

end LocalRecords.Path
