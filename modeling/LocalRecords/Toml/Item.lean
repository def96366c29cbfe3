/-!
What a TOML document holds. Every table remembers how it came to be, because that decides what may
still be added to it: a table with a header of its own or in braces is complete, one that was only
named on the way to another is not.
-/

namespace LocalRecords.Toml

inductive Origin
  /-- Named on the way in a header. -/
  | implied
  /-- Has a header of its own, or is the document. -/
  | written
  /-- Named on the way in a dotted key. -/
  | dotted
  | inline
  | inlineDotted
  deriving DecidableEq, Repr

namespace Origin

/-- Whether a path whose new tables have the origin `step` may go through a table of origin `o`. -/
def admits (step o : Origin) : Bool :=
  match step, o with
  | implied, implied => true
  | implied, written => true
  | implied, dotted => true
  | dotted, implied => true
  | dotted, dotted => true
  | inlineDotted, inlineDotted => true
  | _, _ => false

def isDotted : Origin → Bool
  | dotted => true
  | inlineDotted => true
  | _ => false

def isInline : Origin → Bool
  | inline => true
  | inlineDotted => true
  | _ => false

end Origin

inductive Item
  | text (s : String)
  | integer (n : Int)
  | float (digits : String)
  | boolean (b : Bool)
  | moment (digits : String)
  | array (items : List Item)
  | table (origin : Origin) (entries : List (String × Item))
  | tables (elements : List (List (String × Item)))
  deriving Repr

abbrev Entries := List (String × Item)

namespace Entries

def get? (es : Entries) (key : String) : Option Item := (es.find? (·.1 = key)).map (·.2)

def replace (es : Entries) (key : String) (item : Item) : Entries :=
  es.map fun e => if e.1 = key then (key, item) else e

def erase (es : Entries) (key : String) : Entries := es.filter fun e => e.1 ≠ key

def insertNew (es : Entries) (key : String) (item : Item) : Option Entries :=
  if (es.get? key).isSome then none else some (es ++ [(key, item)])

/-- Changes the table at the end of a path. Missing tables on the way come to be with the origin
`step`, and of the tables in double brackets the last is meant. -/
def update (step : Origin) (change : Origin → Entries → Option Entries) :
    List String → Origin → Entries → Option Entries
  | [], o, es => change o es
  | key :: path, _, es =>
    match es.get? key with
    | none => do
      let inner ← update step change path step []
      return es ++ [(key, .table step inner)]
    | some (.table o inner) =>
      if step.admits o then do
        let inner ← update step change path o inner
        return es.replace key (.table o inner)
      else none
    | some (.tables elements) => do
      let last ← elements.getLast?
      let inner ← update step change path .written last
      return es.replace key (.tables (elements.dropLast ++ [inner]))
    | some _ => none

/-- Gives a dotted key a value; new tables on the way have the origin `step`. A table with dotted
keys cannot be mixed with one written otherwise. -/
def assign (step : Origin) (path : List String) (key : String) (item : Item) :
    Origin → Entries → Option Entries :=
  update step (fun o es =>
    if o.isDotted = path.isEmpty then none else es.insertNew key item) path

end Entries

end LocalRecords.Toml
