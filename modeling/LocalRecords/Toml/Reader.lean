namespace LocalRecords.Toml

abbrev Reader (α : Type) := StateT (List Char) Option α

namespace Reader

def peek : Reader (Option Char) := fun cs => some (cs.head?, cs)

def one (p : Char → Bool) : Reader Char
  | c :: cs => if p c then some (c, cs) else none
  | [] => none

def char (c : Char) : Reader Unit := do
  let _ ← one (· == c)

def word (w : String) : Reader Unit := fun cs =>
  if w.toList.isPrefixOf cs then some ((), cs.drop w.toList.length) else none

def span (p : Char → Bool) : Reader (List Char) := fun cs => some (cs.takeWhile p, cs.dropWhile p)

def span1 (p : Char → Bool) : Reader (List Char) := do
  let cs ← span p
  if cs.isEmpty then failure else return cs

def optional {α : Type} (r : Reader α) : Reader (Option α) := (some <$> r) <|> pure none

def require (b : Bool) : Reader Unit := if b then pure () else failure

def more {α : Type} (separator : Reader Unit) (item : Reader α) : Nat → Reader (List α)
  | 0 => pure []
  | n + 1 => do
    match ← optional (do separator; item) with
    | none => return []
    | some a => return a :: (← more separator item n)

def separated {α : Type} (separator : Reader Unit) (item : Reader α) : Reader (List α) := do
  match ← optional item with
  | none => return []
  | some a => return a :: (← more separator item (← get).length)

def taken {α : Type} (r : Reader α) : Reader (List Char) := do
  let before ← get
  let _ ← r
  let after ← get
  return before.take (before.length - after.length)

end Reader

end LocalRecords.Toml
