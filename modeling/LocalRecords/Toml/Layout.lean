import LocalRecords.Toml.Reader

namespace LocalRecords.Toml.Reader

def isBlank (c : Char) : Bool := c == ' ' || c == '\t'

def isPlain (c : Char) : Bool := c == '\t' || (0x20 ≤ c.toNat && c.toNat ≠ 0x7F)

def blanks : Reader Unit := do
  let _ ← span isBlank

def comment : Reader Unit := do
  char '#'
  let _ ← span isPlain

def newline : Reader Unit := word "\n" <|> word "\r\n"

def finish : Reader Unit := do
  require (← get).isEmpty

def lineEnd : Reader Unit := do
  blanks
  let _ ← optional comment
  newline <|> finish

def skipSpace : List Char → List Char
  | ' ' :: cs => skipSpace cs
  | '\t' :: cs => skipSpace cs
  | '\n' :: cs => skipSpace cs
  | '\r' :: '\n' :: cs => skipSpace cs
  | cs => cs

theorem length_skipSpace_le (cs : List Char) : (skipSpace cs).length ≤ cs.length := by
  fun_induction skipSpace cs <;> simp_all <;> omega

def layout : Reader Unit := do
  set (skipSpace (← get))
  let _ ← more (pure ()) (do comment; newline; set (skipSpace (← get))) (← get).length

end LocalRecords.Toml.Reader
