import LocalRecords.Toml.Layout

namespace LocalRecords.Toml.Quoted

def hexValue? (c : Char) : Option Nat :=
  if '0' ≤ c ∧ c ≤ '9' then some (c.toNat - '0'.toNat)
  else if 'a' ≤ c ∧ c ≤ 'f' then some (c.toNat - 'a'.toNat + 10)
  else if 'A' ≤ c ∧ c ≤ 'F' then some (c.toNat - 'A'.toNat + 10)
  else none

def charOfHex? (n : Nat) (cs : List Char) : Option Char := do
  let digits ← (cs.take n).mapM hexValue?
  let code := digits.foldl (fun acc d => 16 * acc + d) 0
  if digits.length = n ∧ code.isValidChar then some (Char.ofNat code) else none

/-- The character that an escape stands for and how many characters follow the backslash. -/
def escape? : List Char → Option (Char × Nat)
  | 'b' :: _ => some ('\x08', 1)
  | 't' :: _ => some ('\t', 1)
  | 'n' :: _ => some ('\n', 1)
  | 'f' :: _ => some ('\x0c', 1)
  | 'r' :: _ => some ('\r', 1)
  | '"' :: _ => some ('"', 1)
  | '\\' :: _ => some ('\\', 1)
  | 'u' :: cs => (charOfHex? 4 cs).map (·, 5)
  | 'U' :: cs => (charOfHex? 8 cs).map (·, 9)
  | _ => none

def basic : List Char → Option (List Char × List Char)
  | [] => none
  | c :: cs =>
    if c = '"' then some ([], cs)
    else if c = '\\' then do
      let (e, n) ← escape? cs
      let (s, rest) ← basic (cs.drop n)
      return (e :: s, rest)
    else if Reader.isPlain c then do
      let (s, rest) ← basic cs
      return (c :: s, rest)
    else none
termination_by cs => cs.length
decreasing_by all_goals simp only [List.length_drop, List.length_cons]; omega

/-- What follows three closing quotes: up to two more belong to the text before them. -/
def closing (quote : Char) (cs : List Char) : List Char × List Char :=
  let more := (cs.take 2).takeWhile (· = quote)
  (more, cs.drop more.length)

def skipNewline : List Char → List Char
  | '\n' :: cs => cs
  | '\r' :: '\n' :: cs => cs
  | cs => cs

def atNewline : List Char → Bool
  | '\n' :: _ => true
  | '\r' :: '\n' :: _ => true
  | _ => false

/-- The rest of a string between three double quotes. A backslash at the end of a line takes away
the line end and the space after it. -/
def basicLines : List Char → Option (List Char × List Char)
  | [] => none
  | '"' :: '"' :: '"' :: cs => some (closing '"' cs)
  | '\r' :: '\n' :: cs => do
    let (s, rest) ← basicLines cs
    return ('\n' :: s, rest)
  | c :: cs =>
    if c = '\\' then
      if atNewline (cs.dropWhile Reader.isBlank) then
        basicLines (Reader.skipSpace cs)
      else do
        let (e, n) ← escape? cs
        let (s, rest) ← basicLines (cs.drop n)
        return (e :: s, rest)
    else if Reader.isPlain c || c = '\n' then do
      let (s, rest) ← basicLines cs
      return (c :: s, rest)
    else none
termination_by cs => cs.length
decreasing_by
  · simp only [List.length_cons]; omega
  · have := Reader.length_skipSpace_le cs
    simp only [List.length_cons]
    omega
  · simp only [List.length_drop, List.length_cons]; omega
  · simp only [List.length_cons]; omega

def literal : List Char → Option (List Char × List Char)
  | [] => none
  | c :: cs =>
    if c = '\'' then some ([], cs)
    else if Reader.isPlain c then do
      let (s, rest) ← literal cs
      return (c :: s, rest)
    else none

def literalLines : List Char → Option (List Char × List Char)
  | [] => none
  | '\'' :: '\'' :: '\'' :: cs => some (closing '\'' cs)
  | '\r' :: '\n' :: cs => do
    let (s, rest) ← literalLines cs
    return ('\n' :: s, rest)
  | c :: cs =>
    if Reader.isPlain c || c = '\n' then do
      let (s, rest) ← literalLines cs
      return (c :: s, rest)
    else none

def line : Reader String
  | '"' :: cs => (basic cs).map fun r => (String.ofList r.1, r.2)
  | '\'' :: cs => (literal cs).map fun r => (String.ofList r.1, r.2)
  | _ => none

def any : Reader String
  | '"' :: '"' :: '"' :: cs =>
    (basicLines (skipNewline cs)).map fun r => (String.ofList r.1, r.2)
  | '\'' :: '\'' :: '\'' :: cs =>
    (literalLines (skipNewline cs)).map fun r => (String.ofList r.1, r.2)
  | cs => line cs

end LocalRecords.Toml.Quoted
