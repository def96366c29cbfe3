import LocalRecords.Toml.Quoted

namespace LocalRecords.Toml.Number

def isGrouped : List Char → Bool
  | [] => false
  | [c] => c != '_'
  | c :: '_' :: cs => c != '_' && isGrouped cs
  | c :: cs => c != '_' && isGrouped cs

def digits (isDigit : Char → Bool) : Reader (List Char) := do
  let cs ← Reader.span fun c => isDigit c || c == '_'
  Reader.require (isGrouped cs)
  return cs.filter (· != '_')

def ofDigits (base : Nat) (ds : List Char) : Nat :=
  ds.foldl (fun acc c => base * acc + (Quoted.hexValue? c).getD 0) 0

def isDigitOf (base : Nat) (c : Char) : Bool := ((Quoted.hexValue? c).getD base) < base

def sign : Reader Bool := do
  match ← Reader.optional (Reader.one fun c => c == '+' || c == '-') with
  | some c => return c == '-'
  | none => return false

def whole : Reader (List Char) := do
  let ds ← digits (isDigitOf 10)
  Reader.require (ds.length == 1 || ds.head? != some '0')
  return ds

def based : Reader Nat := do
  Reader.char '0'
  let mark ← Reader.one fun c => c == 'x' || c == 'o' || c == 'b'
  let base := if mark == 'x' then 16 else if mark == 'o' then 8 else 2
  return ofDigits base (← digits (isDigitOf base))

def integer : Reader Int := do
  let n ← (Int.ofNat <$> based) <|> (do
    let minus ← sign
    let n := ofDigits 10 (← whole)
    return if minus then -(n : Int) else n)
  Reader.require (decide (-9223372036854775808 ≤ n ∧ n ≤ 9223372036854775807))
  return n

/-- The least number that no finite float is nearest to. -/
def tooLarge : Nat := (1 <<< 1024) - (1 <<< 970)

def overflows (mantissa : Nat) (exponent : Int) : Bool :=
  -- The place of the first digit decides all but one case without large powers.
  let magnitude := (Nat.toDigits 10 mantissa).length + exponent
  if mantissa = 0 ∨ magnitude < 309 then false
  else if 309 < magnitude then true
  else decide (tooLarge * Nat.pow 10 (-exponent).toNat ≤ mantissa * Nat.pow 10 exponent.toNat)

def exponent : Reader Int := do
  let _ ← Reader.one fun c => c == 'e' || c == 'E'
  let minus ← sign
  let n := ofDigits 10 (← digits (isDigitOf 10))
  return if minus then -(n : Int) else n

def decimal : Reader Unit := do
  let minus ← sign
  let ds ← whole
  let fraction ← Reader.optional (do Reader.char '.'; digits (isDigitOf 10))
  let exponent ← Reader.optional exponent
  Reader.require (fraction.isSome || exponent.isSome)
  let fraction := fraction.getD []
  let isTooLarge := overflows (ofDigits 10 (ds ++ fraction)) (exponent.getD 0 - fraction.length)
  Reader.require (minus || !isTooLarge)

def special : Reader Unit := do
  let _ ← sign
  Reader.word "inf" <|> Reader.word "nan"

def float : Reader String := String.ofList <$> Reader.taken (decimal <|> special)

def fixed (n lo hi : Nat) : Reader Nat := do
  let cs ← get
  let ds := cs.take n
  Reader.require (ds.length == n && ds.all (isDigitOf 10))
  set (cs.drop n)
  let v := ofDigits 10 ds
  Reader.require (decide (lo ≤ v ∧ v ≤ hi))
  return v

def daysOf (year month : Nat) : Nat :=
  if month = 2 then
    if year % 4 = 0 ∧ (year % 100 ≠ 0 ∨ year % 400 = 0) then 29 else 28
  else if month = 4 ∨ month = 6 ∨ month = 9 ∨ month = 11 then 30
  else 31

def date : Reader Unit := do
  let year ← fixed 4 0 9999
  Reader.char '-'
  let month ← fixed 2 1 12
  Reader.char '-'
  let _ ← fixed 2 1 (daysOf year month)

def time : Reader Unit := do
  let _ ← fixed 2 0 23
  Reader.char ':'
  let _ ← fixed 2 0 59
  Reader.char ':'
  let _ ← fixed 2 0 60
  let _ ← Reader.optional (do Reader.char '.'; Reader.span1 (isDigitOf 10))

def offset : Reader Unit :=
  (do let _ ← Reader.one fun c => c == 'Z' || c == 'z') <|> do
    let _ ← Reader.one fun c => c == '+' || c == '-'
    let _ ← fixed 2 0 23
    Reader.char ':'
    let _ ← fixed 2 0 59

def moment : Reader String := String.ofList <$> Reader.taken (dated <|> time)
where
  dated : Reader Unit := do
    date
    let _ ← Reader.optional (do
      let _ ← Reader.one fun c => c == 'T' || c == 't' || c == ' '
      time
      Reader.optional offset)

end LocalRecords.Toml.Number
