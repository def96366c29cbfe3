import LocalRecords.Text.Extend
import LocalRecords.Text.Printable
import LocalRecords.Text.Utf8

namespace LocalRecords.Text

def hexDigits (n : Nat) : String := String.ofList (Nat.toDigits 16 n)

def quoteChar (c : Char) : String :=
  if c == Char.ofNat 0 then "\\0"
  else if c == '\t' then "\\t"
  else if c == '\r' then "\\r"
  else if c == '\n' then "\\n"
  else if c == '"' then "\\\""
  else if c == '\\' then "\\\\"
  else if isExtending c || !isPrintable c then "\\u\x7b" ++ hexDigits c.toNat ++ "\x7d"
  else String.singleton c

def quoteByte (b : UInt8) : String :=
  let digits := (Nat.toDigits 16 b.toNat).map Char.toUpper
  "\\x" ++ String.ofList (List.replicate (2 - digits.length) '0' ++ digits)

def quote (bs : Bytes) : String :=
  let inner := (Utf8.pieces bs).map fun p =>
    match p with
    | .char c => quoteChar c
    | .broken bytes => String.join (bytes.map quoteByte)
  "\"" ++ String.join inner ++ "\""

end LocalRecords.Text
