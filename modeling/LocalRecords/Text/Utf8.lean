import LocalRecords.Word

namespace LocalRecords

def Text.inRanges (ranges : List (Nat × Nat)) (c : Char) : Bool :=
  ranges.any fun r => decide (r.1 ≤ c.toNat ∧ c.toNat ≤ r.2)

namespace Utf8

def encode (s : String) : Bytes := s.toUTF8.data.toList

inductive Piece
  | char (c : Char)
  | broken (bytes : Bytes)
  deriving DecidableEq, Repr

/-- What may follow a lead byte: how many bytes, the range of the first, and the bits so far. -/
def follow? (b : Nat) : Option (Nat × Nat × Nat × Nat) :=
  if b < 0x80 then some (0, 0, 0, b)
  else if b < 0xC2 then none
  else if b ≤ 0xDF then some (1, 0x80, 0xBF, b - 0xC0)
  else if b = 0xE0 then some (2, 0xA0, 0xBF, 0)
  else if b = 0xED then some (2, 0x80, 0x9F, 0xD)
  else if b ≤ 0xEF then some (2, 0x80, 0xBF, b - 0xE0)
  else if b = 0xF0 then some (3, 0x90, 0xBF, 0)
  else if b ≤ 0xF3 then some (3, 0x80, 0xBF, b - 0xF0)
  else if b = 0xF4 then some (3, 0x80, 0x8F, 4)
  else none

/-- Reads `n` continuation bytes, the first of them between `lo` and `hi`: how many fit, and the
code point if all do. -/
def continuation : Nat → Nat → Nat → Nat → Bytes → Nat × Option Nat
  | 0, _, _, bits, _ => (0, some bits)
  | _ + 1, _, _, _, [] => (0, none)
  | n + 1, lo, hi, bits, b :: bs =>
    if lo ≤ b.toNat ∧ b.toNat ≤ hi then
      let r := continuation n 0x80 0xBF (bits * 64 + b.toNat % 64) bs
      (r.1 + 1, r.2)
    else (0, none)

def pieces : Bytes → List Piece
  | [] => []
  | b :: bs =>
    match follow? b.toNat with
    | none => .broken [b] :: pieces bs
    | some (n, lo, hi, bits) =>
      match continuation n lo hi bits bs with
      | (k, some code) => .char (Char.ofNat code) :: pieces (bs.drop k)
      -- The bytes that fitted belong to the broken piece; the next one starts afresh.
      | (k, none) => .broken (b :: bs.take k) :: pieces (bs.drop k)
termination_by bs => bs.length
decreasing_by all_goals simp only [List.length_drop, List.length_cons]; omega

def text? (bs : Bytes) : Option String :=
  (pieces bs).foldr (fun p acc =>
    match p, acc with
    | .char c, some cs => some (c :: cs)
    | _, _ => none) (some []) |>.map String.ofList

def display (bs : Bytes) : String :=
  String.ofList ((pieces bs).map fun p =>
    match p with
    | .char c => c
    | .broken _ => Char.ofNat 0xFFFD)

end Utf8

end LocalRecords
