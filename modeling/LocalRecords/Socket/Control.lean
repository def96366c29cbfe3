import LocalRecords.Word

/-!
Control messages that pass descriptors: a head of 16 bytes (length, level 1, type 1), the numbers,
and zero bytes up to a multiple of 8. Several of them may follow one another.
-/

namespace LocalRecords

abbrev DescriptorNumber := UInt32

namespace Control

def headLen : Nat := 16

def rights : Nat := 1

def maxDescriptors : Nat := 253

def align (n : Nat) : Nat := (n + 7) / 8 * 8

def space (count : Nat) : Nat := headLen + align (4 * count)

def room (limit : Nat) : Nat := if limit = 0 then 0 else space limit

/-- How many descriptors a message of at most `size` bytes passes. -/
def capacity (size : Nat) : Nat := (size - headLen) / 4

def write (memory : Bytes) (place : Nat) (bytes : Bytes) : Bytes :=
  memory.take place ++ bytes ++ memory.drop (place + bytes.length)

/-- The control message that passes the given descriptors; none for none. The fields of the head and
the numbers are written over zeros. -/
def encode (numbers : List DescriptorNumber) : Bytes :=
  if numbers.isEmpty then []
  else
    let data := numbers.flatMap fun n => Word.toBytes 4 n.toNat
    let zeros := List.replicate (space numbers.length) 0
    let measured := write zeros 0 (Word.toBytes 8 (headLen + data.length))
    let levelled := write measured 8 (Word.toBytes 4 rights)
    let typed := write levelled 12 (Word.toBytes 4 rights)
    write typed headLen data

def words : Bytes → List DescriptorNumber
  | a :: b :: c :: d :: rest => UInt32.ofNat (Word.ofBytes [a, b, c, d]) :: words rest
  | _ => []

def next? (bytes : Bytes) (len : Nat) : Option Bytes :=
  let after := bytes.drop (align len)
  if len < headLen ∨ after.length < headLen ∨
      after.length < align (Word.ofBytes (after.take 8)) then none
  else some after

theorem length_lt_of_next? {bytes after : Bytes} {len : Nat} (h : next? bytes len = some after) :
    after.length < bytes.length := by
  simp only [next?] at h
  split at h
  · cases h
  next hn =>
    cases h
    simp only [not_or, List.length_drop, headLen, align] at *
    omega

def collect (bytes : Bytes) : List DescriptorNumber :=
  if bytes.length < headLen then []
  else
    let len := Word.ofBytes (bytes.take 8)
    let level := Word.ofBytes ((bytes.drop 8).take 4)
    let type := Word.ofBytes ((bytes.drop 12).take 4)
    let here := if level = rights ∧ type = rights then words ((bytes.take len).drop headLen) else []
    match _h : next? bytes len with
    | none => here
    | some after => here ++ collect after
termination_by bytes.length
decreasing_by exact length_lt_of_next? ‹_›

/-- The descriptors that one message asks to pass, by its level, type and body; none if it is
refused. Messages of other levels ask for nothing. -/
def requestedBy (level type : Nat) (body : Bytes) : Option (List DescriptorNumber) :=
  if level ≠ rights then some []
  else if type ≠ rights then none
  else some (words body)

def requested (bytes : Bytes) : Option (List DescriptorNumber) :=
  if bytes.length < headLen then some []
  else
    let len := Word.ofBytes (bytes.take 8)
    let level := Word.ofBytes ((bytes.drop 8).take 4)
    let type := Word.ofBytes ((bytes.drop 12).take 4)
    -- A message cannot be shorter than its head or longer than the data.
    if len < headLen ∨ bytes.length < len then none
    else do
      let here ← requestedBy level type ((bytes.take len).drop headLen)
      let more ← requested (bytes.drop (align len))
      if maxDescriptors < (here ++ more).length then none else some (here ++ more)
termination_by bytes.length
decreasing_by
  simp only [not_or, List.length_drop, headLen, align] at *
  omega

end Control

end LocalRecords
