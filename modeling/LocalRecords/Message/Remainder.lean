import LocalRecords.Word

namespace LocalRecords

def maxSlices : Nat := 1024

structure Remainder where
  /-- How many segments are done with. -/
  cursor : Nat
  /-- The other segments, the first without the bytes already taken. -/
  rest : List Bytes
  deriving DecidableEq, Repr

namespace Remainder

def overEmpty (cursor : Nat) : List Bytes → Remainder
  | [] :: rest => overEmpty (cursor + 1) rest
  | rest => ⟨cursor, rest⟩

def new (segments : List Bytes) : Remainder := overEmpty 0 segments

def consume (cursor : Nat) : List Bytes → Nat → Remainder × Nat
  | [], n => (⟨cursor, []⟩, n)
  | s :: rest, n =>
    if s.length ≤ n then consume (cursor + 1) rest (n - s.length)
    else (⟨cursor, s.drop n :: rest⟩, 0)

def advance (p : Remainder) (n : Nat) : Remainder × Nat := consume p.cursor p.rest n

def isDone (p : Remainder) : Bool := p.rest.isEmpty

/-- The bytes of some segments and the segments themselves, counted together. -/
def weight (segments : List Bytes) : Nat := sumOf (fun s => s.length + 1) segments

theorem weight_consume_le (cursor : Nat) (segments : List Bytes) (n : Nat) :
    weight (consume cursor segments n).1.rest ≤ weight segments := by
  induction segments generalizing cursor n with
  | nil => simp [consume]
  | cons s rest ih =>
    rw [consume]
    split
    · have := ih (cursor + 1) (n - s.length)
      simp only [weight, sumOf] at *
      omega
    · simp only [weight, sumOf, List.length_drop]
      omega

/-- Taking bytes off a message that has segments left makes it lighter. -/
theorem weight_advance_lt {p : Remainder} {n : Nat} (hp : p.isDone = false) (hn : 0 < n) :
    weight (p.advance n).1.rest < weight p.rest := by
  obtain ⟨cursor, rest⟩ := p
  cases rest with
  | nil => simp [isDone] at hp
  | cons s rest =>
    rw [advance, consume]
    split
    · have := weight_consume_le (cursor + 1) rest (n - s.length)
      simp only [weight, sumOf] at *
      omega
    · simp only [weight, sumOf, List.length_drop]
      omega

def remaining (p : Remainder) : List Bytes := p.rest.filter (!·.isEmpty)

def length (p : Remainder) : Nat := sumOf List.length p.remaining

def slices (p : Remainder) : List Bytes := p.remaining.take maxSlices

end Remainder

end LocalRecords
