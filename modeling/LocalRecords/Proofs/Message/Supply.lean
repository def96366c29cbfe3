import LocalRecords.Record.Emission

namespace LocalRecords.Source

variable {ρ : Type} (source : Source ρ)

abbrev Reply := Except IoError Bytes

def replies (r : ρ) : List Nat → ρ × List Reply
  | [] => (r, [])
  | n :: ns =>
    let first := source.read r n
    let rest := replies first.1 ns
    (rest.1, first.2 :: rest.2)

def brought : Reply → Bytes
  | .ok bytes => bytes
  | .error _ => []

def supplied (answers : List Reply) : Bytes := answers.flatMap brought

def goesOn : Reply → Bool
  | .ok bytes => !bytes.isEmpty
  | .error e => e.isInterrupted

/-- The bytes that a source gives when it is asked for `limit` of them, a chunk at a time. -/
def given (r : ρ) (limit : Nat) : Bytes :=
  if _hl : limit = 0 then []
  else
    match _hr : source.read r (min limit chunkLen) with
    | (r', .ok bytes) =>
      if _hb : bytes.length = 0 then []
      else bytes ++ given r' (limit - bytes.length)
    | (r', .error e) => if _hi : e.isInterrupted = true then given r' limit else []
termination_by (limit, source.patience r)
decreasing_by
  · left; omega
  · right
    have h := source.patience_lt r (min limit chunkLen) e (by rw [_hr]) _hi
    rwa [_hr] at h

-- The recursion is well-founded, so its equations are stated once for each answer of the source.
theorem given_zero (r : ρ) : source.given r 0 = [] := by
  rw [given, dif_pos rfl]

/-- A read that brings bytes is followed by another one for the rest; one without bytes is the end.
-/
theorem given_of_bytes {r r' : ρ} {limit : Nat} {bytes : Bytes}
    (hl : limit ≠ 0) (hr : source.read r (min limit chunkLen) = (r', .ok bytes)) :
    source.given r limit =
      if bytes.length = 0 then [] else bytes ++ source.given r' (limit - bytes.length) := by
  rw [given, dif_neg hl]
  split
  · next h => rw [hr] at h; cases h; rfl
  · next h => rw [hr] at h; cases h

theorem given_of_error {r r' : ρ} {limit : Nat} {e : IoError}
    (hl : limit ≠ 0) (hr : source.read r (min limit chunkLen) = (r', .error e)) :
    source.given r limit = if e.isInterrupted then source.given r' limit else [] := by
  rw [given, dif_neg hl]
  split
  · next h => rw [hr] at h; cases h
  · next h => rw [hr] at h; cases h; rfl

theorem length_given_le (r : ρ) (limit : Nat) : (source.given r limit).length ≤ limit := by
  fun_induction Source.given with
  | case1 => exact Nat.zero_le _
  | case2 => exact Nat.zero_le _
  | case3 r limit hl r' bytes hr hb ih =>
    have hle := source.length_le r (min limit chunkLen) bytes (by rw [hr])
    rw [List.length_append]
    omega
  | case4 r limit hl r' e hr hi ih => exact ih
  | case5 => exact Nat.zero_le _

/-- A log of the reads of up to `limit` bytes: answers after which reading goes on, and one more if
it came to that. The last one is a chunk if reading was given up after it, and otherwise the end of
the source or its failure. -/
structure Reads (r : ρ) (limit : Nat) (asked : List Nat) (r' : ρ) (before : List Reply)
    (last : Option Reply) : Prop where
  replies : source.replies r asked = (r', before ++ last.toList)
  goesOn : ∀ a ∈ before, goesOn a = true
  start : supplied (before ++ last.toList) <+: source.given r limit
  all : (∀ a ∈ last, Source.goesOn a = false) → source.given r limit = supplied before

variable {source}

theorem reads_nothing (r : ρ) : source.Reads r 0 [] r [] none where
  replies := rfl
  goesOn := by simp
  start := List.nil_prefix
  all _ := source.given_zero r

/-- A read after which reading goes on stands in front of the reads for the rest. -/
theorem Reads.after {r r₁ r' : ρ} {limit : Nat} {asked : List Nat} {before : List Reply}
    {last : Option Reply} {a : Reply} (hl : limit ≠ 0)
    (hr : source.read r (min limit chunkLen) = (r₁, a)) (ha : Source.goesOn a = true)
    (h : source.Reads r₁ (limit - (brought a).length) asked r' before last) :
    source.Reads r limit (min limit chunkLen :: asked) r' (a :: before) last := by
  have hgiven : source.given r limit =
      brought a ++ source.given r₁ (limit - (brought a).length) := by
    cases a with
    | ok bytes =>
      have hb : ¬bytes.length = 0 := by simpa [Source.goesOn] using ha
      rw [source.given_of_bytes hl hr, if_neg hb]
      rfl
    | error e =>
      have hi : e.isInterrupted = true := ha
      rw [source.given_of_error hl hr, if_pos hi]
      rfl
  refine ⟨?_, ?_, ?_, ?_⟩
  · rw [Source.replies, hr, h.replies]
    rfl
  · intro b hb
    rcases List.mem_cons.mp hb with rfl | hb
    · exact ha
    · exact h.goesOn b hb
  · rw [hgiven]
    exact (List.prefix_append_right_inj _).mpr h.start
  · intro hlast
    rw [hgiven, h.all hlast]
    rfl

theorem reads_last {r r' : ρ} {limit : Nat} {a : Reply} (hl : limit ≠ 0)
    (hr : source.read r (min limit chunkLen) = (r', a)) :
    source.Reads r limit [min limit chunkLen] r' [] (some a) where
  replies := by
    rw [Source.replies, hr]
    rfl
  goesOn := by simp
  start := by
    cases a with
    | ok bytes =>
      rw [source.given_of_bytes hl hr]
      by_cases hb : bytes.length = 0
      · have hnil : bytes = [] := List.length_eq_zero_iff.mp hb
        simp [supplied, brought, hnil]
      · rw [if_neg hb]
        simp [supplied, brought]
    | error e => exact List.nil_prefix
  all := by
    intro hlast
    have ha := hlast a rfl
    cases a with
    | ok bytes =>
      have hb : bytes.length = 0 := by simpa [Source.goesOn] using ha
      rw [source.given_of_bytes hl hr, if_pos hb]
      rfl
    | error e =>
      have hi : e.isInterrupted = false := ha
      rw [source.given_of_error hl hr, hi]
      rfl

end LocalRecords.Source
