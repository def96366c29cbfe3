import LocalRecords.Message.Send

namespace LocalRecords

namespace Remainder

def bytes (p : Remainder) : Bytes := p.rest.flatten

/-- The cursor rests on a segment that has bytes, or at the end. -/
def Rests (p : Remainder) : Prop := ∀ s ∈ p.rest.head?, s ≠ []

/-- Stepping over empty segments loses no byte. -/
theorem bytes_overEmpty (cursor : Nat) (segments : List Bytes) :
    (overEmpty cursor segments).bytes = segments.flatten := by
  induction segments generalizing cursor with
  | nil => rfl
  | cons s rest ih =>
    cases s with
    | nil => exact ih (cursor + 1)
    | cons b bs => rfl

theorem rests_overEmpty (cursor : Nat) (segments : List Bytes) :
    (overEmpty cursor segments).Rests := by
  induction segments generalizing cursor with
  | nil => simp [overEmpty, Rests]
  | cons s rest ih =>
    cases s with
    | nil => exact ih (cursor + 1)
    | cons b bs => simp [overEmpty, Rests]

theorem filter_cons_of_ne_nil {s : Bytes} (hs : s ≠ []) (rest : List Bytes) :
    (s :: rest).filter (!·.isEmpty) = s :: rest.filter (!·.isEmpty) := by
  have hview : (!s.isEmpty) = true := by simpa using hs
  simp only [List.filter_cons, hview, if_true]

/-- After stepping over empty segments in front the views are the segments that have bytes. -/
theorem remaining_overEmpty (cursor : Nat) (segments : List Bytes) :
    (overEmpty cursor segments).remaining = segments.filter (!·.isEmpty) := by
  induction segments generalizing cursor with
  | nil => rfl
  | cons s rest ih =>
    cases s with
    | nil => exact ih (cursor + 1)
    | cons b bs => rfl

/-- Taking `n` bytes off leaves the bytes behind them. -/
theorem bytes_consume (cursor : Nat) (segments : List Bytes) (n : Nat) :
    (consume cursor segments n).1.bytes = segments.flatten.drop n := by
  induction segments generalizing cursor n with
  | nil => simp [consume, bytes]
  | cons s rest ih =>
    rw [consume]
    split
    · next hle =>
      have hs : s.drop n = [] := List.drop_eq_nil_of_le hle
      rw [ih, List.flatten_cons, List.drop_append, hs, List.nil_append]
    · next hlt =>
      have hz : n - s.length = 0 := by omega
      simp only [bytes, List.flatten_cons]
      rw [List.drop_append, hz, List.drop_zero]

theorem overshoot_consume (cursor : Nat) (segments : List Bytes) (n : Nat) :
    (consume cursor segments n).2 = n - segments.flatten.length := by
  induction segments generalizing cursor n with
  | nil => simp [consume]
  | cons s rest ih =>
    rw [consume]
    split
    · rw [ih, List.flatten_cons, List.length_append]
      omega
    · rw [List.flatten_cons, List.length_append]
      omega

theorem rests_consume (cursor : Nat) (segments : List Bytes) (n : Nat) :
    (consume cursor segments n).1.Rests := by
  induction segments generalizing cursor n with
  | nil => simp [consume, Rests]
  | cons s rest ih =>
    rw [consume]
    split
    · exact ih (cursor + 1) (n - s.length)
    · next hlt =>
      intro t ht
      simp only [List.head?_cons, Option.mem_some] at ht
      intro hn
      rw [← ht, List.drop_eq_nil_iff] at hn
      exact hlt hn

@[simp] theorem bytes_advance (p : Remainder) (n : Nat) :
    (p.advance n).1.bytes = p.bytes.drop n := bytes_consume p.cursor p.rest n

@[simp] theorem overshoot_advance (p : Remainder) (n : Nat) :
    (p.advance n).2 = n - p.bytes.length := overshoot_consume p.cursor p.rest n

theorem rests_advance (p : Remainder) (n : Nat) : (p.advance n).1.Rests :=
  rests_consume p.cursor p.rest n

/-- Nothing is left of a message exactly if no byte is left of it. -/
theorem isDone_iff {p : Remainder} (hp : p.Rests) : p.isDone = true ↔ p.bytes = [] := by
  obtain ⟨cursor, rest⟩ := p
  cases rest with
  | nil => simp [isDone, bytes]
  | cons s rest =>
    have hs : s ≠ [] := hp s rfl
    simp [isDone, bytes, hs]

/-- The views are all that is left, in order. -/
theorem flatten_remaining (p : Remainder) : p.remaining.flatten = p.bytes := by
  obtain ⟨cursor, rest⟩ := p
  exact List.flatten_filter_not_isEmpty

/-- A call offers bytes from the front of what is left. -/
theorem slices_isPrefix (p : Remainder) : p.slices.flatten <+: p.bytes := by
  rw [← flatten_remaining]
  refine ⟨(p.remaining.drop maxSlices).flatten, ?_⟩
  rw [slices, ← List.flatten_append, List.take_append_drop]

/-- While something is left a call offers at least one byte of it. -/
theorem slices_flatten_ne_nil {p : Remainder} (hp : p.bytes ≠ []) : p.slices.flatten ≠ [] := by
  intro h
  have hr : p.remaining ≠ [] := by
    intro hr
    rw [← flatten_remaining, hr] at hp
    exact hp rfl
  obtain ⟨s, more, hs⟩ := List.exists_cons_of_ne_nil hr
  have hmem : s ∈ p.remaining := by rw [hs]; exact List.mem_cons_self
  have hne : s ≠ [] := by simpa using (List.mem_filter.mp hmem).2
  rw [slices, hs, maxSlices, List.take_succ_cons, List.flatten_cons] at h
  exact hne (List.append_eq_nil_iff.mp h).1

end Remainder

/-- Merging parts neither adds nor loses a byte. -/
theorem flatten_merged (parts : List Bytes) : (merged parts).flatten = parts.flatten := by
  have hf : (parts.filter (!·.isEmpty)).flatten = parts.flatten :=
    List.flatten_filter_not_isEmpty
  rw [merged]
  split
  · exact hf
  · rw [List.flatten_append, List.flatten_singleton, ← List.flatten_append,
      List.take_append_drop, hf]

@[simp] theorem Remainder.bytes_ofParts {σ : Type} (sink : Sink σ) (parts : List Bytes) :
    (Remainder.ofParts sink parts).bytes = parts.flatten := by
  rw [Remainder.ofParts, Remainder.new, Remainder.bytes_overEmpty]
  split
  · exact flatten_merged parts
  · rfl

theorem Remainder.rests_ofParts {σ : Type} (sink : Sink σ) (parts : List Bytes) :
    (Remainder.ofParts sink parts).Rests := Remainder.rests_overEmpty 0 _

/-- There is nothing to send of parts without bytes. -/
theorem Remainder.isDone_ofParts {σ : Type} (sink : Sink σ) (parts : List Bytes) :
    (Remainder.ofParts sink parts).isDone = true ↔ parts.flatten = [] := by
  rw [Remainder.isDone_iff (Remainder.rests_ofParts sink parts), Remainder.bytes_ofParts]

end LocalRecords
