import LocalRecords.Word

namespace LocalRecords

/-- A change of what has one number is found under it, if there was anything, and under no other. -/
theorem lookup_update {β : Type} (table : List (Nat × β)) (id other : Nat) (b : β) :
    (table.map fun p => if p.1 = id then (id, b) else p).lookup other =
      if other = id then (table.lookup id).map fun _ => b else table.lookup other := by
  induction table with
  | nil => simp
  | cons p table ih =>
    obtain ⟨n, e⟩ := p
    rw [List.map_cons]
    by_cases hn : n = id
    · rw [if_pos hn, List.lookup_cons, List.lookup_cons, List.lookup_cons, ih, hn]
      by_cases ho : other = id
      · simp [ho]
      · simp [ho, beq_false_of_ne ho]
    · have hbeq : (id == n) = false := beq_false_of_ne (Ne.symm hn)
      rw [if_neg hn, List.lookup_cons, List.lookup_cons, List.lookup_cons, ih, hbeq]
      by_cases ho : other = id
      · simp [ho, hbeq]
      · simp [ho]

/-- What has one number is found no more, and under any other what was there. -/
theorem lookup_remove {β : Type} (table : List (Nat × β)) (id other : Nat) :
    (table.filter fun p => p.1 ≠ id).lookup other =
      if other = id then none else table.lookup other := by
  induction table with
  | nil => simp
  | cons p table ih =>
    obtain ⟨n, e⟩ := p
    by_cases hn : n = id
    · rw [List.filter_cons_of_neg (by simp [hn]), ih, List.lookup_cons, hn]
      by_cases ho : other = id
      · simp [ho]
      · simp [ho, beq_false_of_ne ho]
    · rw [List.filter_cons_of_pos (by simp [hn]), List.lookup_cons, List.lookup_cons, ih]
      by_cases ho : other = id
      · simp [ho, beq_false_of_ne (Ne.symm hn)]
      · simp [ho]

end LocalRecords
