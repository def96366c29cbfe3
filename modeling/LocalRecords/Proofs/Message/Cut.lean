import Mathlib.Algebra.GroupWithZero.Nat
import LocalRecords.Proofs.Message.Remainder

namespace LocalRecords.Remainder

/-- Takes several numbers of bytes off the front, one after the other. What exceeded the message
each time comes second. -/
def advanceAll (p : Remainder) : List Nat → Remainder × List Nat
  | [] => (p, [])
  | n :: amounts =>
    let r := p.advance n
    let rs := advanceAll r.1 amounts
    (rs.1, r.2 :: rs.2)

/-- What is left of some segments when so many bytes are cut off their front: whole segments go, or
whole segments and the beginning of the next one. -/
inductive Cut : List Bytes → Nat → List Bytes → Prop
  | between (gone kept : List Bytes) : Cut (gone ++ kept) gone.flatten.length kept
  | within (gone : List Bytes) (s : Bytes) (kept : List Bytes) {n : Nat} (hpos : 0 < n)
      (hlt : n < s.length) : Cut (gone ++ s :: kept) (gone.flatten.length + n) (s.drop n :: kept)

theorem Cut.cons {segments views : List Bytes} {n : Nat} (h : Cut segments n views) (s : Bytes) :
    Cut (s :: segments) (s.length + n) views := by
  cases h with
  | between gone =>
    have hcut := Cut.between (s :: gone) views
    rwa [List.flatten_cons, List.length_append] at hcut
  | within gone t kept hpos hlt =>
    have hcut := Cut.within (s :: gone) t kept hpos hlt
    rwa [List.flatten_cons, List.length_append, Nat.add_assoc] at hcut

/-- The segments that have bytes are cut. -/
theorem cut_consume (cursor : Nat) (segments : List Bytes) (n : Nat) :
    Cut (segments.filter (!·.isEmpty)) (min n segments.flatten.length)
      (consume cursor segments n).1.remaining := by
  induction segments generalizing cursor n with
  | nil =>
    rw [List.flatten_nil, List.length_nil, Nat.min_zero]
    exact .between [] []
  | cons s rest ih =>
    rw [consume, List.flatten_cons, List.length_append]
    split
    next hle =>
      have hrest := ih (cursor + 1) (n - s.length)
      cases s with
      | nil =>
        rw [List.length_nil, Nat.zero_add]
        exact hrest
      | cons b bs =>
        have hmin : min n ((b :: bs).length + rest.flatten.length) =
            (b :: bs).length + min (n - (b :: bs).length) rest.flatten.length := by
          omega
        rw [hmin]
        exact hrest.cons (b :: bs)
    next hlt =>
      have hlt : n < s.length := Nat.not_le.mp hlt
      have hs : s ≠ [] := List.length_pos_iff.mp (Nat.zero_lt_of_lt hlt)
      have hleft : s.drop n ≠ [] := by
        rw [ne_eq, List.drop_eq_nil_iff]
        exact Nat.not_le.mpr hlt
      rw [Nat.min_eq_left (by omega), remaining, filter_cons_of_ne_nil hs,
        filter_cons_of_ne_nil hleft]
      rcases Nat.eq_zero_or_pos n with hzero | hpos
      · rw [hzero, List.drop_zero]
        exact .between [] _
      · have hcut := Cut.within [] s (rest.filter (!·.isEmpty)) hpos hlt
        rwa [List.flatten_nil, List.length_nil, Nat.zero_add] at hcut

/-- Bytes that are taken in two pieces are taken at once. -/
theorem consume_add (cursor : Nat) (segments : List Bytes) (m n : Nat) :
    (consume cursor segments (m + n)).1 = ((consume cursor segments m).1.advance n).1 := by
  induction segments generalizing cursor m with
  | nil => rfl
  | cons s rest ih =>
    by_cases hm : s.length ≤ m
    · have hsub : m + n - s.length = m - s.length + n := by omega
      rw [consume, consume, if_pos hm, if_pos (by omega), hsub]
      exact ih (cursor + 1) (m - s.length)
    · rw [consume, consume, if_neg hm, advance, consume, List.length_drop, List.drop_drop]
      by_cases hmn : s.length ≤ m + n
      · have hsub : n - (s.length - m) = m + n - s.length := by omega
        rw [if_pos hmn, if_pos (by omega), hsub]
      · rw [if_neg hmn, if_neg (by omega)]

theorem advance_zero {p : Remainder} (hp : p.Rests) : (p.advance 0).1 = p := by
  obtain ⟨cursor, rest⟩ := p
  cases rest with
  | nil => rfl
  | cons s rest =>
    have hs : s ≠ [] := hp s rfl
    have hpos : ¬s.length ≤ 0 := by
      rw [Nat.le_zero, List.length_eq_zero_iff]
      exact hs
    rw [advance, consume, if_neg hpos, List.drop_zero]

/-- Stepping over empty segments is taking no bytes. -/
theorem overEmpty_eq_consume (cursor : Nat) (segments : List Bytes) :
    overEmpty cursor segments = (consume cursor segments 0).1 := by
  induction segments generalizing cursor with
  | nil => rfl
  | cons s rest ih =>
    cases s with
    | nil => exact ih (cursor + 1)
    | cons b bs => rfl

/-- Where the cursor rests there is nothing to step over. -/
theorem overEmpty_of_rests {p : Remainder} (hp : p.Rests) : overEmpty p.cursor p.rest = p := by
  rw [overEmpty_eq_consume]
  exact advance_zero hp

/-- Where the cursor stands when so many bytes were taken off some segments: not beyond the last of
them, and before one that has bytes unless it is at the end. Gone are the segments before it and the
rest of what was taken from the one behind it. -/
structure Stands (p : Remainder) (segments : List Bytes) (n : Nat) : Prop where
  inside : p.cursor + p.rest.length = segments.length
  rests : p.Rests
  gone : (segments.take p.cursor).flatten.length ≤ n
  rest : p.rest = (segments.drop p.cursor).modifyHead
    (List.drop (n - (segments.take p.cursor).flatten.length))

/-- How many segments the cursor goes on by when bytes are taken, and what that leaves. -/
theorem consume_eq (cursor : Nat) (segments : List Bytes) (n : Nat) :
    ∃ k, k ≤ segments.length ∧ (segments.take k).flatten.length ≤ n ∧
      (consume cursor segments n).1 = ⟨cursor + k,
        (segments.drop k).modifyHead (List.drop (n - (segments.take k).flatten.length))⟩ := by
  induction segments generalizing cursor n with
  | nil => exact ⟨0, Nat.le_refl 0, Nat.zero_le n, rfl⟩
  | cons s rest ih =>
    rw [consume]
    split
    next hle =>
      obtain ⟨k, hk, hgone, heq⟩ := ih (cursor + 1) (n - s.length)
      have hsum : ((s :: rest).take (k + 1)).flatten.length =
          s.length + (rest.take k).flatten.length := by
        rw [List.take_succ_cons, List.flatten_cons, List.length_append]
      refine ⟨k + 1, Nat.succ_le_succ hk, by omega, ?_⟩
      rw [heq, hsum, List.drop_succ_cons, Nat.sub_sub, Nat.add_assoc, Nat.add_comm 1 k]
    next hlt => exact ⟨0, Nat.zero_le _, Nat.zero_le n, rfl⟩

/-- Taking `n` bytes off fresh segments leaves the cursor where these bytes end. -/
theorem stands_consume (segments : List Bytes) (n : Nat) :
    (consume 0 segments n).1.Stands segments n := by
  obtain ⟨k, hk, hgone, heq⟩ := consume_eq 0 segments n
  have hrests := rests_consume 0 segments n
  rw [Nat.zero_add] at heq
  rw [heq] at hrests ⊢
  refine ⟨?_, hrests, hgone, rfl⟩
  rw [List.length_modifyHead, List.length_drop]
  exact Nat.add_sub_of_le hk

theorem length_eq (p : Remainder) : p.length = p.bytes.length := by
  rw [length, ← length_flatten_eq_sumOf, flatten_remaining]

/-- Taking bytes off piece by piece leaves what taking their sum off at once leaves. -/
theorem advanceAll_eq {p : Remainder} (hp : p.Rests) (amounts : List Nat) :
    (p.advanceAll amounts).1 = (p.advance amounts.sum).1 := by
  induction amounts generalizing p with
  | nil => exact (advance_zero hp).symm
  | cons n amounts ih =>
    rw [List.sum_cons, advance, consume_add]
    exact ih (p.rests_advance n)

theorem overshoot_advanceAll (p : Remainder) (amounts : List Nat) :
    (p.advanceAll amounts).2.sum = amounts.sum - p.bytes.length := by
  induction amounts generalizing p with
  | nil => exact (Nat.zero_sub _).symm
  | cons n amounts ih =>
    rw [advanceAll, List.sum_cons, List.sum_cons, ih, bytes_advance, overshoot_advance,
      List.length_drop]
    omega

theorem advance_new (segments : List Bytes) (n : Nat) :
    ((new segments).advance n).1 = (consume 0 segments n).1 := by
  rw [new, overEmpty_eq_consume, ← consume_add, Nat.zero_add]

/-- A call offers something unless nothing is left. -/
theorem slices_eq_nil_iff {p : Remainder} (hp : p.Rests) : p.slices = [] ↔ p.isDone = true := by
  constructor
  · intro hnil
    rw [isDone_iff hp]
    by_cases hbytes : p.bytes = []
    · exact hbytes
    · have hoffer := slices_flatten_ne_nil hbytes
      rw [hnil] at hoffer
      exact absurd rfl hoffer
  · intro hdone
    have hrest : p.rest = [] := List.isEmpty_iff.mp hdone
    rw [slices, remaining, hrest]
    rfl

/-- Whatever the segments of a message, and whatever is taken off it piece by piece: left is what is
left when as much is taken off at once, so only the sum matters. It is the segments that have bytes
with their first bytes cut off, as many as were taken and there were; whole segments go, at most one
is shortened, and no view is empty. As many bytes are left as were not taken, and it is done exactly
if none is. The next call offers the first views, as many as a call may have, and something unless
it is done. What exceeded the message each time is, taken together, what there was not. The cursor
stands where the bytes that were taken end, before a segment that has bytes or at the end of all, so
there is nothing to step over. -/
theorem advanceAll_cuts (segments : List Bytes) (amounts : List Nat) :
    let total := segments.flatten.length
    let taken := min amounts.sum total
    let r := (new segments).advanceAll amounts
    let p := r.1
    p = ((new segments).advance amounts.sum).1 ∧
      Cut (segments.filter (!·.isEmpty)) taken p.remaining ∧ [] ∉ p.remaining ∧
      p.length = total - taken ∧ (p.isDone = true ↔ p.length = 0) ∧
      p.slices = p.remaining.take (min maxSlices p.remaining.length) ∧
      (p.slices = [] ↔ p.isDone = true) ∧
      r.2.sum = amounts.sum - taken ∧
      p.Stands segments amounts.sum ∧ overEmpty p.cursor p.rest = p := by
  intro total taken r p
  have hnew : (new segments).Rests := rests_overEmpty 0 segments
  have hbytes : (new segments).bytes = segments.flatten := bytes_overEmpty 0 segments
  have hat : p = ((new segments).advance amounts.sum).1 := advanceAll_eq hnew amounts
  have hconsume : p = (consume 0 segments amounts.sum).1 := hat.trans (advance_new segments _)
  have hstands : p.Stands segments amounts.sum := hconsume ▸ stands_consume segments amounts.sum
  have hlength : p.length = total - taken := by
    rw [length_eq, hat, bytes_advance, hbytes, List.length_drop]
    omega
  have hdone : p.isDone = true ↔ p.length = 0 := by
    rw [isDone_iff hstands.rests, length_eq, List.length_eq_zero_iff]
  have hslices : p.slices = p.remaining.take (min maxSlices p.remaining.length) := by
    rw [slices, ← List.take_take, List.take_length]
  have hover : r.2.sum = amounts.sum - taken := by
    have hsum : r.2.sum = amounts.sum - (new segments).bytes.length :=
      overshoot_advanceAll (new segments) amounts
    rw [hbytes] at hsum
    omega
  have hviews : [] ∉ p.remaining := by
    intro hnil
    simpa using (List.mem_filter.mp hnil).2
  have hcut : Cut (segments.filter (!·.isEmpty)) taken p.remaining :=
    hconsume ▸ cut_consume 0 segments amounts.sum
  exact ⟨hat, hcut, hviews, hlength, hdone, hslices, slices_eq_nil_iff hstands.rests, hover,
    hstands, overEmpty_of_rests hstands.rests⟩

example : (new [[], [1, 2], [], [3]]).advanceAll [1, 1, 5] = (⟨4, []⟩, [0, 0, 4]) ∧
    ((new [[], [1, 2], [], [3]]).advanceAll [1, 1]).1 = ⟨3, [[3]]⟩ := by decide

end LocalRecords.Remainder
