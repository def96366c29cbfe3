import LocalRecords.Proofs.Record.Layout

namespace LocalRecords

/-- Whether a header was refused because a field is longer than its limit. -/
def Failure.isPastLimit : Failure → Bool
  | .oversize .payload _ _ => true
  | .oversize .metadata _ _ => true
  | _ => false

namespace Limits

/-- Neither field may be longer under the limits `l` than under `l'`. -/
instance : LE Limits where
  le l l' := l.payload ≤ l'.payload ∧ l.metadata ≤ l'.metadata

variable {l l' : Limits} {h : Header} {e : Failure}

/-- Larger limits accept every header that smaller ones accept. -/
theorem check_of_le (hle : l ≤ l') (hok : l.check h = .ok ()) : l'.check h = .ok () := by
  obtain ⟨hpayload, hmetadata⟩ := check_eq_ok_iff.mp hok
  apply check_eq_ok_iff.mpr
  constructor
  · intro ht
    exact UInt64.le_trans (hpayload ht) hle.1
  · exact UInt64.le_trans hmetadata hle.2

/-- A header that the limits refuse has a field past its limit. -/
theorem isPastLimit_of_check (hc : l.check h = .error e) : e.isPastLimit = true := by
  rw [check] at hc
  split at hc
  · cases hc
    rfl
  split at hc
  · cases hc
    rfl
  · cases hc

end Limits

namespace Decoder

variable {l l' : Limits}

/-- Larger limits change what is announced only where a field was past its limit. -/
theorem announced_of_le (hle : l ≤ l') {bytes : Bytes}
    (hsettled : ∀ e, announced l bytes = .error e → e.isPastLimit = false) :
    announced l' bytes = announced l bytes := by
  rcases hdec : Header.decode bytes with e | h
  · simp only [announced, hdec, bind, Except.bind]
  rcases hc : l.check h with e | u
  · -- The error is that of a field, which is excluded.
    have hrefused : announced l bytes = .error e := by
      simp only [announced, hdec, hc, bind, Except.bind]
    have hpast := Limits.isPastLimit_of_check hc
    rw [hsettled e hrefused] at hpast
    cases hpast
  · simp only [announced, hdec, hc, Limits.check_of_le hle hc, bind, Except.bind]

/-- Unless a limit of a field refused it, what stands in front is the same under larger limits. -/
theorem front_of_le (hle : l ≤ l') {u : Bytes}
    (hsettled : ∀ e, front l u = .error e → e.isPastLimit = false) :
    front l' u = front l u := by
  rw [front] at hsettled
  rw [front, front]
  by_cases hlen : u.length < Header.size
  · rw [if_pos hlen, if_pos hlen]
  · rw [if_neg hlen] at hsettled
    have hannounced : announced l' (u.take Header.size) = announced l (u.take Header.size) := by
      apply announced_of_le hle
      intro e he
      rw [he] at hsettled
      exact hsettled e rfl
    rw [if_neg hlen, if_neg hlen, hannounced]

/-- What is found or waited for under some limits is so under larger ones. -/
theorem front_ok_of_le (hle : l ≤ l') {u : Bytes} {found : Option (WireRecord × Bytes)}
    (h : front l u = .ok found) : front l' u = .ok found := by
  rw [← h]
  apply front_of_le hle
  intro e he
  rw [h] at he
  cases he

/-- A scan under larger limits finds the same records first, and it is the same scan unless a limit
of a field has ended it. -/
theorem scan_of_le (hle : l ≤ l') (u : Bytes) :
    (scan l u).1 <+: (scan l' u).1 ∧
      ((∀ e, (scan l u).2.2 = some e → e.isPastLimit = false) → scan l' u = scan l u) := by
  -- Along the scan under the smaller limits. While it goes on no limit has ended it, so the other
  -- scan finds the same record and goes on with the same bytes.
  fun_induction scan l u with
  | case1 u e h =>
    refine ⟨List.nil_prefix, fun hsettled => ?_⟩
    have hfront : front l' u = front l u := by
      apply front_of_le hle
      intro e' he'
      rw [h] at he'
      cases he'
      exact hsettled e rfl
    exact scan_of_error (hfront.trans h)
  | case2 u h =>
    have hscan := scan_of_none (front_ok_of_le hle h)
    exact ⟨List.nil_prefix, fun _ => hscan⟩
  | case3 u r rest h more ih =>
    have hscan := scan_of_record (front_ok_of_le hle h)
    obtain ⟨hstart, hsame⟩ := ih
    rw [hscan]
    refine ⟨(List.prefix_cons_inj r).mpr hstart, fun hsettled => ?_⟩
    rw [hsame hsettled]

/-- Limits are monotone. Decoding some bytes under larger limits returns the records that it returns
under smaller ones, and perhaps more. Where it was no limit of a field that ended decoding under the
smaller limits, both return the same records, come to the same end and leave as many bytes. -/
theorem decodeAll_of_le (hle : l ≤ l') (bytes : Bytes) :
    let small := ((new l).push bytes).decodeAll
    let large := ((new l').push bytes).decodeAll
    small.1 <+: large.1 ∧
      ((∀ e, small.2.2 = some e → e.isPastLimit = false) →
        large.1 = small.1 ∧ large.2.2 = small.2.2 ∧
          large.2.1.available = small.2.1.available) := by
  intro small large
  obtain ⟨d, hsmall, hleft⟩ := decodeAll_push_new l bytes
  obtain ⟨d', hlarge, hleft'⟩ := decodeAll_push_new l' bytes
  obtain ⟨hstart, hsame⟩ := scan_of_le hle bytes
  change small = _ at hsmall
  change large = _ at hlarge
  rw [hsmall, hlarge]
  refine ⟨hstart, fun hsettled => ?_⟩
  have hscan := hsame hsettled
  refine ⟨congrArg (·.1) hscan, congrArg (·.2.2) hscan, ?_⟩
  calc d'.available
      = (scan l' bytes).2.1.length := by rw [available_eq_length, hleft']
    _ = (scan l bytes).2.1.length := by rw [hscan]
    _ = d.available := by rw [available_eq_length, hleft]

/-- The second record is past the smaller limits only, which end the run. Where it is cut short no
limit ends a run, and both wait with the same bytes. -/
theorem decodeAll_of_le_secondPast :
    let l : Limits := ⟨1, 0⟩
    let l' : Limits := ⟨2, 0⟩
    let first : WireRecord := ⟨{ type := .log, payloadLen := 1, metadataLen := 0 }, [7], []⟩
    let second : WireRecord := ⟨{ type := .audit, payloadLen := 2, metadataLen := 0 }, [8, 9], []⟩
    let both := first.encode ++ second.encode
    let cut := first.encode ++ second.encode.take 19
    l ≤ l' ∧
      ((new l).push both).decodeAll.2.2 = some (.oversize .payload 2 1) ∧
      ((new l).push both).decodeAll.1 <+: ((new l').push both).decodeAll.1 ∧
      ((new l').push both).decodeAll.1 = [first, second] ∧
      ((new l).push cut).decodeAll.2.2 = none ∧
      ((new l').push cut).decodeAll.2.1.available = ((new l).push cut).decodeAll.2.1.available := by
  intro l l' first second both cut
  have hle : l ≤ l' := ⟨by decide, by decide⟩
  have hwaits : ((new l).push cut).decodeAll.2.2 = none := by decide +kernel
  obtain ⟨-, hsame⟩ := decodeAll_of_le hle cut
  refine ⟨hle, by decide +kernel, (decodeAll_of_le hle both).1, by decide +kernel, hwaits, ?_⟩
  apply (hsame _).2.2
  intro e he
  rw [hwaits] at he
  cases he

end Decoder

end LocalRecords
