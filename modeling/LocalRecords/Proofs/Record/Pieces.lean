import LocalRecords.Proofs.Record.Unread

namespace LocalRecords.Decoder

inductive Action
  | push (bytes : Bytes)
  | decode
  deriving DecidableEq, Repr

abbrev Answer := Except Failure (Option WireRecord)

/-- One call of `decode`: an error or the lack of bytes leaves the decoder as it is. -/
def ask (d : Decoder) : Decoder × Answer :=
  match d.decode with
  | .error e => (d, .error e)
  | .ok none => (d, .ok none)
  | .ok (some (r, d')) => (d', .ok (some r))

/-- A record that stands in front is returned, and the bytes behind it are unread then. -/
theorem ask_of_front_record {d : Decoder} (hd : d.Sound) {r : WireRecord} {rest : Bytes}
    (h : front d.limits d.unread = .ok (some (r, rest))) :
    ∃ d', d.ask = (d', .ok (some r)) ∧ d.Returned d' rest := by
  obtain ⟨d', hdec, hreturned⟩ := decode_of_record hd h
  refine ⟨d', ?_, hreturned⟩
  rw [ask, hdec]

theorem ask_of_front_none {d : Decoder} (hd : d.Sound) (h : front d.limits d.unread = .ok none) :
    d.ask = (d, .ok none) := by
  rw [ask, decode_of_none hd h]

theorem ask_of_front_error {d : Decoder} (hd : d.Sound) {e : Failure}
    (h : front d.limits d.unread = .error e) : d.ask = (d, .error e) := by
  rw [ask, decode_of_error hd h]

def run (d : Decoder) : List Action → Decoder × List Answer
  | [] => (d, [])
  | .push bytes :: rest => (d.push bytes).run rest
  | .decode :: rest =>
    let asked := d.ask
    let more := asked.1.run rest
    (more.1, asked.2 :: more.2)

def finish (d : Decoder) : Decoder × List Answer :=
  let all := d.decodeAll
  (all.2.1, all.1.map (fun r => .ok (some r)) ++ [all.2.2.elim (.ok none) .error])

def pushed : List Action → Bytes
  | [] => []
  | .push bytes :: rest => bytes ++ pushed rest
  | .decode :: rest => pushed rest

/-- The records up to the first error, and that error. -/
def verdict : List Answer → List WireRecord × Option Failure
  | [] => ([], none)
  | .error e :: _ => ([], some e)
  | .ok none :: rest => verdict rest
  | .ok (some r) :: rest => (r :: (verdict rest).1, (verdict rest).2)

theorem verdict_finish (d : Decoder) : verdict d.finish.2 = (d.decodeAll.1, d.decodeAll.2.2) := by
  rw [finish]
  generalize d.decodeAll.1 = records
  generalize d.decodeAll.2.2 = failure
  induction records with
  | nil => cases failure <;> rfl
  | cons r records ih =>
    simp only [List.map_cons, List.cons_append, verdict]
    rw [ih]

/-- A run from any sound decoder, finished, comes to a scan of what was unread and of what was
pushed. -/
theorem run_finish_eq_scan (actions : List Action) :
    ∀ d : Decoder, d.Sound →
      verdict ((d.run actions).2 ++ (d.run actions).1.finish.2) =
          ((scan d.limits (d.unread ++ pushed actions)).1,
            (scan d.limits (d.unread ++ pushed actions)).2.2) ∧
        (d.run actions).1.finish.1.unread = (scan d.limits (d.unread ++ pushed actions)).2.1 := by
  -- On the actions. A record that is found now would have been found with all bytes there, too.
  induction actions with
  | nil =>
    intro d hd
    obtain ⟨d', hall, h⟩ := decodeAll_eq_scan d.limits d.unread d hd rfl rfl
    simp only [run, pushed, List.nil_append, List.append_nil]
    refine ⟨?_, ?_⟩
    · rw [verdict_finish, hall]
    · rw [finish, hall]
      exact h.unread
  | cons action rest ih =>
    intro d hd
    cases action with
    | push bytes =>
      have h := ih (d.push bytes) (sound_push hd bytes)
      rwa [limits_push, unread_push hd, List.append_assoc] at h
    | decode =>
      simp only [run, pushed, List.cons_append]
      rcases hf : front d.limits d.unread with e | found
      · -- Later answers no longer count, and the bytes stay where they are.
        have hscan := scan_of_error (front_append_of_error hf (pushed rest))
        rw [ask_of_front_error hd hf, hscan]
        refine ⟨rfl, ?_⟩
        rw [(ih d hd).2, hscan]
      · rcases found with _ | ⟨r, u⟩
        · rw [ask_of_front_none hd hf]
          exact ih d hd
        · obtain ⟨d', hask, h⟩ := ask_of_front_record hd hf
          obtain ⟨hv, hu⟩ := ih d' h.sound
          rw [h.limits, h.unread] at hv hu
          rw [hask, scan_of_record (front_append_of_record hf (pushed rest))]
          refine ⟨?_, hu⟩
          rw [verdict, hv]

/-- However a stream is cut into pieces, and wherever `decode` is called between them, the records
up to the first error, that error and the number of bytes left over are those of the stream pushed
at once and decoded to its end. -/
theorem decode_in_pieces (limits : Limits) (actions : List Action) :
    let mid := (new limits).run actions
    let last := mid.1.finish
    let once := ((new limits).push (pushed actions)).decodeAll
    verdict (mid.2 ++ last.2) = (once.1, once.2.2) ∧
      last.1.available = once.2.1.available := by
  intro mid last once
  obtain ⟨hv, hu⟩ := run_finish_eq_scan actions (new limits) (sound_new limits)
  obtain ⟨d, honce, hleft⟩ := decodeAll_push_new limits (pushed actions)
  change once = _ at honce
  constructor
  · rw [honce]
    exact hv
  · rw [honce, available_eq_length, available_eq_length, hleft]
    exact congrArg List.length hu

example :
    verdict (((new {}).run [.push [1, 0, 4], .decode, .push [0, 0, 0, 0, 0, 0, 0, 0, 0, 0, 0, 0, 0,
      0, 0, 0, 0, 0x42, 0x52], .decode, .push [0x45, 0x41, 0x4B]]).1.finish).2 =
    ([{ header := { type := .passedJournal, payloadLen := 0, metadataLen := 0 }, payload := [],
        metadata := [] }], none) := by
  decide +kernel

end LocalRecords.Decoder
