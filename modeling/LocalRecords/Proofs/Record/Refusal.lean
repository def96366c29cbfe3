import LocalRecords.Proofs.Record.Layout
import LocalRecords.Proofs.Record.Pieces

namespace LocalRecords.Decoder

variable {d : Decoder} {e : Failure}

/-- A decoder that answers with an error has bytes unread, so its position stands in its buffer. -/
theorem sound_of_error (h : d.decode = .error e) : d.Sound := by
  have hlen : ¬d.available < Header.size := by
    intro hshort
    rw [decode, if_pos hshort] at h
    cases h
  have h20 : Header.size = 20 := rfl
  rw [available] at hlen
  rw [Sound]
  omega

theorem front_of_decode_error (h : d.decode = .error e) : front d.limits d.unread = .error e := by
  have hd := sound_of_error h
  rcases hf : front d.limits d.unread with e' | found
  · rw [decode_of_error hd hf] at h
    cases h
    rfl
  rcases found with _ | ⟨r, rest⟩
  · rw [decode_of_none hd hf] at h
    cases h
  · obtain ⟨d', hdec, -⟩ := decode_of_record hd hf
    rw [hdec] at h
    cases h

/-- Pushing more, compaction included, leaves the error where it is. -/
theorem decode_push_of_error (h : d.decode = .error e) (bytes : Bytes) :
    (d.push bytes).decode = .error e := by
  have hd := sound_of_error h
  apply decode_of_error (sound_push hd bytes)
  rw [limits_push, unread_push hd]
  exact front_append_of_error (front_of_decode_error h) bytes

/-- Asking again changes nothing. -/
theorem ask_of_error (h : d.decode = .error e) : d.ask = (d, .error e) := by
  rw [ask, h]

/-- A run from `d` in which every call of `decode` met the error `e`. -/
structure Refuses (d : Decoder) (r : Decoder × List Answer) (actions : List Action)
    (e : Failure) : Prop where
  answers : r.2 = List.replicate (actions.count .decode) (.error e)
  decode : r.1.decode = .error e
  limits : r.1.limits = d.limits
  unread : r.1.unread = d.unread ++ pushed actions

/-- After an error a run meets it in every call of `decode`, and what it pushes is added to the
unread bytes. -/
theorem run_refuses (h : d.decode = .error e) (actions : List Action) :
    d.Refuses (d.run actions) actions e := by
  -- On the actions, from every decoder with the error: none of them takes it away.
  induction actions generalizing d with
  | nil =>
    refine ⟨rfl, h, rfl, ?_⟩
    rw [pushed, List.append_nil, run]
  | cons action rest ih =>
    cases action with
    | push bytes =>
      have hmore := ih (decode_push_of_error h bytes)
      have hcount : (Action.push bytes :: rest).count .decode = rest.count .decode :=
        List.count_cons_of_ne (by simp)
      refine ⟨?_, hmore.decode, ?_, ?_⟩
      · rw [hcount]
        exact hmore.answers
      · exact hmore.limits.trans (limits_push d bytes)
      · have hunread := hmore.unread
        rw [unread_push (sound_of_error h), List.append_assoc] at hunread
        exact hunread
    | decode =>
      have hmore := ih h
      have hrun : d.run (.decode :: rest) = ((d.run rest).1, .error e :: (d.run rest).2) := by
        rw [run, ask_of_error h]
      rw [hrun]
      refine ⟨?_, hmore.decode, hmore.limits, hmore.unread⟩
      rw [List.count_cons_self, List.replicate_succ, hmore.answers]

/-- Errors last. After an error every later call of `decode` answers with the same error, whatever
is pushed in between, so that no record is returned any more; what is pushed is added to the unread
bytes, and nothing else happens to them. Clearing makes a new decoder with the same limits of it. -/
theorem run_of_error (h : d.decode = .error e) (actions : List Action) :
    let r := d.run actions
    r.2 = List.replicate (actions.count .decode) (.error e) ∧
      r.1.decode = .error e ∧
      r.1.unread = d.unread ++ pushed actions ∧
      r.1.available = d.available + (pushed actions).length ∧
      r.1.clear = new d.limits := by
  intro r
  have hr := run_refuses h actions
  refine ⟨hr.answers, hr.decode, hr.unread, ?_, ?_⟩
  · calc r.1.available
        = (d.unread ++ pushed actions).length := by rw [available_eq_length, hr.unread]
      _ = d.available + (pushed actions).length := by
          rw [List.length_append, available_eq_length]
  · rw [clear, new, hr.limits]

/-- Behind a record that was returned the payload ends as it should, and the metadata does not. A
whole record that is pushed then is not returned. -/
theorem run_of_error_metadata :
    let first : WireRecord :=
      { header := { type := .passedJournal, payloadLen := 9, metadataLen := 0 }
        payload := []
        metadata := [] }
    let broken : Header := { type := .log, payloadLen := 1, metadataLen := 0 }
    let rest := broken.encode ++ [7] ++ delimiter ++ [66, 82, 79, 75, 69]
    let d : Decoder := { buffer := (first.encode ++ rest).toArray, position := 25 }
    let e : Failure := .malformed (.missingDelimiter .metadata)
    let r := d.run [.decode, .push first.encode, .decode]
    d.decode = .error e ∧ r.2 = [.error e, .error e] ∧ r.1.available = 31 + 25 ∧
      r.1.clear = new {} := by
  intro first broken rest d e r
  have h : d.decode = .error e := by cbv
  obtain ⟨hanswers, -, -, havailable, hclear⟩ :=
    run_of_error h [.decode, .push first.encode, .decode]
  exact ⟨h, hanswers, havailable, hclear⟩

end LocalRecords.Decoder
