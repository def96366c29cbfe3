import LocalRecords.Proofs.Record.Buffer
import LocalRecords.Proofs.Record.Rules

namespace LocalRecords.Decoder

inductive Request
  | push (bytes : Bytes)
  | decode
  | available
  | clear
  deriving DecidableEq, Repr

inductive Response
  | done
  | decoded (answer : Answer)
  | available (count : Nat)

def respond (d : Decoder) : Request → Decoder × Response
  | .push bytes => (d.push bytes, .done)
  | .decode => (d.ask.1, .decoded d.ask.2)
  | .available => (d, .available d.available)
  | .clear => (d.clear, .done)

def leftBy (answer : Answer) (u : Bytes) : Bytes :=
  match answer with
  | .ok (some _) => u.drop (Preamble.ofBytes u).size
  | _ => u

/-- The same requests, met with the unread bytes as they are: bytes are added at their end, and a
record is read off their front by the rules and taken away. -/
def respondPlain (limits : Limits) (u : Bytes) : Request → Bytes × Response
  | .push bytes => (u ++ bytes, .done)
  | .decode => (leftBy (ruling limits u) u, .decoded (ruling limits u))
  | .available => (u, .available u.length)
  | .clear => ([], .done)

def respondAll {σ : Type} (respond : σ → Request → σ × Response) :
    σ → List Request → σ × List Response
  | s, [] => (s, [])
  | s, request :: rest =>
    let first := respond s request
    let more := respondAll respond first.1 rest
    (more.1, first.2 :: more.2)

/-- A decoder with these limits to which these bytes are unread, wherever in its buffer they
stand. -/
structure Represents (d : Decoder) (limits : Limits) (u : Bytes) : Prop where
  sound : d.Sound
  limits : d.limits = limits
  unread : d.unread = u

variable {d : Decoder} {limits : Limits} {u : Bytes}

theorem represents_new (limits : Limits) : (new limits).Represents limits [] :=
  ⟨sound_new limits, rfl, rfl⟩

theorem Represents.push (h : d.Represents limits u) (bytes : Bytes) :
    (d.push bytes).Represents limits (u ++ bytes) := by
  refine ⟨sound_push h.sound bytes, ?_, ?_⟩
  · rw [limits_push, h.limits]
  · rw [unread_push h.sound, h.unread]

theorem Represents.clear (h : d.Represents limits u) : d.clear.Represents limits [] :=
  ⟨Nat.le_refl _, h.limits, rfl⟩

/-- Asked for a record, a decoder answers by the rules over its unread bytes, and loses those that
the answer takes. -/
theorem Represents.ask (h : d.Represents limits u) :
    d.ask.2 = ruling limits u ∧ d.ask.1.Represents limits (leftBy (ruling limits u) u) := by
  obtain ⟨hsound, rfl, rfl⟩ := h
  -- By what stands in front: only a record moves the position, and it does so by its own length.
  rw [← front_eq_ruling]
  rcases hf : front d.limits d.unread with e | found
  · rw [ask_of_front_error hsound hf]
    exact ⟨rfl, hsound, rfl, rfl⟩
  rcases found with _ | ⟨r, rest⟩
  · rw [ask_of_front_none hsound hf]
    exact ⟨rfl, hsound, rfl, rfl⟩
  · obtain ⟨d', hask, hreturned⟩ := ask_of_front_record hsound hf
    rw [hask]
    refine ⟨rfl, hreturned.sound, hreturned.limits, ?_⟩
    calc d'.unread
        = rest := hreturned.unread
      _ = d.unread.drop (Preamble.ofBytes d.unread).size := rest_of_front hf

/-- Whatever is asked, the response is the plain one, and the unread bytes stay those that are kept
plainly. -/
theorem Represents.respond (h : d.Represents limits u) (request : Request) :
    (d.respond request).2 = (respondPlain limits u request).2 ∧
      (d.respond request).1.Represents limits (respondPlain limits u request).1 := by
  cases request with
  | push bytes => exact ⟨rfl, h.push bytes⟩
  | decode =>
    obtain ⟨hanswer, hleft⟩ := h.ask
    exact ⟨congrArg Response.decoded hanswer, hleft⟩
  | available =>
    have hcount : d.available = u.length := by rw [available_eq_length, h.unread]
    exact ⟨congrArg Response.available hcount, h⟩
  | clear => exact ⟨rfl, h.clear⟩

/-- After any requests a decoder represents the plain list that met the same ones, and its responses
were the same. -/
theorem Represents.respondAll (requests : List Request) :
    ∀ {d : Decoder} {u : Bytes}, d.Represents limits u →
      (Decoder.respondAll Decoder.respond d requests).2 =
          (Decoder.respondAll (respondPlain limits) u requests).2 ∧
        (Decoder.respondAll Decoder.respond d requests).1.Represents limits
          (Decoder.respondAll (respondPlain limits) u requests).1 := by
  induction requests with
  | nil =>
    intro d u h
    exact ⟨rfl, h⟩
  | cons request rest ih =>
    intro d u h
    obtain ⟨hresponse, hnext⟩ := h.respond request
    obtain ⟨hresponses, hlast⟩ := ih hnext
    refine ⟨?_, hlast⟩
    simp only [Decoder.respondAll]
    rw [hresponse, hresponses]

/-- Dropping what was returned is all that `push` does to the position. -/
theorem position_push_le (h : d.Represents limits u) (bytes : Bytes) :
    (d.push bytes).position ≤ max 4096 u.length := by
  have hposition : (d.push bytes).position = d.compact.position := rfl
  calc (d.push bytes).position
      = d.compact.position := hposition
    _ ≤ max minDropped d.available := position_compact_le h.sound
    _ = max 4096 u.length := by rw [available_eq_length, h.unread, minDropped]

/-- With any limits and after any requests a decoder has given the responses of one that keeps its
unread bytes in a plain list, and the same bytes are unread to both. Its position is in the buffer
or at its end, and the next `push`, whatever it brings, keeps no more of what was returned than
4096 bytes or, where these are more, as many as are unread. -/
theorem respondAll_eq_plain (limits : Limits) (requests : List Request) :
    let r := respondAll respond (new limits) requests
    let plain := respondAll (respondPlain limits) [] requests
    r.2 = plain.2 ∧ r.1.unread = plain.1 ∧ r.1.position ≤ r.1.buffer.size ∧
      ∀ bytes, (r.1.push bytes).position ≤ max 4096 plain.1.length := by
  intro r plain
  obtain ⟨hresponses, hlast⟩ := (represents_new limits).respondAll requests
  refine ⟨hresponses, hlast.unread, hlast.sound, ?_⟩
  intro bytes
  exact position_push_le hlast bytes

end LocalRecords.Decoder
