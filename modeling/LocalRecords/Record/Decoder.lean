import LocalRecords.Record.Basic

/-!
Records out of a stream of bytes that arrives in pieces. The decoder keeps what it was given and a
position in it; bytes before the position belong to records already returned and are dropped when
they are more than half of what is kept. A record is returned once it is there as a whole. An error
leaves the position where it was.
-/

namespace LocalRecords

def standardLimit : UInt64 := 10485760

structure Limits where
  payload : UInt64 := standardLimit
  metadata : UInt64 := standardLimit
  deriving DecidableEq, Repr

namespace Limits

/-- The largest limit that may be set: with one field of it a record fills the largest buffer. -/
def maxLimit : Nat := Word.count 8 / 2 - 1 - (Header.size + 2 * delimiter.length)

def check (l : Limits) (h : Header) : Except Failure Unit :=
  if h.type.hasPayload ∧ h.payloadLen > l.payload then
    .error (.oversize .payload h.payloadLen.toNat l.payload.toNat)
  else if h.metadataLen > l.metadata then
    .error (.oversize .metadata h.metadataLen.toNat l.metadata.toNat)
  else .ok ()

end Limits

structure Decoder where
  limits : Limits := {}
  buffer : Array UInt8 := #[]
  /-- Where the first byte not yet returned stands. -/
  position : Nat := 0

namespace Decoder

def minDropped : Nat := 4096

def new (limits : Limits) : Decoder where
  limits := limits

def available (d : Decoder) : Nat := d.buffer.size - d.position

def unread (d : Decoder) : Bytes := d.buffer.toList.drop d.position

def slice (d : Decoder) (place len : Nat) : Bytes :=
  (d.buffer.extract place (place + len)).toList

/-- Drops what was returned if it is more than half of the buffer and more than `minDropped`. -/
def compact (d : Decoder) : Decoder :=
  if d.position > d.buffer.size / 2 ∧ d.position > minDropped then
    { d with buffer := d.buffer.extract d.position d.buffer.size, position := 0 }
  else d

def push (d : Decoder) (bytes : Bytes) : Decoder :=
  let d := d.compact
  { d with buffer := d.buffer.appendList bytes }

def clear (d : Decoder) : Decoder := { d with buffer := #[], position := 0 }

/-- The field of `len` bytes at a place, if a delimiter follows it, and the place after that. -/
def delimited (d : Decoder) (place len : Nat) (field : Field) : Except Failure (Bytes × Nat) :=
  if d.slice (place + len) delimiter.length = delimiter then
    .ok (d.slice place len, place + len + delimiter.length)
  else .error (.malformed (.missingDelimiter field))

def recordLen (h : Header) : Except Failure Nat :=
  if h.following + Header.size > maxU64 then
    .error (.oversize .record h.following (maxU64 - Header.size))
  else .ok (h.following + Header.size)

def announced (limits : Limits) (bytes : Bytes) : Except Failure (Header × Nat) := do
  let h ← Header.decode bytes
  limits.check h
  let needed ← recordLen h
  return (h, needed)

/-- The fields of a record that is there as a whole, and the place after the last of them. -/
def body (d : Decoder) (h : Header) : Except Failure (WireRecord × Nat) :=
  let place := d.position + Header.size
  if h.type.hasPayload then do
    let (payload, place) ← d.delimited place h.payloadLen.toNat .payload
    let (metadata, place) ← d.delimited place h.metadataLen.toNat .metadata
    return ({ header := h, payload := payload, metadata := metadata }, place)
  else do
    let (metadata, place) ← d.delimited place h.metadataLen.toNat .metadata
    return ({ header := h, payload := [], metadata := metadata }, place)

def decode (d : Decoder) : Except Failure (Option (WireRecord × Decoder)) :=
  if d.available < Header.size then .ok none
  else
    match announced d.limits (d.slice d.position Header.size) with
    | .error e => .error e
    | .ok (h, needed) =>
      if d.available < needed then .ok none
      else
        match d.body h with
        | .error e => .error e
        | .ok (r, place) => .ok (some (r, { d with position := place }))

/-- The walk through the fields goes on behind the delimiter. -/
theorem place_of_delimited {d : Decoder} {place len : Nat} {field : Field} {r : Bytes × Nat}
    (h : d.delimited place len field = .ok r) : r.2 = place + len + delimiter.length := by
  unfold delimited at h
  split at h
  · cases h
    rfl
  · cases h

/-- The place after the fields is after the header, too. -/
theorem lt_of_body {d : Decoder} {h : Header} {r : WireRecord × Nat} (hb : d.body h = .ok r) :
    d.position < r.2 := by
  have hd : delimiter.length = 5 := rfl
  simp only [body, bind, Except.bind, pure, Except.pure] at hb
  split at hb
  · split at hb
    · cases hb
    next hp =>
      split at hb
      · cases hb
      next hm =>
        cases hb
        have := place_of_delimited hp
        have := place_of_delimited hm
        omega
  · split at hb
    · cases hb
    next hm =>
      cases hb
      have := place_of_delimited hm
      omega

/-- A record takes its bytes out of those that are available. -/
theorem available_lt_of_decode {d d' : Decoder} {r : WireRecord}
    (h : d.decode = .ok (some (r, d'))) : d'.available < d.available := by
  unfold decode at h
  split at h
  · cases h
  next hlen =>
    split at h
    · cases h
    · split at h
      · cases h
      · split at h
        · cases h
        next hb =>
          cases h
          have := lt_of_body hb
          simp only [available, Header.size] at *
          omega

/-- Everything that can be decoded: the records, the decoder after them, and the error that ended
the run, if one did. -/
def decodeAll (d : Decoder) : List WireRecord × Decoder × Option Failure :=
  match _h : d.decode with
  | .error e => ([], d, some e)
  | .ok none => ([], d, none)
  | .ok (some (r, d')) =>
    let rest := d'.decodeAll
    (r :: rest.1, rest.2)
termination_by d.available
decreasing_by exact available_lt_of_decode ‹_›

end Decoder

end LocalRecords
