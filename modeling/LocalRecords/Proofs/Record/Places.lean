import LocalRecords.Proofs.Record.Conservation

/-!
Where a decoder looks. Decoding again with a guard before every look at the buffer: a place that is
not there ends it with no answer at all. A decoder whose position stands in its buffer always has
an answer, and it is the one of `decode`.
-/

namespace LocalRecords.Decoder

def available? (d : Decoder) : Option Nat :=
  if d.position ≤ d.buffer.size then some d.available else none

def slice? (d : Decoder) (place len : Nat) : Option Bytes :=
  if place + len ≤ d.buffer.size then some (d.slice place len) else none

/-- Looks at the field first and then at the place of its delimiter. -/
def delimited? (d : Decoder) (place len : Nat) (field : Field) :
    Option (Except Failure (Bytes × Nat)) :=
  match d.slice? place len, d.slice? (place + len) delimiter.length with
  | some bytes, some mark =>
    if mark = delimiter then some (.ok (bytes, place + len + delimiter.length))
    else some (.error (.malformed (.missingDelimiter field)))
  | _, _ => none

def body? (d : Decoder) (h : Header) : Option (Except Failure (WireRecord × Nat)) :=
  let start := d.position + Header.size
  if h.type.hasPayload then
    match d.delimited? start h.payloadLen.toNat .payload with
    | none => none
    | some (.error e) => some (.error e)
    | some (.ok payload) =>
      (d.delimited? payload.2 h.metadataLen.toNat .metadata).map fun metadata =>
        metadata.map fun metadata =>
          ({ header := h, payload := payload.1, metadata := metadata.1 }, metadata.2)
  else
    (d.delimited? start h.metadataLen.toNat .metadata).map fun metadata =>
      metadata.map fun metadata =>
        ({ header := h, payload := [], metadata := metadata.1 }, metadata.2)

/-- Decodes with a guard before every look at the buffer. -/
def decode? (d : Decoder) : Option (Except Failure (Option (WireRecord × Decoder))) :=
  match d.available? with
  | none => none
  | some available =>
    if available < Header.size then some (.ok none)
    else
      match d.slice? d.position Header.size with
      | none => none
      | some bytes =>
        match announced d.limits bytes with
        | .error e => some (.error e)
        | .ok (h, needed) =>
          if available < needed then some (.ok none)
          else
            (d.body? h).map fun body =>
              body.map fun r => some (r.1, { d with position := r.2 })

variable {d : Decoder}

theorem slice?_eq {place len : Nat} (h : place + len ≤ d.buffer.size) :
    d.slice? place len = some (d.slice place len) := if_pos h

theorem delimited?_eq {place len : Nat} (h : place + len + delimiter.length ≤ d.buffer.size)
    (field : Field) : d.delimited? place len field = some (d.delimited place len field) := by
  have hfield : place + len ≤ d.buffer.size := by omega
  rw [delimited?, slice?_eq hfield, slice?_eq h, delimited]
  dsimp only
  split <;> rfl

/-- The fields of a record lie in the buffer if as many bytes are unread as its header announces. -/
theorem body?_eq {h : Header} (hle : d.position + h.recordSize ≤ d.buffer.size) :
    d.body? h = some (d.body h) := by
  rw [Header.recordSize] at hle
  rw [body?, body]
  by_cases hp : h.type.hasPayload = true
  · rw [if_pos hp] at hle
    have hpayload : d.position + Header.size + h.payloadLen.toNat + delimiter.length ≤
        d.buffer.size := by omega
    rw [if_pos hp, if_pos hp, delimited?_eq hpayload]
    rcases hfirst : d.delimited (d.position + Header.size) h.payloadLen.toNat .payload with
      e | payload
    · rfl
    · have hmetadata : payload.2 + h.metadataLen.toNat + delimiter.length ≤ d.buffer.size := by
        rw [place_of_delimited hfirst]
        omega
      dsimp only
      rw [delimited?_eq hmetadata]
      rfl
  · rw [if_neg hp] at hle
    have hmetadata : d.position + Header.size + h.metadataLen.toNat + delimiter.length ≤
        d.buffer.size := by omega
    rw [if_neg hp, if_neg hp, delimited?_eq hmetadata]
    rfl

/-- A decoder never looks at a place outside of its buffer. -/
theorem decode?_eq (hd : d.Sound) : d.decode? = some d.decode := by
  have hsize : d.position ≤ d.buffer.size := hd
  have havailable : d.available? = some d.available := if_pos hsize
  rw [decode?, decode, havailable]
  dsimp only
  by_cases hlen : d.available < Header.size
  · rw [if_pos hlen, if_pos hlen]
  rw [if_neg hlen, if_neg hlen]
  have hheader : d.position + Header.size ≤ d.buffer.size := by
    rw [available] at hlen
    omega
  rw [slice?_eq hheader]
  dsimp only
  rcases ha : announced d.limits (d.slice d.position Header.size) with e | ⟨h, needed⟩
  · rfl
  dsimp only
  by_cases hshort : d.available < needed
  · rw [if_pos hshort, if_pos hshort]
  rw [if_neg hshort, if_neg hshort]
  -- The length that is waited for is the exact one, so the fields end where it ends.
  obtain ⟨-, -, -, hneeded⟩ := announced_eq_ok_iff.mp ha
  have hbody : d.position + h.recordSize ≤ d.buffer.size := by
    rw [available] at hshort
    omega
  rw [body?_eq hbody]
  rcases d.body h with e | r <;> rfl

end LocalRecords.Decoder
