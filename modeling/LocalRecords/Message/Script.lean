import LocalRecords.Message.Sink

namespace LocalRecords.Script

inductive Reply
  | accept (n : Nat)
  /-- Takes everything and reports `n` bytes more. -/
  | exceed (n : Nat)
  | fail (e : IoError)
  deriving DecidableEq, Repr

def answer : List Reply → Offer → List Reply × Except IoError Nat
  | [], o => ([], .ok o.bytes.length)
  | .accept n :: rest, o => (rest, .ok (min n o.bytes.length))
  | .exceed n :: rest, o => (rest, .ok (o.bytes.length + n))
  | .fail e :: rest, _ => (rest, .error e)

def sink (sendsDatagrams : Bool) : Sink (List Reply) where
  sendsDatagrams := sendsDatagrams
  send := answer
  patience := List.length
  patience_lt := by
    intro s o e h _
    match s with
    | [] => simp [answer] at h
    | .accept n :: rest => simp [answer]
    | .exceed n :: rest => simp [answer]
    | .fail e' :: rest => simp [answer]

inductive Supply
  | data (bytes : Bytes)
  | fail (e : IoError)
  deriving DecidableEq, Repr

def supply : List Supply → Nat → List Supply × Except IoError Bytes
  | [], _ => ([], .ok [])
  | .data bytes :: rest, n =>
    if bytes.length ≤ n then (rest, .ok bytes)
    else (.data (bytes.drop n) :: rest, .ok (bytes.take n))
  | .fail e :: rest, _ => (rest, .error e)

def source : Source (List Supply) where
  read := supply
  length_le := by
    intro s n bytes h
    match s with
    | [] => simp [supply] at h; simp [h]
    | .data bs :: rest =>
      simp only [supply] at h
      split at h
      · cases h; assumption
      · cases h; exact List.length_take_le _ _
    | .fail e :: rest => simp [supply] at h
  patience := List.length
  patience_lt := by
    intro s n e h _
    match s with
    | [] => simp [supply] at h
    | .data bs :: rest =>
      simp only [supply] at h
      split at h <;> cases h
    | .fail e' :: rest => simp [supply]

end LocalRecords.Script
