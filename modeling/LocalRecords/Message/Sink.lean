import LocalRecords.IoError
import LocalRecords.Word

/-!
Where messages go and where payloads come from: one call at a time, each answered with a count of
bytes or an error. A sink or a source may be interrupted again and again but not for ever, which is
what its patience says.
-/

namespace LocalRecords

structure Offer where
  slices : List Bytes
  control : Option Bytes
  deriving DecidableEq, Repr

def Offer.bytes (o : Offer) : Bytes := o.slices.flatten

structure Exchange where
  offer : Offer
  answer : Except IoError Nat

/-- The bytes that a call delivered, if its answer is to be believed. -/
def Exchange.taken (e : Exchange) : Bytes :=
  match e.answer with
  | .ok n => e.offer.bytes.take n
  | .error _ => []

structure Sink (σ : Type) where
  /-- Whether every call sends a datagram of its own. -/
  sendsDatagrams : Bool
  send : σ → Offer → σ × Except IoError Nat
  /-- How often it can still be interrupted in a row. -/
  patience : σ → Nat
  patience_lt : ∀ s o e, (send s o).2 = .error e → e.isInterrupted = true →
    patience (send s o).1 < patience s

structure Source (ρ : Type) where
  /-- Reads at most so many bytes; no bytes mean the end. -/
  read : ρ → Nat → ρ × Except IoError Bytes
  length_le : ∀ s n bytes, (read s n).2 = .ok bytes → bytes.length ≤ n
  /-- How often it can still be interrupted in a row. -/
  patience : ρ → Nat
  patience_lt : ∀ s n e, (read s n).2 = .error e → e.isInterrupted = true →
    patience (read s n).1 < patience s

end LocalRecords
