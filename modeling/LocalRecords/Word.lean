namespace LocalRecords

abbrev Bytes := List UInt8

def sumOf {α : Type} (f : α → Nat) : List α → Nat
  | [] => 0
  | a :: as => f a + sumOf f as

/-- A flattened list is as long as its lists together. -/
theorem length_flatten_eq_sumOf {α : Type} (xs : List (List α)) :
    xs.flatten.length = sumOf List.length xs := by
  induction xs with
  | nil => rfl
  | cons x xs ih => simp [sumOf, ih]

namespace Word

def count : Nat → Nat
  | 0 => 1
  | w + 1 => 256 * count w

def toBytes : Nat → Nat → Bytes
  | 0, _ => []
  | w + 1, n => UInt8.ofNat (n % 256) :: toBytes w (n / 256)

def ofBytes : Bytes → Nat
  | [] => 0
  | b :: bs => b.toNat + 256 * ofBytes bs

def int32? (n : Int) : Option Int32 :=
  let half : Int := count 4 / 2
  if -half ≤ n ∧ n < half then some (Int32.ofInt n) else none

@[simp] theorem length_toBytes (w n : Nat) : (toBytes w n).length = w := by
  induction w generalizing n with
  | zero => rfl
  | succ w ih => simp [toBytes, ih]

theorem ofBytes_lt (bs : Bytes) : ofBytes bs < count bs.length := by
  induction bs with
  | nil => simp [ofBytes, count]
  | cons b bs ih =>
    have hb : b.toNat < 256 := b.toNat_lt
    simp only [ofBytes, List.length_cons, count]
    omega

/-- A number that fits in `w` bytes is read back from its bytes. -/
theorem ofBytes_toBytes {w n : Nat} (h : n < count w) : ofBytes (toBytes w n) = n := by
  induction w generalizing n with
  | zero =>
    simp only [count] at h
    simp only [toBytes, ofBytes]
    omega
  | succ w ih =>
    have hd : n / 256 < count w := by
      simp only [count] at h
      omega
    have hm : n % 256 < 256 := Nat.mod_lt _ (by decide)
    simp only [toBytes, ofBytes, ih hd, UInt8.toNat_ofNat']
    rw [Nat.mod_eq_of_lt (by simpa using hm)]
    omega

/-- Every `w` bytes are those of the word that they hold. -/
theorem toBytes_ofBytes (bs : Bytes) : toBytes bs.length (ofBytes bs) = bs := by
  induction bs with
  | nil => rfl
  | cons b bs ih =>
    have hb : b.toNat < 256 := b.toNat_lt
    have hm : (b.toNat + 256 * ofBytes bs) % 256 = b.toNat := by omega
    have hd : (b.toNat + 256 * ofBytes bs) / 256 = ofBytes bs := by omega
    simp [toBytes, ofBytes, hm, hd, ih]

end Word

end LocalRecords
