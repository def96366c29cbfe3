import LocalRecords.Settings.Basic
import Mathlib.Data.Nat.Digits.Defs

namespace LocalRecords

/-- A word of 32 bits with a sign holds a number, or nothing does. -/
theorem Word.int32?_eq_some_iff {n : Int} {v : Int32} : int32? n = some v ↔ v.toInt = n := by
  have hhalf : ((count 4 : Nat) : Int) / 2 = 2 ^ 31 := by decide
  rw [int32?, hhalf]
  constructor
  · intro hread
    split at hread
    next hrange =>
      obtain rfl : Int32.ofInt n = v := Option.some.inj hread
      exact Int32.toInt_ofInt_of_le hrange.1 hrange.2
    next => cases hread
  · rintro rfl
    rw [if_pos ⟨v.le_toInt, v.toInt_lt⟩, Int32.ofInt_toInt]

namespace Settings

def digitsValue (digits : List Char) : Nat :=
  Nat.ofDigits 10 (digits.reverse.map fun c => c.toNat - '0'.toNat)

/-- Digits, at least one, after a sign or none, and the number that they stand for. -/
inductive IsDecimal : List Char → Int → Prop
  | unsigned {digits : List Char} (hsome : digits ≠ []) (hdigits : ∀ c ∈ digits, c.isDigit) :
      IsDecimal digits (digitsValue digits)
  | plus {digits : List Char} (hsome : digits ≠ []) (hdigits : ∀ c ∈ digits, c.isDigit) :
      IsDecimal ('+' :: digits) (digitsValue digits)
  | minus {digits : List Char} (hsome : digits ≠ []) (hdigits : ∀ c ∈ digits, c.isDigit) :
      IsDecimal ('-' :: digits) (-digitsValue digits)

/-- Reading digits from the front adds them up to the number they stand for. -/
theorem foldl_eq_digitsValue (digits : List Char) :
    digits.foldl (fun acc c => 10 * acc + (c.toNat - '0'.toNat)) 0 = digitsValue digits := by
  rw [List.foldl_eq_foldr_reverse, digitsValue, Nat.ofDigits_eq_foldr, List.foldr_map]
  congr 1
  funext c acc
  exact Nat.add_comm _ _

def signed (negative : Bool) (digits : List Char) : Int :=
  if negative then -digitsValue digits else digitsValue digits

def afterSign : List Char → Bool × List Char
  | '-' :: cs => (true, cs)
  | '+' :: cs => (false, cs)
  | cs => (false, cs)

theorem isDecimal_of_afterSign {text digits : List Char} {negative : Bool}
    (hsign : afterSign text = (negative, digits)) (hsome : digits ≠ [])
    (hdigits : ∀ c ∈ digits, c.isDigit) : IsDecimal text (signed negative digits) := by
  unfold afterSign at hsign
  split at hsign
  · obtain ⟨rfl, rfl⟩ := Prod.mk.inj hsign
    exact .minus hsome hdigits
  · obtain ⟨rfl, rfl⟩ := Prod.mk.inj hsign
    exact .plus hsome hdigits
  · obtain ⟨rfl, rfl⟩ := Prod.mk.inj hsign
    exact .unsigned hsome hdigits

/-- A sign is no digit. -/
theorem afterSign_of_isDigit {digits : List Char} (hdigits : ∀ c ∈ digits, c.isDigit) :
    afterSign digits = (false, digits) := by
  unfold afterSign
  split
  · exact absurd (hdigits '-' List.mem_cons_self) (by decide)
  · exact absurd (hdigits '+' List.mem_cons_self) (by decide)
  · rfl

/-- A text is read as a number exactly if digits follow its sign and the number fits into 32 bits.
-/
theorem parseInt32_eq_some_iff_afterSign {s : String} {v : Int32} {negative : Bool}
    {digits : List Char} (hsign : afterSign s.toList = (negative, digits)) :
    parseInt32 s = some v ↔
      digits ≠ [] ∧ (∀ c ∈ digits, c.isDigit) ∧ v.toInt = signed negative digits := by
  have hparse : parseInt32 s =
      if (digits.isEmpty || !digits.all Char.isDigit) = true then none
      else Word.int32? (signed negative digits) := by
    have hnegative : (afterSign s.toList).1 = negative := congrArg Prod.fst hsign
    have hrest : (afterSign s.toList).2 = digits := congrArg Prod.snd hsign
    rw [signed, ← foldl_eq_digitsValue, ← hnegative, ← hrest]
    rfl
  rw [hparse]
  split
  next hbad =>
    rw [Bool.or_eq_true, List.isEmpty_iff, Bool.not_eq_true', List.all_eq_false] at hbad
    constructor
    · rintro ⟨⟩
    · rintro ⟨hsome, hdigits, -⟩
      obtain hnil | ⟨c, hc, hother⟩ := hbad
      · exact absurd hnil hsome
      · exact absurd (hdigits c hc) hother
  next hgood =>
    rw [Bool.or_eq_true, not_or, List.isEmpty_iff, Bool.not_eq_true', Bool.not_eq_false,
      List.all_eq_true] at hgood
    rw [Word.int32?_eq_some_iff]
    exact ⟨fun hv => ⟨hgood.1, hgood.2, hv⟩, fun h => h.2.2⟩

/-- Reading a number finds the one that a decimal text stands for, and nothing else. -/
theorem parseInt32_eq_some_iff {s : String} {v : Int32} :
    parseInt32 s = some v ↔ IsDecimal s.toList v.toInt := by
  constructor
  · intro hv
    rcases hsign : afterSign s.toList with ⟨negative, digits⟩
    obtain ⟨hsome, hdigits, hvalue⟩ := (parseInt32_eq_some_iff_afterSign hsign).mp hv
    rw [hvalue]
    exact isDecimal_of_afterSign hsign hsome hdigits
  · intro hdecimal
    -- The cases of a decimal need its text and its number as variables.
    generalize hvalue : v.toInt = n at hdecimal
    generalize htext : s.toList = text at hdecimal
    have hread {negative : Bool} {digits : List Char} :
        afterSign text = (negative, digits) → digits ≠ [] → (∀ c ∈ digits, c.isDigit) →
          n = signed negative digits → parseInt32 s = some v := by
      rintro hsign hsome hdigits rfl
      rw [← htext] at hsign
      exact (parseInt32_eq_some_iff_afterSign hsign).mpr ⟨hsome, hdigits, hvalue⟩
    cases hdecimal with
    | unsigned hsome hdigits => exact hread (afterSign_of_isDigit hdigits) hsome hdigits rfl
    | plus hsome hdigits => exact hread rfl hsome hdigits rfl
    | minus hsome hdigits => exact hread rfl hsome hdigits rfl

end Settings

end LocalRecords
