import LocalRecords.Socket.Address

namespace LocalRecords.Address

def textOf (field : List Int8) : Bytes := (field.takeWhile fun c => c ≠ 0).map Int8.toUInt8

/-- Giving a byte a sign and taking it away again changes nothing, with the high bit or without. -/
theorem map_toUInt8_map_toInt8 (bs : Bytes) : (bs.map UInt8.toInt8).map Int8.toUInt8 = bs := by
  rw [List.map_map]
  have hid : Int8.toUInt8 ∘ UInt8.toInt8 = id := funext UInt8.toUInt8_toInt8
  rw [hid, List.map_id]

theorem toInt8_ne_zero {b : UInt8} (hb : b ≠ 0) : b.toInt8 ≠ 0 := by
  intro hzero
  apply hb
  calc b = b.toInt8.toUInt8 := (UInt8.toUInt8_toInt8 b).symm
    _ = (0 : Int8).toUInt8 := by rw [hzero]
    _ = 0 := rfl

/-- Bytes go to the front of a field. What does not fit is left out, and behind them the field is as
it was. -/
theorem fill_eq (field : List Int8) (bs : Bytes) :
    fill field bs = (bs.take field.length).map UInt8.toInt8 ++ field.drop bs.length := by
  fun_induction fill field bs with
  | case1 c field b bs ih =>
    rw [ih]
    rfl
  | case2 field bs hstop =>
    cases field with
    | nil => simp
    | cons c field =>
      cases bs with
      | nil => simp
      | cons b bs => exact absurd rfl (hstop c field b bs rfl)

/-- A path that fits leaves zeros behind it. -/
theorem fill_zeros {n : Nat} {p : Bytes} (hfits : p.length ≤ n) :
    fill (List.replicate n 0) p = p.map UInt8.toInt8 ++ List.replicate (n - p.length) 0 := by
  rw [fill_eq, List.length_replicate, List.take_of_length_le hfits, List.drop_replicate]

/-- What is read from a field up to its first zero are the bytes that were written into it. -/
theorem textOf_map_append {p : Bytes} (hp : 0 ∉ p) (zeros : Nat) :
    textOf (p.map UInt8.toInt8 ++ List.replicate zeros 0) = p := by
  have hend : (List.replicate zeros (0 : Int8)).takeWhile (fun c => c ≠ 0) = [] := by
    rw [List.takeWhile_replicate, if_neg (by decide)]
  have hall : ∀ c ∈ p.map UInt8.toInt8, decide (c ≠ 0) = true := by
    intro c hc
    obtain ⟨b, hb, rfl⟩ := List.mem_map.mp hc
    exact decide_eq_true (toInt8_ne_zero fun hzero => hp (hzero ▸ hb))
  rw [textOf, List.takeWhile_append_of_pos hall, hend, List.append_nil, map_toUInt8_map_toInt8]

def resolution (p : Bytes) : Resolution where
  address :=
    { field := p.map UInt8.toInt8 ++ List.replicate (nameSize - p.length) 0
      length := overhead + p.length }
  path := p

/-- What becomes of a path. Its length is looked at before its bytes. -/
inductive Resolves (p : Bytes) : Except Failure Resolution → Prop
  | tooLong (hlong : longest < p.length) : Resolves p (.error (.longPath p.length longest))
  | empty (hnil : p = []) : Resolves p (.error (.badPath .empty))
  | zero (hle : p.length ≤ longest) (hzero : 0 ∈ p) :
      Resolves p (.error (.badPath (.containsNul p)))
  | name (hpos : 1 ≤ p.length) (hle : p.length ≤ longest) (hzero : 0 ∉ p) :
      Resolves p (.ok (resolution p))

/-- What `resolve` makes of a path, case by case. -/
theorem resolves (p : Bytes) : Resolves p (resolve p) := by
  rw [resolve]
  split
  next hlong => exact .tooLong hlong
  next hshort =>
    have hle : p.length ≤ longest := Nat.not_lt.mp hshort
    split
    next hempty => exact .empty (List.isEmpty_iff.mp hempty)
    next hsome =>
      have hpos : 1 ≤ p.length :=
        List.length_pos_iff.mpr fun hnil => hsome (List.isEmpty_iff.mpr hnil)
      split
      next hzero => exact .zero hle (List.contains_iff_mem.mp hzero)
      next hzero =>
        have hfits : p.length ≤ nameSize := Nat.le_succ_of_le hle
        rw [fill_zeros hfits]
        exact .name hpos hle fun hmem => hzero (List.contains_iff_mem.mpr hmem)

/-- A path is resolved exactly if it has some bytes, not too many, and none that is zero. -/
theorem resolve_eq_ok_iff {p : Bytes} {r : Resolution} :
    resolve p = .ok r ↔
      (1 ≤ p.length ∧ p.length ≤ longest ∧ 0 ∉ p) ∧ r = resolution p := by
  have hresolves := resolves p
  constructor
  · intro hr
    rw [hr] at hresolves
    cases hresolves with
    | name hpos hle hzero => exact ⟨⟨hpos, hle, hzero⟩, rfl⟩
  · rintro ⟨⟨hpos, hle, hzero⟩, rfl⟩
    cases hcase : resolve p with
    | error e =>
      rw [hcase] at hresolves
      cases hresolves with
      | tooLong hlong => exact absurd hle (Nat.not_le.mpr hlong)
      | empty hnil =>
        rw [hnil] at hpos
        cases hpos
      | zero _ hmem => exact absurd hmem hzero
    | ok r =>
      rw [hcase] at hresolves
      cases hresolves with
      | name => rfl

/-- What is wrong with a path that is not resolved: it is too long, or empty, or has a zero byte. -/
theorem resolve_eq_error_iff {p : Bytes} {e : Failure} :
    resolve p = .error e ↔
      longest < p.length ∧ e = .longPath p.length longest ∨
        p = [] ∧ e = .badPath .empty ∨
        p.length ≤ longest ∧ 0 ∈ p ∧ e = .badPath (.containsNul p) := by
  have hresolves := resolves p
  constructor
  · intro he
    rw [he] at hresolves
    cases hresolves with
    | tooLong hlong => exact .inl ⟨hlong, rfl⟩
    | empty hnil => exact .inr (.inl ⟨hnil, rfl⟩)
    | zero hle hzero => exact .inr (.inr ⟨hle, hzero, rfl⟩)
  · rintro (⟨hlong, rfl⟩ | ⟨rfl, rfl⟩ | ⟨hle, hzero, rfl⟩)
    · rw [resolve, if_pos hlong]
    · rfl
    · have hsome : ¬ p.isEmpty = true := by
        rw [List.isEmpty_iff]
        exact List.ne_nil_of_mem hzero
      rw [resolve, if_neg (Nat.not_lt.mpr hle), if_neg hsome,
        if_pos (List.contains_iff_mem.mpr hzero)]

/-- The encoded length covers just the bytes of the path. -/
theorem path_resolution (p : Bytes) : (resolution p).address.path = p := by
  have hlength : overhead + p.length - overhead = (p.map UInt8.toInt8).length := by
    rw [Nat.add_sub_cancel_left, List.length_map]
  rw [path, resolution, hlength, List.take_left, map_toUInt8_map_toInt8]

/-- A path is resolved if and only if it has a byte, no more than fit beside a zero, and none that
is zero. One that is too long is refused as such whatever its bytes, any other as an invalid one.
What is resolved comes back from the address, byte by byte: the field holds the path, then zeros and
at least one of them, and the length that is passed on counts the path, which is less than there is.
Two paths whose fields are the same are the same. -/
theorem resolve_faithful (p : Bytes) :
    ((∃ r, resolve p = .ok r) ↔ 1 ≤ p.length ∧ p.length ≤ longest ∧ 0 ∉ p) ∧
      (∀ e, resolve p = .error e ↔
        longest < p.length ∧ e = .longPath p.length longest ∨
          p = [] ∧ e = .badPath .empty ∨
          p.length ≤ longest ∧ 0 ∈ p ∧ e = .badPath (.containsNul p)) ∧
      ∀ r, resolve p = .ok r →
        r.path = p ∧ r.address.path = p ∧ ofPath p = .ok r.address ∧
          (∃ zeros, 1 ≤ zeros ∧ p.length + zeros = nameSize ∧
            r.address.field = p.map UInt8.toInt8 ++ List.replicate zeros 0) ∧
          textOf r.address.field = p ∧
          r.address.length = overhead + p.length ∧ r.address.length < size ∧
          ∀ q t, resolve q = .ok t → t.address.field = r.address.field → q = p := by
  refine ⟨?_, fun e => resolve_eq_error_iff, ?_⟩
  · constructor
    · rintro ⟨r, hr⟩
      exact (resolve_eq_ok_iff.mp hr).1
    · intro hname
      exact ⟨resolution p, resolve_eq_ok_iff.mpr ⟨hname, rfl⟩⟩
  · intro r hr
    obtain ⟨⟨-, hle, hzero⟩, rfl⟩ := resolve_eq_ok_iff.mp hr
    have hroom : longest + 1 = nameSize := rfl
    have hsize : overhead + nameSize = size := rfl
    have htext : textOf (resolution p).address.field = p := textOf_map_append hzero _
    have hof : ofPath p = .ok (resolution p).address := by
      rw [ofPath, hr]
      rfl
    have hlength : (resolution p).address.length = overhead + p.length := rfl
    refine ⟨rfl, path_resolution p, hof, ⟨nameSize - p.length, by omega, by omega, rfl⟩, htext,
      hlength, by omega, ?_⟩
    -- No zero is in either path, so both are read off the field.
    intro q t ht hfield
    obtain ⟨⟨-, -, hother⟩, rfl⟩ := resolve_eq_ok_iff.mp ht
    calc q = textOf (resolution q).address.field := (textOf_map_append hother _).symm
      _ = textOf (resolution p).address.field := by rw [hfield]
      _ = p := htext

/-- The longest path there is, all of whose bytes have the high bit set: one zero is left of the
field. With one byte more it is too long, though that byte is zero. -/
theorem resolve_faithful_longest :
    let p : Bytes := List.replicate 107 0xFF
    ∃ r, resolve p = .ok r ∧ r.address.path = p ∧
      r.address.field = List.replicate 107 (-1) ++ [0] ∧ r.address.length = 109 ∧
      resolve (p ++ [0]) = .error (.longPath 108 107) := by
  intro p
  obtain ⟨hiff, -, hfaithful⟩ := resolve_faithful p
  obtain ⟨r, hr⟩ := hiff.mpr ⟨by decide, by decide, by decide⟩
  obtain ⟨-, hpath, -, ⟨zeros, -, hzeros, hfield⟩, -, hlength, -, -⟩ := hfaithful r hr
  have hlong := ((resolve_faithful (p ++ [0])).2.1 (.longPath 108 107)).mpr
    (.inl ⟨by decide, by decide⟩)
  have hone : zeros = 1 := by
    have hp : p.length = 107 := by decide
    have hn : nameSize = 108 := rfl
    omega
  subst hone
  exact ⟨r, hr, hpath, hfield.trans (by decide), hlength, hlong⟩

end LocalRecords.Address
