import Mathlib.Algebra.Group.Nat.Defs
import LocalRecords.Proofs.Socket.Control

namespace LocalRecords.Control

def lenWord (size : UInt32) : UInt32 := UInt32.ofNat headLen + size

def spaceWord (size : UInt32) : UInt32 := UInt32.ofNat (headLen + align size.toNat)

/-- The words do not wrap around. -/
theorem words_exact {count : Nat} (h : count < 2 ^ 29) :
    (lenWord (UInt32.ofNat (4 * count))).toNat = headLen + 4 * count ∧
      (spaceWord (UInt32.ofNat (4 * count))).toNat = space count := by
  have hsize : (UInt32.ofNat (4 * count)).toNat = 4 * count :=
    UInt32.toNat_ofNat_of_lt' (by rw [UInt32.size]; omega)
  have hhead : (UInt32.ofNat headLen).toNat = headLen := rfl
  constructor
  · rw [lenWord, UInt32.toNat_add, hsize, hhead, headLen]
    omega
  · rw [spaceWord, hsize, space]
    refine UInt32.toNat_ofNat_of_lt' ?_
    rw [UInt32.size, headLen, align]
    omega

def first (bytes : Bytes) : List DescriptorNumber :=
  if Word.ofBytes ((bytes.drop 8).take 4) = rights ∧
      Word.ofBytes ((bytes.drop 12).take 4) = rights then
    words ((bytes.take (Word.ofBytes (bytes.take 8))).drop headLen)
  else []

theorem collect_nil : collect [] = [] := by
  rw [collect]
  rfl

/-- Collecting takes the descriptors of the first message and goes on with the next, if there is
one. -/
theorem collect_eq {bytes : Bytes} (h : headLen ≤ bytes.length) :
    collect bytes = first bytes ++
      ((next? bytes (Word.ofBytes (bytes.take 8))).map collect).getD [] := by
  rw [collect, if_neg (Nat.not_lt.mpr h)]
  dsimp only
  split
  next hnext =>
    rw [hnext, Option.map_none, Option.getD_none, List.append_nil]
    rfl
  next after hnext =>
    rw [hnext, Option.map_some, Option.getD_some]
    rfl

def Complete (bytes : Bytes) : Prop :=
  bytes = [] ∨ headLen ≤ bytes.length ∧ align (Word.ofBytes (bytes.take 8)) ≤ bytes.length

section message

variable {data pad more : Bytes}

theorem complete_message (hlen : headLen + data.length < Word.count 8)
    (hpad : pad.length = align data.length - data.length) (more : Bytes) :
    Complete (message data pad ++ more) := by
  right
  rw [take_message, Word.ofBytes_toBytes hlen, List.length_append, length_message hpad, headLen,
    align, align]
  omega

/-- The first message passes the numbers that its data spells. -/
theorem first_message (hlen : headLen + data.length < Word.count 8) :
    first (message data pad ++ more) = words data := by
  rw [first, level_message, type_message, ofBytes_rights, if_pos ⟨rfl, rfl⟩, take_message,
    Word.ofBytes_toBytes hlen, body_message]

/-- Behind a message comes the next one, if there is one. -/
theorem next?_message (hpad : pad.length = align data.length - data.length)
    (hmore : Complete more) :
    next? (message data pad ++ more) (headLen + data.length) =
      if more = [] then none else some more := by
  rw [next?, after_message more hpad]
  rcases hmore with rfl | ⟨hhead, hwhole⟩
  · rw [if_pos (.inr (.inl (by decide))), if_pos rfl]
  · have hne : more ≠ [] := by
      rintro rfl
      cases hhead
    rw [if_neg (by omega), if_neg hne]

/-- A message and what follows it are collected one after the other. -/
theorem collect_message (hlen : headLen + data.length < Word.count 8)
    (hpad : pad.length = align data.length - data.length) (hmore : Complete more) :
    collect (message data pad ++ more) = words data ++ collect more := by
  have hhead : headLen ≤ (message data pad ++ more).length := by
    rw [List.length_append, length_message hpad]
    omega
  rw [collect_eq hhead, first_message hlen, take_message, Word.ofBytes_toBytes hlen,
    next?_message hpad hmore]
  by_cases hnil : more = []
  · rw [if_pos hnil, hnil, collect_nil]
    rfl
  · rw [if_neg hnil]
    rfl

end message

section encode

variable {numbers : List DescriptorNumber}

/-- The message made for some descriptors, its data and what fills it up apart. -/
theorem exists_message (hn : numbers ≠ []) (h : numbers.length < 2 ^ 29) :
    ∃ data pad, encode numbers = message data pad ∧ words data = numbers ∧
      headLen + data.length < Word.count 8 ∧ pad.length = align data.length - data.length := by
  have hlen := length_flatMap_toBytes numbers
  refine ⟨_, _, encode_eq hn, words_flatMap numbers, ?_, ?_⟩
  · rw [hlen]
    simp only [headLen, Word.count]
    omega
  · rw [List.length_replicate, hlen]

theorem encode_eq_nil_iff (numbers : List DescriptorNumber) :
    encode numbers = [] ↔ numbers.length = 0 := by
  rw [List.length_eq_zero_iff]
  constructor
  · intro hnil
    cases numbers with
    | nil => rfl
    | cons n rest =>
      have hlen := congrArg List.length hnil
      rw [encode_eq (List.cons_ne_nil n rest), message, List.length_append,
        Word.length_toBytes] at hlen
      cases (Nat.add_eq_zero_iff.mp hlen).1
  · rintro rfl
    rfl

/-- Field by field, what a message consists of. -/
theorem layout_encode (hn : numbers ≠ []) : ∃ zeros,
    encode numbers = Word.toBytes 8 (headLen + 4 * numbers.length) ++ Word.toBytes 4 rights ++
      Word.toBytes 4 rights ++ (numbers.flatMap fun n => Word.toBytes 4 n.toNat) ++
      List.replicate zeros 0 ∧
    (encode numbers).length = headLen + 4 * numbers.length + zeros ∧ zeros < 8 ∧
    8 ∣ (encode numbers).length ∧ (encode numbers).length = space numbers.length := by
  have hlen := length_flatMap_toBytes numbers
  have hsize : (encode numbers).length = headLen + align (4 * numbers.length) := by
    rw [encode_eq hn, length_message (by rw [List.length_replicate, hlen]), hlen]
  refine ⟨align (4 * numbers.length) - 4 * numbers.length, ?_, ?_, ?_, ?_, hsize⟩
  · rw [encode_eq hn, message, hlen]
    simp only [List.append_assoc]
  · rw [hsize, align]
    omega
  · rw [align]
    omega
  · rw [hsize, headLen, align]
    omega

theorem complete_encode_append (h : numbers.length < 2 ^ 29) {more : Bytes}
    (hmore : Complete more) : Complete (encode numbers ++ more) := by
  by_cases hn : numbers = []
  · rw [hn]
    exact hmore
  · obtain ⟨data, pad, heq, -, hlen, hpad⟩ := exists_message hn h
    rw [heq]
    exact complete_message hlen hpad more

/-- A message in front of others is collected first, as it was encoded. -/
theorem collect_encode_append (h : numbers.length < 2 ^ 29) {more : Bytes}
    (hmore : Complete more) : collect (encode numbers ++ more) = numbers ++ collect more := by
  by_cases hn : numbers = []
  · rw [hn]
    rfl
  · obtain ⟨data, pad, heq, hwords, hlen, hpad⟩ := exists_message hn h
    rw [heq, collect_message hlen hpad hmore, hwords]

theorem collect_encode (h : numbers.length < 2 ^ 29) : collect (encode numbers) = numbers := by
  have hall := collect_encode_append h (.inl rfl : Complete [])
  rwa [List.append_nil, collect_nil, List.append_nil] at hall

theorem complete_encodings {lists : List (List DescriptorNumber)}
    (h : ∀ numbers ∈ lists, numbers.length < 2 ^ 29) : Complete (lists.flatMap encode) := by
  induction lists with
  | nil => exact .inl rfl
  | cons numbers lists ih =>
    rw [List.forall_mem_cons] at h
    exact complete_encode_append h.1 (ih h.2)

/-- From messages one behind the other the descriptors of all are collected. -/
theorem collect_encodings {lists : List (List DescriptorNumber)}
    (h : ∀ numbers ∈ lists, numbers.length < 2 ^ 29) :
    collect (lists.flatMap encode) = lists.flatten := by
  induction lists with
  | nil => exact collect_nil
  | cons numbers lists ih =>
    rw [List.forall_mem_cons] at h
    rw [List.flatMap_cons, collect_encode_append h.1 (complete_encodings h.2), ih h.2,
      List.flatten_cons]

end encode

/-- For no descriptors there is no message, and only for none. One for less than 2 ^ 29 of them is
made of its head, which says its length, of their numbers in order and of fewer than eight zeros, by
which its size is a multiple of 8; both sizes are found in words. From any number of such messages
one behind the other all descriptors are collected, in order. -/
theorem collect_round_trips :
    (∀ numbers : List DescriptorNumber, numbers.length < 2 ^ 29 →
      (encode numbers = [] ↔ numbers.length = 0) ∧
      (numbers ≠ [] → ∃ zeros,
        encode numbers = Word.toBytes 8 (headLen + 4 * numbers.length) ++ Word.toBytes 4 rights ++
          Word.toBytes 4 rights ++ (numbers.flatMap fun n => Word.toBytes 4 n.toNat) ++
          List.replicate zeros 0 ∧
        (encode numbers).length = headLen + 4 * numbers.length + zeros ∧ zeros < 8 ∧
        8 ∣ (encode numbers).length ∧
        (lenWord (UInt32.ofNat (4 * numbers.length))).toNat = headLen + 4 * numbers.length ∧
        (spaceWord (UInt32.ofNat (4 * numbers.length))).toNat = (encode numbers).length)) ∧
      ∀ lists : List (List DescriptorNumber), (∀ numbers ∈ lists, numbers.length < 2 ^ 29) →
        collect (lists.flatMap encode) = lists.flatten := by
  refine ⟨fun numbers h => ⟨encode_eq_nil_iff numbers, fun hn => ?_⟩, fun lists h =>
    collect_encodings h⟩
  obtain ⟨zeros, hlayout, hlen, hfew, hmultiple, hspace⟩ := layout_encode hn
  obtain ⟨hlength, hroom⟩ := words_exact h
  exact ⟨zeros, hlayout, hlen, hfew, hmultiple, hlength, hroom.trans hspace.symm⟩

/-- Of three messages, for one descriptor, for none and for two, all are collected. The first one is
filled up, so the last one does not begin where its number ends. -/
theorem collect_round_trips_threeMessages :
    let lists : List (List DescriptorNumber) := [[7], [], [3, 0xffffffff]]
    (∀ numbers ∈ lists, numbers.length < 2 ^ 29) ∧ (encode [7]).length = 24 ∧
      collect (lists.flatMap encode) = [7, 3, 0xffffffff] := by
  intro lists
  have hfew : ∀ numbers ∈ lists, numbers.length < 2 ^ 29 := by decide
  obtain ⟨hlayout, hcollect⟩ := collect_round_trips
  have hone : ([7] : List DescriptorNumber).length < 2 ^ 29 := by decide
  obtain ⟨zeros, -, hlen, hzeros, hmultiple, -, -⟩ := (hlayout [7] hone).2 (by decide)
  refine ⟨hfew, ?_, hcollect lists hfew⟩
  rw [headLen, List.length_singleton] at hlen
  omega

end LocalRecords.Control
