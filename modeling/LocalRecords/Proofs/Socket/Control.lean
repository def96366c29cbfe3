import LocalRecords.Socket.Control

namespace LocalRecords.Control

theorem words_append (n : DescriptorNumber) (rest : Bytes) :
    words (Word.toBytes 4 n.toNat ++ rest) = n :: words rest := by
  have hcons : words (Word.toBytes 4 n.toNat ++ rest) =
      UInt32.ofNat (Word.ofBytes (Word.toBytes 4 n.toNat)) :: words rest := rfl
  rw [hcons, Word.ofBytes_toBytes n.toNat_lt, UInt32.ofNat_toNat]

theorem words_flatMap (numbers : List DescriptorNumber) :
    words (numbers.flatMap fun n => Word.toBytes 4 n.toNat) = numbers := by
  induction numbers with
  | nil => rfl
  | cons n rest ih => rw [List.flatMap_cons, words_append, ih]

theorem length_flatMap_toBytes (numbers : List DescriptorNumber) :
    (numbers.flatMap fun n => Word.toBytes 4 n.toNat).length = 4 * numbers.length := by
  induction numbers with
  | nil => rfl
  | cons n rest ih =>
    rw [List.flatMap_cons, List.length_append, Word.length_toBytes, ih, List.length_cons]
    omega

def message (data pad : Bytes) : Bytes :=
  Word.toBytes 8 (headLen + data.length) ++ (Word.toBytes 4 rights ++
    (Word.toBytes 4 rights ++ (data ++ pad)))

section message

variable {data pad : Bytes} (more : Bytes)

theorem message_append : message data pad ++ more =
    Word.toBytes 8 (headLen + data.length) ++ (Word.toBytes 4 rights ++
      (Word.toBytes 4 rights ++ (data ++ (pad ++ more)))) := by
  simp only [message, List.append_assoc]

theorem length_message (hpad : pad.length = align data.length - data.length) :
    (message data pad).length = headLen + align data.length := by
  simp only [message, List.length_append, Word.length_toBytes, hpad, headLen, align]
  omega

theorem take_message :
    (message data pad ++ more).take 8 = Word.toBytes 8 (headLen + data.length) := by
  rw [message_append, List.take_left' (Word.length_toBytes 8 _)]

theorem level_message :
    ((message data pad ++ more).drop 8).take 4 = Word.toBytes 4 rights := by
  rw [message_append, List.drop_left' (Word.length_toBytes 8 _),
    List.take_left' (Word.length_toBytes 4 _)]

theorem drop_message : (message data pad ++ more).drop 12 =
    Word.toBytes 4 rights ++ (data ++ (pad ++ more)) := by
  calc (message data pad ++ more).drop 12
      = ((message data pad ++ more).drop 8).drop 4 := by rw [List.drop_drop]
    _ = Word.toBytes 4 rights ++ (data ++ (pad ++ more)) := by
      rw [message_append, List.drop_left' (Word.length_toBytes 8 _),
        List.drop_left' (Word.length_toBytes 4 _)]

theorem type_message :
    ((message data pad ++ more).drop 12).take 4 = Word.toBytes 4 rights := by
  rw [drop_message, List.take_left' (Word.length_toBytes 4 _)]

/-- The body of a message is its data, whatever fills it up. -/
theorem body_message :
    ((message data pad ++ more).take (headLen + data.length)).drop headLen = data := by
  have hbody : (message data pad ++ more).drop headLen = data ++ (pad ++ more) := by
    calc (message data pad ++ more).drop headLen
        = ((message data pad ++ more).drop 12).drop 4 := by rw [List.drop_drop, headLen]
      _ = data ++ (pad ++ more) := by
        rw [drop_message, List.drop_left' (Word.length_toBytes 4 _)]
  rw [List.drop_take, hbody, Nat.add_sub_cancel_left, List.take_left]

/-- The next message begins where the padding of this one ends. -/
theorem after_message (hpad : pad.length = align data.length - data.length) :
    (message data pad ++ more).drop (align (headLen + data.length)) = more := by
  have halign : align (headLen + data.length) = (message data pad).length := by
    rw [length_message hpad, headLen, align, align]
    omega
  rw [halign, List.drop_left]

end message

theorem ofBytes_rights : Word.ofBytes (Word.toBytes 4 rights) = rights := rfl

/-- Bytes that are written over the first of some zeros leave the others behind them. -/
theorem write_zeros (front bytes : Bytes) {place : Nat} (hplace : front.length = place)
    (room : Nat) :
    write (front ++ List.replicate room 0) place bytes =
      front ++ bytes ++ List.replicate (room - bytes.length) 0 := by
  have hdrop : (front ++ List.replicate room 0).drop (place + bytes.length) =
      List.replicate (room - bytes.length) 0 := by
    rw [← List.drop_drop, List.drop_left' hplace, List.drop_replicate]
  rw [write, List.take_left' hplace, hdrop]

/-- What stands in memory when all fields are written. What fills the message up was not written. -/
theorem encode_eq {numbers : List DescriptorNumber} (hn : numbers ≠ []) :
    encode numbers = message (numbers.flatMap fun n => Word.toBytes 4 n.toNat)
      (List.replicate (align (4 * numbers.length) - 4 * numbers.length) 0) := by
  have hlen := length_flatMap_toBytes numbers
  rw [encode, if_neg (by rwa [List.isEmpty_iff]), message]
  dsimp only
  generalize (numbers.flatMap fun n => Word.toBytes 4 n.toNat) = data at hlen ⊢
  have hsize : (Word.toBytes 8 (headLen + data.length)).length = 8 := Word.length_toBytes 8 _
  generalize Word.toBytes 8 (headLen + data.length) = size at hsize ⊢
  have hkind : (Word.toBytes 4 rights).length = 4 := Word.length_toBytes 4 _
  generalize Word.toBytes 4 rights = kind at hkind ⊢
  have htwo : (size ++ kind).length = 12 := by rw [List.length_append, hsize, hkind]
  have hhead : (size ++ kind ++ kind).length = headLen := by
    rw [List.length_append, htwo, hkind, headLen]
  calc write (write (write (write (List.replicate (space numbers.length) 0) 0 size) 8 kind) 12 kind)
        headLen data
      = size ++ kind ++ kind ++ data ++ List.replicate
          (space numbers.length - size.length - kind.length - kind.length - data.length) 0 := by
        rw [← List.nil_append (List.replicate (space numbers.length) 0),
          write_zeros [] size List.length_nil, List.nil_append, write_zeros size kind hsize,
          write_zeros (size ++ kind) kind htwo, write_zeros (size ++ kind ++ kind) data hhead]
    _ = size ++ (kind ++ (kind ++ (data ++ List.replicate
          (align (4 * numbers.length) - 4 * numbers.length) 0))) := by
        have hroom : space numbers.length - size.length - kind.length - kind.length - data.length =
            align (4 * numbers.length) - 4 * numbers.length := by
          rw [space, headLen, hsize, hkind, hlen]
          omega
        rw [hroom]
        simp only [List.append_assoc]

theorem requested_nil : requested [] = some [] := by
  rw [requested]
  rfl

/-- A message that passes descriptors asks for those in its body, before what comes behind it. -/
theorem requested_message {data pad : Bytes} (hlen : headLen + data.length < Word.count 8)
    (hpad : pad.length = align data.length - data.length) (more : Bytes) :
    requested (message data pad ++ more) = (requested more).bind fun rest =>
      if maxDescriptors < (words data ++ rest).length then none else some (words data ++ rest) := by
  have hsize : (message data pad ++ more).length = headLen + align data.length + more.length := by
    rw [List.length_append, length_message hpad]
  have hle : data.length ≤ align data.length := by
    rw [align]
    omega
  rw [requested, if_neg (by rw [hsize]; omega)]
  simp only [take_message, level_message, type_message, ofBytes_rights, Word.ofBytes_toBytes hlen,
    body_message, after_message more hpad]
  rw [if_neg (by rw [hsize]; omega)]
  rfl

/-- The control data made for some descriptors asks to pass these. -/
theorem requested_encode {numbers : List DescriptorNumber}
    (hn : numbers.length ≤ maxDescriptors) : requested (encode numbers) = some numbers := by
  by_cases hnil : numbers = []
  · rw [hnil]
    exact requested_nil
  · have hlen := length_flatMap_toBytes numbers
    have hwords := words_flatMap numbers
    rw [encode_eq hnil, ← hlen]
    generalize (numbers.flatMap fun n => Word.toBytes 4 n.toNat) = data at hlen hwords ⊢
    have hcount : headLen + data.length < Word.count 8 := by
      rw [maxDescriptors] at hn
      simp only [headLen, Word.count]
      omega
    have hmessage := requested_message hcount
      (List.length_replicate (a := (0 : UInt8))) []
    rw [List.append_nil, requested_nil, hwords] at hmessage
    rw [hmessage, Option.bind_some, List.append_nil, if_neg (Nat.not_lt.mpr hn)]

end LocalRecords.Control
