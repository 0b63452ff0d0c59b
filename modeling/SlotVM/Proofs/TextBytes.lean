import SlotVM.Text.Clamp
import SlotVM.Text.Utf8

namespace SlotVM

theorem announcedWidth_eq (b : UInt8) : announcedWidth b =
    if b.toNat < 128 then 1 else if b.toNat < 224 then 2 else if b.toNat < 240 then 3 else 4 := by
  simp [announcedWidth, UInt8.lt_iff_toNat_lt]

theorem utf8EncodeChar_eq_cons (c : Char) : ∃ b others, String.utf8EncodeChar c = b :: others ∧
    announcedWidth b = others.length + 1 ∧ spelledCode b others = c.toNat := by
  have bound : c.toNat < 1114112 := by
    rcases c.valid with low | high <;> simp only [Char.toNat] <;> omega
  have code : c.val.toNat = c.toNat := rfl
  unfold String.utf8EncodeChar
  simp only [code]
  split
  next one =>
    refine ⟨_, _, rfl, ?_, ?_⟩
    · rw [announcedWidth_eq, UInt8.toNat_ofNat', if_pos (by omega)]
      rfl
    · simp only [spelledCode, List.foldl_nil, List.isEmpty_nil, if_true, UInt8.toNat_ofNat']
      omega
  next =>
    split
    next two =>
      refine ⟨_, _, rfl, ?_, ?_⟩
      · rw [announcedWidth_eq, UInt8.toNat_ofNat', if_neg (by omega), if_pos (by omega)]
        rfl
      · simp [spelledCode]
        omega
    next =>
      split
      next three =>
        refine ⟨_, _, rfl, ?_, ?_⟩
        · rw [announcedWidth_eq, UInt8.toNat_ofNat', if_neg (by omega), if_neg (by omega),
            if_pos (by omega)]
          rfl
        · simp [spelledCode]
          omega
      next four =>
        refine ⟨_, _, rfl, ?_, ?_⟩
        · rw [announcedWidth_eq, UInt8.toNat_ofNat', if_neg (by omega), if_neg (by omega),
            if_neg (by omega)]
          rfl
        · simp [spelledCode]
          omega

theorem decodeChars_append (c : Char) (bytes : List UInt8) :
    decodeChars (String.utf8EncodeChar c ++ bytes) = (decodeChars bytes).map (c :: ·) := by
  obtain ⟨b, others, encoded, width, spelled⟩ := utf8EncodeChar_eq_cons c
  have front : (others ++ bytes).take (announcedWidth b - 1) = others := by simp [width]
  have back : (others ++ bytes).drop (announcedWidth b - 1) = bytes := by simp [width]
  have first : firstChar? b (others ++ bytes) = some c := by
    simp [firstChar?, front, spelled, Char.ofNat_toNat, encoded]
  rw [encoded, List.cons_append, decodeChars, first, back]

theorem decodeChars_flatMap (chars : List Char) :
    decodeChars (chars.flatMap String.utf8EncodeChar) = .ok chars := by
  induction chars with
  | nil => rw [List.flatMap_nil, decodeChars]
  | cons c rest ih =>
    rw [List.flatMap_cons, decodeChars_append, ih]
    rfl

/-- What was encoded is read back. -/
theorem decodeText_encodeText (s : String) : decodeText (encodeText s) = .ok s := by
  rw [decodeText, encodeText, decodeChars_flatMap]
  exact congrArg Except.ok (String.ofList_toList)

theorem firstChar?_eq_some {b : UInt8} {rest : List UInt8} {c : Char}
    (h : firstChar? b rest = some c) :
    String.utf8EncodeChar c = b :: rest.take (announcedWidth b - 1) := by
  simp only [firstChar?] at h
  split at h
  next encoded => cases h; exact encoded
  next => cases h

/-- By the recursion of the reader: a character stands for its own bytes at the front. -/
theorem flatMap_of_decodeChars {bytes : List UInt8} {chars : List Char}
    (h : decodeChars bytes = .ok chars) : chars.flatMap String.utf8EncodeChar = bytes := by
  fun_induction decodeChars bytes generalizing chars with
  | case1 => cases h; rfl
  | case2 => cases h
  | case3 b rest c first ih =>
    cases later : decodeChars (rest.drop (announcedWidth b - 1)) with
    | error e => rw [later] at h; cases h
    | ok others =>
      rw [later] at h
      cases h
      rw [List.flatMap_cons, firstChar?_eq_some first, ih later, List.cons_append,
        List.take_append_drop]

/-- What can be read is the encoding of what was read. -/
theorem encodeText_of_decodeText {bytes : List UInt8} {s : String} (h : decodeText bytes = .ok s) :
    encodeText s = bytes := by
  unfold decodeText at h
  cases read : decodeChars bytes with
  | error e => rw [read] at h; cases h
  | ok chars =>
    rw [read] at h
    cases h
    rw [encodeText, String.toList_ofList, flatMap_of_decodeChars read]

theorem length_encodeText (s : String) : (encodeText s).length = s.utf8ByteSize := by
  have bytes : s.toByteArray = s.toList.utf8Encode := by
    rw [← String.toByteArray_ofList, String.ofList_toList]
  rw [← String.size_toByteArray, bytes]
  simp [encodeText, List.utf8Encode]

theorem utf8ByteSize_ofList (chars : List Char) :
    (String.ofList chars).utf8ByteSize = (chars.flatMap String.utf8EncodeChar).length := by
  rw [← length_encodeText, encodeText, String.toList_ofList]

/-- A character has at least one byte. -/
theorem length_le_flatMap (chars : List Char) :
    chars.length ≤ (chars.flatMap String.utf8EncodeChar).length := by
  induction chars with
  | nil => exact Nat.le_refl 0
  | cons c rest ih =>
    have one := c.utf8Size_pos
    rw [List.flatMap_cons, List.length_append, String.length_utf8EncodeChar, List.length_cons]
    omega

theorem length_le_utf8ByteSize (s : String) : s.length ≤ s.utf8ByteSize := by
  have bytes := length_le_flatMap s.toList
  rwa [← utf8ByteSize_ofList, String.ofList_toList, String.length_toList] at bytes

theorem clampChars_isPrefix (chars : List Char) (room : Nat) : clampChars chars room <+: chars := by
  induction chars generalizing room with
  | nil => exact List.prefix_rfl
  | cons c rest ih =>
    unfold clampChars
    split
    next => exact List.cons_prefix_cons.mpr ⟨rfl, ih _⟩
    next => exact List.nil_prefix

theorem isPrefix_clampChars {front chars : List Char} {room : Nat} (start : front <+: chars)
    (fits : (front.flatMap String.utf8EncodeChar).length ≤ room) :
    front <+: clampChars chars room := by
  -- The first character fits because all of them do, and the others fit into what it leaves.
  induction front generalizing chars room with
  | nil => exact List.nil_prefix
  | cons c front ih =>
    obtain ⟨rest, rfl⟩ := start
    rw [List.flatMap_cons, List.length_append, String.length_utf8EncodeChar] at fits
    have enough : c.utf8Size ≤ room := Nat.le_trans (Nat.le_add_right _ _) fits
    rw [List.cons_append, clampChars, if_pos enough]
    exact List.cons_prefix_cons.mpr ⟨rfl, ih (List.prefix_append _ _) (by omega)⟩

theorem clampChars_length_le (chars : List Char) (room : Nat) :
    ((clampChars chars room).flatMap String.utf8EncodeChar).length ≤ room := by
  induction chars generalizing room with
  | nil => simp [clampChars]
  | cons c rest ih =>
    unfold clampChars
    split
    next fits =>
      have later := ih (room - c.utf8Size)
      rw [List.flatMap_cons, List.length_append, String.length_utf8EncodeChar]
      omega
    next => simp

/-- A text that was cut has no more bytes than it may have. -/
theorem utf8ByteSize_clamp_le (s : String) (limit : Nat) :
    (clamp s limit).utf8ByteSize ≤ limit := by
  rw [clamp, utf8ByteSize_ofList]
  exact clampChars_length_le s.toList limit

end SlotVM
