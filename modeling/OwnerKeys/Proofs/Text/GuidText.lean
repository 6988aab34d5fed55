import OwnerKeys.Guid.Text

/-!
# GUIDs by their texts

A GUID is determined by its text: without the dashes it spells the digits of the GUID byte by byte.
-/

namespace OwnerKeys

/-- Characters of one byte each make a text with as many bytes. -/
theorem utf8ByteSize_ofList {chars : List Char} (single : ∀ char ∈ chars, char.utf8Size = 1) :
    (String.ofList chars).utf8ByteSize = chars.length := by
  induction chars with
  | nil => rfl
  | cons char later ih =>
      rw [String.ofList_cons, String.utf8ByteSize_append, String.utf8ByteSize_singleton,
        single char List.mem_cons_self,
        ih fun other mem => single other (List.mem_cons_of_mem char mem), List.length_cons]
      omega

namespace Hex

theorem digitChar_inj : ∀ left < 16, ∀ right < 16,
    Nat.digitChar left = Nat.digitChar right → left = right := by
  decide +kernel

theorem ofByte_inj {left right : UInt8} (same : ofByte left = ofByte right) : left = right := by
  have leftBound := left.toNat_lt
  have rightBound := right.toNat_lt
  simp only [ofByte, List.cons.injEq, and_true] at same
  have high := digitChar_inj _ (by omega) _ (by omega) same.1
  have low := digitChar_inj _ (by omega) _ (by omega) same.2
  apply UInt8.toNat_inj.mp
  omega

/-- Bytes are determined by their digits. -/
theorem ofBytes_inj {left right : Bytes} (same : ofBytes left = ofBytes right) : left = right := by
  induction left generalizing right with
  | nil =>
      cases right with
      | nil => rfl
      | cons byte rest => simp [ofBytes, ofByte] at same
  | cons byte rest ih =>
      cases right with
      | nil => simp [ofBytes, ofByte] at same
      | cons other later =>
          rcases List.append_inj same rfl with ⟨sameByte, sameRest⟩
          rw [ofByte_inj sameByte, ih sameRest]

theorem ofBytes_append (left right : Bytes) :
    ofBytes (left ++ right) = ofBytes left ++ ofBytes right :=
  List.flatMap_append

theorem exists_digit_of_mem {bytes : Bytes} {char : Char} (mem : char ∈ ofBytes bytes) :
    ∃ digit < 16, char = Nat.digitChar digit := by
  rcases List.mem_flatMap.mp mem with ⟨byte, _, inByte⟩
  have bound := byte.toNat_lt
  simp only [ofByte, List.mem_cons, List.not_mem_nil, or_false] at inByte
  rcases inByte with isHigh | isLow
  · exact ⟨_, by omega, isHigh⟩
  · exact ⟨_, by omega, isLow⟩

theorem utf8Size_digitChar : ∀ digit < 16, (Nat.digitChar digit).utf8Size = 1 := by
  decide +kernel

end Hex

namespace Guid

theorem ofDigits_digits (guid : Guid) : ofDigits? guid.digits = some guid := by
  obtain ⟨data1, data2, data3, ⟨⟨data4⟩, size⟩⟩ := guid
  match data4, size with
  | [d0, d1, d2, d3, d4, d5, d6, d7], size =>
    simp only [digits, LittleEndian.ofUInt32, LittleEndian.ofUInt16, Vector.toList_mk,
      List.reverse_cons, List.reverse_nil, List.cons_append, List.nil_append, ofDigits?,
      LittleEndian.word32_ofNat, LittleEndian.word16_ofNat]

/-- The groups of digits make up all digits. -/
theorem groups_append (bytes : Bytes) : bytes = bytes.take 4 ++ ((bytes.drop 4).take 2 ++
    ((bytes.drop 6).take 2 ++ ((bytes.drop 8).take 2 ++ bytes.drop 10))) := by
  have step (count : Nat) : (bytes.drop count).take 2 ++ bytes.drop (count + 2) =
      bytes.drop count := by
    rw [← List.drop_drop, List.take_append_drop]
  rw [step 8, step 6, step 4, List.take_append_drop]

/-- Without its dashes the text of a GUID spells its digits. -/
theorem filter_textChars (guid : Guid) :
    guid.textChars.filter (· ≠ '-') = Hex.ofBytes guid.digits := by
  have stays (bytes : Bytes) : (Hex.ofBytes bytes).filter (· ≠ '-') = Hex.ofBytes bytes := by
    apply List.filter_eq_self.mpr
    intro char mem
    simp only [decide_eq_true_eq]
    rintro rfl
    rcases Hex.exists_digit_of_mem mem with ⟨digit, _, isDigit⟩
    exact Nat.digitChar_ne '-' rfl isDigit.symm
  rw [congrArg Hex.ofBytes (groups_append guid.digits)]
  simp only [textChars, Hex.ofBytes_append, List.filter_append, List.filter_cons, stays,
    List.append_assoc]
  simp

/-- A GUID is determined by its text. -/
theorem text_inj {left right : Guid} (same : left.text = right.text) : left = right := by
  have sameDigits : left.digits = right.digits := by
    apply Hex.ofBytes_inj
    rw [← filter_textChars, ← filter_textChars, String.ofList_injective same]
  apply Option.some.inj
  rw [← ofDigits_digits, ← ofDigits_digits, sameDigits]

/-- A text consists of digits and dashes. -/
theorem dash_or_digit {guid : Guid} {char : Char} (mem : char ∈ guid.textChars) :
    char = '-' ∨ ∃ digit < 16, char = Nat.digitChar digit := by
  by_cases isDash : char = '-'
  · exact .inl isDash
  · right
    apply Hex.exists_digit_of_mem
    rw [← filter_textChars]
    exact List.mem_filter.mpr ⟨mem, by simpa using isDash⟩

theorem slash_notin_textChars (guid : Guid) : '/' ∉ guid.textChars := by
  intro mem
  rcases dash_or_digit mem with isDash | ⟨digit, _, isDigit⟩
  · exact absurd isDash (by decide)
  · exact Nat.digitChar_ne '/' rfl isDigit.symm

theorem zero_notin_textChars (guid : Guid) : '\x00' ∉ guid.textChars := by
  intro mem
  rcases dash_or_digit mem with isDash | ⟨digit, _, isDigit⟩
  · exact absurd isDash (by decide)
  · exact Nat.digitChar_ne '\x00' rfl isDigit.symm

/-- A text has as many bytes as characters. -/
theorem utf8ByteSize_text (guid : Guid) : guid.text.utf8ByteSize = 36 := by
  rw [text, utf8ByteSize_ofList, length_textChars]
  intro char mem
  rcases dash_or_digit mem with rfl | ⟨digit, small, rfl⟩
  · decide
  · exact Hex.utf8Size_digitChar digit small

end Guid

end OwnerKeys
