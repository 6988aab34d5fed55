/-!
# Byte strings and little-endian words

Firmware data is a list of bytes. Multi-byte numbers in it are little-endian: the least significant
byte comes first. This file gives the words of 16 and 32 bits their bytes and reads them back;
`LittleEndian.read32_ofUInt32` and `LittleEndian.read16_ofUInt16` say that reading inverts writing.
-/

namespace OwnerKeys

/-- A byte string. -/
abbrev Bytes := List UInt8

namespace Bytes

/-- The byte strings of the characters of a text, in UTF-8. -/
def ofString (text : String) : Bytes :=
  text.toUTF8.data.toList

/-- The text that a byte string spells in UTF-8, if it spells one. -/
def toString? (bytes : Bytes) : Option String :=
  String.fromUTF8? ⟨bytes.toArray⟩

@[simp]
theorem ofString_inj {left right : String} : ofString left = ofString right ↔ left = right := by
  constructor
  · intro same
    apply String.toByteArray_inj.mp
    apply ByteArray.ext
    exact Array.toList_inj.mp same
  · exact fun same => congrArg ofString same

theorem toString_eq_some_iff {bytes : Bytes} {text : String} :
    toString? bytes = some text ↔ ofString text = bytes := by
  unfold toString? String.fromUTF8? ofString
  constructor
  · intro read
    split at read
    · cases read
      rfl
    · cases read
  · rintro rfl
    exact dif_pos text.isValidUTF8

theorem toString_eq_none_iff {bytes : Bytes} :
    toString? bytes = none ↔ ∀ text, ofString text ≠ bytes := by
  simp [Option.eq_none_iff_forall_ne_some, toString_eq_some_iff]

end Bytes

namespace LittleEndian

/-- The two bytes of a 16-bit word. -/
def ofUInt16 (word : UInt16) : Bytes :=
  [UInt8.ofNat word.toNat, UInt8.ofNat (word.toNat / 256)]

/-- The four bytes of a 32-bit word. -/
def ofUInt32 (word : UInt32) : Bytes :=
  [UInt8.ofNat word.toNat, UInt8.ofNat (word.toNat / 256),
    UInt8.ofNat (word.toNat / 65536), UInt8.ofNat (word.toNat / 16777216)]

/-- The 16-bit word with the given bytes, least significant first. -/
def word16 (b0 b1 : UInt8) : UInt16 :=
  UInt16.ofNat (b0.toNat + 256 * b1.toNat)

/-- The 32-bit word with the given bytes, least significant first. -/
def word32 (b0 b1 b2 b3 : UInt8) : UInt32 :=
  UInt32.ofNat (b0.toNat + 256 * b1.toNat + 65536 * b2.toNat + 16777216 * b3.toNat)

/-- The 16-bit word at the front of a byte string, and the bytes after it. -/
def read16? : Bytes → Option (UInt16 × Bytes)
  | b0 :: b1 :: rest => some (word16 b0 b1, rest)
  | _ => none

/-- The 32-bit word at the front of a byte string, and the bytes after it. -/
def read32? : Bytes → Option (UInt32 × Bytes)
  | b0 :: b1 :: b2 :: b3 :: rest => some (word32 b0 b1 b2 b3, rest)
  | _ => none

@[simp]
theorem length_ofUInt16 (word : UInt16) : (ofUInt16 word).length = 2 := rfl

@[simp]
theorem length_ofUInt32 (word : UInt32) : (ofUInt32 word).length = 4 := rfl

theorem word16_ofNat (word : UInt16) :
    word16 (UInt8.ofNat word.toNat) (UInt8.ofNat (word.toNat / 256)) = word := by
  have bound := word.toNat_lt
  apply UInt16.toNat_inj.mp
  simp [word16]
  omega

theorem word32_ofNat (word : UInt32) :
    word32 (UInt8.ofNat word.toNat) (UInt8.ofNat (word.toNat / 256))
      (UInt8.ofNat (word.toNat / 65536)) (UInt8.ofNat (word.toNat / 16777216)) = word := by
  have bound := word.toNat_lt
  apply UInt32.toNat_inj.mp
  simp [word32]
  omega

@[simp]
theorem read16_ofUInt16 (word : UInt16) (rest : Bytes) :
    read16? (ofUInt16 word ++ rest) = some (word, rest) := by
  simp only [ofUInt16, List.cons_append, List.nil_append, read16?, word16_ofNat]

@[simp]
theorem read32_ofUInt32 (word : UInt32) (rest : Bytes) :
    read32? (ofUInt32 word ++ rest) = some (word, rest) := by
  simp only [ofUInt32, List.cons_append, List.nil_append, read32?, word32_ofNat]

@[simp]
theorem ofUInt32_inj {left right : UInt32} : ofUInt32 left = ofUInt32 right ↔ left = right := by
  constructor
  · intro same
    have readLeft := read32_ofUInt32 left []
    rw [same, read32_ofUInt32, Option.some.injEq, Prod.mk.injEq] at readLeft
    exact readLeft.1.symm
  · exact fun same => congrArg ofUInt32 same

theorem ofUInt16_inj {left right : UInt16} : ofUInt16 left = ofUInt16 right ↔ left = right := by
  constructor
  · intro same
    have readLeft := read16_ofUInt16 left []
    rw [same, read16_ofUInt16, Option.some.injEq, Prod.mk.injEq] at readLeft
    exact readLeft.1.symm
  · exact fun same => congrArg ofUInt16 same

theorem ofUInt16_word16 (b0 b1 : UInt8) : ofUInt16 (word16 b0 b1) = [b0, b1] := by
  have bound0 := b0.toNat_lt
  have bound1 := b1.toNat_lt
  simp only [ofUInt16, List.cons.injEq, and_true]
  constructor
  · apply UInt8.toNat_inj.mp
    simp [word16]
  · apply UInt8.toNat_inj.mp
    simp [word16]
    omega

theorem ofUInt32_word32 (b0 b1 b2 b3 : UInt8) :
    ofUInt32 (word32 b0 b1 b2 b3) = [b0, b1, b2, b3] := by
  have bound0 := b0.toNat_lt
  have bound1 := b1.toNat_lt
  have bound2 := b2.toNat_lt
  have bound3 := b3.toNat_lt
  simp only [ofUInt32, List.cons.injEq, and_true]
  refine ⟨?_, ?_, ?_, ?_⟩ <;> apply UInt8.toNat_inj.mp <;> simp [word32] <;> omega

/-- A word that was read is spelled by the bytes before the rest. -/
theorem eq_of_read16 {bytes rest : Bytes} {word : UInt16}
    (read : read16? bytes = some (word, rest)) : bytes = ofUInt16 word ++ rest := by
  match bytes, read with
  | b0 :: b1 :: tail, read =>
    simp only [read16?, Option.some.injEq, Prod.mk.injEq] at read
    rcases read with ⟨rfl, rfl⟩
    rw [ofUInt16_word16]
    rfl

/-- A word of four bytes, too, is spelled by the bytes before the rest. -/
theorem eq_of_read32 {bytes rest : Bytes} {word : UInt32}
    (read : read32? bytes = some (word, rest)) : bytes = ofUInt32 word ++ rest := by
  match bytes, read with
  | b0 :: b1 :: b2 :: b3 :: tail, read =>
    simp only [read32?, Option.some.injEq, Prod.mk.injEq] at read
    rcases read with ⟨rfl, rfl⟩
    rw [ofUInt32_word32]
    rfl

/-- A word can be read off every byte string that is long enough. -/
theorem exists_read16 {bytes : Bytes} (enough : 2 ≤ bytes.length) :
    ∃ word rest, read16? bytes = some (word, rest) := by
  match bytes, enough with
  | b0 :: b1 :: tail, _ => exact ⟨_, _, rfl⟩

/-- So can a word of four bytes. -/
theorem exists_read32 {bytes : Bytes} (enough : 4 ≤ bytes.length) :
    ∃ word rest, read32? bytes = some (word, rest) := by
  match bytes, enough with
  | b0 :: b1 :: b2 :: b3 :: tail, _ => exact ⟨_, _, rfl⟩

/-- What is left after a word is shorter by the word's bytes. -/
theorem length_of_read32 {bytes rest : Bytes} {word : UInt32}
    (read : read32? bytes = some (word, rest)) : bytes.length = rest.length + 4 := by
  match bytes, read with
  | b0 :: b1 :: b2 :: b3 :: tail, read =>
    simp only [read32?, Option.some.injEq, Prod.mk.injEq] at read
    simp [read.2]

end LittleEndian

end OwnerKeys
