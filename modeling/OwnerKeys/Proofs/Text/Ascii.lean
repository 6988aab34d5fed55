import Mathlib.Tactic.Common
import OwnerKeys.Bytes

/-!
# ASCII characters in UTF-8

The bytes of a text are those of its characters. An ASCII character is one byte below 128, and all
bytes of the other characters are above, so ASCII letters can be made small in the text or in its
bytes.
-/

namespace OwnerKeys

namespace Bytes

theorem ofString_eq_flatMap (text : String) :
    ofString text = text.toList.flatMap String.utf8EncodeChar := by
  rw [ofString, String.toUTF8, ← String.utf8Encode_toList, List.utf8Encode, List.data_toByteArray]

theorem ofString_ofList (chars : List Char) :
    ofString (String.ofList chars) = chars.flatMap String.utf8EncodeChar := by
  rw [ofString_eq_flatMap, String.toList_ofList]

theorem ofString_append (front back : String) :
    ofString (front ++ back) = ofString front ++ ofString back := by
  simp only [ofString_eq_flatMap, String.toList_append, List.flatMap_append]

theorem length_ofString (text : String) : (ofString text).length = text.utf8ByteSize := by
  rw [ofString, Array.length_toList, ← String.size_toByteArray]
  rfl

end Bytes

namespace Ascii

/-- What holds of the 256 bytes one by one holds of every byte. -/
theorem forall_byte {holds : UInt8 → Prop} (each : ∀ code < 256, holds (UInt8.ofNat code))
    (byte : UInt8) : holds byte := by
  rw [← UInt8.ofNat_toNat (x := byte)]
  exact each byte.toNat byte.toNat_lt

/-- The small letter for a capital one; every other byte stays as it is. -/
def lowerByte (byte : UInt8) : UInt8 :=
  if 65 ≤ byte ∧ byte ≤ 90 then byte + 32 else byte

/-- The text with small letters for the capital ones among the ASCII characters. -/
def lower (text : String) : String :=
  text.map Char.toLower

/-- The byte of an ASCII character. -/
def byteOf (char : Char) : UInt8 :=
  UInt8.ofNat char.toNat

theorem utf8EncodeChar_of_lt {char : Char} (ascii : char.toNat < 128) :
    String.utf8EncodeChar char = [byteOf char] := by
  have small : char.toNat ≤ 127 := by omega
  simp [String.utf8EncodeChar, byteOf, small]

/-- The bytes of a text of ASCII characters are the characters. -/
theorem ofString_ofList_of_ascii {chars : List Char} (ascii : ∀ char ∈ chars, char.toNat < 128) :
    Bytes.ofString (String.ofList chars) = chars.map byteOf := by
  rw [Bytes.ofString_ofList]
  induction chars with
  | nil => rfl
  | cons char later ih =>
      rw [List.flatMap_cons, utf8EncodeChar_of_lt (ascii char List.mem_cons_self),
        ih fun other mem => ascii other (List.mem_cons_of_mem char mem)]
      rfl

/-- Every character with a byte below 128 is an ASCII character. -/
theorem le_of_mem_utf8EncodeChar {char : Char} (wide : 128 ≤ char.toNat) {byte : UInt8}
    (mem : byte ∈ String.utf8EncodeChar char) : 128 ≤ byte := by
  have bound : char.toNat < 0x110000 := by
    rcases char.valid with below | ⟨_, below⟩
    · exact Nat.lt_trans below (by decide)
    · exact below
  have notAscii : ¬char.toNat ≤ 127 := by omega
  rw [UInt8.le_iff_toNat_le]
  simp only [String.utf8EncodeChar, Char.toNat_val, notAscii, if_false] at mem
  split at mem
  · simp only [List.mem_cons, List.not_mem_nil, or_false] at mem
    rcases mem with rfl | rfl <;> simp <;> omega
  · split at mem
    · simp only [List.mem_cons, List.not_mem_nil, or_false] at mem
      rcases mem with rfl | rfl | rfl <;> simp <;> omega
    · simp only [List.mem_cons, List.not_mem_nil, or_false] at mem
      rcases mem with rfl | rfl | rfl | rfl <;> simp <;> omega

theorem lowerByte_of_le : ∀ byte : UInt8, 128 ≤ byte → lowerByte byte = byte :=
  forall_byte (by decide +kernel)

/-- A byte stays on its side of 128. -/
theorem lowerByte_lt_iff : ∀ byte : UInt8, lowerByte byte < 128 ↔ byte < 128 :=
  forall_byte (by decide +kernel)

theorem toLower_of_lt : ∀ code < 128, (Char.ofNat code).toLower.toNat < 128 ∧
    byteOf (Char.ofNat code).toLower = lowerByte (byteOf (Char.ofNat code)) := by
  decide +kernel

theorem toLower_of_le {char : Char} (wide : 128 ≤ char.toNat) : char.toLower = char := by
  have notCapital : ¬(char.val ≥ 'A'.val ∧ char.val ≤ 'Z'.val) := by
    rintro ⟨_, notAbove⟩
    have small : char.toNat ≤ 90 := UInt32.le_iff_toNat_le.mp notAbove
    omega
  exact dif_neg notCapital

theorem utf8EncodeChar_toLower (char : Char) :
    String.utf8EncodeChar char.toLower = (String.utf8EncodeChar char).map lowerByte := by
  by_cases ascii : char.toNat < 128
  · have small := toLower_of_lt char.toNat ascii
    rw [Char.ofNat_toNat] at small
    rw [utf8EncodeChar_of_lt small.1, utf8EncodeChar_of_lt ascii, small.2]
    rfl
  · have wide := Nat.le_of_not_lt ascii
    rw [toLower_of_le wide]
    refine (List.map_id _).symm.trans (List.map_congr_left fun byte mem => ?_)
    exact (lowerByte_of_le byte (le_of_mem_utf8EncodeChar wide mem)).symm

/-- Letters can be made small in the text or in its bytes. -/
theorem ofString_lower (text : String) :
    Bytes.ofString (lower text) = (Bytes.ofString text).map lowerByte := by
  simp only [Bytes.ofString_eq_flatMap, lower, String.toList_map, List.map_flatMap,
    List.flatMap_map, utf8EncodeChar_toLower]

/-- Bytes below 128 spell a text. -/
theorem exists_ofString_eq {bytes : Bytes} (ascii : ∀ byte ∈ bytes, byte < 128) :
    ∃ text, Bytes.ofString text = bytes := by
  have charOf : ∀ byte : UInt8, byte < 128 →
      (Char.ofNat byte.toNat).toNat < 128 ∧ byteOf (Char.ofNat byte.toNat) = byte :=
    forall_byte (by decide +kernel)
  refine ⟨String.ofList (bytes.map fun byte => Char.ofNat byte.toNat), ?_⟩
  rw [ofString_ofList_of_ascii, List.map_map]
  · refine (List.map_congr_left fun byte mem => ?_).trans (List.map_id bytes)
    exact (charOf byte (ascii byte mem)).2
  · intro char mem
    rcases List.mem_map.mp mem with ⟨byte, inBytes, rfl⟩
    exact (charOf byte (ascii byte inBytes)).1

end Ascii

end OwnerKeys
