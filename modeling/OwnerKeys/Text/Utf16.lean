/-!
# UTF-16 code units

Firmware keeps text in 16-bit units. A character of the basic plane is one unit; any other
character is a pair of surrogates.
-/

namespace OwnerKeys.Utf16

/-- The units of a character. -/
def ofChar (char : Char) : List UInt16 :=
  let code := char.toNat
  if code < 0x10000 then
    [UInt16.ofNat code]
  else
    let offset := code - 0x10000
    [UInt16.ofNat (0xd800 + offset / 0x400), UInt16.ofNat (0xdc00 + offset % 0x400)]

/-- The units of a text. -/
def ofString (text : String) : List UInt16 :=
  text.toList.flatMap ofChar

theorem length_ofChar_pos (char : Char) : 1 ≤ (ofChar char).length := by
  unfold ofChar
  simp only
  split <;> simp

/-- Every character takes at least one unit. -/
theorem length_le_length_ofString (text : String) :
    text.toList.length ≤ (ofString text).length := by
  unfold ofString
  induction text.toList with
  | nil => simp
  | cons char rest ih =>
      have unit := length_ofChar_pos char
      simp only [List.flatMap_cons, List.length_append, List.length_cons]
      omega

end OwnerKeys.Utf16
