import OwnerKeys.Bytes
import OwnerKeys.Text.Utf16

/-!
# Passwords

A password has 8 to 16 characters. The boot loader has room for 16 units of UTF-16, so only the
first 16 units are kept, which may cut a surrogate pair in two.
-/

namespace OwnerKeys

/-- The units of a password that was accepted. -/
structure Password where
  /-- The units that the boot loader compares. -/
  units : List UInt16
  /-- There are at least 8 units. -/
  length_ge : 8 ≤ units.length
  /-- There are at most 16 units. -/
  length_le : units.length ≤ 16
deriving DecidableEq, Repr

namespace Password

/-- The least number of characters. -/
def minLength : Nat := 8

/-- The greatest number of characters, and the greatest number of units that are kept. -/
def maxLength : Nat := 16

/-- Whether a line has an acceptable number of characters. -/
def Acceptable (line : String) : Prop :=
  minLength ≤ line.toList.length ∧ line.toList.length ≤ maxLength

instance (line : String) : Decidable (Acceptable line) :=
  inferInstanceAs (Decidable (_ ≤ _ ∧ _ ≤ _))

/-- The password that a line gives, if its number of characters is acceptable. -/
def ofLine? (line : String) : Option Password :=
  if acceptable : Acceptable line then
    some {
      units := (Utf16.ofString line).take maxLength
      length_ge := by
        have units := Utf16.length_le_length_ofString line
        simp only [Acceptable, minLength, maxLength] at acceptable
        simp only [List.length_take, maxLength]
        omega
      length_le := by simp only [List.length_take, maxLength]; omega }
  else
    none

/-- A line that gives a password has an acceptable number of characters. -/
theorem acceptable_of_ofLine {line : String} {password : Password}
    (found : ofLine? line = some password) : Acceptable line := by
  unfold ofLine? at found
  split at found
  · assumption
  · cases found

/-- The units as bytes, least significant byte first. -/
def toBytes (password : Password) : Bytes :=
  password.units.flatMap LittleEndian.ofUInt16

/-- How a password shows itself in diagnostics: not at all. -/
def redacted : String :=
  "Password(<redacted>)"

end Password

end OwnerKeys
