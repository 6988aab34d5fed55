import Mathlib.Tactic.Common
import OwnerKeys.Text.Utf16

/-!
# UTF-16 units determine the text

The first unit of a character tells whether a second one follows: a pair starts with a unit that no
character of the basic plane has. So a text can be read off its units in one way only.
-/

namespace OwnerKeys.Utf16

/-- The units of a character of the basic plane. -/
theorem ofChar_of_lt {char : Char} (basic : char.toNat < 0x10000) :
    ofChar char = [UInt16.ofNat char.toNat] := by
  simp [ofChar, basic]

/-- The units of a character beyond the basic plane. -/
theorem ofChar_of_ge {char : Char} (beyond : 0x10000 ≤ char.toNat) :
    ofChar char = [UInt16.ofNat (0xd800 + (char.toNat - 0x10000) / 0x400),
      UInt16.ofNat (0xdc00 + (char.toNat - 0x10000) % 0x400)] := by
  simp [ofChar, Nat.not_lt.mpr beyond]

/-- No character is a surrogate. -/
theorem toNat_valid (char : Char) :
    char.toNat < 0xd800 ∨ 0xdfff < char.toNat ∧ char.toNat < 0x110000 :=
  char.valid

theorem ofNat_inj {left right : Nat} (leftSmall : left < 0x10000) (rightSmall : right < 0x10000)
    (same : UInt16.ofNat left = UInt16.ofNat right) : left = right := by
  have sameNat := congrArg UInt16.toNat same
  rwa [UInt16.toNat_ofNat_of_lt' leftSmall, UInt16.toNat_ofNat_of_lt' rightSmall] at sameNat

/-- The unit of a character of the basic plane does not start a pair. -/
theorem basic_ne_pair {basic beyond : Char} (small : basic.toNat < 0x10000) :
    UInt16.ofNat basic.toNat ≠ UInt16.ofNat (0xd800 + (beyond.toNat - 0x10000) / 0x400) := by
  intro same
  have validBasic := toNat_valid basic
  have validBeyond := toNat_valid beyond
  have sameNat := ofNat_inj small (by omega) same
  omega

/-- The units at the front of a sequence are those of one character only. -/
theorem ofChar_append_inj {left right : Char} {rest later : List UInt16}
    (same : ofChar left ++ rest = ofChar right ++ later) : left = right ∧ rest = later := by
  by_cases leftBasic : left.toNat < 0x10000
  · by_cases rightBasic : right.toNat < 0x10000
    · rw [ofChar_of_lt leftBasic, ofChar_of_lt rightBasic] at same
      rcases List.cons.inj same with ⟨sameUnit, sameRest⟩
      exact ⟨Char.toNat_inj.mp (ofNat_inj leftBasic rightBasic sameUnit), sameRest⟩
    · rw [ofChar_of_lt leftBasic, ofChar_of_ge (Nat.le_of_not_lt rightBasic)] at same
      exact absurd (List.cons.inj same).1 (basic_ne_pair leftBasic)
  · have leftBeyond := Nat.le_of_not_lt leftBasic
    by_cases rightBasic : right.toNat < 0x10000
    · rw [ofChar_of_ge leftBeyond, ofChar_of_lt rightBasic] at same
      exact absurd (List.cons.inj same).1.symm (basic_ne_pair rightBasic)
    · have rightBeyond := Nat.le_of_not_lt rightBasic
      have leftValid := toNat_valid left
      have rightValid := toNat_valid right
      rw [ofChar_of_ge leftBeyond, ofChar_of_ge rightBeyond] at same
      rcases List.cons.inj same with ⟨sameHigh, sameTail⟩
      rcases List.cons.inj sameTail with ⟨sameLow, sameRest⟩
      have high := ofNat_inj (by omega) (by omega) sameHigh
      have low := ofNat_inj (by omega) (by omega) sameLow
      exact ⟨Char.toNat_inj.mp (by omega), sameRest⟩

theorem ofChar_ne_nil (char : Char) : ofChar char ≠ [] :=
  List.ne_nil_of_length_pos (length_ofChar_pos char)

theorem length_ofChar_le (char : Char) : (ofChar char).length ≤ 2 := by
  by_cases basic : char.toNat < 0x10000
  · simp [ofChar_of_lt basic]
  · simp [ofChar_of_ge (Nat.le_of_not_lt basic)]

/-- No character takes more than two units. -/
theorem length_ofString_le (text : String) :
    (ofString text).length ≤ 2 * text.toList.length := by
  unfold ofString
  induction text.toList with
  | nil => simp
  | cons char rest ih =>
      have units := length_ofChar_le char
      simp only [List.flatMap_cons, List.length_append, List.length_cons]
      omega

/-- Different texts have different units. -/
theorem ofString_inj {left right : String} (same : ofString left = ofString right) :
    left = right := by
  apply String.toList_inj.mp
  unfold ofString at same
  generalize left.toList = chars at same
  generalize right.toList = others at same
  induction chars generalizing others with
  | nil =>
      cases others with
      | nil => rfl
      | cons other later => simp [ofChar_ne_nil] at same
  | cons char rest ih =>
      cases others with
      | nil => simp [ofChar_ne_nil] at same
      | cons other later =>
          rw [List.flatMap_cons, List.flatMap_cons] at same
          rcases ofChar_append_inj same with ⟨rfl, sameRest⟩
          rw [ih later sameRest]

end OwnerKeys.Utf16
