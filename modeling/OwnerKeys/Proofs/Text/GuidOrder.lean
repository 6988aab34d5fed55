import Mathlib.Data.Prod.Lex
import OwnerKeys.Proofs.Text.GuidParsing
import OwnerKeys.Variable

/-!
# The order of GUIDs and of their texts

GUIDs are compared part by part, texts byte by byte, and the two orders are one. The words of a
GUID are spelled with their high bytes first, so the parts are in the order of the digits; a byte
has two digits, and `'0'` to `'9'` stand before `'a'` to `'f'`, so the digits are in the order of
their spelling; and the dashes stand at the same places of every text. In memory the words have
their low bytes first, and none of this holds.
-/

namespace OwnerKeys

section Lexicographic

variable {Item : Type} [LT Item]

/-- Lists with fronts of one length are ordered by the fronts, and by the rest for equal fronts. -/
theorem append_lt_append_iff {left right : List Item} (sameLength : left.length = right.length)
    {leftRest rightRest : List Item} :
    left ++ leftRest < right ++ rightRest ↔
      left < right ∨ left = right ∧ leftRest < rightRest := by
  induction left generalizing right with
  | nil =>
      cases right with
      | nil => simp
      | cons item later => simp at sameLength
  | cons item later ih =>
      cases right with
      | nil => simp at sameLength
      | cons other others =>
          rw [List.cons_append, List.cons_append, List.cons_lt_cons_iff, List.cons_lt_cons_iff,
            ih (by simpa using sameLength), List.cons.injEq]
          tauto

/-- Items that are in the order of their images make lists that are. -/
theorem map_lt_map_iff {Image : Type} [LT Image] {image : Item → Image}
    (lt_iff : ∀ left right, image left < image right ↔ left < right)
    (injective : Function.Injective image) {left right : List Item} :
    left.map image < right.map image ↔ left < right := by
  induction left generalizing right with
  | nil => cases right <;> simp
  | cons item later ih =>
      cases right with
      | nil => exact iff_of_false (List.not_lt_nil _) (List.not_lt_nil _)
      | cons other others =>
          rw [List.map_cons, List.map_cons, List.cons_lt_cons_iff, List.cons_lt_cons_iff, ih,
            lt_iff, injective.eq_iff]

end Lexicographic

namespace LittleEndian

theorem toNat_word32 (b0 b1 b2 b3 : UInt8) : (word32 b0 b1 b2 b3).toNat =
    b0.toNat + 256 * b1.toNat + 65536 * b2.toNat + 16777216 * b3.toNat := by
  have bound0 := b0.toNat_lt
  have bound1 := b1.toNat_lt
  have bound2 := b2.toNat_lt
  have bound3 := b3.toNat_lt
  rw [word32, UInt32.toNat_ofNat', Nat.mod_eq_of_lt (by omega)]

theorem toNat_word16 (b0 b1 : UInt8) : (word16 b0 b1).toNat = b0.toNat + 256 * b1.toNat := by
  have bound0 := b0.toNat_lt
  have bound1 := b1.toNat_lt
  rw [word16, UInt16.toNat_ofNat', Nat.mod_eq_of_lt (by omega)]

/-- Words are in the order of their bytes if the high bytes come first. -/
theorem reverse_ofUInt32_lt_iff {left right : UInt32} :
    (ofUInt32 left).reverse < (ofUInt32 right).reverse ↔ left.toNat < right.toNat := by
  obtain ⟨a0, a1, a2, a3, rfl⟩ : ∃ a0 a1 a2 a3, left = word32 a0 a1 a2 a3 :=
    ⟨_, _, _, _, (word32_ofNat left).symm⟩
  obtain ⟨b0, b1, b2, b3, rfl⟩ : ∃ b0 b1 b2 b3, right = word32 b0 b1 b2 b3 :=
    ⟨_, _, _, _, (word32_ofNat right).symm⟩
  have := And.intro a0.toNat_lt b0.toNat_lt
  have := And.intro a1.toNat_lt b1.toNat_lt
  have := And.intro a2.toNat_lt b2.toNat_lt
  simp only [ofUInt32_word32, toNat_word32, List.reverse_cons, List.reverse_nil, List.nil_append,
    List.cons_append, List.cons_lt_cons_iff, List.not_lt_nil, UInt8.lt_iff_toNat_lt,
    ← UInt8.toNat_inj, and_false, or_false]
  omega

theorem reverse_ofUInt32_inj {left right : UInt32} :
    (ofUInt32 left).reverse = (ofUInt32 right).reverse ↔ left.toNat = right.toNat := by
  rw [List.reverse_inj, ofUInt32_inj, UInt32.toNat_inj]

theorem reverse_ofUInt16_lt_iff {left right : UInt16} :
    (ofUInt16 left).reverse < (ofUInt16 right).reverse ↔ left.toNat < right.toNat := by
  obtain ⟨a0, a1, rfl⟩ : ∃ a0 a1, left = word16 a0 a1 := ⟨_, _, (word16_ofNat left).symm⟩
  obtain ⟨b0, b1, rfl⟩ : ∃ b0 b1, right = word16 b0 b1 := ⟨_, _, (word16_ofNat right).symm⟩
  have := And.intro a0.toNat_lt b0.toNat_lt
  simp only [ofUInt16_word16, toNat_word16, List.reverse_cons, List.reverse_nil, List.nil_append,
    List.cons_append, List.cons_lt_cons_iff, List.not_lt_nil, UInt8.lt_iff_toNat_lt,
    ← UInt8.toNat_inj, and_false, or_false]
  omega

theorem reverse_ofUInt16_inj {left right : UInt16} :
    (ofUInt16 left).reverse = (ofUInt16 right).reverse ↔ left.toNat = right.toNat := by
  rw [List.reverse_inj, ofUInt16_inj, UInt16.toNat_inj]

end LittleEndian

namespace Hex

open Ascii

/-- The digits of a byte string, as bytes. -/
def spelling (bytes : Bytes) : Bytes :=
  (ofBytes bytes).map byteOf

theorem digitByte_lt_iff : ∀ left < 16, ∀ right < 16,
    digitByte left < digitByte right ↔ left < right := by
  decide +kernel

theorem digitByte_inj : ∀ left < 16, ∀ right < 16,
    digitByte left = digitByte right ↔ left = right := by
  decide +kernel

theorem spelling_cons (byte : UInt8) (later : Bytes) :
    spelling (byte :: later) =
      digitByte (byte.toNat / 16) :: digitByte (byte.toNat % 16) :: spelling later :=
  rfl

@[simp]
theorem spelling_append (front back : Bytes) :
    spelling (front ++ back) = spelling front ++ spelling back := by
  rw [spelling, ofBytes_append, List.map_append, spelling, spelling]

@[simp]
theorem length_spelling (bytes : Bytes) : (spelling bytes).length = 2 * bytes.length := by
  rw [spelling, List.length_map, length_ofBytes]

theorem digits_lt_iff {left right : UInt8} {leftRest rightRest : Bytes} :
    digitByte (left.toNat / 16) :: digitByte (left.toNat % 16) :: leftRest <
        digitByte (right.toNat / 16) :: digitByte (right.toNat % 16) :: rightRest ↔
      left < right ∨ left = right ∧ leftRest < rightRest := by
  have leftBound := left.toNat_lt
  have rightBound := right.toNat_lt
  have leftHigh : left.toNat / 16 < 16 := by omega
  have rightHigh : right.toNat / 16 < 16 := by omega
  have leftLow : left.toNat % 16 < 16 := by omega
  have rightLow : right.toNat % 16 < 16 := by omega
  rw [List.cons_lt_cons_iff, List.cons_lt_cons_iff, digitByte_lt_iff _ leftHigh _ rightHigh,
    digitByte_inj _ leftHigh _ rightHigh, digitByte_lt_iff _ leftLow _ rightLow,
    digitByte_inj _ leftLow _ rightLow, UInt8.lt_iff_toNat_lt, ← UInt8.toNat_inj]
  by_cases restBelow : leftRest < rightRest
  · simp only [restBelow, and_true]
    omega
  · simp only [restBelow, and_false, or_false]
    omega

/-- Byte strings are in the order of their spellings. -/
theorem spelling_lt_iff {left right : Bytes} : spelling left < spelling right ↔ left < right := by
  induction left generalizing right with
  | nil =>
      cases right with
      | nil => rfl
      | cons byte later => exact iff_of_true (List.nil_lt_cons _ _) (List.nil_lt_cons _ _)
  | cons byte later ih =>
      cases right with
      | nil => exact iff_of_false (List.not_lt_nil _) (List.not_lt_nil _)
      | cons other others =>
          rw [spelling_cons, spelling_cons, digits_lt_iff, List.cons_lt_cons_iff, ih]

end Hex

namespace Guid

open Ascii Hex

/-- A GUID is at most another if the parts, compared one after another, do not say otherwise. -/
protected def le (left right : Guid) : Prop :=
  ¬right < left

instance : LE Guid := ⟨Guid.le⟩

instance (left right : Guid) : Decidable (left ≤ right) :=
  inferInstanceAs (Decidable (¬right < left))

/-- The parts are in the order of the digits of the text. -/
theorem lt_iff_digits_lt {left right : Guid} : left < right ↔ left.digits < right.digits := by
  have bytes : left.data4.toList.map UInt8.toNat < right.data4.toList.map UInt8.toNat ↔
      left.data4.toList < right.data4.toList :=
    map_lt_map_iff (fun _ _ => UInt8.lt_iff_toNat_lt.symm) fun _ _ => UInt8.toNat_inj.mp
  show left.parts < right.parts ↔ _
  simp only [parts, digits, List.append_assoc]
  rw [append_lt_append_iff (by simp), append_lt_append_iff (by simp),
    append_lt_append_iff (by simp)]
  simp only [List.cons_lt_cons_iff, LittleEndian.reverse_ofUInt32_lt_iff,
    LittleEndian.reverse_ofUInt32_inj, LittleEndian.reverse_ofUInt16_lt_iff,
    LittleEndian.reverse_ofUInt16_inj, bytes]

/-- The text has the spelling of the digits in five groups. -/
theorem textBytes_eq_groups (guid : Guid) : guid.textBytes =
    spelling (guid.digits.take 4) ++ 0x2d :: (spelling ((guid.digits.drop 4).take 2) ++
      0x2d :: (spelling ((guid.digits.drop 6).take 2) ++
        0x2d :: (spelling ((guid.digits.drop 8).take 2) ++
          0x2d :: spelling (guid.digits.drop 10)))) := by
  rw [textBytes_eq_map, textChars]
  simp only [List.map_append, List.map_cons, List.append_assoc, List.cons_append, spelling]
  rfl

/-- A dash that both sides have at one place leaves the order to what is around it. -/
theorem dashed_lt_iff {left right leftRest rightRest leftDashed rightDashed : Bytes}
    (sameLength : left.length = right.length)
    (rest : leftDashed < rightDashed ↔ leftRest < rightRest) :
    left ++ 0x2d :: leftDashed < right ++ 0x2d :: rightDashed ↔
      left ++ leftRest < right ++ rightRest := by
  have irrefl : ¬(0x2d : UInt8) < 0x2d := by decide
  rw [append_lt_append_iff sameLength, append_lt_append_iff sameLength, List.cons_lt_cons_iff, rest]
  simp [irrefl]

/-- The bytes of the text are in the order of the digits. -/
theorem textBytes_lt_iff {left right : Guid} :
    left.textBytes < right.textBytes ↔ left.digits < right.digits := by
  have ungrouped (guid : Guid) := congrArg spelling (groups_append guid.digits)
  simp only [spelling_append] at ungrouped
  refine Iff.trans ?_ spelling_lt_iff
  rw [ungrouped, ungrouped, textBytes_eq_groups, textBytes_eq_groups]
  refine dashed_lt_iff (by simp) ?_
  refine dashed_lt_iff (by simp) ?_
  refine dashed_lt_iff (by simp) ?_
  exact dashed_lt_iff (by simp) Iff.rfl

/-- The bytes of memory are not in this order. -/
example : let low : Guid := ⟨0x00ff, 0, 0, default⟩
    let high : Guid := ⟨0x0100, 0, 0, default⟩
    low.textBytes < high.textBytes ∧ high.toBytes < low.toBytes := by
  decide +kernel

theorem lt_iff_textBytes_lt {left right : Guid} : left < right ↔ left.textBytes < right.textBytes :=
  lt_iff_digits_lt.trans textBytes_lt_iff.symm

theorem le_iff_textBytes_le {left right : Guid} :
    left ≤ right ↔ left.textBytes ≤ right.textBytes :=
  not_congr lt_iff_textBytes_lt

theorem textBytes_inj {left right : Guid} : left.textBytes = right.textBytes ↔ left = right := by
  rw [textBytes, textBytes, Bytes.ofString_inj]
  exact ⟨text_inj, congrArg text⟩

/-- Sorting GUIDs and sorting their texts by bytes give one sequence. -/
theorem map_text_mergeSort (guids : List Guid) :
    (guids.mergeSort fun left right => left ≤ right).map text =
      (guids.map text).mergeSort fun left right =>
        Bytes.ofString left ≤ Bytes.ofString right := by
  refine List.map_mergeSort fun left _ right _ => ?_
  exact decide_eq_decide.mpr le_iff_textBytes_le

end Guid

namespace Variable

open Guid

/-- What variables are compared by: the bytes of the name, and the bytes of the vendor's text. -/
def textKey (var : Variable) : Bytes × Bytes :=
  (var.nameBytes, var.vendor.textBytes)

theorem lt_iff_textKey_lt {left right : Variable} :
    left < right ↔ Prod.Lex (· < ·) (· < ·) left.textKey right.textKey := by
  have vendors : left.vendor < right.vendor ↔ left.vendor.textBytes < right.vendor.textBytes :=
    lt_iff_textBytes_lt
  show (left.nameBytes < right.nameBytes ∨
    left.nameBytes = right.nameBytes ∧ left.vendor < right.vendor) ↔ _
  simp only [vendors, Prod.lex_def, textKey]

theorem textKey_inj {left right : Variable} : left.textKey = right.textKey ↔ left = right := by
  constructor
  · intro same
    simp only [textKey, Prod.mk.injEq] at same
    exact eq_of_nameBytes same.1 (textBytes_inj.mp same.2)
  · exact fun same => congrArg textKey same

end Variable

namespace Guid

/-- The order of GUIDs is the order of their texts: of two GUIDs, of lists that are sorted, and of
variables by their vendors. -/
theorem order_eq_text_order :
    (∀ left right : Guid,
      (left ≤ right ↔ Bytes.ofString left.text ≤ Bytes.ofString right.text) ∧
        (left < right ↔ Bytes.ofString left.text < Bytes.ofString right.text) ∧
        (left = right ↔ left.text = right.text)) ∧
      (∀ guids : List Guid,
        (guids.mergeSort fun left right => left ≤ right).map text =
          (guids.map text).mergeSort fun left right =>
            Bytes.ofString left ≤ Bytes.ofString right) ∧
      ∀ left right : Variable,
        (left < right ↔ Prod.Lex (· < ·) (· < ·) left.textKey right.textKey) ∧
          (left = right ↔ left.textKey = right.textKey) :=
  ⟨fun _ _ => ⟨le_iff_textBytes_le, lt_iff_textBytes_lt, ⟨congrArg text, text_inj⟩⟩,
    map_text_mergeSort, fun _ _ => ⟨Variable.lt_iff_textKey_lt, Variable.textKey_inj.symm⟩⟩

end Guid

end OwnerKeys
