import OwnerKeys.Bytes
import OwnerKeys.SortedMap

/-!
# GUIDs

A GUID is a 32-bit word, two 16-bit words and eight bytes. Firmware keeps the words little-endian;
the text of a GUID spells every part with its most significant byte first. This file gives both
byte orders: `toBytes` and `read?` for memory, `digits` and `ofDigits?` for text. It also gives the
order of GUIDs, which compares the parts one after another.
-/

namespace OwnerKeys

/-- A globally unique identifier, in the parts in which firmware declares it. -/
structure Guid where
  /-- The first eight digits of the text. -/
  data1 : UInt32
  /-- The second group of the text. -/
  data2 : UInt16
  /-- The third group of the text. -/
  data3 : UInt16
  /-- The bytes of the last two groups of the text, in the order of the text. -/
  data4 : Vector UInt8 8
deriving DecidableEq, Repr

namespace Guid

/-- The GUID with all bits clear. -/
def zero : Guid :=
  ⟨0, 0, 0, #v[0, 0, 0, 0, 0, 0, 0, 0]⟩

instance : Inhabited Guid := ⟨zero⟩

/-- The 16 bytes of a GUID in memory: the words are little-endian. -/
def toBytes (guid : Guid) : Bytes :=
  LittleEndian.ofUInt32 guid.data1 ++ LittleEndian.ofUInt16 guid.data2 ++
    LittleEndian.ofUInt16 guid.data3 ++ guid.data4.toList

/-- The GUID in the first 16 bytes of memory, and the bytes after it. -/
def read? : Bytes → Option (Guid × Bytes)
  | a0 :: a1 :: a2 :: a3 :: b0 :: b1 :: c0 :: c1 ::
      d0 :: d1 :: d2 :: d3 :: d4 :: d5 :: d6 :: d7 :: rest =>
    some (⟨LittleEndian.word32 a0 a1 a2 a3, LittleEndian.word16 b0 b1,
      LittleEndian.word16 c0 c1, #v[d0, d1, d2, d3, d4, d5, d6, d7]⟩, rest)
  | _ => none

/-- The GUID whose memory is the given byte string, which must be 16 bytes long. -/
def ofBytes? (bytes : Bytes) : Option Guid :=
  match read? bytes with
  | some (guid, []) => some guid
  | _ => none

/-- The 16 bytes of a GUID in the order of its text: every word has its high byte first. -/
def digits (guid : Guid) : Bytes :=
  (LittleEndian.ofUInt32 guid.data1).reverse ++ (LittleEndian.ofUInt16 guid.data2).reverse ++
    (LittleEndian.ofUInt16 guid.data3).reverse ++ guid.data4.toList

/-- The GUID whose text spells the given 16 bytes. -/
def ofDigits? : Bytes → Option Guid
  | [a0, a1, a2, a3, b0, b1, c0, c1, d0, d1, d2, d3, d4, d5, d6, d7] =>
    some ⟨LittleEndian.word32 a3 a2 a1 a0, LittleEndian.word16 b1 b0,
      LittleEndian.word16 c1 c0, #v[d0, d1, d2, d3, d4, d5, d6, d7]⟩
  | _ => none

/-- The parts of a GUID as numbers, in the order in which they are compared. -/
def parts (guid : Guid) : List Nat :=
  guid.data1.toNat :: guid.data2.toNat :: guid.data3.toNat :: guid.data4.toList.map UInt8.toNat

/-- The first part in which two GUIDs differ decides which is below the other. -/
protected def lt (left right : Guid) : Prop :=
  left.parts < right.parts

instance : LT Guid := ⟨Guid.lt⟩

instance (left right : Guid) : Decidable (left < right) :=
  inferInstanceAs (Decidable (left.parts < right.parts))

theorem parts_injective {left right : Guid} (same : left.parts = right.parts) :
    left = right := by
  obtain ⟨a1, a2, a3, a4⟩ := left
  obtain ⟨b1, b2, b3, b4⟩ := right
  simp only [parts, List.cons.injEq] at same
  obtain ⟨same1, same2, same3, same4⟩ := same
  have bytes : a4.toList = b4.toList :=
    (List.map_inj_right fun _ _ => UInt8.toNat_inj.mp).mp same4
  rw [UInt32.toNat_inj.mp same1, UInt16.toNat_inj.mp same2, UInt16.toNat_inj.mp same3,
    Vector.toList_inj.mp bytes]

instance : LinearKey Guid where
  irrefl := fun guid => LinearKey.irrefl guid.parts
  trans := fun {first second third} left right =>
    show first.parts < third.parts from
      LinearKey.trans (show first.parts < second.parts from left)
        (show second.parts < third.parts from right)
  connected := fun {left right} different notBelow =>
    show right.parts < left.parts from
      LinearKey.connected (fun same => different (parts_injective same)) notBelow

@[simp]
theorem length_toBytes (guid : Guid) : guid.toBytes.length = 16 := by
  simp [toBytes]

@[simp]
theorem length_digits (guid : Guid) : guid.digits.length = 16 := by
  simp [digits]

@[simp]
theorem read_toBytes (guid : Guid) (rest : Bytes) :
    read? (guid.toBytes ++ rest) = some (guid, rest) := by
  obtain ⟨data1, data2, data3, ⟨⟨data4⟩, size⟩⟩ := guid
  match data4, size with
  | [d0, d1, d2, d3, d4, d5, d6, d7], size =>
    simp only [toBytes, LittleEndian.ofUInt32, LittleEndian.ofUInt16, Vector.toList_mk,
      List.cons_append, List.nil_append, read?, LittleEndian.word32_ofNat,
      LittleEndian.word16_ofNat]

/-- A GUID that was read is spelled by the bytes before the rest. -/
theorem eq_of_read {bytes rest : Bytes} {guid : Guid} (read : read? bytes = some (guid, rest)) :
    bytes = guid.toBytes ++ rest := by
  match bytes, read with
  | a0 :: a1 :: a2 :: a3 :: b0 :: b1 :: c0 :: c1 ::
      d0 :: d1 :: d2 :: d3 :: d4 :: d5 :: d6 :: d7 :: tail, read =>
    simp only [read?, Option.some.injEq, Prod.mk.injEq] at read
    rcases read with ⟨rfl, rfl⟩
    simp [toBytes, LittleEndian.ofUInt32_word32, LittleEndian.ofUInt16_word16]

/-- A GUID can be read off every byte string that is long enough. -/
theorem exists_read {bytes : Bytes} (enough : 16 ≤ bytes.length) :
    ∃ guid rest, read? bytes = some (guid, rest) := by
  match bytes, enough with
  | a0 :: a1 :: a2 :: a3 :: b0 :: b1 :: c0 :: c1 ::
      d0 :: d1 :: d2 :: d3 :: d4 :: d5 :: d6 :: d7 :: tail, _ =>
    exact ⟨_, _, rfl⟩

/-- What is left after a GUID is shorter by its 16 bytes. -/
theorem length_of_read {bytes rest : Bytes} {guid : Guid}
    (read : read? bytes = some (guid, rest)) : bytes.length = rest.length + 16 := by
  match bytes, read with
  | a0 :: a1 :: a2 :: a3 :: b0 :: b1 :: c0 :: c1 ::
      d0 :: d1 :: d2 :: d3 :: d4 :: d5 :: d6 :: d7 :: tail, read =>
    simp only [read?, Option.some.injEq, Prod.mk.injEq] at read
    simp [read.2]

end Guid

end OwnerKeys
