import OwnerKeys.AuthTag
import OwnerKeys.Proofs.SignatureList.Concatenation
import OwnerKeys.Proofs.Text.Utf16
import OwnerKeys.SignatureList.Writing
import OwnerKeys.Variable

/-!
# What a tag binds

A tag is the digest of a list and of the units of a password, one right after the other, and nothing
marks where the list ends. So the bytes that are hashed tell list and password apart up to some
units which may stand at the end of a longer list or at the front of a longer password. Lists of one
length cannot be confused in this way, and neither can lists that decoding reads to their end, for
what could be moved is shorter than any record.

Of a password only the first 16 units are hashed, so a text of more units is not determined by them.
-/

namespace OwnerKeys

namespace LittleEndian

theorem ofUInt16_append_inj {left right : UInt16} {rest later : Bytes}
    (same : ofUInt16 left ++ rest = ofUInt16 right ++ later) : left = right ∧ rest = later := by
  have sameRead := congrArg read16? same
  rw [read16_ofUInt16, read16_ofUInt16] at sameRead
  exact Prod.mk.inj (Option.some.inj sameRead)

/-- Different words have different bytes. -/
theorem flatMap_ofUInt16_inj {left right : List UInt16}
    (same : left.flatMap ofUInt16 = right.flatMap ofUInt16) : left = right := by
  induction left generalizing right with
  | nil =>
      cases right with
      | nil => rfl
      | cons other later => simp [ofUInt16] at same
  | cons word rest ih =>
      cases right with
      | nil => simp [ofUInt16] at same
      | cons other later =>
          rw [List.flatMap_cons, List.flatMap_cons] at same
          rcases ofUInt16_append_inj same with ⟨rfl, sameRest⟩
          rw [ih sameRest]

theorem length_flatMap_ofUInt16 (words : List UInt16) :
    (words.flatMap ofUInt16).length = 2 * words.length := by
  induction words with
  | nil => rfl
  | cons word rest ih =>
      rw [List.flatMap_cons, List.length_append, length_ofUInt16, ih, List.length_cons]
      omega

/-- If the bytes of some words end in the bytes of other words, then the words end in those
words. -/
theorem exists_words_of_suffix {words ending : List UInt16} {front : Bytes}
    (same : words.flatMap ofUInt16 = front ++ ending.flatMap ofUInt16) :
    ∃ moved, front = moved.flatMap ofUInt16 ∧ words = moved ++ ending := by
  have lengths := congrArg List.length same
  rw [List.length_append, length_flatMap_ofUInt16, length_flatMap_ofUInt16] at lengths
  have split := List.take_append_drop (words.length - ending.length) words
  rw [← split, List.flatMap_append] at same
  have endLength : ((words.drop (words.length - ending.length)).flatMap ofUInt16).length =
      (ending.flatMap ofUInt16).length := by
    rw [length_flatMap_ofUInt16, length_flatMap_ofUInt16, List.length_drop]
    omega
  rcases List.append_inj' same endLength with ⟨sameFront, sameEnd⟩
  rw [flatMap_ofUInt16_inj sameEnd] at split
  exact ⟨_, sameFront.symm, split.symm⟩

end LittleEndian

namespace SignatureList

/-- Behind a list that decoding reads to its end, fewer bytes than a header has are an error. -/
theorem eq_nil_of_decode_append {list tail : Bytes} (wellFormed : (decode list).malformed = none)
    (extended : (decode (list ++ tail)).malformed = none) (short : tail.length < headerSize) :
    tail = [] := by
  rw [decode_append_eq wellFormed] at extended
  rcases exists_framed_of_complete extended with ⟨others, _, rfl⟩
  cases others with
  | nil => rfl
  | cons record later =>
      rw [List.flatMap_cons, List.length_append, Record.length_toBytes] at short
      omega

end SignatureList

namespace Password

/-- The units of a password are the first units of the line. -/
theorem units_of_ofLine {line : String} {password : Password}
    (found : ofLine? line = some password) :
    password.units = (Utf16.ofString line).take maxLength := by
  unfold ofLine? at found
  split at found
  · cases found
    rfl
  · cases found

theorem eq_iff_units {password other : Password} :
    password = other ↔ password.units = other.units := by
  cases password
  cases other
  simp

end Password

namespace AuthTag

/-- The units that a password has more than another one stand at the end of the other list. -/
def Moved (list : Bytes) (password : Password) (shorter : Bytes) (longer : Password) : Prop :=
  ∃ units, list = shorter ++ units.flatMap LittleEndian.ofUInt16 ∧
    longer.units = units ++ password.units

/-- Two lists are of one length, or decoding reads both of them to their ends. -/
def Delimited (list other : Bytes) : Prop :=
  list.length = other.length ∨
    (SignatureList.decode list).malformed = none ∧ (SignatureList.decode other).malformed = none

theorem Delimited.symm {list other : Bytes} (delimited : Delimited list other) :
    Delimited other list :=
  delimited.imp Eq.symm And.symm

theorem preimage_eq_of_moved {list shorter : Bytes} {password longer : Password}
    (moved : Moved list password shorter longer) :
    preimage (some list) password = preimage (some shorter) longer := by
  rcases moved with ⟨units, rfl, more⟩
  simp [preimage, Password.toBytes, more]

/-- The same bytes are hashed exactly if some units may count to one list or to the other
password. -/
theorem preimage_eq_iff {list other : Bytes} {password rival : Password} :
    preimage (some list) password = preimage (some other) rival ↔
      Moved list password other rival ∨ Moved other rival list password := by
  constructor
  · intro same
    simp only [preimage, Option.getD_some, Password.toBytes] at same
    rcases List.append_eq_append_iff.mp same with
      ⟨front, otherSplit, units⟩ | ⟨front, listSplit, units⟩
    · rcases LittleEndian.exists_words_of_suffix units with ⟨moved, rfl, split⟩
      exact .inr ⟨moved, otherSplit, split⟩
    · rcases LittleEndian.exists_words_of_suffix units with ⟨moved, rfl, split⟩
      exact .inl ⟨moved, listSplit, split⟩
  · rintro (moved | moved)
    · exact preimage_eq_of_moved moved
    · exact (preimage_eq_of_moved moved).symm

/-- Between lists whose ends are known nothing can be moved. -/
theorem Moved.eq_of_delimited {list shorter : Bytes} {password longer : Password}
    (moved : Moved list password shorter longer) (delimited : Delimited list shorter) :
    list = shorter ∧ password = longer := by
  rcases moved with ⟨units, rfl, more⟩
  have atLeast := password.length_ge
  have atMost := longer.length_le
  rw [more, List.length_append] at atMost
  have noBytes : (units.flatMap LittleEndian.ofUInt16).length = 0 := by
    rcases delimited with sameLength | ⟨extended, wellFormed⟩
    · rw [List.length_append] at sameLength
      omega
    · have short : (units.flatMap LittleEndian.ofUInt16).length < SignatureList.headerSize := by
        rw [LittleEndian.length_flatMap_ofUInt16, SignatureList.headerSize]
        omega
      rw [SignatureList.eq_nil_of_decode_append wellFormed extended short, List.length_nil]
  rw [LittleEndian.length_flatMap_ofUInt16] at noBytes
  obtain rfl : units = [] := List.length_eq_zero_iff.mp (by omega)
  exact ⟨List.append_nil shorter, Password.eq_iff_units.mpr more.symm⟩

/-- Of lists whose ends are known and of the passwords, the bytes that are hashed tell
everything. -/
theorem eq_of_preimage_eq {list other : Bytes} {password rival : Password}
    (delimited : Delimited list other)
    (same : preimage (some list) password = preimage (some other) rival) :
    list = other ∧ password = rival := by
  rcases preimage_eq_iff.mp same with moved | moved
  · exact moved.eq_of_delimited delimited
  · rcases moved.eq_of_delimited delimited.symm with ⟨sameList, samePassword⟩
    exact ⟨sameList.symm, samePassword.symm⟩

/-- What the bytes that are hashed, and the tag, tell about a list and the line of a password. The
bytes determine both up to units that may have been moved from the password to the list; so for
lists whose ends are known they determine the list and the units that are kept of the line, which is
the whole line if it has no more units. The tag determines as much if the two digests do not
collide. -/
theorem tag_binds {list other : Bytes} {line rivalLine : String} {password rival : Password}
    (found : Password.ofLine? line = some password)
    (rivalFound : Password.ofLine? rivalLine = some rival) :
    (preimage (some list) password = preimage (some other) rival ↔
        Moved list password other rival ∨ Moved other rival list password) ∧
      (Delimited list other →
        (preimage (some list) password = preimage (some other) rival ↔
          list = other ∧ (Utf16.ofString line).take 16 = (Utf16.ofString rivalLine).take 16) ∧
        ((Sha256.digest (preimage (some list) password) =
              Sha256.digest (preimage (some other) rival) →
            preimage (some list) password = preimage (some other) rival) →
          (derive (some list) password = derive (some other) rival ↔
            list = other ∧
              (Utf16.ofString line).take 16 = (Utf16.ofString rivalLine).take 16))) ∧
      ((Utf16.ofString line).length ≤ 16 → (Utf16.ofString rivalLine).length ≤ 16 →
        (Utf16.ofString line).take 16 = (Utf16.ofString rivalLine).take 16 →
          line = rivalLine) := by
  have units : password = rival ↔
      (Utf16.ofString line).take 16 = (Utf16.ofString rivalLine).take 16 := by
    rw [Password.eq_iff_units, Password.units_of_ofLine found,
      Password.units_of_ofLine rivalFound, Password.maxLength]
  refine ⟨preimage_eq_iff, ?_, ?_⟩
  · intro delimited
    have hashed : preimage (some list) password = preimage (some other) rival ↔
        list = other ∧ (Utf16.ofString line).take 16 = (Utf16.ofString rivalLine).take 16 := by
      rw [← units]
      constructor
      · exact eq_of_preimage_eq delimited
      · rintro ⟨rfl, rfl⟩
        rfl
    refine ⟨hashed, fun noCollision => ?_⟩
    rw [← hashed]
    constructor
    · intro sameTag
      exact noCollision (AuthTag.mk.inj sameTag)
    · intro sameBytes
      exact congrArg (fun bytes => AuthTag.mk (Sha256.digest bytes)) sameBytes
  · intro short rivalShort same
    rw [List.take_of_length_le short, List.take_of_length_le rivalShort] at same
    exact Utf16.ofString_inj same

/-- A list with a single key. -/
def oneKey : Bytes :=
  (SignatureList.x509 Variable.shimVendor [1]).toRecord.toBytes

/-- Under one password, an empty list and a list with a key have different tags. -/
theorem tag_binds_oneKey :
    ∃ password, Password.ofLine? "password" = some password ∧ Delimited [] oneKey ∧
      derive (some []) password ≠ derive (some oneKey) password := by
  have found : Password.ofLine? "password" =
      some ⟨[112, 97, 115, 115, 119, 111, 114, 100], by decide, by decide⟩ := by decide
  have delimited : Delimited [] oneKey := .inr (by decide +kernel)
  refine ⟨_, found, delimited, ?_⟩
  intro sameTag
  have bound := ((tag_binds found found).2.1 delimited).2 (by decide +kernel)
  exact absurd (bound.mp sameTag).1 (by decide)

/-- Eight characters beyond the basic plane, which take all the units of a password, and one
character more. -/
def longLine (last : Char) : String :=
  String.ofList (List.replicate 8 (Char.ofNat 0x1f512) ++ [last])

/-- The bytes that are hashed determine neither the list nor the line: the first unit of a password
may count to the list, and characters after the first 16 units do not count at all. -/
theorem preimage_ambiguous :
    (∃ password rival, Password.ofLine? "password" = some password ∧
      Password.ofLine? "apassword" = some rival ∧
      preimage (some [0x61, 0]) password = preimage (some []) rival) ∧
    ∃ password, Password.ofLine? (longLine 'a') = some password ∧
      Password.ofLine? (longLine 'b') = some password ∧ longLine 'a' ≠ longLine 'b' := by
  constructor
  · exact ⟨⟨[112, 97, 115, 115, 119, 111, 114, 100], by decide, by decide⟩,
      ⟨[97, 112, 97, 115, 115, 119, 111, 114, 100], by decide, by decide⟩,
      by decide, by decide, by decide⟩
  · exact ⟨⟨[0xd83d, 0xdd12, 0xd83d, 0xdd12, 0xd83d, 0xdd12, 0xd83d, 0xdd12, 0xd83d, 0xdd12,
      0xd83d, 0xdd12, 0xd83d, 0xdd12, 0xd83d, 0xdd12], by decide, by decide⟩,
      by decide, by decide, by decide⟩

end AuthTag

end OwnerKeys
