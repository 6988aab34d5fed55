import OwnerKeys.Bytes

/-!
# Digests

The two hash functions of key management share their outer form: the message is padded to blocks of
64 bytes, and the words of a chaining value are updated block by block. This file holds what they
share: words with the most significant byte first, the padding, the blocks. A 256-bit digest is a
vector of 32 bytes, so its size is part of its type.
-/

namespace OwnerKeys

/-- A digest of 256 bits. -/
abbrev Digest := Vector UInt8 32

namespace Digest

/-- The digest with the given bytes, if there are 32 of them. -/
def ofBytes? (bytes : Bytes) : Option Digest :=
  if size : bytes.length = 32 then some ⟨bytes.toArray, by simpa using size⟩ else none

/-- The four bytes of a word, most significant first. -/
def bigEndian (word : UInt32) : Bytes :=
  (LittleEndian.ofUInt32 word).reverse

/-- The words that a byte string spells, most significant byte first. -/
def words : Bytes → List UInt32
  | b0 :: b1 :: b2 :: b3 :: rest => LittleEndian.word32 b3 b2 b1 b0 :: words rest
  | _ => []

/-- The length of a message in bits, as eight bytes. -/
def lengthField (count : Nat) : Bytes :=
  let bits := 8 * count
  bigEndian (UInt32.ofNat (bits / UInt32.size)) ++ bigEndian (UInt32.ofNat bits)

/-- The message with a one bit, zeros and its length appended, which fills up whole blocks. -/
def pad (message : Bytes) : Bytes :=
  message ++ 0x80 :: List.replicate ((119 - message.length % 64) % 64) 0 ++
    lengthField message.length

/-- The blocks of a padded message, 16 words each. -/
def blocks (padded : Bytes) : List (List UInt32) :=
  if 64 ≤ padded.length then
    words (padded.take 64) :: blocks (padded.drop 64)
  else
    []
termination_by padded.length
decreasing_by simp only [List.length_drop]; omega

/-- A word whose bits are moved to the left, where the bits pushed out come back at the right. -/
def rotateLeft (word : UInt32) (count : UInt32) : UInt32 :=
  (word <<< count) ||| (word >>> (32 - count))

/-- A word whose bits are moved to the right, where the bits pushed out come back at the left. -/
def rotateRight (word : UInt32) (count : UInt32) : UInt32 :=
  (word >>> count) ||| (word <<< (32 - count))

@[simp]
theorem ofBytes_toList (digest : Digest) : ofBytes? digest.toList = some digest := by
  unfold ofBytes?
  rw [dif_pos digest.length_toList]
  exact congrArg some (Vector.toList_inj.mp rfl)

/-- Bytes are read as the digest that they are. -/
theorem ofBytes_eq_some_iff {bytes : Bytes} {digest : Digest} :
    ofBytes? bytes = some digest ↔ digest.toList = bytes := by
  constructor
  · intro read
    unfold ofBytes? at read
    split at read
    · cases read
      simp
    · cases read
  · rintro rfl
    exact ofBytes_toList digest

end Digest

end OwnerKeys
