import OwnerKeys.Digest.Sha256
import OwnerKeys.Hex
import OwnerKeys.Password

/-!
# Authentication tags

A tag binds a password to the exact bytes of a list of keys: it is the SHA-256 digest of the list
followed by the units of the password. The boot loader computes it again from the password that is
typed on its console, so the password itself is never stored.
-/

namespace OwnerKeys

/-- An authentication tag. -/
structure AuthTag where
  /-- The digest. -/
  digest : Digest
deriving DecidableEq, Repr

namespace AuthTag

/-- The bytes that are hashed: the list, where an absent list counts as empty, and the password. -/
def preimage (list : Option Bytes) (password : Password) : Bytes :=
  list.getD [] ++ password.toBytes

/-- The tag of a list and a password. -/
def derive (list : Option Bytes) (password : Password) : AuthTag :=
  ⟨Sha256.digest (preimage list password)⟩

/-- The tag with the given bytes, if there are 32 of them. -/
def ofBytes? (bytes : Bytes) : Option AuthTag :=
  (Digest.ofBytes? bytes).map AuthTag.mk

/-- The bytes of a tag. -/
def toBytes (tag : AuthTag) : Bytes :=
  tag.digest.toList

/-- How a tag shows itself in diagnostics. -/
def text (tag : AuthTag) : String :=
  "AuthTag(" ++ Hex.text tag.toBytes ++ ")"

@[simp]
theorem length_toBytes (tag : AuthTag) : tag.toBytes.length = 32 := by
  simp [toBytes]

@[simp]
theorem ofBytes_toBytes (tag : AuthTag) : ofBytes? tag.toBytes = some tag := by
  simp [ofBytes?, toBytes]

/-- Bytes are read as the tag that they are. -/
theorem ofBytes_eq_some_iff {bytes : Bytes} {tag : AuthTag} :
    ofBytes? bytes = some tag ↔ tag.toBytes = bytes := by
  constructor
  · intro read
    rcases Option.map_eq_some_iff.mp read with ⟨digest, readDigest, rfl⟩
    exact Digest.ofBytes_eq_some_iff.mp readDigest
  · rintro rfl
    exact ofBytes_toBytes tag

end AuthTag

end OwnerKeys
