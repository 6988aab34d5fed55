import OwnerKeys.Guid
import OwnerKeys.SortedMap

/-!
# Firmware variables

A firmware variable is identified by its name together with the GUID of the vendor that named it.
Variables are ordered by the bytes of the name and then by the vendor, which makes them keys of a
`SortedMap`. This file also names the variables of the firmware and of the shim boot loader that
take part in key management.
-/

namespace OwnerKeys

/-- The identity of a firmware variable. -/
structure Variable where
  /-- The name inside the vendor's namespace. -/
  name : String
  /-- The namespace. -/
  vendor : Guid
deriving DecidableEq, Repr, Inhabited

namespace Variable

/-- The bytes of the name, by which variables are ordered first. -/
def nameBytes (var : Variable) : Bytes :=
  Bytes.ofString var.name

/-- The names are compared byte by byte, and equal names by their vendors. -/
protected def lt (left right : Variable) : Prop :=
  left.nameBytes < right.nameBytes ∨
    left.nameBytes = right.nameBytes ∧ left.vendor < right.vendor

instance : LT Variable := ⟨Variable.lt⟩

instance (left right : Variable) : Decidable (left < right) :=
  inferInstanceAs (Decidable (left.nameBytes < right.nameBytes ∨
    left.nameBytes = right.nameBytes ∧ left.vendor < right.vendor))

theorem eq_of_nameBytes {left right : Variable} (sameName : left.nameBytes = right.nameBytes)
    (sameVendor : left.vendor = right.vendor) : left = right := by
  obtain ⟨leftName, leftVendor⟩ := left
  obtain ⟨rightName, rightVendor⟩ := right
  simp only [nameBytes, Bytes.ofString_inj] at sameName sameVendor
  rw [sameName, sameVendor]

instance : LinearKey Variable where
  irrefl := by
    rintro key (below | ⟨_, below⟩)
    · exact LinearKey.irrefl _ below
    · exact LinearKey.irrefl _ below
  trans := by
    rintro first second third (left | ⟨sameLeft, left⟩) (right | ⟨sameRight, right⟩)
    · exact Or.inl (LinearKey.trans left right)
    · exact Or.inl (sameRight ▸ left)
    · exact Or.inl (sameLeft ▸ right)
    · exact Or.inr ⟨sameLeft.trans sameRight, LinearKey.trans left right⟩
  connected := by
    intro left right different notBelow
    by_cases sameName : left.nameBytes = right.nameBytes
    · refine Or.inr ⟨sameName.symm, LinearKey.connected ?_ ?_⟩
      · exact fun sameVendor => different (eq_of_nameBytes sameName sameVendor)
      · exact fun below => notBelow (Or.inr ⟨sameName, below⟩)
    · exact Or.inl (LinearKey.connected sameName fun below => notBelow (Or.inl below))

/-- The namespace of the variables that every firmware defines. -/
def globalVendor : Guid :=
  ⟨0x8be4df61, 0x93ca, 0x11d2, #v[0xaa, 0x0d, 0x00, 0xe0, 0x98, 0x03, 0x2b, 0x8c]⟩

/-- The namespace of the databases of images that the firmware may or must not run. -/
def imageSecurityVendor : Guid :=
  ⟨0xd719b2cb, 0x3d3a, 0x4596, #v[0xa3, 0xbc, 0xda, 0xd0, 0x0e, 0x67, 0x65, 0x6f]⟩

/-- The namespace of the variables of the shim boot loader, and the owner of every staged key. -/
def shimVendor : Guid :=
  ⟨0x605dab50, 0xe046, 0x4300, #v[0xab, 0xb6, 0x3d, 0xd8, 0x10, 0xdd, 0x8b, 0x23]⟩

/-- Whether the firmware verifies what it boots. -/
def secureBoot : Variable := ⟨"SecureBoot", globalVendor⟩

/-- The platform key. -/
def platformKey : Variable := ⟨"PK", globalVendor⟩

/-- The keys that may change the signature databases. -/
def keyExchangeKeys : Variable := ⟨"KEK", globalVendor⟩

/-- The signatures that the firmware trusts. -/
def signatureDatabase : Variable := ⟨"db", imageSecurityVendor⟩

/-- The enrolled owner keys, as the boot loader shows them to the running system. -/
def enrolledKeys : Variable := ⟨"MokListRT", shimVendor⟩

/-- The keys that wait for enrollment. -/
def pendingEnrollment : Variable := ⟨"MokNew", shimVendor⟩

/-- The keys that wait for deletion. -/
def pendingDeletion : Variable := ⟨"MokDel", shimVendor⟩

/-- The tag that authenticates `pendingEnrollment`. -/
def enrollmentTag : Variable := ⟨"MokAuth", shimVendor⟩

/-- The tag that authenticates `pendingDeletion`. -/
def deletionTag : Variable := ⟨"MokDelAuth", shimVendor⟩

/-- A new password of the boot loader's key manager that waits for confirmation. -/
def pendingPassword : Variable := ⟨"MokPW", shimVendor⟩

/-- A change of the boot loader's signature validation that waits for confirmation. -/
def pendingValidation : Variable := ⟨"MokSB", shimVendor⟩

/-- The variables that have a role in key management. -/
def wellKnown : List Variable :=
  [platformKey, keyExchangeKeys, secureBoot, signatureDatabase, enrolledKeys, pendingEnrollment,
    pendingDeletion, enrollmentTag, deletionTag, pendingPassword, pendingValidation]

/-- The variable of a role whose name is the given text. -/
def wellKnown? (name : String) : Option Variable :=
  wellKnown.find? (·.name == name)

end Variable

end OwnerKeys
