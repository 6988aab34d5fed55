/-!
# Commands

What the operator can ask the program to do.
-/

namespace OwnerKeys

/-- A command with its operands. -/
inductive Command where
  /-- Show the enrolled keys. -/
  | listEnrolled
  /-- Show the keys that wait for enrollment. -/
  | listNew
  /-- Show the keys that wait for deletion. -/
  | listDelete
  /-- Request the enrollment of the keys in files. -/
  | importKeys (files : List String)
  /-- Request the deletion of the keys in files. -/
  | deleteKeys (files : List String)
  /-- Take the enrollment request back. -/
  | revoke
  /-- Take the deletion request back. -/
  | revokeDelete
  /-- Write the enrolled certificates to files in a directory. -/
  | exportKeys (directory : String)
  /-- Request a new password of the key manager. -/
  | password
  /-- Request that signatures be no longer validated. -/
  | disableValidation
  /-- Request that signatures be validated. -/
  | enableValidation
  /-- Show whether the firmware verifies what it boots. -/
  | secureBootState
  /-- Show whether the key in a file is enrolled already. -/
  | testKey (file : String)
  /-- Request that all enrolled keys be forgotten. -/
  | reset
deriving DecidableEq, Repr

end OwnerKeys
