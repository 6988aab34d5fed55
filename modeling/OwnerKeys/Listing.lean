import OwnerKeys.Certificate.Text
import OwnerKeys.Digest.Sha1
import OwnerKeys.Hex
import OwnerKeys.Machine
import OwnerKeys.SignatureList.Reading

/-!
# Listings of keys

A listing shows every key of a list under its number, starting from one. A certificate is shown by
its fingerprint and, if it can be read, by its text; a digest is shown as it is.
-/

namespace OwnerKeys.Listing

variable {Store : Type}

open SignatureList

/-- What can be found in a list, after the operator was told if the list is broken. -/
def decodeNoted (list : Bytes) : Action Store Decoded := do
  let decoded := decode list
  if decoded.malformed.isSome then
    Action.note .listMalformed
  return decoded

/-- The line with the number of a key. An empty line stands before every number but the first. -/
def heading (number : Nat) : String :=
  (if number = 1 then "" else "\n") ++ s!"[key {number}]\n"

/-- The line with the fingerprint of a certificate or with a digest. -/
def fingerprint (entry : Entry) : String :=
  match entry.kind with
  | .x509 => "SHA1 Fingerprint: " ++ Hex.colonText (Sha1.digest entry.payload) ++ "\n"
  | .sha256 => "SHA256 Hash: " ++ Hex.colonText entry.payload ++ "\n"

/-- The text of a certificate, if a byte string starts with one. -/
def certificateText? (payload : Bytes) : Option String :=
  (Certificate.parse? payload).map Certificate.text

/-- Shows one key. -/
def showEntry (output : Output) (number : Nat) (entry : Entry) : Attempt Store String Unit := do
  Attempt.print output (heading number)
  Attempt.print output (fingerprint entry)
  if entry.kind = .x509 then
    match certificateText? entry.payload with
    | some text => Attempt.print output text
    | none => perform (Action.note .certificateInvalid)

/-- Shows keys, numbered upwards from a given number. -/
def showEntries (output : Output) (number : Nat) : List Entry → Attempt Store String Unit
  | [] => return ()
  | entry :: later => do
    showEntry output number entry
    showEntries output (number + 1) later

/-- Shows every key of a list, and says how many there are. -/
def listKeys (output : Output) (list : Bytes) : Attempt Store String Nat := do
  let decoded ← perform (decodeNoted list)
  showEntries output 1 decoded.entries
  return decoded.entries.length

end OwnerKeys.Listing
