import OwnerKeys.Certificate.ExtensionText.Basic

/-!
# Extensions about the use of a key

What a key may be used for, whose it is, and plain values: numbers, texts and marks that are there
or not.
-/

namespace OwnerKeys.Extension

open Asn1 Layout

/-- The names of the bits of a key's uses. -/
def useNames : List String :=
  ["Digital Signature", "Non Repudiation", "Key Encipherment", "Data Encipherment",
    "Key Agreement", "Certificate Sign", "CRL Sign", "Encipher Only", "Decipher Only"]

/-- The names of the bits of a certificate's old type. -/
def oldTypeNames : List String :=
  ["SSL Client", "SSL Server", "S/MIME", "Object Signing", "Unused", "SSL CA", "S/MIME CA",
    "Object Signing CA"]

/-- The names of the bits that are set in a value. -/
def bits? (names : List String) : ValueReader := fun indent value => do
  Shown.someItems? indent (bitNames names (← Certificate.bitStringOf? .bitString value))

/-- The number of a key, or any other string of bytes. -/
def octets? : ValueReader := fun indent value => do
  return Shown.oneLine indent (upperHex (← stringOf? .octetString value))

/-- The objects in a value. -/
def objects? : ValueReader := fun indent value => do
  let objects ← (← Certificate.series? .sequence value).mapM Certificate.objectOf?
  Shown.someItems? indent (objects.map ObjectName.narrowName)

/-- An object. -/
def object? : ValueReader := fun indent value => do
  return Shown.oneLine indent (ObjectName.fullName (← Certificate.objectOf? value))

/-- An integer. -/
def number? : ValueReader := fun indent value => do
  return Shown.oneLine indent (integerText (← Certificate.integerOf? value))

/-- Whether the holder has an authority, and how long a chain of certificates below may be. -/
def constraints? (label : String) : ValueReader := fun indent value => do
  let fields ← Certificate.sequence? value
  let (authority, fields) ← Certificate.optionalField .boolean booleanIn? fields
  let (length, fields) ← Certificate.optionalField .integer integerIn? fields
  if fields = [] then
    let shown := label ++ ":" ++ if authority.getD false then "TRUE" else "FALSE"
    return Shown.items indent
      (shown :: (length.map fun bound => "pathlen:" ++ integerText bound).toList)
  else
    none

/-- A text with a given tag, up to its first zero byte. An empty one is not shown. -/
def text? (tag : Tag) : ValueReader := fun indent value => do
  let bytes ← stringOf? tag value
  if bytes = [] then none else some (Shown.oneLine indent (endedText bytes))

/-- A mark that says something by being there. -/
def mark? (shown : Nat → Shown) : ValueReader := fun indent value => do
  nullOf? value
  return shown indent

/-- A mark that is shown as such. -/
def shownMark? : ValueReader :=
  mark? fun indent => Shown.oneLine indent "NULL"

/-- A mark for which nothing is shown. -/
def silentMark? : ValueReader :=
  mark? fun _ => Shown.full ""

/-- A feature of the transport protocol by its number. -/
def featureText (feature : Int) : String :=
  if feature = 5 then "status_request"
  else if feature = 17 then "status_request_v2"
  else integerText feature

/-- The features of the transport protocol that a server promises. -/
def features? : ValueReader := fun indent value => do
  let numbers ← (← Certificate.series? .sequence value).mapM Certificate.integerOf?
  Shown.someItems? indent (numbers.map featureText)

/-- The reasons for which a certificate is revoked, by their numbers. -/
def revocationReasons : List (Int × String) :=
  [(0, "Unspecified"), (1, "Key Compromise"), (2, "CA Compromise"), (3, "Affiliation Changed"),
    (4, "Superseded"), (5, "Cessation Of Operation"), (6, "Certificate Hold"),
    (8, "Remove From CRL"), (9, "Privilege Withdrawn"), (10, "AA Compromise")]

/-- The reason for which a certificate is revoked. -/
def revocationReason? : ValueReader := fun indent value => do
  let number ← integerIn? (← Certificate.withTag? .enumerated value)
  match revocationReasons.lookup number with
  | some name => return Shown.oneLine indent name
  | none => return Shown.oneLine indent (integerText number)

/-- The time in which a private key is used. -/
def usagePeriod? : ValueReader := fun indent value => do
  let fields ← Certificate.sequence? value
  let (notBefore, fields) ← Certificate.optionalField (.context 0) momentIn? fields
  let (notAfter, fields) ← Certificate.optionalField (.context 1) momentIn? fields
  if fields = [] then
    let ends := [notBefore.map ("Not Before: " ++ Moment.display ·),
      notAfter.map ("Not After: " ++ Moment.display ·)]
    return Shown.oneLine indent (", ".intercalate (ends.filterMap id))
  else
    none

/-- The zones in which a holder is known, and the holder's name in each. -/
def zones? : ValueReader := fun indent value => do
  match ← Certificate.sequence? value with
  | [version, users] =>
    let number ← Certificate.integerOf? version
    let lines ← (← Certificate.series? .sequence users).mapM fun user => do
      match ← Certificate.sequence? user with
      | [zone, name] =>
        return "Zone: " ++ integerText (← Certificate.integerOf? zone) ++ ", User: " ++
          printable (← stringOf? .octetString name)
      | _ => none
    let bound : Int := 0x7fffffffffffffff
    let shown := if number < -bound - 1 ∨ bound ≤ number then "<unsupported>"
      else toString (number + 1) ++ " (0x" ++
        (hexDigits (UInt64.ofInt number).toNat).map Char.toUpper ++ ")"
    return Shown.column indent (("Version: " ++ shown) :: lines)
  | _ => none

end OwnerKeys.Extension
