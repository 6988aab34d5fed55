import OwnerKeys.Certificate
import OwnerKeys.Certificate.ObjectName

/-!
# Parameters of padded signatures

Signatures of RSA that are padded with a salt name the hash of the message, the function that makes
the mask, the length of the salt and a trailer. What is missing has a standard value.
-/

namespace OwnerKeys

open Asn1 Layout

/-- The parameters of a padded signature. What is missing has a standard value. -/
structure PssParameters where
  /-- The object of the hash. -/
  hash : Option Bytes
  /-- The object of the hash inside the mask. -/
  maskHash : Option Bytes
  /-- The length of the salt. -/
  saltLength : Option Int
  /-- The trailer. -/
  trailer : Option Int
deriving DecidableEq, Repr

namespace PssParameters

/-- The arcs of the algorithm whose parameters these are. -/
def arcs : List Nat := [1, 2, 840, 113549, 1, 1, 10]

/-- The arcs of the function that makes the mask. -/
def maskArcs : List Nat := [1, 2, 840, 113549, 1, 1, 8]

/-- The object of the hash inside a mask. No other function is known. -/
def maskHashOf? (element : Element) : Option Bytes := do
  let mask ← Certificate.algorithmOf? element
  if objectArcs? mask.object = some maskArcs then
    return (← Certificate.algorithmOf? (← mask.parameters)).object
  else
    none

/-- The parameters in an element. -/
def ofElement? (element : Element) : Option PssParameters := do
  let fields ← Certificate.sequence? element
  let (hash, fields) ← Certificate.optionalField (.context 0)
    (Certificate.wrappedIn? Certificate.algorithmOf?) fields
  let (maskHash, fields) ← Certificate.optionalField (.context 1)
    (Certificate.wrappedIn? maskHashOf?) fields
  let (saltLength, fields) ← Certificate.optionalField (.context 2)
    (Certificate.wrappedIn? Certificate.integerOf?) fields
  let (trailer, fields) ← Certificate.optionalField (.context 3)
    (Certificate.wrappedIn? Certificate.integerOf?) fields
  if fields = [] then some ⟨hash.map (·.object), maskHash, saltLength, trailer⟩ else none

/-- The parameters of a signature as they are shown on lines of their own. -/
def lines (indent : Nat) (parameters : PssParameters) : String :=
  line indent ("Hash Algorithm: " ++
    (parameters.hash.map ObjectName.fullName).getD "sha1 (default)") ++
    line indent ("Mask Algorithm: mgf1 with " ++
      (parameters.maskHash.map ObjectName.fullName).getD "sha1 (default)") ++
    line indent (" Salt Length: 0x" ++
      (parameters.saltLength.map integerDigits).getD "14 (default)") ++
    line indent ("Trailer Field: 0x" ++
      (parameters.trailer.map integerDigits).getD "01 (default)")

/-- What is shown for the parameters of a signature after the label before them. -/
def text (indent : Nat) (parameters : Option Element) : String :=
  blanks indent ++
    match parameters.bind ofElement? with
    | some parameters => "\n" ++ parameters.lines indent
    | none => "(INVALID PSS PARAMETERS)\n"

end PssParameters

end OwnerKeys
