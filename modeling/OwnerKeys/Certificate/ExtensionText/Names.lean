import OwnerKeys.Certificate.ExtensionText.Basic

/-!
# Extensions with names

Other names of a holder or an issuer, the key of the issuer, the ways to get at information, where
lists of revoked certificates are found, and the names that certificates below may have.
-/

namespace OwnerKeys.Extension

open Asn1 Layout

/-- General names as they are shown in a list. One that cannot be shown spoils the list. -/
def labeledNames? (element : Element) : Option (List Labeled) := do
  (← GeneralName.ofContent? element).mapM GeneralName.labeled?

/-- The other names of a holder. -/
def otherNames? : ValueReader := fun indent value => do
  let names ← labeledNames? (← Certificate.withTag? .sequence value)
  return Shown.items indent (names.map Labeled.text)

/-- The key of the issuer: its number, or the issuer's names and the number of the certificate.
Nothing at all cannot be shown, but an empty list of names can. -/
def issuerKey? : ValueReader := fun indent value => do
  let fields ← Certificate.sequence? value
  let (key, fields) ← Certificate.optionalField (.context 0) Element.string? fields
  let (issuer, fields) ← Certificate.optionalField (.context 1) labeledNames? fields
  let (serial, fields) ← Certificate.optionalField (.context 2) integerIn? fields
  let label := if issuer.isSome ∨ serial.isSome then "keyid:" else ""
  let keyText := key.map (label ++ upperHex ·)
  let serialText := serial.map fun number =>
    "serial:" ++ upperHex (integerBytes number)
  let lines := keyText.toList ++ (issuer.getD []).map Labeled.text ++ serialText.toList
  if fields = [] ∧ (lines ≠ [] ∨ issuer.isSome) then
    return Shown.column indent lines
  else
    none

/-- One way to get at information: the method, and where. -/
def access? (element : Element) : Option (Bytes × GeneralName) := do
  match ← Certificate.sequence? element with
  | [method, location] =>
    return (← Certificate.objectOf? method, ← GeneralName.ofElement? location)
  | _ => none

/-- The ways to get at information. -/
def accesses? : ValueReader := fun indent value => do
  let ways ← (← Certificate.series? .sequence value).mapM access?
  let lines ← ways.mapM fun (method, location) => do
    return ObjectName.narrowName method ++ " - " ++ (← location.labeled?).text
  return Shown.column indent lines

/-- Names on lines of their own, with more indent. -/
def nameLines (indent : Nat) (names : List GeneralName) : String :=
  "\n".intercalate (names.map fun name => blanks (indent + 2) ++ name.lineText)

/-- Where a list of revoked certificates is found. -/
inductive DistributionPoint where
  /-- At places that are named in full. -/
  | full (names : List GeneralName)
  /-- At a place that is named by attributes below the issuer's name. -/
  | relative (name : List NameAttribute)
deriving DecidableEq, Repr

/-- The place in an element that wraps one of the two forms. -/
def distributionPoint? (element : Element) : Option DistributionPoint := do
  match ← element.children? with
  | [choice] =>
    if choice.tag = .context 0 then
      return .full (← GeneralName.ofContent? choice)
    else if choice.tag = .context 1 then
      return .relative (← (← elements? choice.content).mapM (Certificate.looseAttributeOf? 0))
    else
      none
  | _ => none

/-- A place as it is shown. -/
def DistributionPoint.text (indent : Nat) : DistributionPoint → String
  | full names => line indent "Full Name:" ++ nameLines indent names ++ "\n"
  | relative name =>
    line indent "Relative Name:" ++ line (indent + 2) (NameAttribute.quotedText name)

/-- The names of the bits for reasons of a revocation. -/
def reasonNames : List String :=
  ["Unused", "Key Compromise", "CA Compromise", "Affiliation Changed", "Superseded",
    "Cessation Of Operation", "Certificate Hold", "Privilege Withdrawn", "AA Compromise"]

/-- Reasons under a label. -/
def reasonLines (indent : Nat) (label : String) (reasons : BitString) : String :=
  let names := bitNames reasonNames reasons
  line indent (label ++ ":") ++ blanks (indent + 2) ++
    (if names = [] then "<EMPTY>" else ", ".intercalate names) ++ "\n"

/-- One of the lists of revoked certificates: where it is, what for, and whose it is. -/
def revocationList? (indent : Nat) (element : Element) : Option String := do
  let fields ← Certificate.sequence? element
  let (point, fields) ← Certificate.optionalField (.context 0) distributionPoint? fields
  let (reasons, fields) ← Certificate.optionalField (.context 1) bitsIn? fields
  let (issuer, fields) ← Certificate.optionalField (.context 2) GeneralName.ofContent? fields
  if fields = [] then
    let pointText := point.map (DistributionPoint.text indent)
    let issuerText := issuer.map fun names => line indent "CRL Issuer:" ++ nameLines indent names
    return pointText.getD "" ++ (reasons.map (reasonLines indent "Reasons")).getD "" ++
      issuerText.getD ""
  else
    none

/-- The lists of revoked certificates. -/
def revocationLists? : ValueReader := fun indent value => do
  let texts ← (← Certificate.series? .sequence value).mapM (revocationList? indent)
  return Shown.full ("\n".intercalate texts)

/-- What a list of revoked certificates covers. -/
def coverage? : ValueReader := fun indent value => do
  let fields ← Certificate.sequence? value
  let (point, fields) ← Certificate.optionalField (.context 0) distributionPoint? fields
  let (onlyUsers, fields) ← Certificate.optionalField (.context 1) booleanIn? fields
  let (onlyAuthorities, fields) ← Certificate.optionalField (.context 2) booleanIn? fields
  let (reasons, fields) ← Certificate.optionalField (.context 3) bitsIn? fields
  let (isIndirect, fields) ← Certificate.optionalField (.context 4) booleanIn? fields
  let (onlyAttributes, fields) ← Certificate.optionalField (.context 5) booleanIn? fields
  if fields = [] then
    let mark (label : String) (isSet : Option Bool) : String :=
      if isSet.getD false then line indent label else ""
    let text := (point.map (DistributionPoint.text indent)).getD "" ++
      mark "Only User Certificates" onlyUsers ++
      mark "Only CA Certificates" onlyAuthorities ++ mark "Indirect CRL" isIndirect ++
      (reasons.map (reasonLines indent "Only Some Reasons")).getD "" ++
      mark "Only Attribute Certificates" onlyAttributes
    return if text.isEmpty then Shown.noItems indent else Shown.full text
  else
    none

/-- A general name that stands for all names below it. An address has two halves: the address of a
network and a mask. -/
def subtreeText (name : GeneralName) : String :=
  match name with
  | .address bytes =>
    let size := if 16 ≤ bytes.length then 16 else min bytes.length 4
    "IP:" ++ GeneralName.addressText (bytes.take size) ++ "/" ++
      GeneralName.addressText (bytes.drop size)
  | _ => name.lineText

/-- The name in an element that names a subtree. Its bounds are read but do not matter. -/
def subtree? (element : Element) : Option GeneralName := do
  match ← Certificate.sequence? element with
  | base :: fields =>
    let (_, fields) ← Certificate.optionalField (.context 0) integerIn? fields
    let (_, fields) ← Certificate.optionalField (.context 1) integerIn? fields
    if fields = [] then GeneralName.ofElement? base else none
  | [] => none

/-- Subtrees under a label. -/
def subtreeLines (indent : Nat) (label : String) (names : List GeneralName) : String :=
  if names = [] then ""
  else
    line indent (label ++ ":") ++
      "\n".intercalate (names.map fun name => blanks (indent + 2) ++ subtreeText name)

/-- The names that certificates below may and may not have. -/
def nameConstraints? : ValueReader := fun indent value => do
  let subtrees (element : Element) : Option (List GeneralName) := do
    (← elements? element.content).mapM subtree?
  let fields ← Certificate.sequence? value
  let (permitted, fields) ← Certificate.optionalField (.context 0) subtrees fields
  let (excluded, fields) ← Certificate.optionalField (.context 1) subtrees fields
  if fields = [] then
    return Shown.full ("\n".intercalate
      ((permitted.map (subtreeLines indent "Permitted")).toList ++
        (excluded.map (subtreeLines indent "Excluded")).toList))
  else
    none

end OwnerKeys.Extension
