import OwnerKeys.Certificate.ExtensionText.Basic

/-!
# Extensions about professions

Which professions a holder is admitted to, by whom, and who gives the professions their names. Also
the tools by which a certificate was made.
-/

namespace OwnerKeys.Extension

open Asn1 Layout

/-- The text of a directory in an element. -/
def directoryTextOf? (element : Element) : Option Bytes :=
  if GeneralName.isDirectoryText element then element.string? else none

/-- Who gives professions their names. -/
structure NamingAuthority where
  /-- The object that stands for it. -/
  object : Option Bytes
  /-- Where to find it. -/
  location : Option Bytes
  /-- What it is called. -/
  name : Option Bytes
deriving DecidableEq, Repr

/-- The naming authority in an element. -/
def namingAuthority? (element : Element) : Option NamingAuthority := do
  let fields ← Certificate.sequence? element
  let (object, fields) ← Certificate.optionalField .object Certificate.objectOf? fields
  let (location, fields) ← Certificate.optionalField .ia5String Element.string? fields
  match fields with
  | [] => return ⟨object, location, none⟩
  | [name] => return ⟨object, location, some (← directoryTextOf? name)⟩
  | _ => none

/-- The room for an object in brackets. -/
def bracketRoom : Nat := 127

/-- An object by its name, with its arcs in brackets. -/
def namedObject (object : Bytes) : String :=
  ObjectName.knownName object ++ " (" ++
    ObjectName.cut bracketRoom (ObjectName.dotted object) ++ ")"

/-- A naming authority as it is shown. One about which nothing is said cannot be shown. -/
def NamingAuthority.shown (indent : Nat) (authority : NamingAuthority) : Shown :=
  let lines := (authority.object.map fun object =>
      line (indent + 2) ("namingAuthorityId: " ++ namedObject object)).toList ++
    (authority.name.map fun name =>
      line (indent + 2) ("namingAuthorityText: " ++ printable name)).toList ++
    (authority.location.map fun location =>
      line (indent + 2) ("namingAuthorityUrl: " ++ printable location)).toList
  if lines = [] then Shown.broken ""
  else Shown.full (line indent "namingAuthority:" ++ String.join lines)

/-- A naming authority in an element that wraps it, as it is shown. -/
def wrappedAuthority? (indent : Nat) : Element → Option Shown :=
  Certificate.wrappedIn? fun element =>
    (namingAuthority? element).map (NamingAuthority.shown indent)

/-- A profession as it is shown: its number, its naming authority, its names and its objects. -/
def profession? (indent position : Nat) (element : Element) : Option Shown := do
  let fields ← Certificate.sequence? element
  let (authority, fields) ← Certificate.optionalField (.context 0)
    (wrappedAuthority? (indent + 4)) fields
  match fields with
  | [] => none
  | items :: fields =>
    let names ← (← Certificate.series? .sequence items).mapM directoryTextOf?
    let (objects, fields) ← Certificate.optionalField .sequence (fun element => do
      (← Certificate.series? .sequence element).mapM Certificate.objectOf?) fields
    let (number, fields) ← Certificate.optionalField (.universal 19) Element.string? fields
    let (_, fields) ← Certificate.optionalField .octetString Element.string? fields
    if fields = [] then
      let numberLine := number.map fun text =>
        line (indent + 4) ("registrationNumber: " ++ printable text)
      let objectLines := objects.map fun objects =>
        line (indent + 4) "Profession OIDs:" ++
          String.join (objects.map fun object => line (indent + 6) (namedObject object))
      return Shown.join
        [Shown.full (line (indent + 2) s!"Profession Info Entry {position + 1}:" ++
          numberLine.getD ""), authority.getD (Shown.full ""),
          Shown.full (line (indent + 4) "Info Entries:" ++
            String.join (names.map fun name => line (indent + 6) (printable name)) ++
            objectLines.getD "")]
    else
      none

/-- Who admits, as it is shown. -/
def admissionAuthority (indent : Nat) (name : GeneralName) : Shown :=
  Shown.full (line indent "admissionAuthority:" ++ line (indent + 2) name.lineText)

/-- Admissions to professions by one authority, as they are shown. -/
def admissions? (indent position : Nat) (element : Element) : Option Shown := do
  let fields ← Certificate.sequence? element
  let (admission, fields) ← Certificate.optionalField (.context 0)
    (Certificate.wrappedIn? GeneralName.ofElement?) fields
  let (naming, fields) ← Certificate.optionalField (.context 1)
    (wrappedAuthority? (indent + 2)) fields
  match fields with
  | [professions] =>
    let shown ← (← Certificate.series? .sequence professions).zipIdx.mapM fun (element, number) =>
      profession? indent number element
    return Shown.join (Shown.full (line indent s!"Entry {position + 1}:") ::
      (admission.map (admissionAuthority (indent + 2))).toList ++ naming.toList ++ shown)
  | _ => none

/-- Admissions to professions. -/
def admissionList? : ValueReader := fun indent value => do
  let fields ← Certificate.sequence? value
  let (authority, contents) ← match fields with
    | [contents] => some (none, contents)
    | [authority, contents] => do some (some (← GeneralName.ofElement? authority), contents)
    | _ => none
  let shown ← (← Certificate.series? .sequence contents).zipIdx.mapM fun (element, number) =>
    admissions? indent number element
  return Shown.join ((authority.map (admissionAuthority indent)).toList ++ shown)

/-- The tools by which a certificate was made. -/
def issuerTools? : ValueReader := fun indent value => do
  let texts ← (← Certificate.sequence? value).mapM (stringOf? .utf8String)
  match texts with
  | [_, _, _, _] =>
    let labels := ["signTool    : ", "cATool      : ", "signToolCert: ", "cAToolCert  : "]
    return Shown.column indent (labels.zipWith (fun label text => label ++ lossyText text) texts)
  | _ => none

end OwnerKeys.Extension
