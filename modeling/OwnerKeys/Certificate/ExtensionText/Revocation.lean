import OwnerKeys.Certificate.ExtensionText.Basic

/-!
# Extensions about the state of a certificate

Some extensions belong to the questions and answers about whether a certificate is revoked: the
list and the time that an answer comes from, and who else can be asked.
-/

namespace OwnerKeys.Extension

open Asn1 Layout

/-- A line with a moment, if the moment can be read. -/
def momentShown (line : String) (time : TimeText) : Shown :=
  ⟨line ++ Moment.display time, (Moment.ofText? time).isSome⟩

/-- A moment. -/
def moment? : ValueReader := fun indent value => do
  return momentShown (blanks indent) (← momentOf? value)

/-- The list of revoked certificates in which an answer was found: its location, its number and its
time. -/
def listUsed? : ValueReader := fun indent value => do
  let fields ← Certificate.sequence? value
  let (location, fields) ← Certificate.optionalField (.context 0)
    (Certificate.wrappedIn? (stringOf? .ia5String)) fields
  let (number, fields) ← Certificate.optionalField (.context 1)
    (Certificate.wrappedIn? Certificate.integerOf?) fields
  let (time, fields) ← Certificate.optionalField (.context 2)
    (Certificate.wrappedIn? momentOf?) fields
  if fields = [] then
    let locationLine := location.map fun text =>
      Shown.full (line indent ("crlUrl: " ++ printable text))
    let numberLine := number.map fun number =>
      Shown.full (line indent ("crlNum: " ++ integerDigits number))
    let timeLine := time.map fun time =>
      (momentShown (blanks indent ++ "crlTime: ") time).append (Shown.full "\n")
    return Shown.join (locationLine.toList ++ numberLine.toList ++ timeLine.toList)
  else
    none

/-- A way to get at information on a line: the method, and where. -/
def serviceLine? (indent : Nat) (element : Element) : Option String := do
  match ← Certificate.sequence? element with
  | [method, location] =>
    return "\n" ++ blanks indent ++ ObjectName.fullName (← Certificate.objectOf? method) ++ " - " ++
      (← GeneralName.ofElement? location).lineText
  | _ => none

/-- Who else can be asked: an issuer, and where it answers. Nothing can be shown after an issuer
without a name. -/
def services? : ValueReader := fun indent value => do
  let fields ← Certificate.sequence? value
  let (issuer, services) ← match fields with
    | [issuer] => some (issuer, [])
    | [issuer, services] => do some (issuer, ← Certificate.series? .sequence services)
    | _ => none
  let name ← Certificate.nameOf? issuer
  let lines ← services.mapM (serviceLine? (2 * indent))
  return Shown.join
    [⟨blanks indent ++ "Issuer: " ++ NameAttribute.quotedText name, name ≠ []⟩,
      Shown.full (String.join lines)]

/-- A number that is used once, byte by byte. An empty one is shown as zero. -/
def onceText (indent : Nat) (bytes : Bytes) : Shown :=
  Shown.oneLine indent (if bytes = [] then "0" else upperDigits bytes)

end OwnerKeys.Extension
