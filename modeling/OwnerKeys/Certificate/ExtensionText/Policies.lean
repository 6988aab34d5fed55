import OwnerKeys.Certificate.ExtensionText.Basic

/-!
# Extensions about policies

Under which policies a certificate was issued, what the operator of the issuer says about them, and
how policies of different domains correspond.
-/

namespace OwnerKeys.Extension

open Asn1 Layout

/-- The numbers of the tags that a text for readers may have. -/
def readableTags : List Nat := [12, 22, 26, 30]

/-- The text for readers in an element. -/
def readableOf? (element : Element) : Option Bytes :=
  if element.tag.cls = .universal ∧ element.tag.number ∈ readableTags ∧ isAnyValue element then
    element.string?
  else
    none

/-- A reference to a notice: an organization and numbers. -/
structure NoticeReference where
  /-- The organization. -/
  organization : Bytes
  /-- The numbers of the notices. -/
  numbers : List Int
deriving DecidableEq, Repr

/-- The reference in an element. -/
def noticeReference? (element : Element) : Option NoticeReference := do
  match ← Certificate.sequence? element with
  | [organization, numbers] =>
    return ⟨← readableOf? organization,
      ← (← Certificate.series? .sequence numbers).mapM Certificate.integerOf?⟩
  | _ => none

/-- A reference as it is shown. -/
def NoticeReference.lines (indent : Nat) (reference : NoticeReference) : List String :=
  [blanks indent ++ "Organization: " ++ endedText reference.organization,
    blanks indent ++ (if 1 < reference.numbers.length then "Numbers: " else "Number: ") ++
      ", ".intercalate (reference.numbers.map integerText)]

/-- A notice for readers as it is shown. Both its parts may be missing. -/
def notice? (indent : Nat) (element : Element) : Option String := do
  let fields ← Certificate.sequence? element
  let (reference, fields) ← Certificate.optionalField .sequence noticeReference? fields
  let text ← match fields with
    | [] => some none
    | [text] => (readableOf? text).map some
    | _ => none
  let textLine := text.map fun bytes => blanks indent ++ "Explicit Text: " ++ endedText bytes
  return "\n".intercalate ((reference.map (NoticeReference.lines indent)).getD [] ++
    textLine.toList)

/-- The arcs of the qualifier that says where the issuer's practices are described. -/
def practicesArcs : List Nat := [1, 3, 6, 1, 5, 5, 7, 2, 1]

/-- The arcs of the qualifier that is a notice for readers. -/
def noticeArcs : List Nat := [1, 3, 6, 1, 5, 5, 7, 2, 2]

/-- A qualifier of a policy as it is shown. -/
def qualifier? (indent : Nat) (element : Element) : Option String := do
  match ← Certificate.sequence? element with
  | [kind, value] =>
    let object ← Certificate.objectOf? kind
    let arcs := objectArcs? object
    if arcs = some practicesArcs then
      return blanks indent ++ "CPS: " ++ endedText (← stringOf? .ia5String value)
    else if arcs = some noticeArcs then
      return line indent "User Notice:" ++ (← notice? (indent + 2) value)
    else if isAnyValue value then
      return blanks (indent + 2) ++ "Unknown Qualifier: " ++ ObjectName.fullName object
    else
      none
  | _ => none

/-- A policy as it is shown, with its qualifiers. -/
def policy? (indent : Nat) (element : Element) : Option String := do
  let show? (object : Element) : Option String := do
    return blanks indent ++ "Policy: " ++ ObjectName.fullName (← Certificate.objectOf? object)
  match ← Certificate.sequence? element with
  | [object] => show? object
  | [object, qualifiers] =>
    let texts ← (← Certificate.series? .sequence qualifiers).mapM (qualifier? (indent + 2))
    return (← show? object) ++ "\n" ++ "\n".intercalate texts
  | _ => none

/-- The policies under which a certificate was issued. -/
def policies? : ValueReader := fun indent value => do
  let texts ← (← Certificate.series? .sequence value).mapM (policy? indent)
  return Shown.full ("\n".intercalate texts)

/-- Two policies that correspond. -/
def mapping? (element : Element) : Option String := do
  match ← Certificate.sequence? element with
  | [issuer, subject] =>
    return ObjectName.narrowName (← Certificate.objectOf? issuer) ++ ":" ++
      ObjectName.narrowName (← Certificate.objectOf? subject)
  | _ => none

/-- Policies of the issuer's domain that correspond to some of the holder's domain. -/
def mappings? : ValueReader := fun indent value => do
  Shown.someItems? indent (← (← Certificate.series? .sequence value).mapM mapping?)

/-- How long a chain may go on without a policy. -/
def policyConstraints? : ValueReader := fun indent value => do
  let fields ← Certificate.sequence? value
  let (explicit, fields) ← Certificate.optionalField (.context 0) integerIn? fields
  let (inhibit, fields) ← Certificate.optionalField (.context 1) integerIn? fields
  if fields = [] then
    Shown.someItems? indent
      ((explicit.map fun count => "Require Explicit Policy:" ++ integerText count).toList ++
        (inhibit.map fun count => "Inhibit Policy Mapping:" ++ integerText count).toList)
  else
    none

/-- Notices for readers, each followed by an empty line. -/
def notices? : ValueReader := fun indent value => do
  let texts ← (← Certificate.series? .sequence value).mapM (notice? (indent + 4))
  return Shown.full (line indent "User Notices:" ++ String.join (texts.map (· ++ "\n\n")))

/-- What a certificate that stands for its holder may be used for. -/
def proxy? : ValueReader := fun indent value => do
  let fields ← Certificate.sequence? value
  let (length, fields) ← Certificate.optionalField .integer integerIn? fields
  match fields with
  | [policy] =>
    match ← Certificate.sequence? policy with
    | language :: texts =>
      let object ← Certificate.objectOf? language
      let (text, rest) ← Certificate.optionalField .octetString Element.string? texts
      if rest = [] then
        return Shown.full (line indent ("Path Length Constraint: " ++
            (length.map integerDigits).getD "infinite") ++
          blanks indent ++ "Policy Language: " ++ ObjectName.fullName object ++
          (text.map fun bytes =>
            "\n" ++ blanks indent ++ "Policy Text: " ++ endedText bytes).getD "")
      else
        none
    | [] => none
  | _ => none

end OwnerKeys.Extension
