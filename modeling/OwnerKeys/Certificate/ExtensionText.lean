import OwnerKeys.Certificate.ExtensionText.Admission
import OwnerKeys.Certificate.ExtensionText.Attributes
import OwnerKeys.Certificate.ExtensionText.Names
import OwnerKeys.Certificate.ExtensionText.Policies
import OwnerKeys.Certificate.ExtensionText.Resources
import OwnerKeys.Certificate.ExtensionText.Revocation
import OwnerKeys.Certificate.ExtensionText.Transparency
import OwnerKeys.Certificate.ExtensionText.Usage

/-!
# The text of an extension

An extension is shown by the name of its type and by its value. How a value is read depends on the
type. A value of another type, or one that cannot be read, is shown byte by byte. If only a part of
a value can be shown, the whole value follows byte by byte.
-/

namespace OwnerKeys.Extension

open Asn1 Layout

/-- A name on a line of its own. -/
def nameLine? : ValueReader := fun indent value => do
  return Shown.oneLine indent ((← GeneralName.ofElement? value).lineText ++ "\n")

/-- How the values of the types below an arc are read, by their last arc. -/
def readersBelow (arcs : List Nat) (readers : List (Nat × ValueReader)) :
    List (List Nat × ValueReader) :=
  readers.map fun (arc, read) => (arcs ++ [arc], read)

/-- The types of the standard for certificates. -/
def standardReaders : List (List Nat × ValueReader) :=
  readersBelow [2, 5, 29]
    [(9, attributes?), (14, octets?), (15, bits? useNames), (16, usagePeriod?), (17, otherNames?),
      (18, otherNames?), (19, constraints? "CA"), (20, number?), (21, revocationReason?),
      (23, object?), (24, moment?), (27, number?), (28, coverage?), (29, otherNames?),
      (30, nameConstraints?), (31, revocationLists?), (32, policies?), (33, mappings?),
      (35, issuerKey?), (36, policyConstraints?), (37, objects?), (41, constraints? "authority"),
      (42, nameConstraints?), (46, revocationLists?), (49, notices?), (50, shownMark?),
      (52, objects?), (54, number?), (56, shownMark?), (57, objects?), (61, shownMark?),
      (62, shownMark?), (64, nameLine?), (65, shownMark?), (66, shownMark?),
      (69, nameConstraints?), (75, attributes?)]

/-- The types of the profile for the internet. -/
def internetReaders : List (List Nat × ValueReader) :=
  readersBelow [1, 3, 6, 1, 5, 5, 7, 1]
    [(1, accesses?), (4, octets?), (7, addresses?), (8, systems?), (11, accesses?), (14, proxy?),
      (24, features?)] ++
  readersBelow [1, 3, 6, 1, 5, 5, 7, 48, 1]
    [(3, listUsed?), (4, objects?), (5, silentMark?), (6, moment?), (7, services?)]

/-- The types of organizations. -/
def otherReaders : List (List Nat × ValueReader) :=
  readersBelow [2, 16, 840, 1, 113730, 1]
    ((1, bits? oldTypeNames) :: [2, 3, 4, 7, 8, 12, 13].map fun arc => (arc, text? .ia5String)) ++
  readersBelow [1, 3, 6, 1, 4, 1, 11129, 2, 4]
    [(2, logStampLines?), (3, shownMark?), (5, logStampLines?)] ++
  readersBelow [1, 2, 643, 100] [(111, text? .utf8String), (112, issuerTools?)] ++
  [([1, 3, 36, 8, 3, 3], admissionList?), ([1, 3, 101, 1, 4, 1], zones?)]

/-- How values are read, by the type of the extension. -/
def readers : List (List Nat × ValueReader) :=
  standardReaders ++ internetReaders ++ otherReaders

/-- The type whose value is a number that is used once, without a tag. -/
def onceArcs : List Nat := [1, 3, 6, 1, 5, 5, 7, 48, 1, 2]

/-- What is shown for the value of an extension of a known type. -/
def shown? (indent : Nat) (extension : Extension) : Option Shown := do
  let arcs ← objectArcs? extension.object
  if arcs = onceArcs then
    return onceText indent extension.value
  else
    let (_, read) ← readers.find? (·.1 == arcs)
    let (value, _) ← element? extension.value
    read indent value

/-- The value of an extension as it is shown. -/
def valueText (indent : Nat) (extension : Extension) : String :=
  let shown := (extension.shown? indent).getD (Shown.broken "")
  shown.text ++ if shown.whole then "" else blanks indent ++ printable extension.value

/-- An extension as it is shown. -/
def text (indent : Nat) (extension : Extension) : String :=
  line indent (ObjectName.fullName extension.object ++ ": " ++
    (if extension.critical then "critical" else "")) ++
    extension.valueText (indent + 4) ++ "\n"

end OwnerKeys.Extension
