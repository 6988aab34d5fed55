import OwnerKeys.Certificate.ExtensionText.Outline

/-!
# Extensions that are lists of attributes

Further attributes of a holder, each with a type and any number of values. A value is shown in the
way that its tag asks for, or as a name if that is what the type stands for.
-/

namespace OwnerKeys.Extension

open Asn1 Layout

/-- The arcs of the types whose values are names. -/
def namedTypes : List (List Nat) :=
  [[2, 5, 4, 31], [2, 5, 4, 32], [2, 5, 4, 33], [2, 5, 4, 34],
    [0, 9, 2342, 19200300, 100, 1, 10], [0, 9, 2342, 19200300, 100, 1, 14],
    [0, 9, 2342, 19200300, 100, 1, 21], [0, 9, 2342, 19200300, 100, 1, 38],
    [0, 9, 2342, 19200300, 100, 1, 54]]

/-- The numbers of the tags of values that are shown as texts. -/
def shownTexts : List Nat := [7, 12, 18, 19, 20, 22, 23, 24, 25, 26, 27]

/-- The name of a value. -/
def nameIn? (value : Element) : Option (List NameAttribute) := do
  let bytes ← Certificate.attributeBytes? value
  let (element, _) ← element? bytes
  Certificate.nameOf? element

/-- An object by its arcs and its name. -/
def objectText (object : Bytes) : String :=
  ObjectName.cut ObjectName.narrowRoom (ObjectName.dotted object) ++ " (" ++
    ObjectName.knownName object ++ ")"

/-- An enumerated value: in decimal if it has 64 bits, else byte by byte. -/
def enumeratedText (number : Int) : String :=
  if isShort number then toString number else upperHex (integerBytes number)

/-- A value in the form for its tag, on one line. -/
def valueLine (value : Element) : String :=
  let content := value.string?.getD []
  if value.tag.cls ≠ .universal then "<Unsupported tag -3>"
  else if value.tag.number ∈ shownTexts then endedText content
  else if value.tag = .boolean then (if content = [0] then "FALSE" else "TRUE")
  else if value.tag = .integer then
    upperHex (((integer? content).map integerBytes).getD [])
  else if value.tag = .enumerated then ((integer? content).map enumeratedText).getD ""
  else if value.tag = .bitString then upperHex (((bitString? content).map (·.bytes)).getD [])
  else if value.tag = .octetString ∨ value.tag = .universal 21 then upperHex content
  else if value.tag = .null then "NULL"
  else if value.tag = .object then objectText content
  else if value.tag = .universal 9 then "REAL"
  else s!"<Unsupported tag {value.tag.number}>"

/-- A value of an attribute as it is shown. -/
def attributeValue (indent : Nat) (object : Bytes) (value : Element) : Shown :=
  if (objectArcs? object).any (namedTypes.contains ·) then
    match nameIn? value with
    | some name => Shown.oneLine indent (NameAttribute.plainText name ++ "\n")
    | none => Shown.broken "(COULD NOT DECODE DISTINGUISHED NAME)\n"
  else if value.tag = .sequence ∨ value.tag = .set then
    (outline value).append (Shown.full "\n")
  else
    Shown.oneLine indent (valueLine value ++ "\n")

/-- An attribute as it is shown. -/
def attribute? (indent : Nat) (element : Element) : Option Shown := do
  match ← Certificate.sequence? element with
  | [kind, values] =>
    let object ← Certificate.objectOf? kind
    let values ← Certificate.series? .set values
    let label := line indent (ObjectName.fullName object ++ ":")
    if values.all isAnyValue then
      return if values = [] then Shown.full (label ++ line (indent + 4) "<No Values>")
        else Shown.join (Shown.full label :: values.map (attributeValue (indent + 4) object))
    else
      none
  | _ => none

/-- Further attributes. -/
def attributes? : ValueReader := fun indent value => do
  let attributes ← (← Certificate.series? .sequence value).mapM (attribute? indent)
  return if attributes = [] then Shown.full "<Empty Attributes>\n" else Shown.join attributes

end OwnerKeys.Extension
