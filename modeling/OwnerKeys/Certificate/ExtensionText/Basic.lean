import OwnerKeys.Certificate.GeneralName
import OwnerKeys.Certificate.Moment

/-!
# What is shown for extensions

The value of an extension of a known type is read and shown under the name of the type. This file
gives the form of what is shown, and the pieces that the types share.
-/

namespace OwnerKeys

open Asn1

/-- What is shown for a value. -/
structure Shown where
  /-- The text, with its indents and without the end of the last line. -/
  text : String
  /-- Whether all of the value could be shown. -/
  whole : Bool
deriving DecidableEq, Repr

namespace Shown

open Layout

/-- A text that shows all of a value. -/
def full (text : String) : Shown := ⟨text, true⟩

/-- A line. -/
def oneLine (indent : Nat) (text : String) : Shown :=
  full (blanks indent ++ text)

/-- What is shown for no items at all. -/
def noItems (indent : Nat) : Shown :=
  oneLine indent "<EMPTY>\n"

/-- Items on one line, with commas between them. -/
def items (indent : Nat) (texts : List String) : Shown :=
  if texts = [] then noItems indent else oneLine indent (", ".intercalate texts)

/-- Items on lines of their own. -/
def column (indent : Nat) (texts : List String) : Shown :=
  if texts = [] then noItems indent
  else full ("\n".intercalate (texts.map (blanks indent ++ ·)))

/-- Items on one line, if there are any. -/
def someItems? (indent : Nat) (texts : List String) : Option Shown :=
  if texts = [] then none else some (items indent texts)

/-- What is shown if nothing more can be shown. -/
def broken (text : String) : Shown := ⟨text, false⟩

/-- Two parts of a value, one after the other. Nothing follows a part that is not whole. -/
def append (first second : Shown) : Shown :=
  if first.whole then ⟨first.text ++ second.text, second.whole⟩ else first

/-- The parts of a value. -/
def join (parts : List Shown) : Shown :=
  parts.foldr append (full "")

end Shown

/-- How the value of an extension is read and shown with an indent. -/
abbrev ValueReader := Nat → Element → Option Shown

namespace Extension

/-- The integer in an element whose tag is already known. -/
def integerIn? (element : Element) : Option Int := do
  integer? (← element.primitive?)

/-- The truth value in an element whose tag is already known. -/
def booleanIn? (element : Element) : Option Bool := do
  match ← element.primitive? with
  | [byte] => return byte != 0
  | _ => none

/-- The string of bits in an element whose tag is already known. -/
def bitsIn? (element : Element) : Option BitString := do
  bitString? (← element.string?)

/-- The moment in an element whose tag is already known. -/
def momentIn? (element : Element) : Option TimeText := do
  let text ← element.string?
  if hasFormOf .generalizedTime text then some ⟨.generalizedTime, text⟩ else none

/-- The text in an element with a given tag. -/
def stringOf? (tag : Tag) (element : Element) : Option Bytes := do
  (← Certificate.withTag? tag element).string?

/-- The generalized time in an element. -/
def momentOf? (element : Element) : Option TimeText := do
  momentIn? (← Certificate.withTag? .generalizedTime element)

/-- The empty value in an element. -/
def nullOf? (element : Element) : Option Unit := do
  let content ← (← Certificate.withTag? .null element).primitive?
  if content = [] then some () else none

/-- An integer as it is shown: in decimal if it has less than 128 bits, else to base 16. -/
def integerText (value : Int) : String :=
  let size := value.natAbs
  let sign := if value < 0 then "-" else ""
  if size < 0x80000000000000000000000000000000 then sign ++ toString size
  else
    sign ++ "0x" ++ String.ofList ((Hex.ofBytes (Layout.magnitude size)).map Char.toUpper)

/-- Whether the bit at a position is set. The first bit of a byte is its highest. -/
def bitAt (bits : BitString) (position : Nat) : Bool :=
  match bits.bytes[position / 8]? with
  | some byte => byte.toNat.testBit (7 - position % 8)
  | none => false

/-- The names of the bits that are set, where each name belongs to a position. -/
def bitNames (names : List String) (bits : BitString) : List String :=
  (names.zipIdx.filter fun (_, position) => bitAt bits position).map (·.1)

end Extension

end OwnerKeys
