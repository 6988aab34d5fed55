import OwnerKeys.Certificate
import OwnerKeys.Certificate.Layout
import OwnerKeys.Certificate.ObjectName

/-!
# Names of holders

A name is a series of sets of attributes. It has two spellings: in the plain one a slash stands
before every attribute, and a plus sign before one that belongs to the set of the attribute before
it; in the other one attributes are separated by commas. The second is made from the first, and
takes whatever looks like the start of an attribute for one: a slash before one or two upper-case
letters and an equals sign.
-/

namespace OwnerKeys.NameAttribute

/-- A byte of a value: a backslash stands before a separator, and an escape for what cannot be
shown. -/
def escapedByte (byte : UInt8) : List Char :=
  if byte = 0x2f ∨ byte = 0x2b then ['\\', Char.ofNat byte.toNat]
  else if 32 ≤ byte ∧ byte ≤ 126 then [Char.ofNat byte.toNat]
  else '\\' :: 'x' :: (Hex.ofByte byte).map Char.toUpper

/-- An attribute after a separator. -/
def piece (separator : Char) (part : NameAttribute) : List Char :=
  separator :: (ObjectName.typeName part.object).toList ++
    '=' :: part.value.flatMap escapedByte

/-- The attributes of a name with their separators. The position is that of the set before. -/
def pieces (before : Option Nat) : List NameAttribute → List (List Char)
  | [] => []
  | part :: rest =>
    piece (if before = some part.group then '+' else '/') part :: pieces (some part.group) rest

/-- The pieces before the first one that does not fit into a room. -/
def fitting (room : Nat) : List (List Char) → List (List Char)
  | [] => []
  | piece :: rest =>
    if piece.length ≤ room then piece :: fitting (room - piece.length) rest else []

/-- A name with a slash before every attribute, as far as whole attributes fit into a room. -/
def slashed (room : Nat) (name : List NameAttribute) : String :=
  String.ofList (fitting room (pieces none name)).flatten

/-- Whether a text looks like the start of an attribute. -/
def startsAttribute : List Char → Bool
  | first :: '=' :: _ => first.isUpper
  | first :: second :: '=' :: _ => first.isUpper && second.isUpper
  | _ => false

/-- A text with a comma and a blank for every slash before what looks like an attribute. -/
def commas : List Char → List Char
  | [] => []
  | char :: rest =>
    if char = '/' ∧ startsAttribute rest = true then ',' :: ' ' :: commas rest
    else char :: commas rest

/-- A name with commas between its attributes. -/
def commaText (name : List NameAttribute) : String :=
  String.ofList (commas ((pieces none name).flatten.drop 1))

end OwnerKeys.NameAttribute
