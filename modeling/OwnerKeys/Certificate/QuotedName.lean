import OwnerKeys.Certificate
import OwnerKeys.Certificate.Layout
import OwnerKeys.Certificate.ObjectName

/-!
# Names with quoted values

A name inside an extension is spelled with blanks around its equals signs, commas between sets and
plus signs inside them. A value that holds a separator, or starts or ends in a way that a reader
could miss, stands in quotes. A value that is no text is shown by its encoding.
-/

namespace OwnerKeys.NameAttribute

open Asn1

/-- The bytes of a character in UTF-8. -/
def utf8Bytes (code : Nat) : Bytes :=
  Bytes.ofString (Char.ofNat code).toString

/-- Whether a value with a given tag is a text with one byte for every character. -/
def isNarrow (tag : Tag) : Bool :=
  tag.cls = .universal && tag.number ∈ [18, 19, 20, 22]

/-- The text of a value in UTF-8, if its tag says that it is a text. -/
def utf8Text? (part : NameAttribute) : Option Bytes :=
  if part.tag = .utf8String then some part.value
  else if isNarrow part.tag then some (part.value.flatMap fun byte => utf8Bytes byte.toNat)
  else if part.tag = .bmpString then
    some ((Layout.rows 2 part.value).flatMap fun unit => utf8Bytes (natOfBytes unit))
  else if part.tag = .universalString then
    some ((Layout.rows 4 part.value).flatMap fun unit => utf8Bytes (natOfBytes unit))
  else none

/-- The separators that make quotes necessary: a plus sign, a comma, a semicolon and the angle
brackets. -/
def separators : Bytes := [0x2b, 0x2c, 0x3b, 0x3c, 0x3e]

/-- Whether the text of a value has to stand in quotes: a separator in it, a blank at one of its
ends or a number sign before other characters would be misread. -/
def needsQuotes (text : Bytes) : Bool :=
  text.any (separators.contains ·) || text.head? == some 0x20 || text.getLast? == some 0x20 ||
    (text.head? == some 0x23 && 1 < text.length)

/-- A byte of the text of a value between quotes. -/
def quotedByte (byte : UInt8) : List Char :=
  if byte = 0x22 ∨ byte = 0x5c then ['\\', Char.ofNat byte.toNat]
  else if 32 ≤ byte ∧ byte ≤ 126 then [Char.ofNat byte.toNat]
  else '\\' :: (Hex.ofByte byte).map Char.toUpper

/-- The encoding of a value that is no text. -/
def encoding (part : NameAttribute) : Bytes :=
  if part.tag = .sequence then part.value
  else
    let content := if part.tag = .bitString then UInt8.ofNat part.unused :: part.value
      else part.value
    UInt8.ofNat part.tag.number :: lengthBytes content.length ++ content

/-- A value, in quotes if need be. -/
def quotedValue (part : NameAttribute) : String :=
  match utf8Text? part with
  | some text =>
    let shown := String.ofList (text.flatMap quotedByte)
    if needsQuotes text then "\"" ++ shown ++ "\"" else shown
  | none => "#" ++ (Hex.text part.encoding).map Char.toUpper

/-- The attributes of a name with separators, and with values that follow their types in a given
form. The position is that of the set before. -/
def separated (valueText : NameAttribute → String) (before : Option Nat) :
    List NameAttribute → String
  | [] => ""
  | part :: rest =>
    let separator := match before with
      | none => ""
      | some group => if group = part.group then " + " else ", "
    separator ++ ObjectName.typeName part.object ++ valueText part ++
      separated valueText (some part.group) rest

/-- A name with quoted values. -/
def quotedText (name : List NameAttribute) : String :=
  separated (" = " ++ quotedValue ·) none name

/-- The codes of the characters of a value. One that is no text has a character for every byte. -/
def characterCodes (part : NameAttribute) : List Nat :=
  if part.tag = .utf8String then (Layout.characters part.value).map Char.toNat
  else if part.tag = .bmpString then (Layout.rows 2 part.value).map natOfBytes
  else if part.tag = .universalString then (Layout.rows 4 part.value).map natOfBytes
  else part.value.map UInt8.toNat

/-- A number in upper-case digits to base 16, with zeros in front up to a width. -/
def wideDigits (width number : Nat) : String :=
  let digits := (Layout.hexDigits number).map Char.toUpper
  String.ofList (List.replicate (width - digits.length) '0') ++ digits

/-- A character as bytes: one byte if that is enough, else an escape. -/
def narrowBytes (code : Nat) : Bytes :=
  if code < 256 then [UInt8.ofNat code]
  else if code < 65536 then Bytes.ofString ("\\U" ++ wideDigits 4 code)
  else Bytes.ofString ("\\W" ++ wideDigits 8 code)

/-- A name with values as they are, where wide characters are escaped. -/
def plainText (name : List NameAttribute) : String :=
  separated (fun part => "=" ++ Layout.lossyText (part.characterCodes.flatMap narrowBytes)) none
    name

end OwnerKeys.NameAttribute
