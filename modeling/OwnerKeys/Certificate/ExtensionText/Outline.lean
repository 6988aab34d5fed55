import OwnerKeys.Certificate.ExtensionText.Basic

/-!
# The outline of encoded elements

A value whose meaning is not known can still be shown by its elements: one line for each, with its
position, its depth, the sizes of its header and its content, and its tag. What an element says
follows on the same line if it is a text, a number or an object; of other contents the first byte is
shown.
-/

namespace OwnerKeys.Extension

open Asn1 Layout

/-- A text on the right of a column. -/
def onRight (width : Nat) (text : String) : String :=
  blanks (width - text.length) ++ text

/-- A text on the left of a column. -/
def onLeft (width : Nat) (text : String) : String :=
  text ++ blanks (width - text.length)

/-- The names of the tags of ASN.1 itself, by their numbers. -/
def tagNames : List (Nat × String) :=
  [(0, "EOC"), (1, "BOOLEAN"), (2, "INTEGER"), (3, "BIT STRING"), (4, "OCTET STRING"),
    (5, "NULL"), (6, "OBJECT"), (7, "OBJECT DESCRIPTOR"), (8, "EXTERNAL"), (9, "REAL"),
    (10, "ENUMERATED"), (12, "UTF8STRING"), (16, "SEQUENCE"), (17, "SET"), (18, "NUMERICSTRING"),
    (19, "PRINTABLESTRING"), (20, "T61STRING"), (21, "VIDEOTEXSTRING"), (22, "IA5STRING"),
    (23, "UTCTIME"), (24, "GENERALIZEDTIME"), (25, "GRAPHICSTRING"), (26, "VISIBLESTRING"),
    (27, "GENERALSTRING"), (28, "UNIVERSALSTRING"), (30, "BMPSTRING")]

/-- The name of a tag. -/
def tagText (tag : Tag) : String :=
  match tag.cls with
  | .universal => (tagNames.lookup tag.number).getD s!"<ASN1 {tag.number}>"
  | .application => s!"appl [ {tag.number} ]"
  | .context => s!"cont [ {tag.number} ]"
  | .personal => s!"priv [ {tag.number} ] "

/-- What is shown for the header of an element. -/
def headerText (depth offset size : Nat) (header : Header) : String :=
  onRight 5 (toString offset) ++ ":d=" ++ onLeft 2 (toString depth) ++ s!" hl={size} l=" ++
    (match header.length with
      | some length => onRight 4 (toString length)
      | none => "inf ") ++
    (if header.constructed then " cons: " else " prim: ") ++ blanks depth ++
    onLeft 18 (tagText header.tag)

/-- The numbers of the tags of texts that are shown. -/
def outlinedTexts : List Nat := [12, 18, 19, 20, 22, 23, 24, 26]

/-- What is shown for a content that is not of the form that its tag asks for. -/
def badText (kind : String) (content : Bytes) : String :=
  ":BAD " ++ kind ++ ":[" ++ (Hex.text content).map Char.toUpper ++ "]\n"

/-- The first byte of a content as a row of a table. -/
def firstByteText (content : Bytes) : String :=
  "\n" ++ if content = [] then "" else blanks 6 ++ tableRow 0 (content.take 1)

/-- Whether a byte can be part of a text. -/
def isTextByte (byte : UInt8) : Bool :=
  32 ≤ byte && byte ≤ 126 || byte == 9 || byte == 10 || byte == 13

/-- What is shown for an integer. -/
def outlinedInteger (kind : String) (content : Bytes) : String :=
  match integer? content with
  | some number =>
    ":" ++ (if number < 0 then "-" else "") ++
      (Hex.text (integerBytes number)).map Char.toUpper ++ "\n"
  | none => badText kind content

/-- What is shown for a content that is no series of elements, with the end of the line. -/
def contentText (tag : Tag) (content : Bytes) : String :=
  if tag.cls ≠ .universal ∨ tag = .bmpString then "\n"
  else if tag.number ∈ outlinedTexts then ":" ++ lossyText content ++ "\n"
  else if tag = .object then
    match objectParts? content with
    | some _ => ":" ++ ObjectName.fullName content ++ "\n"
    | none => badText "OBJECT" content
  else if tag = .boolean then
    match content with
    | [byte] => s!":{byte.toNat}\n"
    | [] => badText "BOOLEAN" []
    | byte :: _ =>
      s!":BAD BOOLEAN:{byte.toNat}:[" ++ (Hex.text content).map Char.toUpper ++ "]\n"
  else if tag = .integer then outlinedInteger "INTEGER" content
  else if tag = .enumerated then outlinedInteger "ENUMERATED" content
  else if tag = .octetString ∧ content ≠ [] ∧ content.all isTextByte then
    ":" ++ lossyText content ++ "\n"
  else firstByteText content

/-- The greatest depth of an outline. -/
def maxOutlineDepth : Nat := 128

/-- The outline of a series of elements, and the bytes after the series. An open series ends after a
pair of zeros. Each step takes at least one byte, so the number of bytes is enough as a bound for
the number of steps. -/
def outlineWithin : Nat → Bool → Nat → Nat → Bytes → Shown × Bytes
  | _, _, _, _, [] => (Shown.full "", [])
  | 0, _, _, _, bytes => (Shown.broken "", bytes)
  | bound + 1, isOpen, depth, offset, bytes =>
    if maxOutlineDepth < depth then (Shown.broken "BAD RECURSION DEPTH\n", bytes)
    else
      match header? bytes with
      | none => (Shown.broken "Error in encoding\n", bytes)
      | some (header, rest) =>
        let size := bytes.length - rest.length
        let length := header.length.getD rest.length
        let content := rest.take length
        let (inner, left) :=
          if header.constructed then
            outlineWithin bound header.length.isNone (depth + 1) (offset + size) content
          else
            (Shown.full (contentText header.tag content), [])
        let after := if header.length.isNone then left else rest.drop length
        let start := headerText depth offset size header ++ if header.constructed then "\n" else ""
        let element := (Shown.full start).append inner
        if isOpen ∧ header.tag = .universal 0 then
          (element, after)
        else
          let (later, left) := outlineWithin bound isOpen depth
            (offset + (bytes.length - after.length)) after
          (element.append later, left)

/-- The outline of an element. -/
def outline (element : Element) : Shown :=
  (outlineWithin element.encoding.length false 0 0 element.encoding).1

end OwnerKeys.Extension
