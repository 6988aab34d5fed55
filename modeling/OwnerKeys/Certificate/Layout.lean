import OwnerKeys.Hex

/-!
# Layout of certificate texts

The pieces from which the text of a certificate is laid out: indents, dumps of bytes over several
lines, numbers, and strings in which whatever cannot be shown is replaced.
-/

namespace OwnerKeys.Layout

/-- A number of blanks. -/
def blanks (count : Nat) : String :=
  String.ofList (List.replicate count ' ')

/-- A line with an indent. -/
def line (indent : Nat) (text : String) : String :=
  blanks indent ++ text ++ "\n"

/-- The pieces of a given length in a list, where the last may be shorter. -/
def rows {Item : Type} (length : Nat) (items : List Item) : List (List Item) :=
  if 0 < length ∧ length < items.length then
    items.take length :: rows length (items.drop length)
  else if items.isEmpty then
    []
  else
    [items]
termination_by items.length
decreasing_by simp only [List.length_drop]; omega

/-- Bytes over several lines, with a colon after every byte but the last. -/
def dump (indent perLine : Nat) (bytes : Bytes) : String :=
  let lines := (rows perLine bytes).map fun row => blanks indent ++ Hex.colonText row
  ":\n".intercalate lines ++ "\n"

/-- The digits of a number to base 16. -/
def hexDigits (number : Nat) : String :=
  String.ofList (Nat.toDigits 16 number)

/-- The bytes of a number, most significant first, without zeros in front. -/
def magnitude (number : Nat) : Bytes :=
  let digits := Nat.toDigits 16 number
  let even := if digits.length % 2 = 0 then digits else '0' :: digits
  let rec pairs : List Char → Bytes
    | high :: low :: rest =>
      ((Hex.pair? (UInt8.ofNat high.toNat) (UInt8.ofNat low.toNat)).getD 0) :: pairs rest
    | _ => []
  pairs even

/-- The bytes of an integer without its sign. Zero has one byte. -/
def integerBytes (number : Int) : Bytes :=
  if number = 0 then [0] else magnitude number.natAbs

/-- Whether an integer fits in 64 bits with its sign. -/
def isShort (number : Int) : Bool :=
  -0x8000000000000000 ≤ number && number < 0x8000000000000000

/-- A number with a label. A number of more than eight bytes is dumped, with a zero byte in front if
its first bit is set. -/
def labeledNumber (indent : Nat) (label : String) (number : Int) : String :=
  let size := number.natAbs
  let sign := if number < 0 then "-" else ""
  if size = 0 then
    line indent (label ++ " 0")
  else if size < UInt64.size then
    line indent (label ++ " " ++ sign ++ toString size ++ " (" ++ sign ++ "0x" ++ hexDigits size ++
      ")")
  else
    let bytes := magnitude size
    let shown := if 128 ≤ bytes.headD 0 then 0 :: bytes else bytes
    line indent (label ++ if number < 0 then " (Negative)" else "") ++ dump (indent + 4) 15 shown

/-- Bytes with a label. -/
def labeledBytes (indent : Nat) (label : String) (bytes : Bytes) : String :=
  line indent label ++ dump (indent + 4) 15 bytes

/-- Bytes in upper-case digits with colons between them. -/
def upperHex (bytes : Bytes) : String :=
  (Hex.colonText bytes).map Char.toUpper

/-- Bytes as characters, where a dot stands for what cannot be shown. -/
def printable (bytes : Bytes) : String :=
  String.ofList (bytes.map fun byte =>
    if byte = 10 ∨ byte = 13 ∨ 32 ≤ byte ∧ byte ≤ 126 then Char.ofNat byte.toNat else '.')

/-- The number of bytes in a line of digits. A backslash says that the digits go on. -/
def digitsPerLine : Nat := 35

/-- Bytes in upper-case digits without separators, over several lines. -/
def upperDigits (bytes : Bytes) : String :=
  "\\\n".intercalate ((rows digitsPerLine bytes).map fun row => (Hex.text row).map Char.toUpper)

/-- An integer by its magnitude in upper-case digits. -/
def integerDigits (number : Int) : String :=
  (if number < 0 then "-" else "") ++ upperDigits (integerBytes number)

/-- One row of a table of bytes: its position, the bytes in digits, and the bytes as characters. -/
def tableRow (position : Nat) (row : Bytes) : String :=
  let digits := (row.zipIdx.map fun (byte, column) =>
    String.ofList (Hex.ofByte byte) ++ if column = 7 then "-" else " ")
  let shown := row.map fun byte =>
    if 32 ≤ byte ∧ byte ≤ 126 then Char.ofNat byte.toNat else '.'
  let label := hexDigits position
  String.ofList (List.replicate (4 - label.length) '0') ++ label ++ " - " ++
    String.join digits ++ blanks (3 * (16 - row.length) + 2) ++ String.ofList shown ++ "\n"

/-- Bytes as a table with sixteen bytes in a row. -/
def table (bytes : Bytes) : String :=
  String.join ((rows 16 bytes).zipIdx.map fun (row, number) => tableRow (16 * number) row)

/-- The character that stands for bytes that are none. -/
def replacement : Char := Char.ofNat 0xfffd

/-- The number of bytes of a character in UTF-8 by its first byte. -/
def characterSize (lead : UInt8) : Nat :=
  if 0xc2 ≤ lead ∧ lead ≤ 0xdf then 2
  else if 0xe0 ≤ lead ∧ lead ≤ 0xef then 3
  else if 0xf0 ≤ lead ∧ lead ≤ 0xf4 then 4
  else 1

/-- Whether a byte may follow the first byte of a character. Some first bytes leave less room, so
that every character has one spelling and none is a surrogate or too large. -/
def mayFollow (lead second : UInt8) : Bool :=
  let least : UInt8 := if lead = 0xe0 then 0xa0 else if lead = 0xf0 then 0x90 else 0x80
  let greatest : UInt8 := if lead = 0xed then 0x9f else if lead = 0xf4 then 0x8f else 0xbf
  least ≤ second && second ≤ greatest

/-- The bytes after a first byte with which they are the front of a character. -/
def continuation (lead : UInt8) : Bytes → Bytes
  | [] => []
  | second :: rest =>
    if mayFollow lead second then
      second :: rest.takeWhile fun byte => 0x80 ≤ byte ∧ byte ≤ 0xbf
    else
      []

/-- Bytes as characters in UTF-8, where a mark stands for bytes that are no character: a single
byte, or the front of a character that is cut off. -/
def characters (bytes : Bytes) : List Char :=
  match bytes with
  | [] => []
  | lead :: rest =>
    let after := continuation lead (rest.take (characterSize lead - 1))
    let front := match Bytes.toString? (lead :: after) with
      | some text => text.toList
      | none => [replacement]
    front ++ characters (rest.drop after.length)
termination_by bytes.length
decreasing_by simp only [List.length_drop, List.length_cons]; omega

/-- Bytes as text in UTF-8, where a mark stands for bytes that are no character. -/
def lossyText (bytes : Bytes) : String :=
  String.ofList (characters bytes)

/-- Bytes as text in UTF-8 up to the first zero byte. -/
def endedText (bytes : Bytes) : String :=
  lossyText (bytes.takeWhile (· != 0))

end OwnerKeys.Layout
