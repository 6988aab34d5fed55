import OwnerKeys.Guid
import OwnerKeys.Hex

/-!
# The text of a GUID

A GUID is written as 32 lower-case hexadecimal digits in groups of 8, 4, 4, 4 and 12, with dashes
between the groups. Reading takes digits of either case, and the text may stand in braces. The
rules of reading are tried in a fixed order: the length in bytes, the braces, the dashes, the
digits; the first rule that is broken names the error.
-/

namespace OwnerKeys.Guid

/-- The rule that a text breaks when it is no GUID. -/
inductive TextError where
  /-- The text is neither 36 nor 38 bytes long. -/
  | length
  /-- A brace or a dash is missing. -/
  | format
  /-- A place for a hexadecimal digit holds something else. -/
  | digit
deriving DecidableEq, Repr

namespace TextError

/-- The wording for a text that was given at run time. -/
def message : TextError → String
  | length => "invalid GUID length"
  | format => "invalid GUID format"
  | digit => "invalid GUID digit"

/-- The wording for a constant of the program. -/
def constantMessage : TextError → String
  | length => "Invalid GUID length."
  | format => "Invalid GUID format."
  | digit => "Invalid GUID digit."

end TextError

/-- The places of the dashes in a text without braces. -/
def dashPlaces : List Nat := [8, 13, 18, 23]

/-- The places of the first digit of every byte in a text without braces. -/
def pairPlaces : List Nat := [0, 2, 4, 6, 9, 11, 14, 16, 19, 21, 24, 26, 28, 30, 32, 34]

/-- The text without its braces, for a text of an acceptable length. -/
def undecorate (text : Bytes) : Except TextError Bytes :=
  if text.length = 36 then
    .ok text
  else if text.length = 38 then
    if text.head? = some 0x7b ∧ text.getLast? = some 0x7d then
      .ok (text.tail.take 36)
    else
      .error .format
  else
    .error .length

/-- The byte that is spelled at a place of a text. -/
def pairAt? (text : Bytes) (place : Nat) : Option UInt8 := do
  Hex.pair? (← text[place]?) (← text[place + 1]?)

/-- The GUID that a byte string spells. -/
def ofText (text : Bytes) : Except TextError Guid := do
  let plain ← undecorate text
  if dashPlaces.all fun place => plain[place]? == some 0x2d then
    match (pairPlaces.mapM (pairAt? plain)).bind ofDigits? with
    | some guid => .ok guid
    | none => .error .digit
  else
    .error .format

/-- The GUID that a text spells. -/
def parse (text : String) : Except TextError Guid :=
  ofText (Bytes.ofString text)

/-- The GUID of a constant of the program. A constant that is no GUID ends the program with a
message. -/
def ofConstant (text : String) : Except String Guid :=
  match ofText (Bytes.ofString text) with
  | .ok guid => .ok guid
  | .error error => .error error.constantMessage

/-- The characters of the text of a GUID. -/
def textChars (guid : Guid) : List Char :=
  let bytes := guid.digits
  Hex.ofBytes (bytes.take 4) ++ '-' :: Hex.ofBytes ((bytes.drop 4).take 2) ++
    '-' :: Hex.ofBytes ((bytes.drop 6).take 2) ++ '-' :: Hex.ofBytes ((bytes.drop 8).take 2) ++
    '-' :: Hex.ofBytes (bytes.drop 10)

/-- The text of a GUID. -/
def text (guid : Guid) : String :=
  String.ofList guid.textChars

instance : ToString Guid := ⟨text⟩

@[simp]
theorem length_textChars (guid : Guid) : guid.textChars.length = 36 := by
  simp [textChars]

end OwnerKeys.Guid
