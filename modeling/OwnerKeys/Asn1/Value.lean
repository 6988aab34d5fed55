import OwnerKeys.Asn1

/-!
# Values of elements

How the contents of elements are understood: integers, strings of bits and bytes, object
identifiers, texts. A string may be cut into pieces; its content is then a series of elements whose
contents are put together, up to a small depth.
-/

namespace OwnerKeys.Asn1

/-- The depth to which the pieces of a string may themselves be cut into pieces. -/
def maxPieceDepth : Nat := 5

/-- The contents of the pieces of a string, put together. The tags of the pieces do not matter. -/
def joinPieces (depth : Nat) (content : Bytes) : Option Bytes := do
  let pieces ← elements? content
  let parts ← pieces.mapM fun piece =>
    if piece.constructed then
      match depth with
      | 0 => none
      | less + 1 => joinPieces less piece.content
    else
      some piece.content
  return parts.flatten

namespace Element

/-- The content of a string, with its pieces put together. -/
def string? (element : Element) : Option Bytes :=
  if element.constructed then joinPieces maxPieceDepth element.content else some element.content

/-- The content of an element that may not be cut into pieces. -/
def primitive? (element : Element) : Option Bytes :=
  if element.constructed then none else some element.content

/-- The elements in an element that is a series of elements. -/
def children? (element : Element) : Option (List Element) :=
  if element.constructed then elements? element.content else none

end Element

/-- The integer with a given content, in two's complement. The content may not be longer than it
needs to be. -/
def integer? (content : Bytes) : Option Int :=
  match content with
  | [] => none
  | first :: rest =>
    let negative := 128 ≤ first
    let padded := match rest with
      | [] => false
      | second :: _ => decide (first = 0 ∧ second < 128 ∨ first = 255 ∧ 128 ≤ second)
    if padded then none
    else
      let value := natOfBytes content
      some (if negative then (value : Int) - Nat.pow 256 content.length else value)

/-- A string of bits. -/
structure BitString where
  /-- The bytes, with zeros in the unused bits. -/
  bytes : Bytes
  /-- The number of bits of the last byte that do not count. -/
  unused : Nat
deriving DecidableEq, Repr

/-- The string of bits with a given content. -/
def bitString? (content : Bytes) : Option BitString :=
  match content with
  | [] => none
  | unused :: bytes =>
    if 7 < unused then none
    else
      let mask := (0xff : UInt8) <<< unused
      let cleared := match bytes.getLast? with
        | none => []
        | some last => bytes.dropLast ++ [last &&& mask]
      some ⟨cleared, unused.toNat⟩

/-- The parts of an object identifier, from its content. The content is a series of numbers in
groups of seven bits, none of which starts with a group of zeros. -/
def objectParts? (content : Bytes) : Option (List Nat) :=
  let rec parts (value : Nat) (fresh : Bool) : Bytes → Option (List Nat)
    | [] => if fresh then some [] else none
    | byte :: rest =>
      if fresh ∧ byte = 0x80 then none
      else
        let grown := value * 128 + byte.toNat % 128
        if byte < 128 then (parts 0 true rest).map (grown :: ·) else parts grown false rest
  if content = [] then none else parts 0 true content

/-- The arcs of an object identifier. Its first part stands for two arcs. -/
def objectArcs? (content : Bytes) : Option (List Nat) :=
  match objectParts? content with
  | some (first :: rest) =>
    let top := min (first / 40) 2
    some (top :: (first - 40 * top) :: rest)
  | _ => none

/-- The greatest number of bytes of an object identifier that has a text. -/
def maxObjectSize : Nat := 586

/-- The text of an object identifier by its arcs. -/
def arcsText (arcs : List Nat) : String :=
  ".".intercalate (arcs.map toString)

/-- Whether a number is the code of a character. -/
def isCharacterCode (code : Nat) : Bool :=
  code < 0xd800 || 0xdfff < code && code ≤ 0x10ffff

/-- Whether bytes are characters in units of a given number of bytes, most significant first. -/
def areCharacters (size : Nat) (bytes : Bytes) : Bool :=
  if 0 < size ∧ size ≤ bytes.length then
    isCharacterCode (natOfBytes (bytes.take size)) && areCharacters size (bytes.drop size)
  else
    bytes.isEmpty
termination_by bytes.length
decreasing_by simp only [List.length_drop]; omega

/-- Whether the content of a string has a form that its tag allows. -/
def hasFormOf (tag : Tag) (content : Bytes) : Bool :=
  if tag = .bmpString then content.length % 2 == 0
  else if tag = .universalString then content.length % 4 == 0
  else if tag = .utcTime then 13 ≤ content.length
  else if tag = .generalizedTime then 15 ≤ content.length
  else true

/-- The bytes of a number, least significant first, without zeros behind. -/
def smallEndBytes (number : Nat) : Bytes :=
  if number = 0 then [] else UInt8.ofNat (number % 256) :: smallEndBytes (number / 256)
termination_by number
decreasing_by omega

/-- The shortest bytes of a length. -/
def lengthBytes (length : Nat) : Bytes :=
  if length < 128 then [UInt8.ofNat length]
  else
    let digits := (smallEndBytes length).reverse
    UInt8.ofNat (128 + digits.length) :: digits

/-- Whether an element is a value that may stand where any value may stand. -/
def isAnyValue (element : Element) : Bool :=
  if element.tag.cls ≠ .universal then true
  else if element.tag = .sequence ∨ element.tag = .set then element.constructed
  else if element.tag = .null then element.primitive? == some []
  else if element.tag = .boolean then (element.primitive?.map List.length) == some 1
  else if element.tag = .object then (element.primitive?.bind objectParts?).isSome
  else if element.tag = .integer ∨ element.tag = .enumerated then
    (element.primitive?.bind integer?).isSome
  else
    match element.string? with
    | none => false
    | some content =>
      if element.tag = .bitString then (bitString? content).isSome
      else hasFormOf element.tag content

end OwnerKeys.Asn1
