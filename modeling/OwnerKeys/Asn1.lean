import OwnerKeys.Bytes

/-!
# Encoded elements

Certificates are written in the basic encoding rules of ASN.1. An element is a tag, a length and a
content. The tag has a class, a number and a mark that says whether the content is itself a series
of elements. The length counts the bytes of the content, or is left open; then the content ends
before a pair of zero bytes that closes it.

Reading is lenient: tags and lengths may be longer than they need to be, and open lengths are
allowed. What has to fit are the bytes: a content may not reach beyond its surroundings.
-/

namespace OwnerKeys.Asn1

/-- The classes of tags. -/
inductive TagClass where
  /-- The tags of ASN.1 itself. -/
  | universal
  /-- Tags of an application. -/
  | application
  /-- Tags that have a meaning inside their surroundings only. -/
  | context
  /-- Tags of an organization. -/
  | personal
deriving DecidableEq, Repr

/-- The class in the upper two bits of a byte. -/
def TagClass.ofByte (byte : UInt8) : TagClass :=
  match byte.toNat / 64 with
  | 0 => universal
  | 1 => application
  | 2 => context
  | _ => personal

/-- The tag of an element. -/
structure Tag where
  /-- The class. -/
  cls : TagClass
  /-- The number inside the class. -/
  number : Nat
deriving DecidableEq, Repr

/-- What stands before the content of an element. -/
structure Header where
  /-- The tag. -/
  tag : Tag
  /-- Whether the content is a series of elements. -/
  constructed : Bool
  /-- The length of the content, unless it is left open. -/
  length : Option Nat
deriving DecidableEq, Repr

/-- An element. -/
structure Element where
  /-- The tag. -/
  tag : Tag
  /-- Whether the content is a series of elements. -/
  constructed : Bool
  /-- The bytes between the header and the end. -/
  content : Bytes
  /-- All bytes of the element. -/
  encoding : Bytes
deriving DecidableEq, Repr

/-- The number that big-endian digits to a base spell. -/
def ofDigits (base : Nat) (digits : List Nat) : Nat :=
  digits.foldl (fun value digit => value * base + digit) 0

/-- The number that bytes spell, most significant first. -/
def natOfBytes (bytes : Bytes) : Nat :=
  ofDigits 256 (bytes.map UInt8.toNat)

/-- The greatest number of a tag. -/
def maxTagNumber : Nat := 0x7fffffff

/-- The greatest length. -/
def maxLength : Nat := 0x7fffffffffffffff

/-- The number of a tag that is spelled in groups of seven bits, and the bytes after it. -/
def longTagNumber? (value : Nat) : Bytes → Option (Nat × Bytes)
  | [] => none
  | byte :: rest =>
    let grown := value * 128 + byte.toNat % 128
    if byte < 128 then some (grown, rest)
    else if maxTagNumber / 128 < grown then none
    else longTagNumber? grown rest

/-- The length at the front of a byte string, which may be left open, and the bytes after it. -/
def length? : Bytes → Option (Option Nat × Bytes)
  | [] => none
  | byte :: rest =>
    if byte < 128 then some (some byte.toNat, rest)
    else if byte = 128 then some (none, rest)
    else
      let count := byte.toNat - 128
      let significant := (rest.take count).dropWhile (· = 0)
      let length := natOfBytes significant
      if rest.length < count + 1 ∨ 8 < significant.length ∨ maxLength < length then none
      else some (some length, rest.drop count)

/-- The number of a tag that starts with a given byte, and the bytes after the tag. -/
def tagNumber? (byte : UInt8) (rest : Bytes) : Option (Nat × Bytes) :=
  if byte.toNat % 32 = 31 then longTagNumber? 0 rest else some (byte.toNat % 32, rest)

/-- Whether a content can have a given length: an open length needs a series of elements, and a
length that is given may not reach beyond the bytes. -/
def lengthFits (constructed : Bool) (length : Option Nat) (rest : Bytes) : Bool :=
  match length with
  | some size => size ≤ rest.length
  | none => constructed

/-- The header at the front of a byte string, and the bytes after it. -/
def header? : Bytes → Option (Header × Bytes)
  | [] => none
  | byte :: rest =>
    let constructed := byte &&& 0x20 != 0
    match tagNumber? byte rest with
    | none => none
    | some (number, afterTag) =>
      match length? afterTag with
      | none => none
      | some (length, afterLength) =>
        if lengthFits constructed length afterLength then
          some (⟨⟨.ofByte byte, number⟩, constructed, length⟩, afterLength)
        else
          none

theorem length_of_longTagNumber {value number : Nat} {bytes rest : Bytes}
    (read : longTagNumber? value bytes = some (number, rest)) : rest.length < bytes.length := by
  induction bytes generalizing value with
  | nil => simp [longTagNumber?] at read
  | cons byte later ih =>
      simp only [longTagNumber?] at read
      split at read
      · simp only [Option.some.injEq, Prod.mk.injEq] at read
        simp [← read.2]
      · split at read
        · cases read
        · have shorter := ih read
          simp only [List.length_cons]
          omega

theorem length_of_length {length : Option Nat} {bytes rest : Bytes}
    (read : length? bytes = some (length, rest)) : rest.length < bytes.length := by
  match bytes, read with
  | byte :: later, read =>
    simp only [length?] at read
    repeat' split at read
    · simp only [Option.some.injEq, Prod.mk.injEq] at read
      simp [read.2]
    · simp only [Option.some.injEq, Prod.mk.injEq] at read
      simp [read.2]
    · cases read
    · simp only [Option.some.injEq, Prod.mk.injEq] at read
      rw [← read.2, List.length_drop, List.length_cons]
      omega

theorem length_of_tagNumber {byte : UInt8} {number : Nat} {bytes rest : Bytes}
    (read : tagNumber? byte bytes = some (number, rest)) : rest.length ≤ bytes.length := by
  simp only [tagNumber?] at read
  split at read
  · exact Nat.le_of_lt (length_of_longTagNumber read)
  · simp only [Option.some.injEq, Prod.mk.injEq] at read
    simp [read.2]

/-- A header takes at least one byte. -/
theorem length_of_header {header : Header} {bytes rest : Bytes}
    (read : header? bytes = some (header, rest)) : rest.length < bytes.length := by
  match bytes, read with
  | byte :: later, read =>
    simp only [header?] at read
    split at read
    · cases read
    · rename_i number afterTag readTag
      split at read
      · cases read
      · rename_i length afterLength readLength
        split at read
        · simp only [Option.some.injEq, Prod.mk.injEq] at read
          have tag := length_of_tagNumber readTag
          have lengths := length_of_length readLength
          rw [← read.2, List.length_cons]
          omega
        · cases read

/-- The pair of zeros that closes an open content. -/
def endMark : Bytes := [0, 0]

/-- The bytes up to the pair of zeros that closes an open content, and the bytes after the pair.
The number counts the open contents inside that have to be closed before. -/
def closeOpen (pending : Nat) (bytes : Bytes) : Option (Bytes × Bytes) :=
  if _closes : bytes.take 2 = endMark then
    match pending with
    | 0 => some ([], bytes.drop 2)
    | fewer + 1 =>
      (closeOpen fewer (bytes.drop 2)).map fun (content, after) => (endMark ++ content, after)
  else
    match _read : header? bytes with
    | none => none
    | some (header, rest) =>
      let taken := bytes.take (bytes.length - rest.length)
      match header.length with
      | none =>
        (closeOpen (pending + 1) rest).map fun (content, after) => (taken ++ content, after)
      | some size =>
        (closeOpen pending (rest.drop size)).map fun (content, after) =>
          (taken ++ rest.take size ++ content, after)
termination_by bytes.length
decreasing_by
  · have size := congrArg List.length _closes
    simp only [List.length_take, endMark, List.length_cons, List.length_nil] at size
    simp only [List.length_drop]
    omega
  · exact length_of_header _read
  · have shorter := length_of_header _read
    simp only [List.length_drop]
    omega

/-- The element at the front of a byte string, and the bytes after it. A pair of zeros closes a
content and never starts an element. -/
def element? (bytes : Bytes) : Option (Element × Bytes) :=
  if bytes.take 2 = endMark then
    none
  else
    match header? bytes with
    | none => none
    | some (header, rest) =>
      match header.length with
      | some size =>
        some (⟨header.tag, header.constructed, rest.take size,
          bytes.take (bytes.length - rest.length + size)⟩, rest.drop size)
      | none =>
        (closeOpen 0 rest).map fun (content, after) =>
          (⟨header.tag, header.constructed, content,
            bytes.take (bytes.length - after.length)⟩, after)

/-- The elements of a byte string that is a series of elements. -/
def elements? (bytes : Bytes) : Option (List Element) :=
  if bytes = [] then
    some []
  else
    match element? bytes with
    | none => none
    | some (element, rest) =>
      if rest.length < bytes.length then
        (elements? rest).map (element :: ·)
      else
        none
termination_by bytes.length

namespace Tag

/-- A tag of ASN.1 itself. -/
def universal (number : Nat) : Tag := ⟨.universal, number⟩

/-- A tag with a meaning inside its surroundings. -/
def context (number : Nat) : Tag := ⟨.context, number⟩

/-- The tag of truth values. -/
def boolean : Tag := universal 1

/-- The tag of integers. -/
def integer : Tag := universal 2

/-- The tag of strings of bits. -/
def bitString : Tag := universal 3

/-- The tag of strings of bytes. -/
def octetString : Tag := universal 4

/-- The tag of the empty value. -/
def null : Tag := universal 5

/-- The tag of object identifiers. -/
def object : Tag := universal 6

/-- The tag of enumerated values. -/
def enumerated : Tag := universal 10

/-- The tag of texts in UTF-8. -/
def utf8String : Tag := universal 12

/-- The tag of sequences. -/
def sequence : Tag := universal 16

/-- The tag of sets. -/
def set : Tag := universal 17

/-- The tag of texts in ASCII. -/
def ia5String : Tag := universal 22

/-- The tag of times with two digits of the year. -/
def utcTime : Tag := universal 23

/-- The tag of times with four digits of the year. -/
def generalizedTime : Tag := universal 24

/-- The tag of texts in 32-bit units. -/
def universalString : Tag := universal 28

/-- The tag of texts in 16-bit units. -/
def bmpString : Tag := universal 30

end Tag

end OwnerKeys.Asn1
