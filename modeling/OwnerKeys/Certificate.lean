import OwnerKeys.Asn1.Value

/-!
# Certificates

An X.509 certificate says who holds a public key. It has a body, the algorithm by which the body was
signed, and the signature. `Certificate.parse?` reads a certificate off the front of a byte string;
what comes after it does not matter. The signature is not verified, and neither is the key.
-/

namespace OwnerKeys

open Asn1

/-- An algorithm with its parameters. -/
structure AlgorithmId where
  /-- The content of the object identifier. -/
  object : Bytes
  /-- The parameters, which depend on the algorithm. -/
  parameters : Option Element
deriving DecidableEq, Repr

/-- One attribute of a name. -/
structure NameAttribute where
  /-- The position of the set to which the attribute belongs. -/
  group : Nat
  /-- The content of the object identifier of the attribute's type. -/
  object : Bytes
  /-- The tag of the value. -/
  tag : Tag
  /-- The bytes of the value. -/
  value : Bytes
  /-- The number of bits of the last byte that do not count, in a string of bits. -/
  unused : Nat
deriving DecidableEq, Repr

/-- A moment as it is written. -/
structure TimeText where
  /-- The tag, which decides how many digits the year has. -/
  tag : Tag
  /-- The characters. -/
  text : Bytes
deriving DecidableEq, Repr

/-- A public key as it is written. -/
structure PublicKeyInfo where
  /-- What the key is for. -/
  algorithm : AlgorithmId
  /-- The key. -/
  key : BitString
deriving DecidableEq, Repr

/-- An extension of a certificate. -/
structure Extension where
  /-- The content of the object identifier of the extension's type. -/
  object : Bytes
  /-- Whether who does not understand the extension must reject the certificate. -/
  critical : Bool
  /-- The value. -/
  value : Bytes
deriving DecidableEq, Repr

/-- A certificate. -/
structure Certificate where
  /-- The version, one less than it is called. -/
  version : Option Int
  /-- The serial number. -/
  serial : Int
  /-- The algorithm of the signature, as the body names it. -/
  signature : AlgorithmId
  /-- Who signed. -/
  issuer : List NameAttribute
  /-- The first moment of validity. -/
  notBefore : TimeText
  /-- The last moment of validity. -/
  notAfter : TimeText
  /-- Who holds the key. -/
  subject : List NameAttribute
  /-- The key. -/
  publicKey : PublicKeyInfo
  /-- A number of the issuer. -/
  issuerId : Option BitString
  /-- A number of the subject. -/
  subjectId : Option BitString
  /-- The extensions. -/
  extensions : List Extension
  /-- The algorithm of the signature. -/
  outerAlgorithm : AlgorithmId
  /-- The signature. -/
  outerSignature : BitString
deriving DecidableEq, Repr

namespace Certificate

/-- The element, if it has a given tag. -/
def withTag? (tag : Tag) (element : Element) : Option Element :=
  if element.tag = tag then some element else none

/-- The elements of a sequence. -/
def sequence? (element : Element) : Option (List Element) :=
  (withTag? .sequence element).bind Element.children?

/-- The elements of a series of any length with a given tag. The mark that the content is a series
of elements is not asked for here. -/
def series? (tag : Tag) (element : Element) : Option (List Element) := do
  elements? (← withTag? tag element).content

/-- The integer in an element. -/
def integerOf? (element : Element) : Option Int := do
  integer? (← (← withTag? .integer element).primitive?)

/-- The content of the object identifier in an element. -/
def objectOf? (element : Element) : Option Bytes := do
  let content ← (← withTag? .object element).primitive?
  let _ ← objectParts? content
  return content

/-- The string of bits in an element with a given tag. -/
def bitStringOf? (tag : Tag) (element : Element) : Option BitString := do
  bitString? (← (← withTag? tag element).string?)

/-- The algorithm in an element. -/
def algorithmOf? (element : Element) : Option AlgorithmId := do
  match ← sequence? element with
  | [object] => return ⟨← objectOf? object, none⟩
  | [object, parameters] =>
    if isAnyValue parameters then
      return ⟨← objectOf? object, some parameters⟩
    else
      none
  | _ => none

/-- The numbers of the tags that the value of an attribute may have. -/
def attributeTags : List Nat :=
  [3, 7, 8, 9, 11, 12, 13, 14, 15, 16, 18, 19, 20, 22, 28, 29, 30]

/-- Whether the value of an attribute spells characters, where its tag says that it does. -/
def isSpelled (tag : Tag) (value : Bytes) : Bool :=
  if tag = .utf8String then (Bytes.toString? value).isSome
  else if tag = .bmpString then areCharacters 2 value
  else if tag = .universalString then areCharacters 4 value
  else true

/-- The bytes of the value of an attribute. A value that is itself a sequence keeps its header. -/
def attributeBytes? (element : Element) : Option Bytes :=
  if element.tag = .sequence then some element.encoding else element.string?

/-- The attribute in an element of the set at a given position. Whether its value spells characters
does not matter. -/
def looseAttributeOf? (group : Nat) (element : Element) : Option NameAttribute := do
  match ← sequence? element with
  | [object, value] =>
    let name ← objectOf? object
    let bytes ← attributeBytes? value
    if value.tag.cls = .universal ∧ value.tag.number ∈ attributeTags ∧ isAnyValue value then
      if value.tag = .bitString then
        let bits ← bitString? bytes
        return ⟨group, name, value.tag, bits.bytes, bits.unused⟩
      else
        return ⟨group, name, value.tag, bytes, 0⟩
    else
      none
  | _ => none

/-- The attribute in an element of the set at a given position. -/
def attributeOf? (group : Nat) (element : Element) : Option NameAttribute := do
  let part ← looseAttributeOf? group element
  if isSpelled part.tag part.value then some part else none

/-- The attributes of the name in an element: a sequence of sets of attributes. -/
def nameOf? (element : Element) : Option (List NameAttribute) := do
  let sets ← series? .sequence element
  let parts ← sets.zipIdx.mapM fun (set, position) => do
    (← series? .set set).mapM (attributeOf? position)
  return parts.flatten

/-- The moment in an element. -/
def timeOf? (element : Element) : Option TimeText := do
  if element.tag = .utcTime ∨ element.tag = .generalizedTime then
    let text ← element.string?
    if hasFormOf element.tag text then some ⟨element.tag, text⟩ else none
  else
    none

/-- The first and the last moment of validity in an element. -/
def validityOf? (element : Element) : Option (TimeText × TimeText) := do
  match ← sequence? element with
  | [notBefore, notAfter] => return (← timeOf? notBefore, ← timeOf? notAfter)
  | _ => none

/-- The public key in an element. Its algorithm must have a name or a text. -/
def publicKeyOf? (element : Element) : Option PublicKeyInfo := do
  match ← sequence? element with
  | [algorithm, key] =>
    let info : PublicKeyInfo := ⟨← algorithmOf? algorithm, ← bitStringOf? .bitString key⟩
    if info.algorithm.object.length ≤ maxObjectSize then some info else none
  | _ => none

/-- The truth value in an element. -/
def booleanOf? (element : Element) : Option Bool := do
  match ← (← withTag? .boolean element).primitive? with
  | [byte] => return byte != 0
  | _ => none

/-- The extension in an element. -/
def extensionOf? (element : Element) : Option Extension := do
  match ← sequence? element with
  | [object, value] =>
    return ⟨← objectOf? object, false, ← (← withTag? .octetString value).string?⟩
  | [object, critical, value] =>
    return ⟨← objectOf? object, ← booleanOf? critical,
      ← (← withTag? .octetString value).string?⟩
  | _ => none

/-- The only element in an element with a given tag, which wraps it. -/
def wrapped? (tag : Tag) (element : Element) : Option Element := do
  match ← (← withTag? tag element).children? with
  | [inner] => some inner
  | _ => none

/-- What the only element in an element stands for. -/
def wrappedIn? {Value : Type} (read : Element → Option Value) (element : Element) :
    Option Value := do
  read (← wrapped? element.tag element)

/-- The first of some elements, if it has a given tag, and the elements after it. -/
def takeOptional (tag : Tag) (elements : List Element) : Option Element × List Element :=
  match elements with
  | element :: rest => if element.tag = tag then (some element, rest) else (none, elements)
  | [] => (none, [])

/-- An optional field at the front of the elements of a sequence, and the elements after it. A field
that is there has to be readable. -/
def optionalField {Value : Type} (tag : Tag) (read : Element → Option Value)
    (elements : List Element) : Option (Option Value × List Element) := do
  let (element, rest) := takeOptional tag elements
  return (← element.mapM read, rest)

/-- The certificate whose body, algorithm and signature are in given elements. -/
def ofElements? (body algorithm signature : Element) : Option Certificate := do
  let (version, fields) := takeOptional (.context 0) (← sequence? body)
  let versionNumber ← version.mapM fun element => do
    integerOf? (← wrapped? (.context 0) element)
  match fields with
  | serial :: inner :: issuer :: validity :: subject :: key :: optional =>
    let (issuerId, optional) := takeOptional (.context 1) optional
    let (subjectId, optional) := takeOptional (.context 2) optional
    let (extensions, optional) := takeOptional (.context 3) optional
    if optional = [] then
      let (notBefore, notAfter) ← validityOf? validity
      return {
        version := versionNumber
        serial := ← integerOf? serial
        signature := ← algorithmOf? inner
        issuer := ← nameOf? issuer
        notBefore
        notAfter
        subject := ← nameOf? subject
        publicKey := ← publicKeyOf? key
        issuerId := ← issuerId.mapM (bitStringOf? (.context 1))
        subjectId := ← subjectId.mapM (bitStringOf? (.context 2))
        extensions := (← extensions.mapM fun element => do
          (← series? .sequence (← wrapped? (.context 3) element)).mapM extensionOf?).getD []
        outerAlgorithm := ← algorithmOf? algorithm
        outerSignature := ← bitStringOf? .bitString signature }
    else
      none
  | _ => none

/-- The certificate at the front of a byte string. -/
def parse? (bytes : Bytes) : Option Certificate := do
  let (element, _) ← element? bytes
  match ← sequence? element with
  | [body, algorithm, signature] => ofElements? body algorithm signature
  | _ => none

/-- Whether a byte string starts with a certificate. -/
def isValid (bytes : Bytes) : Bool :=
  (parse? bytes).isSome

end Certificate

end OwnerKeys
