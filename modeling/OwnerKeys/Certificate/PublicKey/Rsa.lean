import OwnerKeys.Certificate.PssParameters
import OwnerKeys.Certificate.PublicKey.Basic

/-!
# Keys of RSA

A key is a modulus and an exponent. A key for padded signatures may restrict their parameters.
-/

namespace OwnerKeys

open Asn1 Layout

/-- For which signatures a key may be used. -/
inductive RsaUse where
  /-- For all signatures. -/
  | any
  /-- For all padded signatures. -/
  | padded
  /-- For signatures that are padded with given parameters. -/
  | restricted (parameters : PssParameters)
deriving DecidableEq, Repr

/-- A key of RSA. -/
structure RsaKey where
  /-- The modulus. -/
  modulus : Nat
  /-- The exponent. -/
  exponent : Nat
  /-- For which signatures the key may be used. -/
  use : RsaUse
deriving DecidableEq, Repr

namespace RsaKey

/-- The arcs of the algorithm whose keys may be used for all signatures. -/
def arcs : List Nat := [1, 2, 840, 113549, 1, 1, 1]

/-- The names of hashes, by the arcs of their identifiers. -/
def hashNames : List (List Nat × String) :=
  [([1, 3, 14, 3, 2, 26], "SHA1")] ++
    ["SHA2-256", "SHA2-384", "SHA2-512", "SHA2-224", "SHA2-512/224", "SHA2-512/256"].zipIdx.map
      fun (name, position) => ([2, 16, 840, 1, 101, 3, 4, 2, position + 1], name)

/-- The arcs of hashes that have no name here. -/
def namelessHashes : List (List Nat) :=
  [[1, 2, 840, 113549, 2, 4], [1, 2, 840, 113549, 2, 5], [1, 3, 36, 3, 2, 1],
    [1, 0, 10118, 3, 0, 55], [1, 2, 156, 10197, 1, 401],
    [1, 3, 6, 1, 4, 1, 1722, 12, 2, 1, 16], [1, 3, 6, 1, 4, 1, 1722, 12, 2, 2, 8]] ++
    (List.range' 7 6).map fun arc => [2, 16, 840, 1, 101, 3, 4, 2, arc]

/-- The name of a hash that is given by its object. What is missing is the first hash. -/
def hashName? (object : Option Bytes) : Option String := do
  match object with
  | none => return "SHA1"
  | some object =>
    let arcs ← objectArcs? object
    match hashNames.lookup arcs with
    | some name => return name
    | none => if namelessHashes.contains arcs then return "<NULL>" else none

/-- For which signatures the key of an algorithm may be used. -/
def use? (algorithm : AlgorithmId) : Option RsaUse := do
  let kind ← objectArcs? algorithm.object
  if kind = arcs then
    return .any
  else if kind = PssParameters.arcs then
    match algorithm.parameters with
    | none => return .padded
    | some element =>
      let parameters ← PssParameters.ofElement? element
      if (hashName? parameters.hash).isSome ∧ (hashName? parameters.maskHash).isSome then
        return .restricted parameters
      else
        none
  else
    none

/-- The key at the front of a byte string. -/
def ofBytes? (use : RsaUse) : Bytes → Option RsaKey :=
  PublicKey.atFront? fun element => do
    match ← Certificate.sequence? element with
    | [modulus, exponent] =>
      return ⟨← PublicKey.numberOf? modulus, ← PublicKey.numberOf? exponent, use⟩
    | _ => none

/-- A number in 32 bits. One that does not fit in 64 bits is shown as minus one. -/
def shortNumber (number : Int) : Int :=
  if isShort number then Int.bmod number 0x100000000 else -1

/-- A mark for a standard value. -/
def defaultMark (isDefault : Bool) : String :=
  if isDefault then " (default)" else ""

/-- The lines with restricted parameters. -/
def restrictionLines (indent : Nat) (parameters : PssParameters) : String :=
  let hash := (hashName? parameters.hash).getD ""
  let maskHash := (hashName? parameters.maskHash).getD ""
  let salt := shortNumber (parameters.saltLength.getD 20)
  let trailer := shortNumber (parameters.trailer.getD 1)
  line indent "PSS parameter restrictions:" ++
    line (indent + 2) ("Hash Algorithm: " ++ hash ++ defaultMark (hash == "SHA1")) ++
    line (indent + 2) ("Mask Algorithm: MGF1 with " ++ maskHash ++
      defaultMark (maskHash == "SHA1")) ++
    line (indent + 2) (s!"Minimum Salt Length: {salt}" ++ defaultMark (salt == 20)) ++
    line (indent + 2) ("Trailer Field: 0x" ++ hexDigits (trailer % 0x100000000).toNat ++
      defaultMark (trailer == 1))

/-- The lines about the use of a key. -/
def useLines (indent : Nat) : RsaUse → String
  | .any => ""
  | .padded => line indent "No PSS parameter restrictions"
  | .restricted parameters => restrictionLines indent parameters

/-- A key as it is shown. -/
def text (indent : Nat) (key : RsaKey) : String :=
  PublicKey.sizeLine indent "Public-Key" (PublicKey.bitLength key.modulus) ++
    labeledNumber indent "Modulus:" key.modulus ++ labeledNumber indent "Exponent:" key.exponent ++
    useLines indent key.use

end RsaKey

end OwnerKeys
