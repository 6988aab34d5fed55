import OwnerKeys.Certificate.PublicKey.Basic
import OwnerKeys.Certificate.PublicKey.NamedGroup

/-!
# Keys that are powers

A key for signatures or for an agreement may be a power of a base up to a prime. Its parameters are
the prime, the base, and the number of powers; more about them may be given, such as how the prime
was found.
-/

namespace OwnerKeys

open Asn1 Layout

/-- Parameters of keys that are powers. -/
structure PowerGroup where
  /-- The prime. -/
  modulus : Nat
  /-- The number whose powers are keys. -/
  base : Nat
  /-- The number of the powers, if it is given. -/
  order : Option Nat
  /-- By what the prime exceeds a multiple of the number of the powers, if it is given. -/
  cofactor : Option Nat
  /-- The bytes from which the prime was derived. -/
  seed : Bytes
  /-- The number of trials before the prime was found, if it is given. -/
  trials : Option Nat
  /-- The number of bits that private keys should have, if it is given. -/
  privateBits : Option Int
deriving DecidableEq, Repr

/-- What a key that is a power is for. -/
inductive PowerUse where
  /-- Signatures. -/
  | signing
  /-- The agreement on a secret. -/
  | agreement
deriving DecidableEq, Repr

/-- A key that is a power. -/
structure PowerKey where
  /-- What the key is for. -/
  use : PowerUse
  /-- The parameters. A key without parameters cannot be shown. -/
  group : Option PowerGroup
  /-- The power. -/
  value : Int
deriving DecidableEq, Repr

namespace PowerGroup

/-- The parameters of keys for signatures. -/
def forSigning? (element : Element) : Option PowerGroup := do
  match ← (← Certificate.sequence? element).mapM PublicKey.numberOf? with
  | [modulus, order, base] => return ⟨modulus, base, some order, none, [], none, none⟩
  | _ => none

/-- A number of bits, which has to fit in 32 bits with its sign. -/
def bitsOf? (element : Element) : Option Int := do
  let content ← (← Certificate.withTag? .integer element).primitive?
  let bits ← if content = [] then some 0 else integer? content
  if -0x80000000 ≤ bits ∧ bits < 0x80000000 then some bits else none

/-- The parameters of keys for an agreement. -/
def forAgreement? (element : Element) : Option PowerGroup := do
  match ← Certificate.sequence? element with
  | modulus :: base :: fields =>
    let (bits, fields) ← Certificate.optionalField .integer bitsOf? fields
    if fields = [] then
      return ⟨← PublicKey.numberOf? modulus, ← PublicKey.numberOf? base, none, none, [], none, bits⟩
    else
      none
  | _ => none

/-- How a prime was found: the bytes from which it was derived, and the number of trials. -/
def validation? (element : Element) : Option (Bytes × Nat) := do
  match ← Certificate.sequence? element with
  | [seed, trials] =>
    return ((← Certificate.bitStringOf? .bitString seed).bytes, ← PublicKey.numberOf? trials)
  | _ => none

/-- The parameters of keys for an agreement in the longer form. -/
def forLongAgreement? (element : Element) : Option PowerGroup := do
  match ← Certificate.sequence? element with
  | modulus :: base :: order :: fields =>
    let (cofactor, fields) ← Certificate.optionalField .integer PublicKey.numberOf? fields
    let (validation, fields) ← Certificate.optionalField .sequence validation? fields
    if fields = [] then
      return ⟨← PublicKey.numberOf? modulus, ← PublicKey.numberOf? base,
        some (← PublicKey.numberOf? order), cofactor, (validation.map (·.1)).getD [],
        validation.map (·.2), none⟩
    else
      none
  | _ => none

/-- The number of trials as it is shown: in 32 bits. A number that does not fit in 64 bits and minus
one stand for no number. -/
def shownTrials? (trials : Nat) : Option Int :=
  let shown := Int.bmod trials 0x100000000
  if UInt64.size ≤ trials ∨ shown = -1 then none else some shown

/-- The lines with a group without a name. -/
def spelledLines (indent : Nat) (group : PowerGroup) : String :=
  labeledNumber indent "P:   " group.modulus ++
    (group.order.map fun order => labeledNumber indent "Q:   " order).getD "" ++
    labeledNumber indent "G:   " group.base ++
    (group.cofactor.map fun cofactor => labeledNumber indent "J:   " cofactor).getD "" ++
    (if group.seed = [] then "" else labeledBytes indent "SEED:" group.seed) ++
    ((group.trials.bind shownTrials?).map fun trials => line indent s!"pcounter: {trials}").getD ""

/-- The lines with a group for an agreement. -/
def agreementLines (indent : Nat) (group : PowerGroup) : String :=
  (match NamedGroup.find? group.modulus group.base group.order with
    | some named => line indent ("GROUP: " ++ named.name)
    | none => group.spelledLines indent) ++
    match group.privateBits with
    | some bits =>
      if 0 < bits then line indent s!"recommended-private-length: {bits} bits" else ""
    | none => ""

end PowerGroup

namespace PowerKey

/-- The arcs of the algorithm for signatures. -/
def signingArcs : List Nat := [1, 2, 840, 10040, 4, 1]

/-- The arcs of the algorithm for an agreement. -/
def agreementArcs : List Nat := [1, 2, 840, 113549, 1, 3, 1]

/-- The arcs of the algorithm for an agreement with parameters in the longer form. -/
def longAgreementArcs : List Nat := [1, 2, 840, 10046, 2, 1]

/-- The parameters of keys for signatures, which may be missing. -/
def signingGroup? (parameters : Option Element) : Option (Option PowerGroup) :=
  match parameters with
  | none => some none
  | some element =>
    if element.tag = .null then some none else (PowerGroup.forSigning? element).map some

/-- What a key of an algorithm is for, and its parameters. -/
def kind? (algorithm : AlgorithmId) : Option (PowerUse × Option PowerGroup) := do
  let arcs ← objectArcs? algorithm.object
  if arcs = signingArcs then
    return (.signing, ← signingGroup? algorithm.parameters)
  else if arcs = agreementArcs then
    return (.agreement, some (← PowerGroup.forAgreement? (← algorithm.parameters)))
  else if arcs = longAgreementArcs then
    return (.agreement, some (← PowerGroup.forLongAgreement? (← algorithm.parameters)))
  else
    none

/-- The key of an algorithm in a byte string. -/
def ofBytes? (algorithm : AlgorithmId) (bytes : Bytes) : Option PowerKey := do
  let (use, group) ← kind? algorithm
  return ⟨use, group, ← PublicKey.atFront? Certificate.integerOf? bytes⟩

/-- A key as it is shown. -/
def text (indent : Nat) (key : PowerKey) : String :=
  match key.group with
  | none => ""
  | some group =>
    let bits := PublicKey.bitLength group.modulus
    match key.use with
    | .signing =>
      PublicKey.sizeLine indent "Public-Key" bits ++ labeledNumber indent "pub: " key.value ++
        group.spelledLines indent
    | .agreement =>
      PublicKey.sizeLine indent "DH Public-Key" bits ++
        labeledNumber indent "public-key:" key.value ++ group.agreementLines indent

end PowerKey

end OwnerKeys
