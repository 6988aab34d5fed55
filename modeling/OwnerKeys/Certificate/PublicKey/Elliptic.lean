import OwnerKeys.Certificate.Curve
import OwnerKeys.Certificate.PublicKey.Basic

/-!
# Keys on curves

A key is a point of a curve. The curve is given by its name, or by its equation, the point of which
keys are multiples, and the number of these multiples.
-/

namespace OwnerKeys

open Asn1 Layout

/-- A curve that is spelled out. -/
structure SpelledCurve where
  /-- The equation. -/
  equation : Equation
  /-- The point of which keys are multiples. -/
  generator : Bytes
  /-- The number of the multiples. -/
  order : Nat
  /-- The number of the points of the curve by the number of the multiples, if it is given. -/
  cofactor : Option Int
  /-- The bytes from which the curve was derived, if they are given. -/
  seed : Option Bytes
deriving DecidableEq, Repr

/-- The curve of a key. -/
inductive KeyCurve where
  /-- A curve that is given by its name. -/
  | named (curve : Curve)
  /-- A curve that is spelled out. -/
  | spelled (curve : SpelledCurve)
deriving DecidableEq, Repr

/-- A key on a curve. -/
structure EllipticKey where
  /-- The curve. -/
  curve : KeyCurve
  /-- The point. -/
  point : Bytes
deriving DecidableEq, Repr

namespace SpelledCurve

/-- The arcs of prime fields. -/
def primeArcs : List Nat := [1, 2, 840, 10045, 1, 1]

/-- The arcs of binary fields. -/
def binaryArcs : List Nat := [1, 2, 840, 10045, 1, 2]

/-- The arcs of moduli with three terms. -/
def threeTermsArcs : List Nat := [1, 2, 840, 10045, 1, 2, 3, 2]

/-- The arcs of moduli with five terms. -/
def fiveTermsArcs : List Nat := [1, 2, 840, 10045, 1, 2, 3, 3]

/-- The greatest number of bits of a field. -/
def maxFieldBits : Nat := 661

/-- The modulus with given exponents, which get larger. -/
def binaryModulus? (exponents : List Int) : Option Nat :=
  if exponents.Pairwise (· < ·) ∧
      exponents.all fun exponent => 0 < exponent ∧ exponent ≤ maxFieldBits then
    some ((exponents.map fun exponent => Nat.pow 2 exponent.toNat).foldl (· + ·) 1)
  else
    none

/-- The modulus of the binary field that parameters describe. -/
def binaryModulusOf? (parameters : Element) : Option Nat := do
  match ← Certificate.sequence? parameters with
  | [degree, basis, terms] =>
    let degree ← Certificate.integerOf? degree
    let arcs ← objectArcs? (← Certificate.objectOf? basis)
    let middle ← if arcs = threeTermsArcs then do some [← Certificate.integerOf? terms]
      else if arcs = fiveTermsArcs then do
        match ← (← Certificate.sequence? terms).mapM Certificate.integerOf? with
        | [first, second, third] => some [first, second, third]
        | _ => none
      else none
    binaryModulus? (middle ++ [degree])
  | _ => none

/-- The bytes in an element. -/
def bytesOf? (element : Element) : Option Bytes := do
  (← Certificate.withTag? .octetString element).string?

/-- The equation over a field that is given, with two elements of the field. -/
def equation? (field : Element) (linear constant : Nat) : Option Equation := do
  match ← Certificate.sequence? field with
  | [kind, parameters] =>
    let arcs ← objectArcs? (← Certificate.objectOf? kind)
    if arcs = primeArcs then
      let modulus ← Certificate.integerOf? parameters
      if 3 < modulus ∧ modulus % 2 = 1 ∧ Nat.log2 modulus.toNat < maxFieldBits then
        let modulus := modulus.toNat
        return .overPrime modulus (linear % modulus) (constant % modulus)
      else
        none
    else if arcs = binaryArcs then
      let modulus ← binaryModulusOf? parameters
      let equation := Equation.overBinary modulus linear constant
      if equation.isElement linear ∧ equation.isElement constant then some equation else none
    else
      none
  | _ => none

/-- The curve in an element. -/
def ofElement? (element : Element) : Option SpelledCurve := do
  match ← Certificate.sequence? element with
  | version :: field :: terms :: generator :: order :: rest =>
    let _ ← Certificate.integerOf? version
    let (linear, constant, seed) ← match ← Certificate.sequence? terms with
      | [linear, constant] => some (linear, constant, none)
      | [linear, constant, seed] => some (linear, constant, some seed)
      | _ => none
    let equation ← equation? field (natOfBytes (← bytesOf? linear))
      (natOfBytes (← bytesOf? constant))
    let seed ← seed.mapM (Certificate.bitStringOf? .bitString)
    let generator ← bytesOf? generator
    let order ← Certificate.integerOf? order
    let (cofactor, rest) ← Certificate.optionalField .integer Certificate.integerOf? rest
    if rest = [] ∧ seed.all (·.bytes ≠ []) ∧ equation.hasPoint generator ∧ 0 < order ∧
        PublicKey.bitLength order.toNat ≤ equation.fieldBits + 1 ∧ cofactor.all (0 ≤ ·) then
      return ⟨equation, generator, order.toNat, cofactor, seed.map (·.bytes)⟩
    else
      none
  | _ => none

/-- The number of elements of the field. -/
def fieldSize (curve : SpelledCurve) : Nat :=
  match curve.equation with
  | .overPrime modulus _ _ => modulus
  | .overBinary modulus _ _ => Nat.pow 2 (Nat.log2 modulus)

/-- The cofactor. If it is missing or zero it is guessed from the number of elements of the field,
which comes near to the number of points; for that the order has to be large enough. -/
def shownCofactor (curve : SpelledCurve) : Int :=
  let given := curve.cofactor.getD 0
  if given ≠ 0 then given
  else if PublicKey.bitLength curve.order ≤ (curve.equation.fieldBits + 1) / 2 + 3 then 0
  else ((curve.fieldSize + 1 + curve.order / 2) / curve.order : Nat)

/-- The lines with the equation. -/
def equationLines (indent : Nat) : Equation → String
  | .overPrime modulus linear constant =>
    line indent "Field Type: prime-field" ++ labeledNumber indent "Prime:" modulus ++
      labeledNumber indent "A:   " linear ++ labeledNumber indent "B:   " constant
  | .overBinary modulus quadratic constant =>
    let terms := ((List.range (Nat.log2 modulus + 1)).filter modulus.testBit).length
    line indent "Field Type: characteristic-two-field" ++
      line indent ("Basis Type: " ++ if terms = 3 then "tpBasis" else "ppBasis") ++
      labeledNumber indent "Polynomial:" modulus ++ labeledNumber indent "A:   " quadratic ++
      labeledNumber indent "B:   " constant

/-- The form in which a point is written. -/
def formName (point : Bytes) : String :=
  match point with
  | 2 :: _ | 3 :: _ => "compressed"
  | 6 :: _ | 7 :: _ => "hybrid"
  | _ => "uncompressed"

/-- A curve as it is shown. -/
def text (indent : Nat) (curve : SpelledCurve) : String :=
  equationLines indent curve.equation ++
    labeledBytes indent ("Generator (" ++ formName curve.generator ++ "):") curve.generator ++
    labeledNumber indent "Order: " curve.order ++
    labeledNumber indent "Cofactor: " curve.shownCofactor ++
    match curve.seed with
    | some seed => labeledBytes indent "Seed:" seed
    | none => ""

end SpelledCurve

namespace KeyCurve

/-- The curve that parameters give. -/
def ofElement? (parameters : Element) : Option KeyCurve := do
  if parameters.tag = .object then
    return .named (← Curve.find? (← Certificate.objectOf? parameters))
  else
    return .spelled (← SpelledCurve.ofElement? parameters)

/-- The equation of a curve. -/
def equation : KeyCurve → Equation
  | named curve => curve.equation
  | spelled curve => curve.equation

/-- The number of bits of the number of keys on a curve. -/
def orderBits : KeyCurve → Nat
  | named curve => curve.orderBits
  | spelled curve => PublicKey.bitLength curve.order

/-- A curve as it is shown. -/
def text (indent : Nat) : KeyCurve → String
  | named curve =>
    line indent ("ASN1 OID: " ++ curve.name) ++
      match curve.federalName with
      | some name => line indent ("NIST CURVE: " ++ name)
      | none => ""
  | spelled curve => curve.text indent

end KeyCurve

namespace EllipticKey

/-- The arcs of the algorithm. -/
def arcs : List Nat := [1, 2, 840, 10045, 2, 1]

/-- The point at infinity, which is no key that could be used. -/
def infinity : Bytes := [0]

/-- The key with given parameters in a byte string. -/
def ofBytes? (parameters : Option Element) (bytes : Bytes) : Option EllipticKey := do
  let curve ← KeyCurve.ofElement? (← parameters)
  if bytes = infinity ∨ curve.equation.hasPoint bytes then some ⟨curve, bytes⟩ else none

/-- A key as it is shown. Nothing is shown for the point at infinity. -/
def text (indent : Nat) (key : EllipticKey) : String :=
  if key.point = infinity then ""
  else
    PublicKey.sizeLine indent "Public-Key" key.curve.orderBits ++
      labeledBytes indent "pub:" key.point ++ key.curve.text indent

end EllipticKey

end OwnerKeys
