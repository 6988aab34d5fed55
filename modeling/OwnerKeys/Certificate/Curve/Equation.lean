import OwnerKeys.Certificate.Curve.BinaryField
import OwnerKeys.Certificate.Curve.PrimeField

/-!
# Equations of curves

Keys are points of elliptic curves. The coordinates of a point are elements of a field and solve the
equation of the curve: `y² = x³ + ax + b` over a prime field, `y² + xy = x³ + ax² + b` over a binary
field.

A point is written in full, with both coordinates, or with the first coordinate and a bit that says
which of two second coordinates is meant; then there have to be two. `Equation.hasPoint` says
whether a byte string is a point.
-/

namespace OwnerKeys

/-- The equation of a curve over a field. -/
inductive Equation where
  /-- The equation `y² = x³ + ax + b` for numbers up to a prime modulus. -/
  | overPrime (modulus linear constant : Nat)
  /-- The equation `y² + xy = x³ + ax² + b` for polynomials up to an irreducible modulus. -/
  | overBinary (modulus quadratic constant : Nat)
deriving DecidableEq, Repr

namespace Equation

/-- The number of bits of a coordinate. -/
def fieldBits : Equation → Nat
  | overPrime modulus _ _ => Nat.log2 modulus + 1
  | overBinary modulus _ _ => Nat.log2 modulus

/-- The number of bytes of a coordinate. -/
def coordinateSize (equation : Equation) : Nat :=
  (equation.fieldBits + 7) / 8

/-- Whether a number is an element of the field. -/
def isElement (equation : Equation) (value : Nat) : Bool :=
  match equation with
  | overPrime modulus _ _ => value < modulus
  | overBinary modulus _ _ => value < Nat.pow 2 (Nat.log2 modulus)

/-- Whether two elements of the field solve the equation. -/
def isSolved (equation : Equation) (first second : Nat) : Bool :=
  match equation with
  | overPrime modulus linear constant =>
    second * second % modulus == (first * first * first + linear * first + constant) % modulus
  | overBinary modulus quadratic constant =>
    let square := BinaryField.product modulus first first
    BinaryField.product modulus second (second ^^^ first) ==
      BinaryField.product modulus square (first ^^^ quadratic) ^^^ constant

/-- Whether there is a solution with a first coordinate and a bit for the second. -/
def hasSecond (equation : Equation) (first bit : Nat) : Bool :=
  match equation with
  | overPrime modulus linear constant =>
    let square := (first * first * first + linear * first + constant) % modulus
    if square = 0 then bit == 0 else PrimeField.isSquare modulus square
  | overBinary modulus quadratic constant =>
    let inverse := BinaryField.inverse modulus first
    first == 0 || BinaryField.trace modulus
      (first ^^^ quadratic ^^^
        BinaryField.product modulus constant (BinaryField.product modulus inverse inverse)) == 0

/-- The bit by which a second coordinate is told from the other one with the same first
coordinate. -/
def secondBit (equation : Equation) (first second : Nat) : Nat :=
  match equation with
  | overPrime _ _ _ => second % 2
  | overBinary modulus _ _ =>
    BinaryField.product modulus second (BinaryField.inverse modulus first) % 2

/-- Whether a byte string is a point. The first byte says in which form. -/
def hasPoint (equation : Equation) : Bytes → Bool
  | [] => false
  | form :: coordinates =>
    let size := equation.coordinateSize
    let first := Asn1.natOfBytes (coordinates.take size)
    let second := Asn1.natOfBytes (coordinates.drop size)
    let isPair := coordinates.length == 2 * size && equation.isElement first &&
      equation.isElement second && equation.isSolved first second
    if form = 4 then
      isPair
    else if form = 6 ∨ form = 7 then
      isPair && equation.secondBit first second == form.toNat % 2
    else if form = 2 ∨ form = 3 then
      coordinates.length == size && equation.isElement first &&
        equation.hasSecond first (form.toNat % 2)
    else
      false

end Equation

end OwnerKeys
