/-!
# Binary fields

The elements of a binary field are polynomials whose coefficients are bits, up to an irreducible
polynomial. A polynomial is written as the number whose bits are its coefficients, so its degree is
the logarithm of the number, and two polynomials are added by the exclusive disjunction of bits.
-/

namespace OwnerKeys.BinaryField

/-- A polynomial times the variable, up to a modulus of one degree more. -/
def shifted (modulus value : Nat) : Nat :=
  let product := 2 * value
  if product.testBit (Nat.log2 modulus) then product ^^^ modulus else product

/-- The product of a polynomial with another of which only a number of the highest coefficients
count, as if these were the lowest. -/
def productUpTo (modulus left right : Nat) : Nat → Nat
  | 0 => 0
  | count + 1 =>
    let coefficient := right >>> (Nat.log2 modulus - (count + 1))
    let before := shifted modulus (productUpTo modulus left right count)
    if coefficient % 2 = 1 then before ^^^ left else before

/-- The product of two elements of a field. -/
def product (modulus left right : Nat) : Nat :=
  productUpTo modulus left right (Nat.log2 modulus)

/-- The product of the squares of an element, the squares of these squares, and so on. -/
def squaresProduct (modulus value : Nat) : Nat → Nat
  | 0 => 1
  | count + 1 =>
    let square := product modulus value value
    product modulus square (squaresProduct modulus square count)

/-- The inverse of an element other than zero: by Fermat's theorem a power whose exponent has ones
in all places but the last. -/
def inverse (modulus value : Nat) : Nat :=
  squaresProduct modulus value (Nat.log2 modulus - 1)

/-- The sum of an element, its square, the square of its square, and so on. -/
def squaresSum (modulus value : Nat) : Nat → Nat
  | 0 => 0
  | count + 1 => value ^^^ squaresSum modulus (product modulus value value) count

/-- The trace of an element, which is zero or one. -/
def trace (modulus value : Nat) : Nat :=
  squaresSum modulus value (Nat.log2 modulus)

end OwnerKeys.BinaryField
