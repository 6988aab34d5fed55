import OwnerKeys.Asn1

/-!
# Prime fields

The elements of a prime field are the numbers below a prime. Some of them are squares, which Euler's
criterion tells by a power.
-/

namespace OwnerKeys.PrimeField

/-- A power up to a modulus. -/
def power (modulus base exponent : Nat) : Nat :=
  if exponent = 0 then
    1 % modulus
  else
    let root := power modulus (base * base % modulus) (exponent / 2)
    if exponent % 2 = 0 then root else base * root % modulus
termination_by exponent
decreasing_by omega

/-- Whether a number other than zero is a square, by Euler's criterion. -/
def isSquare (modulus value : Nat) : Bool :=
  power modulus value ((modulus - 1) / 2) == 1

end OwnerKeys.PrimeField
