import OwnerKeys.Certificate
import OwnerKeys.Certificate.Layout

/-!
# Pieces of public keys

How the numbers of a key are read, and how its size is shown.
-/

namespace OwnerKeys.PublicKey

open Asn1 Layout

/-- The number in an element. It is taken without a sign, and may be longer than it needs to be. -/
def numberOf? (element : Element) : Option Nat := do
  return natOfBytes (← (← Certificate.withTag? .integer element).primitive?)

/-- The element at the front of a byte string, if it can be read. -/
def atFront? {Value : Type} (read : Element → Option Value) (bytes : Bytes) : Option Value := do
  let (element, _) ← element? bytes
  read element

/-- The number of bits of a number. -/
def bitLength (number : Nat) : Nat :=
  if number = 0 then 0 else Nat.log2 number + 1

/-- The line with the number of bits of a key. -/
def sizeLine (indent : Nat) (label : String) (bits : Nat) : String :=
  line indent s!"{label}: ({bits} bit)"

end OwnerKeys.PublicKey
