/-!
# Numbers by their words

Large numbers are written as lists of words of 256 bits.
-/

namespace OwnerKeys

/-- The number that words spell, most significant first. -/
def words (digits : List Nat) : Nat :=
  digits.foldl (fun value digit => value * Nat.pow 2 256 + digit) 0

end OwnerKeys
