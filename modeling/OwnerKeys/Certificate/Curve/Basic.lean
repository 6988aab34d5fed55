import OwnerKeys.Certificate.Curve.Equation
import OwnerKeys.Certificate.Words

/-!
# Named curves

A curve that standards give a name to.
-/

namespace OwnerKeys

/-- A named curve. -/
structure Curve where
  /-- The arcs of the identifier. -/
  arcs : List Nat
  /-- The name. -/
  name : String
  /-- The name in the federal standard, if it is part of that. -/
  federalName : Option String
  /-- The equation. -/
  equation : Equation
  /-- The number of bits of the number of points that keys are taken from. -/
  orderBits : Nat
deriving DecidableEq, Repr

end OwnerKeys
