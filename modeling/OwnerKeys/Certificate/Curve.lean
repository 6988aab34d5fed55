import OwnerKeys.Asn1.Value
import OwnerKeys.Certificate.Curve.Assorted
import OwnerKeys.Certificate.Curve.Brainpool
import OwnerKeys.Certificate.Curve.Efficient
import OwnerKeys.Certificate.Curve.Federal
import OwnerKeys.Certificate.Curve.Financial

/-!
# The registry of curves

A curve is looked up by its identifier.
-/

namespace OwnerKeys.Curve

/-- Every named curve. -/
def all : List Curve :=
  [federalPrime, federalBinary, efficientPrime, efficientBinary, financialPrime, financialBinary,
    brainpool, wireless, national].flatten

/-- The curve with a given identifier. -/
def find? (object : Bytes) : Option Curve := do
  let arcs ← Asn1.objectArcs? object
  all.find? (·.arcs == arcs)

end OwnerKeys.Curve
