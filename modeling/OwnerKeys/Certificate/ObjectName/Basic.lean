import OwnerKeys.Asn1.Value

/-!
# Names of objects

Algorithms, attributes of names, curves and extensions are identified by object identifiers. Those
that are in common use have a short name and a long name; any other is written by its arcs.
-/

namespace OwnerKeys

/-- The names of an object. -/
structure ObjectName where
  /-- The arcs of the identifier. -/
  arcs : List Nat
  /-- The short name. -/
  short : String
  /-- The long name. -/
  long : String
deriving DecidableEq, Repr

/-- Objects under a branch, with one last arc, a short name and a long name each. -/
def ObjectName.under (branch : List Nat) (objects : List (Nat × String × String)) :
    List ObjectName :=
  objects.map fun (arc, short, long) => ⟨branch ++ [arc], short, long⟩

end OwnerKeys
