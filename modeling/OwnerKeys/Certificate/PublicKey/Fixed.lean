import OwnerKeys.Certificate.PublicKey.Basic

/-!
# Keys of one length

The keys of some algorithms are byte strings of a length that the algorithm fixes. Where such a key
stands for polynomials, their coefficients must be below a modulus.
-/

namespace OwnerKeys

open Asn1 Layout

/-- An algorithm whose keys are byte strings of one length. -/
structure FixedKind where
  /-- The arcs of the identifier. -/
  arcs : List Nat
  /-- The name. -/
  name : String
  /-- The length of a key. -/
  size : Nat
  /-- The label of a key. -/
  label : String
  /-- The number of bytes at the front that are coefficients of twelve bits. -/
  coefficientBytes : Nat
deriving DecidableEq, Repr

/-- A key of one length. -/
structure FixedKey where
  /-- The algorithm. -/
  kind : FixedKind
  /-- The key. -/
  bytes : Bytes
deriving DecidableEq, Repr

namespace FixedKind

/-- The algorithms on curves. -/
def onCurves : List FixedKind :=
  [⟨[1, 3, 101, 110], "X25519", 32, "pub:", 0⟩, ⟨[1, 3, 101, 111], "X448", 56, "pub:", 0⟩,
    ⟨[1, 3, 101, 112], "ED25519", 32, "pub:", 0⟩, ⟨[1, 3, 101, 113], "ED448", 57, "pub:", 0⟩]

/-- The algorithms on lattices. -/
def onLattices : List FixedKind :=
  [⟨[2, 16, 840, 1, 101, 3, 4, 3, 17], "ML-DSA-44", 1312, "pub:", 0⟩,
    ⟨[2, 16, 840, 1, 101, 3, 4, 3, 18], "ML-DSA-65", 1952, "pub:", 0⟩,
    ⟨[2, 16, 840, 1, 101, 3, 4, 3, 19], "ML-DSA-87", 2592, "pub:", 0⟩,
    ⟨[2, 16, 840, 1, 101, 3, 4, 4, 1], "ML-KEM-512", 800, "ek:", 768⟩,
    ⟨[2, 16, 840, 1, 101, 3, 4, 4, 2], "ML-KEM-768", 1184, "ek:", 1152⟩,
    ⟨[2, 16, 840, 1, 101, 3, 4, 4, 3], "ML-KEM-1024", 1568, "ek:", 1536⟩]

/-- The names of the algorithms on trees of hashes and the lengths of their keys, in the order of
their identifiers. -/
def treeNames : List (String × Nat) :=
  ["SHA2", "SHAKE"].flatMap fun hash =>
    [("128", 32), ("192", 48), ("256", 64)].flatMap fun (bits, size) =>
      ["s", "f"].map fun trade => (s!"SLH-DSA-{hash}-{bits}{trade}", size)

/-- The algorithms on trees of hashes. -/
def onTrees : List FixedKind :=
  treeNames.zipIdx.map fun ((name, size), position) =>
    ⟨[2, 16, 840, 1, 101, 3, 4, 3, 20 + position], name, size, "pub:", 0⟩

/-- The algorithms whose keys are byte strings of one length. -/
def all : List FixedKind :=
  onCurves ++ onLattices ++ onTrees

/-- The modulus of coefficients. -/
def coefficientModulus : Nat := 3329

/-- Whether coefficients of twelve bits are below their modulus. -/
def areCoefficients (bytes : Bytes) : Bool :=
  (rows 3 bytes).all fun row =>
    let pair := natOfBytes row.reverse
    pair % 4096 < coefficientModulus && pair / 4096 < coefficientModulus

end FixedKind

namespace FixedKey

/-- The key of an algorithm in a byte string. The algorithm has no parameters. -/
def ofBytes? (algorithm : AlgorithmId) (bytes : Bytes) : Option FixedKey := do
  let arcs ← objectArcs? algorithm.object
  let kind ← FixedKind.all.find? (·.arcs == arcs)
  if algorithm.parameters = none ∧ bytes.length = kind.size ∧
      FixedKind.areCoefficients (bytes.take kind.coefficientBytes) then
    return ⟨kind, bytes⟩
  else
    none

/-- A key as it is shown. -/
def text (indent : Nat) (key : FixedKey) : String :=
  line indent (key.kind.name ++ " Public-Key:") ++ labeledBytes indent key.kind.label key.bytes

end FixedKey

end OwnerKeys
