import OwnerKeys.Certificate.PssParameters

/-!
# Signatures

What is shown for a signature depends on its algorithm: a pair of numbers for some algorithms, and
the bytes for all others. The parameters of an algorithm matter for padded signatures only.
-/

namespace OwnerKeys.Signature

open Asn1 Layout

/-- The number of bytes of a signature in a line. -/
def perLine : Nat := 18

/-- The arcs of the algorithms whose signatures are pairs of numbers. -/
def pairArcs : List (List Nat) :=
  [[1, 2, 840, 10040, 4, 3], [1, 3, 14, 3, 2, 13], [1, 3, 14, 3, 2, 27]] ++
    (List.range' 1 8).map fun arc => [2, 16, 840, 1, 101, 3, 4, 3, arc]

/-- The content of an element whose tag is a given byte, and what follows. A length takes at most
two bytes after the one that says how many these are. -/
def content? (tag : UInt8) (bytes : Bytes) : Option (Bytes × Bytes) := do
  let (size, rest) ← match bytes with
    | [] => none
    | first :: 0x81 :: size :: rest => if first = tag then some (size.toNat, rest) else none
    | first :: 0x82 :: high :: low :: rest =>
      if first = tag then some (natOfBytes [high, low], rest) else none
    | first :: size :: rest =>
      if first = tag ∧ size < 0x80 then some (size.toNat, rest) else none
    | _ => none
  if size ≤ rest.length then some (rest.take size, rest.drop size) else none

/-- The number at the front of a byte string, and what follows. It is not negative and not longer
than it needs to be. -/
def number? (bytes : Bytes) : Option (Nat × Bytes) := do
  let (content, rest) ← content? 0x02 bytes
  match integer? content with
  | some number => if 0 ≤ number then some (number.toNat, rest) else none
  | none => none

/-- The pair of numbers at the front of a byte string. -/
def pair? (bytes : Bytes) : Option (Nat × Nat) := do
  let (content, _) ← content? 0x30 bytes
  let (first, rest) ← number? content
  let (second, rest) ← number? rest
  if rest = [] then some (first, second) else none

/-- What follows the name of an algorithm or the label of a signature on the same line. -/
def lineEnd (indent : Nat) (algorithm : AlgorithmId) : String :=
  if objectArcs? algorithm.object = some PssParameters.arcs then
    PssParameters.text indent algorithm.parameters
  else
    "\n"

/-- The bytes of a signature. -/
def bytesText (indent : Nat) (bytes : Bytes) : String :=
  dump indent perLine bytes

/-- The signature of an algorithm as it is shown. -/
def text (indent : Nat) (algorithm : AlgorithmId) (bytes : Bytes) : String :=
  if (objectArcs? algorithm.object).any (pairArcs.contains ·) then
    match pair? bytes with
    | some (first, second) =>
      labeledNumber indent "r:   " first ++ labeledNumber indent "s:   " second
    | none => bytesText indent bytes
  else
    bytesText indent bytes

end OwnerKeys.Signature
