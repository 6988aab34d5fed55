import OwnerKeys.Certificate.PublicKey.Elliptic
import OwnerKeys.Certificate.PublicKey.Fixed
import OwnerKeys.Certificate.PublicKey.Power
import OwnerKeys.Certificate.PublicKey.Rsa

/-!
# Public keys

A public key is the pair of numbers of RSA, a point of a curve, a power of a number, or a string of
bytes whose length the algorithm fixes. Keys of any other kind, and keys that are broken, cannot be
shown.
-/

namespace OwnerKeys

/-- A public key. -/
inductive PublicKey where
  /-- A modulus and an exponent. -/
  | rsa (key : RsaKey)
  /-- A point of a curve. -/
  | elliptic (key : EllipticKey)
  /-- A power. -/
  | power (key : PowerKey)
  /-- A byte string. -/
  | fixed (key : FixedKey)
deriving DecidableEq, Repr

namespace PublicKey

/-- The key in a certificate. -/
def ofInfo? (info : PublicKeyInfo) : Option PublicKey :=
  let algorithm := info.algorithm
  let bytes := info.key.bytes
  match RsaKey.use? algorithm, PowerKey.kind? algorithm with
  | some use, _ => (RsaKey.ofBytes? use bytes).map rsa
  | none, some _ => (PowerKey.ofBytes? algorithm bytes).map power
  | none, none =>
    if Asn1.objectArcs? algorithm.object = some EllipticKey.arcs then
      (EllipticKey.ofBytes? algorithm.parameters bytes).map elliptic
    else
      (FixedKey.ofBytes? algorithm bytes).map fixed

/-- A key as it is shown. -/
def text (indent : Nat) : PublicKey → String
  | rsa key => key.text indent
  | elliptic key => key.text indent
  | power key => key.text indent
  | fixed key => key.text indent

end PublicKey

end OwnerKeys
