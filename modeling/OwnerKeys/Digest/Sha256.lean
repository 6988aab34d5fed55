import OwnerKeys.Digest

/-!
# SHA-256

The 256-bit digest behind authentication tags.
-/

namespace OwnerKeys.Sha256

/-- The chaining value: eight words. -/
structure State where
  /-- The first word. -/
  a : UInt32
  /-- The second word. -/
  b : UInt32
  /-- The third word. -/
  c : UInt32
  /-- The fourth word. -/
  d : UInt32
  /-- The fifth word. -/
  e : UInt32
  /-- The sixth word. -/
  f : UInt32
  /-- The seventh word. -/
  g : UInt32
  /-- The eighth word. -/
  h : UInt32
deriving DecidableEq, Repr

/-- The chaining value before the first block. -/
def initial : State :=
  ⟨0x6a09e667, 0xbb67ae85, 0x3c6ef372, 0xa54ff53a, 0x510e527f, 0x9b05688c, 0x1f83d9ab, 0x5be0cd19⟩

/-- The constants of the 64 rounds. -/
def roundConstants : List UInt32 :=
  [0x428a2f98, 0x71374491, 0xb5c0fbcf, 0xe9b5dba5, 0x3956c25b, 0x59f111f1, 0x923f82a4, 0xab1c5ed5,
    0xd807aa98, 0x12835b01, 0x243185be, 0x550c7dc3, 0x72be5d74, 0x80deb1fe, 0x9bdc06a7, 0xc19bf174,
    0xe49b69c1, 0xefbe4786, 0x0fc19dc6, 0x240ca1cc, 0x2de92c6f, 0x4a7484aa, 0x5cb0a9dc, 0x76f988da,
    0x983e5152, 0xa831c66d, 0xb00327c8, 0xbf597fc7, 0xc6e00bf3, 0xd5a79147, 0x06ca6351, 0x14292967,
    0x27b70a85, 0x2e1b2138, 0x4d2c6dfc, 0x53380d13, 0x650a7354, 0x766a0abb, 0x81c2c92e, 0x92722c85,
    0xa2bfe8a1, 0xa81a664b, 0xc24b8b70, 0xc76c51a3, 0xd192e819, 0xd6990624, 0xf40e3585, 0x106aa070,
    0x19a4c116, 0x1e376c08, 0x2748774c, 0x34b0bcb5, 0x391c0cb3, 0x4ed8aa4a, 0x5b9cca4f, 0x682e6ff3,
    0x748f82ee, 0x78a5636f, 0x84c87814, 0x8cc70208, 0x90befffa, 0xa4506ceb, 0xbef9a3f7, 0xc67178f2]

/-- One word after those given, newest first, in the schedule of a block. -/
def nextWord (recent : List UInt32) : UInt32 :=
  let early := recent.getD 14 0
  let late := recent.getD 1 0
  let sigma0 := Digest.rotateRight early 7 ^^^ Digest.rotateRight early 18 ^^^ (early >>> 3)
  let sigma1 := Digest.rotateRight late 17 ^^^ Digest.rotateRight late 19 ^^^ (late >>> 10)
  recent.getD 15 0 + sigma0 + recent.getD 6 0 + sigma1

/-- The schedule grown by a number of words; newest first. -/
def grow : Nat → List UInt32 → List UInt32
  | 0, recent => recent
  | count + 1, recent => grow count (nextWord recent :: recent)

/-- The 64 words that a block contributes, oldest first. -/
def schedule (block : List UInt32) : List UInt32 :=
  (grow 48 block.reverse).reverse

/-- One round, with its constant and its word. -/
def step (state : State) (input : UInt32 × UInt32) : State :=
  let sum1 := Digest.rotateRight state.e 6 ^^^ Digest.rotateRight state.e 11 ^^^
    Digest.rotateRight state.e 25
  let choice := (state.e &&& state.f) ^^^ (~~~state.e &&& state.g)
  let added := state.h + sum1 + choice + input.1 + input.2
  let sum0 := Digest.rotateRight state.a 2 ^^^ Digest.rotateRight state.a 13 ^^^
    Digest.rotateRight state.a 22
  let majority := (state.a &&& state.b) ^^^ (state.a &&& state.c) ^^^ (state.b &&& state.c)
  ⟨added + (sum0 + majority), state.a, state.b, state.c, state.d + added, state.e, state.f, state.g⟩

/-- The chaining value after a block. -/
def compress (state : State) (block : List UInt32) : State :=
  let mixed := (roundConstants.zip (schedule block)).foldl step state
  ⟨state.a + mixed.a, state.b + mixed.b, state.c + mixed.c, state.d + mixed.d,
    state.e + mixed.e, state.f + mixed.f, state.g + mixed.g, state.h + mixed.h⟩

/-- The digest of a message. -/
def digest (message : Bytes) : Digest :=
  let state := (Digest.blocks (Digest.pad message)).foldl compress initial
  ⟨([state.a, state.b, state.c, state.d, state.e, state.f, state.g, state.h].flatMap
    Digest.bigEndian).toArray, rfl⟩

end OwnerKeys.Sha256
