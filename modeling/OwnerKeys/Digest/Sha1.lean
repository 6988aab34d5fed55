import OwnerKeys.Digest

/-!
# SHA-1

The 160-bit digest by which certificates are listed. It only names a certificate to the operator;
nothing relies on it for security.
-/

namespace OwnerKeys.Sha1

/-- The chaining value: five words. -/
structure State where
  /-- The first word. -/
  a : UInt32
  /-- The second word. -/
  b : UInt32
  /-- The third word. -/
  c : UInt32
  /-- The fourth word. -/
  d : UInt32
  /-- The fifth word. -/
  e : UInt32
deriving DecidableEq, Repr

/-- The chaining value before the first block. -/
def initial : State :=
  ⟨0x67452301, 0xefcdab89, 0x98badcfe, 0x10325476, 0xc3d2e1f0⟩

/-- One word before those given, newest first, in the schedule of a block. -/
def nextWord (recent : List UInt32) : UInt32 :=
  Digest.rotateLeft
    (recent.getD 2 0 ^^^ recent.getD 7 0 ^^^ recent.getD 13 0 ^^^ recent.getD 15 0) 1

/-- The schedule grown by a number of words; newest first. -/
def grow : Nat → List UInt32 → List UInt32
  | 0, recent => recent
  | count + 1, recent => grow count (nextWord recent :: recent)

/-- The 80 words that a block contributes, oldest first. -/
def schedule (block : List UInt32) : List UInt32 :=
  (grow 64 block.reverse).reverse

/-- The mixing function and the constant of a round. -/
def roundTerm (round : Nat) (b c d : UInt32) : UInt32 :=
  if round < 20 then ((b &&& c) ||| (~~~b &&& d)) + 0x5a827999
  else if round < 40 then (b ^^^ c ^^^ d) + 0x6ed9eba1
  else if round < 60 then ((b &&& c) ||| (b &&& d) ||| (c &&& d)) + 0x8f1bbcdc
  else (b ^^^ c ^^^ d) + 0xca62c1d6

/-- One round. -/
def step (state : State) (word : UInt32 × Nat) : State where
  a := Digest.rotateLeft state.a 5 + roundTerm word.2 state.b state.c state.d + state.e + word.1
  b := state.a
  c := Digest.rotateLeft state.b 30
  d := state.c
  e := state.d

/-- The chaining value after a block. -/
def compress (state : State) (block : List UInt32) : State :=
  let mixed := (schedule block).zipIdx.foldl step state
  ⟨state.a + mixed.a, state.b + mixed.b, state.c + mixed.c, state.d + mixed.d,
    state.e + mixed.e⟩

/-- The 20 bytes of the digest of a message. -/
def digest (message : Bytes) : Bytes :=
  let state := (Digest.blocks (Digest.pad message)).foldl compress initial
  [state.a, state.b, state.c, state.d, state.e].flatMap Digest.bigEndian

@[simp]
theorem length_digest (message : Bytes) : (digest message).length = 20 := rfl

end OwnerKeys.Sha1
