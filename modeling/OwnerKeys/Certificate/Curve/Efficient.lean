import OwnerKeys.Certificate.Curve.Basic

/-!
# Curves for efficient cryptography

The curves of the standards for efficient cryptography that are not federal.
-/

namespace OwnerKeys.Curve

/-- The curves over prime fields. -/
def efficientPrime : List Curve :=
  [{  arcs := [1, 3, 132, 0, 6]
      name := "secp112r1"
      federalName := none
      equation := .overPrime
          0xdb7c2abf62e35e668076bead208b
          0xdb7c2abf62e35e668076bead2088
          0x659ef8ba043916eede8911702b22
      orderBits := 112 },
    { arcs := [1, 3, 132, 0, 7]
      name := "secp112r2"
      federalName := none
      equation := .overPrime
          0xdb7c2abf62e35e668076bead208b
          0x6127c24c05f38a0aaaf65c0ef02c
          0x51def1815db5ed74fcc34c85d709
      orderBits := 110 },
    { arcs := [1, 3, 132, 0, 8]
      name := "secp160r1"
      federalName := none
      equation := .overPrime
          0xffffffffffffffffffffffffffffffff7fffffff
          0xffffffffffffffffffffffffffffffff7ffffffc
          0x1c97befc54bd7a8b65acf89f81d4d4adc565fa45
      orderBits := 161 },
    { arcs := [1, 3, 132, 0, 9]
      name := "secp160k1"
      federalName := none
      equation := .overPrime 0xfffffffffffffffffffffffffffffffeffffac73 0 7
      orderBits := 161 },
    { arcs := [1, 3, 132, 0, 10]
      name := "secp256k1"
      federalName := none
      equation := .overPrime
          0xfffffffffffffffffffffffffffffffffffffffffffffffffffffffefffffc2f
          0
          7
      orderBits := 256 },
    { arcs := [1, 3, 132, 0, 28]
      name := "secp128r1"
      federalName := none
      equation := .overPrime
          0xfffffffdffffffffffffffffffffffff
          0xfffffffdfffffffffffffffffffffffc
          0xe87579c11079f43dd824993c2cee5ed3
      orderBits := 128 },
    { arcs := [1, 3, 132, 0, 29]
      name := "secp128r2"
      federalName := none
      equation := .overPrime
          0xfffffffdffffffffffffffffffffffff
          0xd6031998d1b3bbfebf59cc9bbff9aee1
          0x5eeefca380d02919dc2c6558bb6d8a5d
      orderBits := 126 },
    { arcs := [1, 3, 132, 0, 30]
      name := "secp160r2"
      federalName := none
      equation := .overPrime
          0xfffffffffffffffffffffffffffffffeffffac73
          0xfffffffffffffffffffffffffffffffeffffac70
          0xb4e134d3fb59eb8bab57274904664d5af50388ba
      orderBits := 161 },
    { arcs := [1, 3, 132, 0, 31]
      name := "secp192k1"
      federalName := none
      equation := .overPrime 0xfffffffffffffffffffffffffffffffffffffffeffffee37 0 3
      orderBits := 192 },
    { arcs := [1, 3, 132, 0, 32]
      name := "secp224k1"
      federalName := none
      equation := .overPrime 0xfffffffffffffffffffffffffffffffffffffffffffffffeffffe56d 0 5
      orderBits := 225 }]

/-- The curves over binary fields. -/
def efficientBinary : List Curve :=
  [{  arcs := [1, 3, 132, 0, 2]
      name := "sect163r1"
      federalName := none
      equation := .overBinary
          0x800000000000000000000000000000000000000c9
          0x7b6882caaefa84f9554ff8428bd88e246d2782ae2
          0x713612dcddcb40aab946bda29ca91f73af958afd9
      orderBits := 162 },
    { arcs := [1, 3, 132, 0, 3]
      name := "sect239k1"
      federalName := none
      equation := .overBinary 0x800000000000000000004000000000000000000000000000000000000001 0 1
      orderBits := 238 },
    { arcs := [1, 3, 132, 0, 4]
      name := "sect113r1"
      federalName := none
      equation := .overBinary
          0x20000000000000000000000000201
          0x3088250ca6e7c7fe649ce85820f7
          0xe8bee4d3e2260744188be0e9c723
      orderBits := 113 },
    { arcs := [1, 3, 132, 0, 5]
      name := "sect113r2"
      federalName := none
      equation := .overBinary
          0x20000000000000000000000000201
          0x689918dbec7e5a0dd6dfc0aa55c7
          0x95e9a9ec9b297bd4bf36e059184f
      orderBits := 113 },
    { arcs := [1, 3, 132, 0, 22]
      name := "sect131r1"
      federalName := none
      equation := .overBinary
          0x80000000000000000000000000000010d
          0x7a11b09a76b562144418ff3ff8c2570b8
          0x217c05610884b63b9c6c7291678f9d341
      orderBits := 131 },
    { arcs := [1, 3, 132, 0, 23]
      name := "sect131r2"
      federalName := none
      equation := .overBinary
          0x80000000000000000000000000000010d
          0x3e5a88919d7cafcbf415f07c2176573b2
          0x4b8266a46c55657ac734ce38f018f2192
      orderBits := 131 },
    { arcs := [1, 3, 132, 0, 24]
      name := "sect193r1"
      federalName := none
      equation := .overBinary
          0x2000000000000000000000000000000000000000000008001
          0x17858feb7a98975169e171f77b4087de098ac8a911df7b01
          0xfdfb49bfe6c3a89facadaa7a1e5bbc7cc1c2e5d831478814
      orderBits := 193 },
    { arcs := [1, 3, 132, 0, 25]
      name := "sect193r2"
      federalName := none
      equation := .overBinary
          0x2000000000000000000000000000000000000000000008001
          0x163f35a5137c2ce3ea6ed8667190b0bc43ecd69977702709b
          0xc9bb9e8927d4d64c377e2ab2856a5b16e3efb7f61d4316ae
      orderBits := 193 }]

end OwnerKeys.Curve
