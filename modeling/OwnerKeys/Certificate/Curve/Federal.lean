import OwnerKeys.Certificate.Curve.Basic

/-!
# Curves of the federal standard

The curves that have a name in the federal standard for signatures.
-/

namespace OwnerKeys.Curve

/-- The curves over prime fields. -/
def federalPrime : List Curve :=
  [{  arcs := [1, 2, 840, 10045, 3, 1, 1]
      name := "prime192v1"
      federalName := some "P-192"
      equation := .overPrime
          0xfffffffffffffffffffffffffffffffeffffffffffffffff
          0xfffffffffffffffffffffffffffffffefffffffffffffffc
          0x64210519e59c80e70fa7e9ab72243049feb8deecc146b9b1
      orderBits := 192 },
    { arcs := [1, 2, 840, 10045, 3, 1, 7]
      name := "prime256v1"
      federalName := some "P-256"
      equation := .overPrime
          0xffffffff00000001000000000000000000000000ffffffffffffffffffffffff
          0xffffffff00000001000000000000000000000000fffffffffffffffffffffffc
          0x5ac635d8aa3a93e7b3ebbd55769886bc651d06b0cc53b0f63bce3c3e27d2604b
      orderBits := 256 },
    { arcs := [1, 3, 132, 0, 33]
      name := "secp224r1"
      federalName := some "P-224"
      equation := .overPrime
          0xffffffffffffffffffffffffffffffff000000000000000000000001
          0xfffffffffffffffffffffffffffffffefffffffffffffffffffffffe
          0xb4050a850c04b3abf54132565044b0b7d7bfd8ba270b39432355ffb4
      orderBits := 224 },
    { arcs := [1, 3, 132, 0, 34]
      name := "secp384r1"
      federalName := some "P-384"
      equation := .overPrime
          (words [0xffffffffffffffffffffffffffffffff,
            0xfffffffffffffffffffffffffffffffeffffffff0000000000000000ffffffff])
          (words [0xffffffffffffffffffffffffffffffff,
            0xfffffffffffffffffffffffffffffffeffffffff0000000000000000fffffffc])
          (words [0xb3312fa7e23ee7e4988e056be3f82d19,
            0x181d9c6efe8141120314088f5013875ac656398d8a2ed19d2a85c8edd3ec2aef])
      orderBits := 384 },
    { arcs := [1, 3, 132, 0, 35]
      name := "secp521r1"
      federalName := some "P-521"
      equation := .overPrime
          (words [0x1ff,
            0xffffffffffffffffffffffffffffffffffffffffffffffffffffffffffffffff,
            0xffffffffffffffffffffffffffffffffffffffffffffffffffffffffffffffff])
          (words [0x1ff,
            0xffffffffffffffffffffffffffffffffffffffffffffffffffffffffffffffff,
            0xfffffffffffffffffffffffffffffffffffffffffffffffffffffffffffffffc])
          (words [0x51,
            0x953eb9618e1c9a1f929a21a0b68540eea2da725b99b315f3b8b489918ef109e1,
            0x56193951ec7e937b1652c0bd3bb1bf073573df883d2c34f1ef451fd46b503f00])
      orderBits := 521 }]

/-- The curves over binary fields. -/
def federalBinary : List Curve :=
  [{  arcs := [1, 3, 132, 0, 1]
      name := "sect163k1"
      federalName := some "K-163"
      equation := .overBinary 0x800000000000000000000000000000000000000c9 1 1
      orderBits := 163 },
    { arcs := [1, 3, 132, 0, 15]
      name := "sect163r2"
      federalName := some "B-163"
      equation := .overBinary
          0x800000000000000000000000000000000000000c9
          1
          0x20a601907b8c953ca1481eb10512f78744a3205fd
      orderBits := 163 },
    { arcs := [1, 3, 132, 0, 16]
      name := "sect283k1"
      federalName := some "K-283"
      equation := .overBinary
          (words [0x8000000,
            0x00000000000000000000000000000000000000000000000000000000000010a1])
          0
          1
      orderBits := 281 },
    { arcs := [1, 3, 132, 0, 17]
      name := "sect283r1"
      federalName := some "B-283"
      equation := .overBinary
          (words [0x8000000,
            0x00000000000000000000000000000000000000000000000000000000000010a1])
          1
          (words [0x27b680a,
            0xc8b8596da5a4af8a19a0303fca97fd7645309fa2a581485af6263e313b79a2f5])
      orderBits := 282 },
    { arcs := [1, 3, 132, 0, 26]
      name := "sect233k1"
      federalName := some "K-233"
      equation := .overBinary 0x20000000000000000000000000000000000000004000000000000000001 0 1
      orderBits := 232 },
    { arcs := [1, 3, 132, 0, 27]
      name := "sect233r1"
      federalName := some "B-233"
      equation := .overBinary
          0x20000000000000000000000000000000000000004000000000000000001
          1
          0x66647ede6c332c7f8c0923bb58213b333b20e9ce4281fe115f7d8f90ad
      orderBits := 233 },
    { arcs := [1, 3, 132, 0, 36]
      name := "sect409k1"
      federalName := some "K-409"
      equation := .overBinary
          (words [0x200000000000000000000000000000000000000,
            0x0000000000000000000000000000000000000000008000000000000000000001])
          0
          1
      orderBits := 407 },
    { arcs := [1, 3, 132, 0, 37]
      name := "sect409r1"
      federalName := some "B-409"
      equation := .overBinary
          (words [0x200000000000000000000000000000000000000,
            0x0000000000000000000000000000000000000000008000000000000000000001])
          1
          (words [0x21a5c2c8ee9feb5c4b9a753b7b476b7fd6422e,
            0xf1f3dd674761fa99d6ac27c8a9a197b272822f6cd57a55aa4f50ae317b13545f])
      orderBits := 409 },
    { arcs := [1, 3, 132, 0, 38]
      name := "sect571k1"
      federalName := some "K-571"
      equation := .overBinary
          (words [0x800000000000000,
            0x0000000000000000000000000000000000000000000000000000000000000000,
            0x0000000000000000000000000000000000000000000000000000000000000425])
          0
          1
      orderBits := 570 },
    { arcs := [1, 3, 132, 0, 39]
      name := "sect571r1"
      federalName := some "B-571"
      equation := .overBinary
          (words [0x800000000000000,
            0x0000000000000000000000000000000000000000000000000000000000000000,
            0x0000000000000000000000000000000000000000000000000000000000000425])
          1
          (words [0x2f40e7e2221f295,
            0xde297117b7f3d62f5c6a97ffcb8ceff1cd6ba8ce4a9a18ad84ffabbd8efa5933,
            0x2be7ad6756a66e294afd185a78ff12aa520e4de739baca0c7ffeff7f2955727a])
      orderBits := 570 }]

end OwnerKeys.Curve
