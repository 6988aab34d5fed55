import OwnerKeys.Certificate.Curve.Basic

/-!
# Further curves

The curves of the protocol for wireless devices, some of which are also in other standards, and the
curve of a national standard.
-/

namespace OwnerKeys.Curve

/-- The curves for wireless devices. -/
def wireless : List Curve :=
  [{  arcs := [2, 23, 43, 1, 4, 1]
      name := "wap-wsg-idm-ecid-wtls1"
      federalName := none
      equation := .overBinary 0x20000000000000000000000000201 1 1
      orderBits := 112 },
    { arcs := [2, 23, 43, 1, 4, 3]
      name := "wap-wsg-idm-ecid-wtls3"
      federalName := none
      equation := .overBinary 0x800000000000000000000000000000000000000c9 1 1
      orderBits := 163 },
    { arcs := [2, 23, 43, 1, 4, 4]
      name := "wap-wsg-idm-ecid-wtls4"
      federalName := none
      equation := .overBinary
          0x20000000000000000000000000201
          0x3088250ca6e7c7fe649ce85820f7
          0xe8bee4d3e2260744188be0e9c723
      orderBits := 113 },
    { arcs := [2, 23, 43, 1, 4, 5]
      name := "wap-wsg-idm-ecid-wtls5"
      federalName := none
      equation := .overBinary
          0x80000000000000000000000000000000000000107
          0x72546b5435234a422e0789675f432c89435de5242
          0xc9517d06d5240d3cff38c74b20b6cd4d6f9dd4d9
      orderBits := 163 },
    { arcs := [2, 23, 43, 1, 4, 6]
      name := "wap-wsg-idm-ecid-wtls6"
      federalName := none
      equation := .overPrime
          0xdb7c2abf62e35e668076bead208b
          0xdb7c2abf62e35e668076bead2088
          0x659ef8ba043916eede8911702b22
      orderBits := 112 },
    { arcs := [2, 23, 43, 1, 4, 7]
      name := "wap-wsg-idm-ecid-wtls7"
      federalName := none
      equation := .overPrime
          0xfffffffffffffffffffffffffffffffeffffac73
          0xfffffffffffffffffffffffffffffffeffffac70
          0xb4e134d3fb59eb8bab57274904664d5af50388ba
      orderBits := 161 },
    { arcs := [2, 23, 43, 1, 4, 8]
      name := "wap-wsg-idm-ecid-wtls8"
      federalName := none
      equation := .overPrime 0xfffffffffffffffffffffffffde7 0 3
      orderBits := 113 },
    { arcs := [2, 23, 43, 1, 4, 9]
      name := "wap-wsg-idm-ecid-wtls9"
      federalName := none
      equation := .overPrime 0xfffffffffffffffffffffffffffffffffffc808f 0 3
      orderBits := 161 },
    { arcs := [2, 23, 43, 1, 4, 10]
      name := "wap-wsg-idm-ecid-wtls10"
      federalName := none
      equation := .overBinary 0x20000000000000000000000000000000000000004000000000000000001 0 1
      orderBits := 232 },
    { arcs := [2, 23, 43, 1, 4, 11]
      name := "wap-wsg-idm-ecid-wtls11"
      federalName := none
      equation := .overBinary
          0x20000000000000000000000000000000000000004000000000000000001
          1
          0x66647ede6c332c7f8c0923bb58213b333b20e9ce4281fe115f7d8f90ad
      orderBits := 233 },
    { arcs := [2, 23, 43, 1, 4, 12]
      name := "wap-wsg-idm-ecid-wtls12"
      federalName := none
      equation := .overPrime
          0xffffffffffffffffffffffffffffffff000000000000000000000001
          0xfffffffffffffffffffffffffffffffefffffffffffffffffffffffe
          0xb4050a850c04b3abf54132565044b0b7d7bfd8ba270b39432355ffb4
      orderBits := 224 }]

/-- The curve of a national standard. -/
def national : List Curve :=
  [{  arcs := [1, 2, 156, 10197, 1, 301]
      name := "SM2"
      federalName := none
      equation := .overPrime
          0xfffffffeffffffffffffffffffffffffffffffff00000000ffffffffffffffff
          0xfffffffeffffffffffffffffffffffffffffffff00000000fffffffffffffffc
          0x28e9fa9e9d9f5e344d5a9e4bcf6509a7f39789f515ab8f92ddbcbd414d940e93
      orderBits := 256 }]

end OwnerKeys.Curve
