import OwnerKeys.Certificate.Curve.Basic

/-!
# Curves with verifiable parameters

Pairs of curves over prime fields whose parameters are derived from the digits of known numbers.
The two curves of a pair are twists of each other.
-/

namespace OwnerKeys.Curve

/-- The curves, by the number of their bits. -/
def brainpool : List Curve :=
  [{  arcs := [1, 3, 36, 3, 3, 2, 8, 1, 1, 1]
      name := "brainpoolP160r1"
      federalName := none
      equation := .overPrime
          0xe95e4a5f737059dc60dfc7ad95b3d8139515620f
          0x340e7be2a280eb74e2be61bada745d97e8f7c300
          0x1e589a8595423412134faa2dbdec95c8d8675e58
      orderBits := 160 },
    { arcs := [1, 3, 36, 3, 3, 2, 8, 1, 1, 2]
      name := "brainpoolP160t1"
      federalName := none
      equation := .overPrime
          0xe95e4a5f737059dc60dfc7ad95b3d8139515620f
          0xe95e4a5f737059dc60dfc7ad95b3d8139515620c
          0x7a556b6dae535b7b51ed2c4d7daa7a0b5c55f380
      orderBits := 160 },
    { arcs := [1, 3, 36, 3, 3, 2, 8, 1, 1, 3]
      name := "brainpoolP192r1"
      federalName := none
      equation := .overPrime
          0xc302f41d932a36cda7a3463093d18db78fce476de1a86297
          0x6a91174076b1e0e19c39c031fe8685c1cae040e5c69a28ef
          0x469a28ef7c28cca3dc721d044f4496bcca7ef4146fbf25c9
      orderBits := 192 },
    { arcs := [1, 3, 36, 3, 3, 2, 8, 1, 1, 4]
      name := "brainpoolP192t1"
      federalName := none
      equation := .overPrime
          0xc302f41d932a36cda7a3463093d18db78fce476de1a86297
          0xc302f41d932a36cda7a3463093d18db78fce476de1a86294
          0x13d56ffaec78681e68f9deb43b35bec2fb68542e27897b79
      orderBits := 192 },
    { arcs := [1, 3, 36, 3, 3, 2, 8, 1, 1, 5]
      name := "brainpoolP224r1"
      federalName := none
      equation := .overPrime
          0xd7c134aa264366862a18302575d1d787b09f075797da89f57ec8c0ff
          0x68a5e62ca9ce6c1c299803a6c1530b514e182ad8b0042a59cad29f43
          0x2580f63ccfe44138870713b1a92369e33e2135d266dbb372386c400b
      orderBits := 224 },
    { arcs := [1, 3, 36, 3, 3, 2, 8, 1, 1, 6]
      name := "brainpoolP224t1"
      federalName := none
      equation := .overPrime
          0xd7c134aa264366862a18302575d1d787b09f075797da89f57ec8c0ff
          0xd7c134aa264366862a18302575d1d787b09f075797da89f57ec8c0fc
          0x4b337d934104cd7bef271bf60ced1ed20da14c08b3bb64f18a60888d
      orderBits := 224 },
    { arcs := [1, 3, 36, 3, 3, 2, 8, 1, 1, 7]
      name := "brainpoolP256r1"
      federalName := none
      equation := .overPrime
          0xa9fb57dba1eea9bc3e660a909d838d726e3bf623d52620282013481d1f6e5377
          0x7d5a0975fc2c3057eef67530417affe7fb8055c126dc5c6ce94a4b44f330b5d9
          0x26dc5c6ce94a4b44f330b5d9bbd77cbf958416295cf7e1ce6bccdc18ff8c07b6
      orderBits := 256 },
    { arcs := [1, 3, 36, 3, 3, 2, 8, 1, 1, 8]
      name := "brainpoolP256t1"
      federalName := none
      equation := .overPrime
          0xa9fb57dba1eea9bc3e660a909d838d726e3bf623d52620282013481d1f6e5377
          0xa9fb57dba1eea9bc3e660a909d838d726e3bf623d52620282013481d1f6e5374
          0x662c61c430d84ea4fe66a7733d0b76b7bf93ebc4af2f49256ae58101fee92b04
      orderBits := 256 },
    { arcs := [1, 3, 36, 3, 3, 2, 8, 1, 1, 9]
      name := "brainpoolP320r1"
      federalName := none
      equation := .overPrime
          (words [0xd35e472036bc4fb7,
            0xe13c785ed201e065f98fcfa6f6f40def4f92b9ec7893ec28fcd412b1f1b32e27])
          (words [0x3ee30b568fbab0f8,
            0x83ccebd46d3f3bb8a2a73513f5eb79da66190eb085ffa9f492f375a97d860eb4])
          (words [0x520883949dfdbc42,
            0xd3ad198640688a6fe13f41349554b49acc31dccd884539816f5eb4ac8fb1f1a6])
      orderBits := 320 },
    { arcs := [1, 3, 36, 3, 3, 2, 8, 1, 1, 10]
      name := "brainpoolP320t1"
      federalName := none
      equation := .overPrime
          (words [0xd35e472036bc4fb7,
            0xe13c785ed201e065f98fcfa6f6f40def4f92b9ec7893ec28fcd412b1f1b32e27])
          (words [0xd35e472036bc4fb7,
            0xe13c785ed201e065f98fcfa6f6f40def4f92b9ec7893ec28fcd412b1f1b32e24])
          (words [0xa7f561e038eb1ed5,
            0x60b3d147db782013064c19f27ed27c6780aaf77fb8a547ceb5b4fef422340353])
      orderBits := 320 },
    { arcs := [1, 3, 36, 3, 3, 2, 8, 1, 1, 11]
      name := "brainpoolP384r1"
      federalName := none
      equation := .overPrime
          (words [0x8cb91e82a3386d280f5d6f7e50e641df,
            0x152f7109ed5456b412b1da197fb71123acd3a729901d1a71874700133107ec53])
          (words [0x7bc382c63d8c150c3c72080ace05afa0,
            0xc2bea28e4fb22787139165efba91f90f8aa5814a503ad4eb04a8c7dd22ce2826])
          (words [0x4a8c7dd22ce28268b39b55416f0447c,
            0x2fb77de107dcd2a62e880ea53eeb62d57cb4390295dbc9943ab78696fa504c11])
      orderBits := 384 },
    { arcs := [1, 3, 36, 3, 3, 2, 8, 1, 1, 12]
      name := "brainpoolP384t1"
      federalName := none
      equation := .overPrime
          (words [0x8cb91e82a3386d280f5d6f7e50e641df,
            0x152f7109ed5456b412b1da197fb71123acd3a729901d1a71874700133107ec53])
          (words [0x8cb91e82a3386d280f5d6f7e50e641df,
            0x152f7109ed5456b412b1da197fb71123acd3a729901d1a71874700133107ec50])
          (words [0x7f519eada7bda81bd826dba647910f8c,
            0x4b9346ed8ccdc64e4b1abd11756dce1d2074aa263b88805ced70355a33b471ee])
      orderBits := 384 },
    { arcs := [1, 3, 36, 3, 3, 2, 8, 1, 1, 13]
      name := "brainpoolP512r1"
      federalName := none
      equation := .overPrime
          (words [0xaadd9db8dbe9c48b3fd4e6ae33c9fc07cb308db3b3c9d20ed6639cca70330871,
            0x7d4d9b009bc66842aecda12ae6a380e62881ff2f2d82c68528aa6056583a48f3])
          (words [0x7830a3318b603b89e2327145ac234cc594cbdd8d3df91610a83441caea9863bc,
            0x2ded5d5aa8253aa10a2ef1c98b9ac8b57f1117a72bf2c7b9e7c1ac4d77fc94ca])
          (words [0x3df91610a83441caea9863bc2ded5d5aa8253aa10a2ef1c98b9ac8b57f1117a7,
            0x2bf2c7b9e7c1ac4d77fc94cadc083e67984050b75ebae5dd2809bd638016f723])
      orderBits := 512 },
    { arcs := [1, 3, 36, 3, 3, 2, 8, 1, 1, 14]
      name := "brainpoolP512t1"
      federalName := none
      equation := .overPrime
          (words [0xaadd9db8dbe9c48b3fd4e6ae33c9fc07cb308db3b3c9d20ed6639cca70330871,
            0x7d4d9b009bc66842aecda12ae6a380e62881ff2f2d82c68528aa6056583a48f3])
          (words [0xaadd9db8dbe9c48b3fd4e6ae33c9fc07cb308db3b3c9d20ed6639cca70330871,
            0x7d4d9b009bc66842aecda12ae6a380e62881ff2f2d82c68528aa6056583a48f0])
          (words [0x7cbbbcf9441cfab76e1890e46884eae321f70c0bcb4981527897504bec3e36a6,
            0x2bcdfa2304976540f6450085f2dae145c22553b465763689180ea2571867423e])
      orderBits := 512 }]

end OwnerKeys.Curve
