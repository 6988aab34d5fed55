import OwnerKeys.Certificate.Curve.Basic

/-!
# Curves for financial services

The curves of the standard for financial services that are not federal.
-/

namespace OwnerKeys.Curve

/-- The curves over prime fields. -/
def financialPrime : List Curve :=
  [{  arcs := [1, 2, 840, 10045, 3, 1, 2]
      name := "prime192v2"
      federalName := none
      equation := .overPrime
          0xfffffffffffffffffffffffffffffffeffffffffffffffff
          0xfffffffffffffffffffffffffffffffefffffffffffffffc
          0xcc22d6dfb95c6b25e49c0d6364a4e5980c393aa21668d953
      orderBits := 192 },
    { arcs := [1, 2, 840, 10045, 3, 1, 3]
      name := "prime192v3"
      federalName := none
      equation := .overPrime
          0xfffffffffffffffffffffffffffffffeffffffffffffffff
          0xfffffffffffffffffffffffffffffffefffffffffffffffc
          0x22123dc2395a05caa7423daeccc94760a7d462256bd56916
      orderBits := 192 },
    { arcs := [1, 2, 840, 10045, 3, 1, 4]
      name := "prime239v1"
      federalName := none
      equation := .overPrime
          0x7fffffffffffffffffffffff7fffffffffff8000000000007fffffffffff
          0x7fffffffffffffffffffffff7fffffffffff8000000000007ffffffffffc
          0x6b016c3bdcf18941d0d654921475ca71a9db2fb27d1d37796185c2942c0a
      orderBits := 239 },
    { arcs := [1, 2, 840, 10045, 3, 1, 5]
      name := "prime239v2"
      federalName := none
      equation := .overPrime
          0x7fffffffffffffffffffffff7fffffffffff8000000000007fffffffffff
          0x7fffffffffffffffffffffff7fffffffffff8000000000007ffffffffffc
          0x617fab6832576cbbfed50d99f0249c3fee58b94ba0038c7ae84c8c832f2c
      orderBits := 239 },
    { arcs := [1, 2, 840, 10045, 3, 1, 6]
      name := "prime239v3"
      federalName := none
      equation := .overPrime
          0x7fffffffffffffffffffffff7fffffffffff8000000000007fffffffffff
          0x7fffffffffffffffffffffff7fffffffffff8000000000007ffffffffffc
          0x255705fa2a306654b1f4cb03d6a750a30c250102d4988717d9ba15ab6d3e
      orderBits := 239 }]

/-- The curves over binary fields. -/
def financialBinary : List Curve :=
  [{  arcs := [1, 2, 840, 10045, 3, 0, 1]
      name := "c2pnb163v1"
      federalName := none
      equation := .overBinary
          0x80000000000000000000000000000000000000107
          0x72546b5435234a422e0789675f432c89435de5242
          0xc9517d06d5240d3cff38c74b20b6cd4d6f9dd4d9
      orderBits := 163 },
    { arcs := [1, 2, 840, 10045, 3, 0, 2]
      name := "c2pnb163v2"
      federalName := none
      equation := .overBinary
          0x80000000000000000000000000000000000000107
          0x108b39e77c4b108bed981ed0e890e117c511cf072
          0x667aceb38af4e488c407433ffae4f1c811638df20
      orderBits := 162 },
    { arcs := [1, 2, 840, 10045, 3, 0, 3]
      name := "c2pnb163v3"
      federalName := none
      equation := .overBinary
          0x80000000000000000000000000000000000000107
          0x7a526c63d3e25a256a007699f5447e32ae456b50e
          0x3f7061798eb99e238fd6f1bf95b48feeb4854252b
      orderBits := 162 },
    { arcs := [1, 2, 840, 10045, 3, 0, 4]
      name := "c2pnb176v1"
      federalName := none
      equation := .overBinary
          0x100000000000000000000000000000000080000000007
          0xe4e6db2995065c407d9d39b8d0967b96704ba8e9c90b
          0x5dda470abe6414de8ec133ae28e9bbd7fcec0ae0fff2
      orderBits := 161 },
    { arcs := [1, 2, 840, 10045, 3, 0, 5]
      name := "c2tnb191v1"
      federalName := none
      equation := .overBinary
          0x800000000000000000000000000000000000000000000201
          0x2866537b676752636a68f56554e12640276b649ef7526267
          0x2e45ef571f00786f67b0081b9495a3d95462f5de0aa185ec
      orderBits := 191 },
    { arcs := [1, 2, 840, 10045, 3, 0, 6]
      name := "c2tnb191v2"
      federalName := none
      equation := .overBinary
          0x800000000000000000000000000000000000000000000201
          0x401028774d7777c7b7666d1366ea432071274f89ff01e718
          0x620048d28bcbd03b6249c99182b7c8cd19700c362c46a01
      orderBits := 190 },
    { arcs := [1, 2, 840, 10045, 3, 0, 7]
      name := "c2tnb191v3"
      federalName := none
      equation := .overBinary
          0x800000000000000000000000000000000000000000000201
          0x6c01074756099122221056911c77d77e77a777e7e7e77fcb
          0x71fe1af926cf847989efef8db459f66394d90f32ad3f15e8
      orderBits := 189 },
    { arcs := [1, 2, 840, 10045, 3, 0, 10]
      name := "c2pnb208w1"
      federalName := none
      equation := .overBinary
          0x10000000000000000000000000000000800000000000000000007
          0
          0xc8619ed45a62e6212e1160349e2bfa844439fafc2a3fd1638f9e
      orderBits := 193 },
    { arcs := [1, 2, 840, 10045, 3, 0, 11]
      name := "c2tnb239v1"
      federalName := none
      equation := .overBinary
          0x800000000000000000000000000000000000000000000000001000000001
          0x32010857077c5431123a46b808906756f543423e8d27877578125778ac76
          0x790408f2eedaf392b012edefb3392f30f4327c0ca3f31fc383c422aa8c16
      orderBits := 238 },
    { arcs := [1, 2, 840, 10045, 3, 0, 12]
      name := "c2tnb239v2"
      federalName := none
      equation := .overBinary
          0x800000000000000000000000000000000000000000000000001000000001
          0x4230017757a767fae42398569b746325d45313af0766266479b75654e65f
          0x5037ea654196cff0cd82b2c14a2fcf2e3ff8775285b545722f03eacdb74b
      orderBits := 237 },
    { arcs := [1, 2, 840, 10045, 3, 0, 13]
      name := "c2tnb239v3"
      federalName := none
      equation := .overBinary
          0x800000000000000000000000000000000000000000000000001000000001
          0x1238774666a67766d6676f778e676b66999176666e687666d8766c66a9f
          0x6a941977ba9f6a435199acfc51067ed587f519c5ecb541b8e44111de1d40
      orderBits := 236 },
    { arcs := [1, 2, 840, 10045, 3, 0, 16]
      name := "c2pnb272w1"
      federalName := none
      equation := .overBinary
          (words [0x10000,
            0x000000000000000000000000000000000000000000000000010000000000000b])
          (words [0x91a0,
            0x91f03b5fba4ab2ccf49c4edd220fb028712d42be752b2c40094dbacdb586fb20])
          (words [0x7167,
            0xefc92bb2e3ce7c8aaaff34e12a9c557003d7c73a6faf003f99f6cc8482e540f7])
      orderBits := 257 },
    { arcs := [1, 2, 840, 10045, 3, 0, 17]
      name := "c2pnb304w1"
      federalName := none
      equation := .overBinary
          (words [0x1000000000000,
            0x0000000000000000000000000000000000000000000000000000000000000807])
          (words [0xfd0d693149a1,
            0x18f651e6dce6802085377e5f882d1b510b44160074c1288078365a0396c8e681])
          (words [0xbddb97e555a5,
            0x0a908e43b01c798ea5daa6788f1ea2794efcf57166b8c14039601e55827340be])
      orderBits := 289 },
    { arcs := [1, 2, 840, 10045, 3, 0, 18]
      name := "c2tnb359v1"
      federalName := none
      equation := .overBinary
          (words [0x80000000000000000000000000,
            0x0000000000000000000000000000000000000000000000100000000000000001])
          (words [0x5667676a654b20754f356ea920,
            0x17d946567c46675556f19556a04616b567d223a5e05656fb549016a96656a557])
          (words [0x2472e2d0197c49363f1fe7f5b6,
            0xdb075d52b6947d135d8ca445805d39bc345626089687742b6329e70680231988])
      orderBits := 353 },
    { arcs := [1, 2, 840, 10045, 3, 0, 19]
      name := "c2pnb368w1"
      federalName := none
      equation := .overBinary
          (words [0x10000000000000000000000000000,
            0x0000000000000000000000000000000000000000002000000000000000000007])
          (words [0xe0d2ee25095206f5e2a4f9ed229f,
            0x1f256e79a0e2b455970d8d0d865bd94778c576d62f0ab7519ccd2a1a906ae30d])
          (words [0xfc1217d4320a90452c760a58edcd,
            0x30c8dd069b3c34453837a34ed50cb54917e1c2112d84d164f444f8f74786046a])
      orderBits := 353 },
    { arcs := [1, 2, 840, 10045, 3, 0, 20]
      name := "c2tnb431r1"
      federalName := none
      equation := .overBinary
          (words [0x80000000000000000000000000000000000000000000,
            0x0000000000000000000000000000000001000000000000000000000000000001])
          (words [0x1a827ef00dd6fc0e234caf046c6a5d8a85395b236cc4,
            0xad2cf32a0cadbdc9ddf620b0eb9906d0957f6c6feacd615468df104de296cd8f])
          (words [0x10d9b4a3d9047d8b154359abfb1b7f5485b04ceb8682,
            0x37ddc9deda982a679a5a919b626d4e50a8dd731b107a9962381fb5d807bf2618])
      orderBits := 418 }]

end OwnerKeys.Curve
