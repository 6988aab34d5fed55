import OwnerKeys.Certificate.ObjectName.Basic

/-!
# Objects for elliptic curves

The curves that have a name, and the algorithms that use them.
-/

namespace OwnerKeys.ObjectName

/-- The objects for elliptic curves. -/
def elliptic : List ObjectName :=
  [ under [1, 2, 840]
      [(10045, "ansi-X9-62", "ANSI X9.62")],
    under [1, 2, 840, 10045, 1]
      [(1, "prime-field", "prime-field"),
       (2, "characteristic-two-field", "characteristic-two-field")],
    under [1, 2, 840, 10045, 1, 2]
      [(3, "id-characteristic-two-basis", "id-characteristic-two-basis")],
    under [1, 2, 840, 10045, 1, 2, 3]
      [(1, "onBasis", "onBasis"), (2, "tpBasis", "tpBasis"), (3, "ppBasis", "ppBasis")],
    under [1, 2, 840, 10045, 2]
      [(1, "id-ecPublicKey", "id-ecPublicKey")],
    under [1, 2, 840, 10045, 3, 0]
      [(1, "c2pnb163v1", "c2pnb163v1"), (2, "c2pnb163v2", "c2pnb163v2"),
       (3, "c2pnb163v3", "c2pnb163v3"), (4, "c2pnb176v1", "c2pnb176v1"),
       (5, "c2tnb191v1", "c2tnb191v1"), (6, "c2tnb191v2", "c2tnb191v2"),
       (7, "c2tnb191v3", "c2tnb191v3"), (8, "c2onb191v4", "c2onb191v4"),
       (9, "c2onb191v5", "c2onb191v5"), (10, "c2pnb208w1", "c2pnb208w1"),
       (11, "c2tnb239v1", "c2tnb239v1"), (12, "c2tnb239v2", "c2tnb239v2"),
       (13, "c2tnb239v3", "c2tnb239v3"), (14, "c2onb239v4", "c2onb239v4"),
       (15, "c2onb239v5", "c2onb239v5"), (16, "c2pnb272w1", "c2pnb272w1"),
       (17, "c2pnb304w1", "c2pnb304w1"), (18, "c2tnb359v1", "c2tnb359v1"),
       (19, "c2pnb368w1", "c2pnb368w1"), (20, "c2tnb431r1", "c2tnb431r1")],
    under [1, 2, 840, 10045, 3, 1]
      [(1, "prime192v1", "prime192v1"), (2, "prime192v2", "prime192v2"),
       (3, "prime192v3", "prime192v3"), (4, "prime239v1", "prime239v1"),
       (5, "prime239v2", "prime239v2"), (6, "prime239v3", "prime239v3"),
       (7, "prime256v1", "prime256v1")],
    under [1, 2, 840, 10045, 4]
      [(1, "ecdsa-with-SHA1", "ecdsa-with-SHA1"),
       (2, "ecdsa-with-Recommended", "ecdsa-with-Recommended"),
       (3, "ecdsa-with-Specified", "ecdsa-with-Specified")],
    under [1, 2, 840, 10045, 4, 3]
      [(1, "ecdsa-with-SHA224", "ecdsa-with-SHA224"),
       (2, "ecdsa-with-SHA256", "ecdsa-with-SHA256"),
       (3, "ecdsa-with-SHA384", "ecdsa-with-SHA384"),
       (4, "ecdsa-with-SHA512", "ecdsa-with-SHA512")],
    under [1, 3]
      [(132, "certicom-arc", "certicom-arc")],
    under [1, 3, 36, 3, 3, 1]
      [(2, "RSA-RIPEMD160", "ripemd160WithRSA")],
    under [1, 3, 36, 3, 3, 2, 8, 1, 1]
      [(1, "brainpoolP160r1", "brainpoolP160r1"), (2, "brainpoolP160t1", "brainpoolP160t1"),
       (3, "brainpoolP192r1", "brainpoolP192r1"), (4, "brainpoolP192t1", "brainpoolP192t1"),
       (5, "brainpoolP224r1", "brainpoolP224r1"), (6, "brainpoolP224t1", "brainpoolP224t1"),
       (7, "brainpoolP256r1", "brainpoolP256r1"), (8, "brainpoolP256t1", "brainpoolP256t1"),
       (9, "brainpoolP320r1", "brainpoolP320r1"), (10, "brainpoolP320t1", "brainpoolP320t1"),
       (11, "brainpoolP384r1", "brainpoolP384r1"), (12, "brainpoolP384t1", "brainpoolP384t1"),
       (13, "brainpoolP512r1", "brainpoolP512r1"), (14, "brainpoolP512t1", "brainpoolP512t1")],
    under [1, 3, 132, 0]
      [(1, "sect163k1", "sect163k1"), (2, "sect163r1", "sect163r1"), (3, "sect239k1", "sect239k1"),
       (4, "sect113r1", "sect113r1"), (5, "sect113r2", "sect113r2"), (6, "secp112r1", "secp112r1"),
       (7, "secp112r2", "secp112r2"), (8, "secp160r1", "secp160r1"), (9, "secp160k1", "secp160k1"),
       (10, "secp256k1", "secp256k1"), (15, "sect163r2", "sect163r2"),
       (16, "sect283k1", "sect283k1"), (17, "sect283r1", "sect283r1"),
       (22, "sect131r1", "sect131r1"), (23, "sect131r2", "sect131r2"),
       (24, "sect193r1", "sect193r1"), (25, "sect193r2", "sect193r2"),
       (26, "sect233k1", "sect233k1"), (27, "sect233r1", "sect233r1"),
       (28, "secp128r1", "secp128r1"), (29, "secp128r2", "secp128r2"),
       (30, "secp160r2", "secp160r2"), (31, "secp192k1", "secp192k1"),
       (32, "secp224k1", "secp224k1"), (33, "secp224r1", "secp224r1"),
       (34, "secp384r1", "secp384r1"), (35, "secp521r1", "secp521r1"),
       (36, "sect409k1", "sect409k1"), (37, "sect409r1", "sect409r1"),
       (38, "sect571k1", "sect571k1"), (39, "sect571r1", "sect571r1")],
    under [1, 3, 132, 1, 11]
      [(0, "dhSinglePass-stdDH-sha224kdf-scheme", "dhSinglePass-stdDH-sha224kdf-scheme"),
       (1, "dhSinglePass-stdDH-sha256kdf-scheme", "dhSinglePass-stdDH-sha256kdf-scheme"),
       (2, "dhSinglePass-stdDH-sha384kdf-scheme", "dhSinglePass-stdDH-sha384kdf-scheme"),
       (3, "dhSinglePass-stdDH-sha512kdf-scheme", "dhSinglePass-stdDH-sha512kdf-scheme")],
    under [1, 3, 132, 1, 14]
      [(0, "dhSinglePass-cofactorDH-sha224kdf-scheme",
        "dhSinglePass-cofactorDH-sha224kdf-scheme"),
       (1, "dhSinglePass-cofactorDH-sha256kdf-scheme",
        "dhSinglePass-cofactorDH-sha256kdf-scheme"),
       (2, "dhSinglePass-cofactorDH-sha384kdf-scheme",
        "dhSinglePass-cofactorDH-sha384kdf-scheme"),
       (3, "dhSinglePass-cofactorDH-sha512kdf-scheme",
        "dhSinglePass-cofactorDH-sha512kdf-scheme")],
    under [1, 3, 133, 16, 840, 63, 0]
      [(2, "dhSinglePass-stdDH-sha1kdf-scheme", "dhSinglePass-stdDH-sha1kdf-scheme"),
       (3, "dhSinglePass-cofactorDH-sha1kdf-scheme",
        "dhSinglePass-cofactorDH-sha1kdf-scheme")] ].flatten

end OwnerKeys.ObjectName
