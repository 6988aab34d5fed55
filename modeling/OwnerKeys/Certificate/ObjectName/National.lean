import OwnerKeys.Certificate.ObjectName.Basic

/-!
# Objects of national standards

The ciphers, digests, curves and attributes that single countries standardized.
-/

namespace OwnerKeys.ObjectName

/-- The objects of national standards. -/
def national : List ObjectName :=
  [ under [0, 3, 4401, 5, 3, 1, 9]
      [(1, "CAMELLIA-128-ECB", "camellia-128-ecb"), (3, "CAMELLIA-128-OFB", "camellia-128-ofb"),
       (4, "CAMELLIA-128-CFB", "camellia-128-cfb"), (6, "CAMELLIA-128-GCM", "camellia-128-gcm"),
       (7, "CAMELLIA-128-CCM", "camellia-128-ccm"), (9, "CAMELLIA-128-CTR", "camellia-128-ctr"),
       (10, "CAMELLIA-128-CMAC", "camellia-128-cmac"),
       (21, "CAMELLIA-192-ECB", "camellia-192-ecb"), (23, "CAMELLIA-192-OFB", "camellia-192-ofb"),
       (24, "CAMELLIA-192-CFB", "camellia-192-cfb"), (26, "CAMELLIA-192-GCM", "camellia-192-gcm"),
       (27, "CAMELLIA-192-CCM", "camellia-192-ccm"), (29, "CAMELLIA-192-CTR", "camellia-192-ctr"),
       (30, "CAMELLIA-192-CMAC", "camellia-192-cmac"),
       (41, "CAMELLIA-256-ECB", "camellia-256-ecb"), (43, "CAMELLIA-256-OFB", "camellia-256-ofb"),
       (44, "CAMELLIA-256-CFB", "camellia-256-cfb"), (46, "CAMELLIA-256-GCM", "camellia-256-gcm"),
       (47, "CAMELLIA-256-CCM", "camellia-256-ccm"), (49, "CAMELLIA-256-CTR", "camellia-256-ctr"),
       (50, "CAMELLIA-256-CMAC", "camellia-256-cmac")],
    under [1, 2]
      [(156, "ISO-CN", "ISO CN Member Body"), (804, "ISO-UA", "ISO-UA")],
    under [1, 2, 156]
      [(10197, "oscca", "oscca")],
    under [1, 2, 156, 10197]
      [(1, "sm-scheme", "sm-scheme")],
    under [1, 2, 156, 10197, 1]
      [(301, "SM2", "sm2"), (401, "SM3", "sm3"), (501, "SM2-SM3", "SM2-with-SM3"),
       (504, "RSA-SM3", "sm3WithRSAEncryption")],
    under [1, 2, 156, 10197, 1, 104]
      [(1, "SM4-ECB", "sm4-ecb"), (2, "SM4-CBC", "sm4-cbc"), (3, "SM4-OFB", "sm4-ofb"),
       (4, "SM4-CFB", "sm4-cfb"), (5, "SM4-CFB1", "sm4-cfb1"), (6, "SM4-CFB8", "sm4-cfb8"),
       (7, "SM4-CTR", "sm4-ctr"), (8, "SM4-GCM", "sm4-gcm"), (9, "SM4-CCM", "sm4-ccm"),
       (10, "SM4-XTS", "sm4-xts")],
    under [1, 2, 156, 10197, 1, 401, 3]
      [(1, "hmacWithSM3", "hmacWithSM3")],
    under [1, 2, 392, 200011, 61, 1, 1, 1]
      [(2, "CAMELLIA-128-CBC", "camellia-128-cbc"), (3, "CAMELLIA-192-CBC", "camellia-192-cbc"),
       (4, "CAMELLIA-256-CBC", "camellia-256-cbc")],
    under [1, 2, 392, 200011, 61, 1, 1, 3]
      [(2, "id-camellia128-wrap", "id-camellia128-wrap"),
       (3, "id-camellia192-wrap", "id-camellia192-wrap"),
       (4, "id-camellia256-wrap", "id-camellia256-wrap")],
    under [1, 2, 410]
      [(200004, "KISA", "kisa")],
    under [1, 2, 410, 200004, 1]
      [(3, "SEED-ECB", "seed-ecb"), (4, "SEED-CBC", "seed-cbc"), (5, "SEED-CFB", "seed-cfb"),
       (6, "SEED-OFB", "seed-ofb")],
    under [1, 2, 410, 200046, 1, 1]
      [(1, "ARIA-128-ECB", "aria-128-ecb"), (2, "ARIA-128-CBC", "aria-128-cbc"),
       (3, "ARIA-128-CFB", "aria-128-cfb"), (4, "ARIA-128-OFB", "aria-128-ofb"),
       (5, "ARIA-128-CTR", "aria-128-ctr"), (6, "ARIA-192-ECB", "aria-192-ecb"),
       (7, "ARIA-192-CBC", "aria-192-cbc"), (8, "ARIA-192-CFB", "aria-192-cfb"),
       (9, "ARIA-192-OFB", "aria-192-ofb"), (10, "ARIA-192-CTR", "aria-192-ctr"),
       (11, "ARIA-256-ECB", "aria-256-ecb"), (12, "ARIA-256-CBC", "aria-256-cbc"),
       (13, "ARIA-256-CFB", "aria-256-cfb"), (14, "ARIA-256-OFB", "aria-256-ofb"),
       (15, "ARIA-256-CTR", "aria-256-ctr"), (34, "ARIA-128-GCM", "aria-128-gcm"),
       (35, "ARIA-192-GCM", "aria-192-gcm"), (36, "ARIA-256-GCM", "aria-256-gcm"),
       (37, "ARIA-128-CCM", "aria-128-ccm"), (38, "ARIA-192-CCM", "aria-192-ccm"),
       (39, "ARIA-256-CCM", "aria-256-ccm")],
    under [1, 2, 643, 2]
      [(2, "cryptopro", "cryptopro"), (9, "cryptocom", "cryptocom")],
    under [1, 2, 643, 2, 2]
      [(3, "id-GostR3411-94-with-GostR3410-2001",
        "GOST R 34.11-94 with GOST R 34.10-2001"),
       (4, "id-GostR3411-94-with-GostR3410-94", "GOST R 34.11-94 with GOST R 34.10-94"),
       (9, "md_gost94", "GOST R 34.11-94"), (10, "id-HMACGostR3411-94", "HMAC GOST 34.11-94"),
       (19, "gost2001", "GOST R 34.10-2001"), (20, "gost94", "GOST R 34.10-94"),
       (21, "gost89", "GOST 28147-89"), (22, "gost-mac", "GOST 28147-89 MAC"),
       (23, "prf-gostr3411-94", "GOST R 34.11-94 PRF"),
       (98, "id-GostR3410-2001DH", "GOST R 34.10-2001 DH"),
       (99, "id-GostR3410-94DH", "GOST R 34.10-94 DH")],
    under [1, 2, 643, 2, 2, 14]
      [(0, "id-Gost28147-89-None-KeyMeshing", "id-Gost28147-89-None-KeyMeshing"),
       (1, "id-Gost28147-89-CryptoPro-KeyMeshing",
        "id-Gost28147-89-CryptoPro-KeyMeshing")],
    under [1, 2, 643, 2, 2, 20]
      [(1, "id-GostR3410-94-a", "id-GostR3410-94-a"),
       (2, "id-GostR3410-94-aBis", "id-GostR3410-94-aBis"),
       (3, "id-GostR3410-94-b", "id-GostR3410-94-b"),
       (4, "id-GostR3410-94-bBis", "id-GostR3410-94-bBis")],
    under [1, 2, 643, 2, 2, 30]
      [(0, "id-GostR3411-94-TestParamSet", "id-GostR3411-94-TestParamSet"),
       (1, "id-GostR3411-94-CryptoProParamSet", "id-GostR3411-94-CryptoProParamSet")],
    under [1, 2, 643, 2, 2, 31]
      [(0, "id-Gost28147-89-TestParamSet", "id-Gost28147-89-TestParamSet"),
       (1, "id-Gost28147-89-CryptoPro-A-ParamSet",
        "id-Gost28147-89-CryptoPro-A-ParamSet"),
       (2, "id-Gost28147-89-CryptoPro-B-ParamSet",
        "id-Gost28147-89-CryptoPro-B-ParamSet"),
       (3, "id-Gost28147-89-CryptoPro-C-ParamSet",
        "id-Gost28147-89-CryptoPro-C-ParamSet"),
       (4, "id-Gost28147-89-CryptoPro-D-ParamSet",
        "id-Gost28147-89-CryptoPro-D-ParamSet"),
       (5, "id-Gost28147-89-CryptoPro-Oscar-1-1-ParamSet",
        "id-Gost28147-89-CryptoPro-Oscar-1-1-ParamSet"),
       (6, "id-Gost28147-89-CryptoPro-Oscar-1-0-ParamSet",
        "id-Gost28147-89-CryptoPro-Oscar-1-0-ParamSet"),
       (7, "id-Gost28147-89-CryptoPro-RIC-1-ParamSet",
        "id-Gost28147-89-CryptoPro-RIC-1-ParamSet")],
    under [1, 2, 643, 2, 2, 32]
      [(0, "id-GostR3410-94-TestParamSet", "id-GostR3410-94-TestParamSet"),
       (2, "id-GostR3410-94-CryptoPro-A-ParamSet",
        "id-GostR3410-94-CryptoPro-A-ParamSet"),
       (3, "id-GostR3410-94-CryptoPro-B-ParamSet",
        "id-GostR3410-94-CryptoPro-B-ParamSet"),
       (4, "id-GostR3410-94-CryptoPro-C-ParamSet",
        "id-GostR3410-94-CryptoPro-C-ParamSet"),
       (5, "id-GostR3410-94-CryptoPro-D-ParamSet",
        "id-GostR3410-94-CryptoPro-D-ParamSet")],
    under [1, 2, 643, 2, 2, 33]
      [(1, "id-GostR3410-94-CryptoPro-XchA-ParamSet",
        "id-GostR3410-94-CryptoPro-XchA-ParamSet"),
       (2, "id-GostR3410-94-CryptoPro-XchB-ParamSet",
        "id-GostR3410-94-CryptoPro-XchB-ParamSet"),
       (3, "id-GostR3410-94-CryptoPro-XchC-ParamSet",
        "id-GostR3410-94-CryptoPro-XchC-ParamSet")],
    under [1, 2, 643, 2, 2, 35]
      [(0, "id-GostR3410-2001-TestParamSet", "id-GostR3410-2001-TestParamSet"),
       (1, "id-GostR3410-2001-CryptoPro-A-ParamSet",
        "id-GostR3410-2001-CryptoPro-A-ParamSet"),
       (2, "id-GostR3410-2001-CryptoPro-B-ParamSet",
        "id-GostR3410-2001-CryptoPro-B-ParamSet"),
       (3, "id-GostR3410-2001-CryptoPro-C-ParamSet",
        "id-GostR3410-2001-CryptoPro-C-ParamSet")],
    under [1, 2, 643, 2, 2, 36]
      [(0, "id-GostR3410-2001-CryptoPro-XchA-ParamSet",
        "id-GostR3410-2001-CryptoPro-XchA-ParamSet"),
       (1, "id-GostR3410-2001-CryptoPro-XchB-ParamSet",
        "id-GostR3410-2001-CryptoPro-XchB-ParamSet")],
    under [1, 2, 643, 2, 9, 1, 3]
      [(3, "id-GostR3411-94-with-GostR3410-94-cc",
        "GOST R 34.11-94 with GOST R 34.10-94 Cryptocom"),
       (4, "id-GostR3411-94-with-GostR3410-2001-cc",
        "GOST R 34.11-94 with GOST R 34.10-2001 Cryptocom")],
    under [1, 2, 643, 2, 9, 1, 5]
      [(3, "gost94cc", "GOST 34.10-94 Cryptocom"), (4, "gost2001cc", "GOST 34.10-2001 Cryptocom")],
    under [1, 2, 643, 2, 9, 1, 6]
      [(1, "id-Gost28147-89-cc", "GOST 28147-89 Cryptocom ParamSet")],
    under [1, 2, 643, 2, 9, 1, 8]
      [(1, "id-GostR3410-2001-ParamSet-cc", "GOST R 3410-2001 Parameter Set Cryptocom")],
    under [1, 2, 643, 3, 131, 1]
      [(1, "INN", "INN")],
    under [1, 2, 643, 7]
      [(1, "id-tc26", "id-tc26")],
    under [1, 2, 643, 7, 1]
      [(1, "id-tc26-algorithms", "id-tc26-algorithms"),
       (2, "id-tc26-constants", "id-tc26-constants")],
    under [1, 2, 643, 7, 1, 1]
      [(1, "id-tc26-sign", "id-tc26-sign"), (2, "id-tc26-digest", "id-tc26-digest"),
       (3, "id-tc26-signwithdigest", "id-tc26-signwithdigest"), (4, "id-tc26-mac", "id-tc26-mac"),
       (5, "id-tc26-cipher", "id-tc26-cipher"), (6, "id-tc26-agreement", "id-tc26-agreement"),
       (7, "id-tc26-wrap", "id-tc26-wrap")],
    under [1, 2, 643, 7, 1, 1, 1]
      [(1, "gost2012_256", "GOST R 34.10-2012 with 256 bit modulus"),
       (2, "gost2012_512", "GOST R 34.10-2012 with 512 bit modulus")],
    under [1, 2, 643, 7, 1, 1, 2]
      [(2, "md_gost12_256", "GOST R 34.11-2012 with 256 bit hash"),
       (3, "md_gost12_512", "GOST R 34.11-2012 with 512 bit hash")],
    under [1, 2, 643, 7, 1, 1, 3]
      [(2, "id-tc26-signwithdigest-gost3410-2012-256",
        "GOST R 34.10-2012 with GOST R 34.11-2012 (256 bit)"),
       (3, "id-tc26-signwithdigest-gost3410-2012-512",
        "GOST R 34.10-2012 with GOST R 34.11-2012 (512 bit)")],
    under [1, 2, 643, 7, 1, 1, 4]
      [(1, "id-tc26-hmac-gost-3411-2012-256", "HMAC GOST 34.11-2012 256 bit"),
       (2, "id-tc26-hmac-gost-3411-2012-512", "HMAC GOST 34.11-2012 512 bit")],
    under [1, 2, 643, 7, 1, 1, 5]
      [(1, "id-tc26-cipher-gostr3412-2015-magma", "id-tc26-cipher-gostr3412-2015-magma"),
       (2, "id-tc26-cipher-gostr3412-2015-kuznyechik",
        "id-tc26-cipher-gostr3412-2015-kuznyechik")],
    under [1, 2, 643, 7, 1, 1, 5, 1]
      [(1, "magma-ctr-acpkm", "magma-ctr-acpkm"),
       (2, "magma-ctr-acpkm-omac", "magma-ctr-acpkm-omac")],
    under [1, 2, 643, 7, 1, 1, 5, 2]
      [(1, "kuznyechik-ctr-acpkm", "kuznyechik-ctr-acpkm"),
       (2, "kuznyechik-ctr-acpkm-omac", "kuznyechik-ctr-acpkm-omac")],
    under [1, 2, 643, 7, 1, 1, 6]
      [(1, "id-tc26-agreement-gost-3410-2012-256",
        "id-tc26-agreement-gost-3410-2012-256"),
       (2, "id-tc26-agreement-gost-3410-2012-512",
        "id-tc26-agreement-gost-3410-2012-512")],
    under [1, 2, 643, 7, 1, 1, 7]
      [(1, "id-tc26-wrap-gostr3412-2015-magma", "id-tc26-wrap-gostr3412-2015-magma"),
       (2, "id-tc26-wrap-gostr3412-2015-kuznyechik",
        "id-tc26-wrap-gostr3412-2015-kuznyechik")],
    under [1, 2, 643, 7, 1, 1, 7, 1]
      [(1, "magma-kexp15", "magma-kexp15")],
    under [1, 2, 643, 7, 1, 1, 7, 2]
      [(1, "kuznyechik-kexp15", "kuznyechik-kexp15")],
    under [1, 2, 643, 7, 1, 2]
      [(1, "id-tc26-sign-constants", "id-tc26-sign-constants"),
       (2, "id-tc26-digest-constants", "id-tc26-digest-constants"),
       (5, "id-tc26-cipher-constants", "id-tc26-cipher-constants")],
    under [1, 2, 643, 7, 1, 2, 1]
      [(1, "id-tc26-gost-3410-2012-256-constants",
        "id-tc26-gost-3410-2012-256-constants"),
       (2, "id-tc26-gost-3410-2012-512-constants",
        "id-tc26-gost-3410-2012-512-constants")],
    under [1, 2, 643, 7, 1, 2, 1, 1]
      [(1, "id-tc26-gost-3410-2012-256-paramSetA",
        "GOST R 34.10-2012 (256 bit) ParamSet A"),
       (2, "id-tc26-gost-3410-2012-256-paramSetB",
        "GOST R 34.10-2012 (256 bit) ParamSet B"),
       (3, "id-tc26-gost-3410-2012-256-paramSetC",
        "GOST R 34.10-2012 (256 bit) ParamSet C"),
       (4, "id-tc26-gost-3410-2012-256-paramSetD",
        "GOST R 34.10-2012 (256 bit) ParamSet D")],
    under [1, 2, 643, 7, 1, 2, 1, 2]
      [(0, "id-tc26-gost-3410-2012-512-paramSetTest",
        "GOST R 34.10-2012 (512 bit) testing parameter set"),
       (1, "id-tc26-gost-3410-2012-512-paramSetA",
        "GOST R 34.10-2012 (512 bit) ParamSet A"),
       (2, "id-tc26-gost-3410-2012-512-paramSetB",
        "GOST R 34.10-2012 (512 bit) ParamSet B"),
       (3, "id-tc26-gost-3410-2012-512-paramSetC",
        "GOST R 34.10-2012 (512 bit) ParamSet C")],
    under [1, 2, 643, 7, 1, 2, 5]
      [(1, "id-tc26-gost-28147-constants", "id-tc26-gost-28147-constants")],
    under [1, 2, 643, 7, 1, 2, 5, 1]
      [(1, "id-tc26-gost-28147-param-Z", "GOST 28147-89 TC26 parameter set")],
    under [1, 2, 643, 100]
      [(1, "OGRN", "OGRN"), (3, "SNILS", "SNILS"), (5, "OGRNIP", "OGRNIP"),
       (111, "subjectSignTool", "Signing Tool of Subject"),
       (112, "issuerSignTool", "Signing Tool of Issuer"),
       (113, "classSignTool", "Class of Signing Tool")],
    under [1, 2, 643, 100, 113]
      [(1, "classSignToolKC1", "Class of Signing Tool KC1"),
       (2, "classSignToolKC2", "Class of Signing Tool KC2"),
       (3, "classSignToolKC3", "Class of Signing Tool KC3"),
       (4, "classSignToolKB1", "Class of Signing Tool KB1"),
       (5, "classSignToolKB2", "Class of Signing Tool KB2"),
       (6, "classSignToolKA1", "Class of Signing Tool KA1")],
    under [1, 2, 804, 2, 1, 1]
      [(1, "ua-pki", "ua-pki")],
    under [1, 2, 804, 2, 1, 1, 1, 1, 1]
      [(1, "dstu28147", "DSTU Gost 28147-2009"),
       (2, "hmacWithDstu34311", "HMAC DSTU Gost 34311-95")],
    under [1, 2, 804, 2, 1, 1, 1, 1, 1, 1]
      [(2, "dstu28147-ofb", "DSTU Gost 28147-2009 OFB mode"),
       (3, "dstu28147-cfb", "DSTU Gost 28147-2009 CFB mode"),
       (5, "dstu28147-wrap", "DSTU Gost 28147-2009 key wrap")],
    under [1, 2, 804, 2, 1, 1, 1, 1, 2]
      [(1, "dstu34311", "DSTU Gost 34311-95")],
    under [1, 2, 804, 2, 1, 1, 1, 1, 3, 1]
      [(1, "dstu4145le", "DSTU 4145-2002 little endian")],
    under [1, 2, 804, 2, 1, 1, 1, 1, 3, 1, 1, 1]
      [(1, "dstu4145be", "DSTU 4145-2002 big endian")],
    under [1, 2, 804, 2, 1, 1, 1, 1, 3, 1, 1, 2]
      [(0, "uacurve0", "DSTU curve 0"), (1, "uacurve1", "DSTU curve 1"),
       (2, "uacurve2", "DSTU curve 2"), (3, "uacurve3", "DSTU curve 3"),
       (4, "uacurve4", "DSTU curve 4"), (5, "uacurve5", "DSTU curve 5"),
       (6, "uacurve6", "DSTU curve 6"), (7, "uacurve7", "DSTU curve 7"),
       (8, "uacurve8", "DSTU curve 8"), (9, "uacurve9", "DSTU curve 9")] ].flatten

end OwnerKeys.ObjectName
