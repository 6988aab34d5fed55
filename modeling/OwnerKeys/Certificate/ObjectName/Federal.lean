import OwnerKeys.Certificate.ObjectName.Basic

/-!
# Objects of one country's registry

The digests, ciphers and signatures of the federal standards, and the old extensions of certificates
that were registered beside them.
-/

namespace OwnerKeys.ObjectName

/-- The objects below the branch of one country's organizations. -/
def federal : List ObjectName :=
  [ under [2, 16, 840, 1]
      [(113730, "Netscape", "Netscape Communications Corp."),
       (113894, "oracle-organization", "Oracle organization")],
    under [2, 16, 840, 1, 101, 3, 4, 1]
      [(1, "AES-128-ECB", "aes-128-ecb"), (2, "AES-128-CBC", "aes-128-cbc"),
       (3, "AES-128-OFB", "aes-128-ofb"), (4, "AES-128-CFB", "aes-128-cfb"),
       (5, "id-aes128-wrap", "id-aes128-wrap"), (6, "id-aes128-GCM", "aes-128-gcm"),
       (7, "id-aes128-CCM", "aes-128-ccm"), (8, "id-aes128-wrap-pad", "id-aes128-wrap-pad"),
       (21, "AES-192-ECB", "aes-192-ecb"), (22, "AES-192-CBC", "aes-192-cbc"),
       (23, "AES-192-OFB", "aes-192-ofb"), (24, "AES-192-CFB", "aes-192-cfb"),
       (25, "id-aes192-wrap", "id-aes192-wrap"), (26, "id-aes192-GCM", "aes-192-gcm"),
       (27, "id-aes192-CCM", "aes-192-ccm"), (28, "id-aes192-wrap-pad", "id-aes192-wrap-pad"),
       (41, "AES-256-ECB", "aes-256-ecb"), (42, "AES-256-CBC", "aes-256-cbc"),
       (43, "AES-256-OFB", "aes-256-ofb"), (44, "AES-256-CFB", "aes-256-cfb"),
       (45, "id-aes256-wrap", "id-aes256-wrap"), (46, "id-aes256-GCM", "aes-256-gcm"),
       (47, "id-aes256-CCM", "aes-256-ccm"), (48, "id-aes256-wrap-pad", "id-aes256-wrap-pad")],
    under [2, 16, 840, 1, 101, 3, 4, 2]
      [(1, "SHA256", "sha256"), (2, "SHA384", "sha384"), (3, "SHA512", "sha512"),
       (4, "SHA224", "sha224"), (5, "SHA512-224", "sha512-224"), (6, "SHA512-256", "sha512-256"),
       (7, "SHA3-224", "sha3-224"), (8, "SHA3-256", "sha3-256"), (9, "SHA3-384", "sha3-384"),
       (10, "SHA3-512", "sha3-512"), (11, "SHAKE128", "shake128"), (12, "SHAKE256", "shake256"),
       (13, "id-hmacWithSHA3-224", "hmac-sha3-224"), (14, "id-hmacWithSHA3-256", "hmac-sha3-256"),
       (15, "id-hmacWithSHA3-384", "hmac-sha3-384"), (16, "id-hmacWithSHA3-512", "hmac-sha3-512"),
       (19, "KMAC128", "kmac128"), (20, "KMAC256", "kmac256")],
    under [2, 16, 840, 1, 101, 3, 4, 3]
      [(1, "dsa_with_SHA224", "dsa_with_SHA224"), (2, "dsa_with_SHA256", "dsa_with_SHA256"),
       (3, "id-dsa-with-sha384", "dsa_with_SHA384"), (4, "id-dsa-with-sha512", "dsa_with_SHA512"),
       (5, "id-dsa-with-sha3-224", "dsa_with_SHA3-224"),
       (6, "id-dsa-with-sha3-256", "dsa_with_SHA3-256"),
       (7, "id-dsa-with-sha3-384", "dsa_with_SHA3-384"),
       (8, "id-dsa-with-sha3-512", "dsa_with_SHA3-512"),
       (9, "id-ecdsa-with-sha3-224", "ecdsa_with_SHA3-224"),
       (10, "id-ecdsa-with-sha3-256", "ecdsa_with_SHA3-256"),
       (11, "id-ecdsa-with-sha3-384", "ecdsa_with_SHA3-384"),
       (12, "id-ecdsa-with-sha3-512", "ecdsa_with_SHA3-512"),
       (13, "id-rsassa-pkcs1-v1_5-with-sha3-224", "RSA-SHA3-224"),
       (14, "id-rsassa-pkcs1-v1_5-with-sha3-256", "RSA-SHA3-256"),
       (15, "id-rsassa-pkcs1-v1_5-with-sha3-384", "RSA-SHA3-384"),
       (16, "id-rsassa-pkcs1-v1_5-with-sha3-512", "RSA-SHA3-512"),
       (17, "id-ml-dsa-44", "ML-DSA-44"), (18, "id-ml-dsa-65", "ML-DSA-65"),
       (19, "id-ml-dsa-87", "ML-DSA-87"), (20, "id-slh-dsa-sha2-128s", "SLH-DSA-SHA2-128s"),
       (21, "id-slh-dsa-sha2-128f", "SLH-DSA-SHA2-128f"),
       (22, "id-slh-dsa-sha2-192s", "SLH-DSA-SHA2-192s"),
       (23, "id-slh-dsa-sha2-192f", "SLH-DSA-SHA2-192f"),
       (24, "id-slh-dsa-sha2-256s", "SLH-DSA-SHA2-256s"),
       (25, "id-slh-dsa-sha2-256f", "SLH-DSA-SHA2-256f"),
       (26, "id-slh-dsa-shake-128s", "SLH-DSA-SHAKE-128s"),
       (27, "id-slh-dsa-shake-128f", "SLH-DSA-SHAKE-128f"),
       (28, "id-slh-dsa-shake-192s", "SLH-DSA-SHAKE-192s"),
       (29, "id-slh-dsa-shake-192f", "SLH-DSA-SHAKE-192f"),
       (30, "id-slh-dsa-shake-256s", "SLH-DSA-SHAKE-256s"),
       (31, "id-slh-dsa-shake-256f", "SLH-DSA-SHAKE-256f"),
       (32, "id-hash-ml-dsa-44-with-sha512", "HASH-ML-DSA-44-WITH-SHA512"),
       (33, "id-hash-ml-dsa-65-with-sha512", "HASH-ML-DSA-65-WITH-SHA512"),
       (34, "id-hash-ml-dsa-87-with-sha512", "HASH-ML-DSA-87-WITH-SHA512"),
       (35, "id-hash-slh-dsa-sha2-128s-with-sha256", "SLH-DSA-SHA2-128s-WITH-SHA256"),
       (36, "id-hash-slh-dsa-sha2-128f-with-sha256", "SLH-DSA-SHA2-128f-WITH-SHA256"),
       (37, "id-hash-slh-dsa-sha2-192s-with-sha512", "SLH-DSA-SHA2-192s-WITH-SHA512"),
       (38, "id-hash-slh-dsa-sha2-192f-with-sha512", "SLH-DSA-SHA2-192f-WITH-SHA512"),
       (39, "id-hash-slh-dsa-sha2-256s-with-sha512", "SLH-DSA-SHA2-256s-WITH-SHA512"),
       (40, "id-hash-slh-dsa-sha2-256f-with-sha512", "SLH-DSA-SHA2-256f-WITH-SHA512"),
       (41, "id-hash-slh-dsa-shake-128s-with-shake128",
        "SLH-DSA-SHAKE-128s-WITH-SHAKE128"),
       (42, "id-hash-slh-dsa-shake-128f-with-shake128",
        "SLH-DSA-SHAKE-128f-WITH-SHAKE128"),
       (43, "id-hash-slh-dsa-shake-192s-with-shake256",
        "SLH-DSA-SHAKE-192s-WITH-SHAKE256"),
       (44, "id-hash-slh-dsa-shake-192f-with-shake256",
        "SLH-DSA-SHAKE-192f-WITH-SHAKE256"),
       (45, "id-hash-slh-dsa-shake-256s-with-shake256",
        "SLH-DSA-SHAKE-256s-WITH-SHAKE256"),
       (46, "id-hash-slh-dsa-shake-256f-with-shake256",
        "SLH-DSA-SHAKE-256f-WITH-SHAKE256")],
    under [2, 16, 840, 1, 101, 3, 4, 4]
      [(1, "id-alg-ml-kem-512", "ML-KEM-512"), (2, "id-alg-ml-kem-768", "ML-KEM-768"),
       (3, "id-alg-ml-kem-1024", "ML-KEM-1024")],
    under [2, 16, 840, 1, 113730]
      [(1, "nsCertExt", "Netscape Certificate Extension"), (2, "nsDataType", "Netscape Data Type")],
    under [2, 16, 840, 1, 113730, 1]
      [(1, "nsCertType", "Netscape Cert Type"), (2, "nsBaseUrl", "Netscape Base Url"),
       (3, "nsRevocationUrl", "Netscape Revocation Url"),
       (4, "nsCaRevocationUrl", "Netscape CA Revocation Url"),
       (7, "nsRenewalUrl", "Netscape Renewal Url"), (8, "nsCaPolicyUrl", "Netscape CA Policy Url"),
       (12, "nsSslServerName", "Netscape SSL Server Name"), (13, "nsComment", "Netscape Comment")],
    under [2, 16, 840, 1, 113730, 2]
      [(5, "nsCertSequence", "Netscape Certificate Sequence")],
    under [2, 16, 840, 1, 113730, 4]
      [(1, "nsSGC", "Netscape Server Gated Crypto")],
    under [2, 16, 840, 1, 113894, 746875, 1]
      [(1, "oracle-jdk-trustedkeyusage", "Trusted key usage (Oracle)")] ].flatten

end OwnerKeys.ObjectName
