import OwnerKeys.Certificate.ObjectName.Basic

/-!
# Objects of other registries

The branches of the registration tree that have names themselves, and the objects of registries with
a few entries each.
-/

namespace OwnerKeys.ObjectName

/-- The objects of other registries. -/
def assorted : List ObjectName :=
  [ under [0]
      [(4, "itu-t-identified-organization", "itu-t-identified-organization")],
    under [0, 4]
      [(0, "etsi", "etsi")],
    under [0, 4, 0]
      [(1733, "electronic-signature-standard", "electronic-signature-standard"),
       (19122, "cades", "cades")],
    under [0, 4, 0, 1733]
      [(2, "ess-attributes", "ess-attributes")],
    under [0, 4, 0, 1733, 2]
      [(1, "id-aa-ets-mimeType", "id-aa-ets-mimeType"),
       (2, "id-aa-ets-longTermValidation", "id-aa-ets-longTermValidation"),
       (3, "id-aa-ets-SignaturePolicyDocument", "id-aa-ets-SignaturePolicyDocument"),
       (4, "id-aa-ets-archiveTimestampV3", "id-aa-ets-archiveTimestampV3"),
       (5, "id-aa-ATSHashIndex", "id-aa-ATSHashIndex")],
    under [0, 4, 0, 19122]
      [(1, "cades-attributes", "cades-attributes")],
    under [0, 4, 0, 19122, 1]
      [(1, "id-aa-ets-signerAttrV2", "id-aa-ets-signerAttrV2"),
       (3, "id-aa-ets-sigPolicyStore", "id-aa-ets-sigPolicyStore"),
       (4, "id-aa-ATSHashIndex-v2", "id-aa-ATSHashIndex-v2"),
       (5, "id-aa-ATSHashIndex-v3", "id-aa-ATSHashIndex-v3"),
       (6, "signedAssertion", "signedAssertion")],
    under [1]
      [(2, "member-body", "ISO Member Body"), (3, "ORG", "org")],
    under [1, 0, 9797, 3]
      [(4, "GMAC", "gmac")],
    under [1, 0, 10118, 3, 0]
      [(55, "whirlpool", "whirlpool")],
    under [1, 2]
      [(840, "ISO-US", "ISO US Member Body")],
    under [1, 2, 840]
      [(10040, "X9-57", "X9.57")],
    under [1, 2, 840, 10040]
      [(4, "X9cm", "X9.57 CM ?")],
    under [1, 2, 840, 10040, 2]
      [(1, "holdInstructionNone", "Hold Instruction None"),
       (2, "holdInstructionCallIssuer", "Hold Instruction Call Issuer"),
       (3, "holdInstructionReject", "Hold Instruction Reject")],
    under [1, 2, 840, 10040, 4]
      [(1, "DSA", "dsaEncryption"), (3, "DSA-SHA1", "dsaWithSHA1")],
    under [1, 2, 840, 10046, 2]
      [(1, "dhpublicnumber", "X9.42 DH")],
    under [1, 3]
      [(6, "DOD", "dod"), (111, "ieee", "ieee")],
    under [1, 3, 14, 3]
      [(2, "algorithm", "algorithm")],
    under [1, 3, 14, 3, 2]
      [(3, "RSA-NP-MD5", "md5WithRSA"), (6, "DES-ECB", "des-ecb"), (7, "DES-CBC", "des-cbc"),
       (8, "DES-OFB", "des-ofb"), (9, "DES-CFB", "des-cfb"), (11, "rsaSignature", "rsaSignature"),
       (12, "DSA-old", "dsaEncryption-old"), (13, "DSA-SHA", "dsaWithSHA"),
       (15, "RSA-SHA", "shaWithRSAEncryption"), (17, "DES-EDE", "des-ede"), (18, "SHA", "sha"),
       (26, "SHA1", "sha1"), (27, "DSA-SHA1-old", "dsaWithSHA1-old"),
       (29, "RSA-SHA1-2", "sha1WithRSA")],
    under [1, 3, 36, 3, 2]
      [(1, "RIPEMD160", "ripemd160")],
    under [1, 3, 36, 8, 3]
      [(3, "x509ExtAdmission", "Professional Information or basis for Admission")],
    under [1, 3, 101]
      [(110, "X25519", "X25519"), (111, "X448", "X448"), (112, "ED25519", "ED25519"),
       (113, "ED448", "ED448")],
    under [1, 3, 101, 1, 4]
      [(1, "SXNetID", "Strong Extranet ID")],
    under [1, 3, 111, 2]
      [(1619, "ieee-siswg", "IEEE Security in Storage Working Group")],
    under [1, 3, 111, 2, 1619, 0, 1]
      [(1, "AES-128-XTS", "aes-128-xts"), (2, "AES-256-XTS", "aes-256-xts")],
    under [2]
      [(23, "international-organizations", "International Organizations")] ].flatten

end OwnerKeys.ObjectName
