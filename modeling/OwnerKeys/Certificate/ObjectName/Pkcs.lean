import OwnerKeys.Certificate.ObjectName.Basic

/-!
# Objects of the public-key standards

The algorithms, attributes and content types of the public-key cryptography standards, and a few
older ciphers.
-/

namespace OwnerKeys.ObjectName

/-- The objects of the public-key standards. -/
def pkcs : List ObjectName :=
  [ under [1, 2, 840]
      [(113549, "rsadsi", "RSA Data Security, Inc.")],
    under [1, 2, 840, 113533, 7, 66]
      [(10, "CAST5-CBC", "cast5-cbc"), (12, "pbeWithMD5AndCast5CBC", "pbeWithMD5AndCast5CBC"),
       (13, "id-PasswordBasedMAC", "password based MAC"),
       (30, "id-DHBasedMac", "Diffie-Hellman based MAC")],
    under [1, 2, 840, 113549]
      [(1, "pkcs", "RSA Data Security, Inc. PKCS")],
    under [1, 2, 840, 113549, 1]
      [(1, "pkcs1", "pkcs1"), (3, "pkcs3", "pkcs3"), (5, "pkcs5", "pkcs5"), (7, "pkcs7", "pkcs7"),
       (9, "pkcs9", "pkcs9")],
    under [1, 2, 840, 113549, 1, 1]
      [(1, "rsaEncryption", "rsaEncryption"), (2, "RSA-MD2", "md2WithRSAEncryption"),
       (3, "RSA-MD4", "md4WithRSAEncryption"), (4, "RSA-MD5", "md5WithRSAEncryption"),
       (5, "RSA-SHA1", "sha1WithRSAEncryption"),
       (6, "rsaOAEPEncryptionSET", "rsaOAEPEncryptionSET"), (7, "RSAES-OAEP", "rsaesOaep"),
       (8, "MGF1", "mgf1"), (9, "PSPECIFIED", "pSpecified"), (10, "RSASSA-PSS", "rsassaPss"),
       (11, "RSA-SHA256", "sha256WithRSAEncryption"),
       (12, "RSA-SHA384", "sha384WithRSAEncryption"),
       (13, "RSA-SHA512", "sha512WithRSAEncryption"),
       (14, "RSA-SHA224", "sha224WithRSAEncryption"),
       (15, "RSA-SHA512/224", "sha512-224WithRSAEncryption"),
       (16, "RSA-SHA512/256", "sha512-256WithRSAEncryption")],
    under [1, 2, 840, 113549, 1, 3]
      [(1, "dhKeyAgreement", "dhKeyAgreement")],
    under [1, 2, 840, 113549, 1, 5]
      [(1, "PBE-MD2-DES", "pbeWithMD2AndDES-CBC"), (3, "PBE-MD5-DES", "pbeWithMD5AndDES-CBC"),
       (4, "PBE-MD2-RC2-64", "pbeWithMD2AndRC2-CBC"),
       (6, "PBE-MD5-RC2-64", "pbeWithMD5AndRC2-CBC"),
       (10, "PBE-SHA1-DES", "pbeWithSHA1AndDES-CBC"),
       (11, "PBE-SHA1-RC2-64", "pbeWithSHA1AndRC2-CBC"), (12, "PBKDF2", "PBKDF2"),
       (13, "PBES2", "PBES2"), (14, "PBMAC1", "PBMAC1")],
    under [1, 2, 840, 113549, 1, 7]
      [(1, "pkcs7-data", "pkcs7-data"), (2, "pkcs7-signedData", "pkcs7-signedData"),
       (3, "pkcs7-envelopedData", "pkcs7-envelopedData"),
       (4, "pkcs7-signedAndEnvelopedData", "pkcs7-signedAndEnvelopedData"),
       (5, "pkcs7-digestData", "pkcs7-digestData"),
       (6, "pkcs7-encryptedData", "pkcs7-encryptedData")],
    under [1, 2, 840, 113549, 1, 9]
      [(1, "emailAddress", "emailAddress"), (2, "unstructuredName", "unstructuredName"),
       (3, "contentType", "contentType"), (4, "messageDigest", "messageDigest"),
       (5, "signingTime", "signingTime"), (6, "countersignature", "countersignature"),
       (7, "challengePassword", "challengePassword"),
       (8, "unstructuredAddress", "unstructuredAddress"),
       (9, "extendedCertificateAttributes", "extendedCertificateAttributes"),
       (14, "extReq", "Extension Request"), (15, "SMIME-CAPS", "S/MIME Capabilities"),
       (16, "SMIME", "S/MIME"), (20, "friendlyName", "friendlyName"),
       (21, "localKeyID", "localKeyID"),
       (52, "id-aa-CMSAlgorithmProtection", "id-aa-CMSAlgorithmProtection")],
    under [1, 2, 840, 113549, 1, 9, 16]
      [(0, "id-smime-mod", "id-smime-mod"), (1, "id-smime-ct", "id-smime-ct"),
       (2, "id-smime-aa", "id-smime-aa"), (3, "id-smime-alg", "id-smime-alg"),
       (4, "id-smime-cd", "id-smime-cd"), (5, "id-smime-spq", "id-smime-spq"),
       (6, "id-smime-cti", "id-smime-cti")],
    under [1, 2, 840, 113549, 1, 9, 16, 0]
      [(1, "id-smime-mod-cms", "id-smime-mod-cms"), (2, "id-smime-mod-ess", "id-smime-mod-ess"),
       (3, "id-smime-mod-oid", "id-smime-mod-oid"),
       (4, "id-smime-mod-msg-v3", "id-smime-mod-msg-v3"),
       (5, "id-smime-mod-ets-eSignature-88", "id-smime-mod-ets-eSignature-88"),
       (6, "id-smime-mod-ets-eSignature-97", "id-smime-mod-ets-eSignature-97"),
       (7, "id-smime-mod-ets-eSigPolicy-88", "id-smime-mod-ets-eSigPolicy-88"),
       (8, "id-smime-mod-ets-eSigPolicy-97", "id-smime-mod-ets-eSigPolicy-97")],
    under [1, 2, 840, 113549, 1, 9, 16, 1]
      [(1, "id-smime-ct-receipt", "id-smime-ct-receipt"),
       (2, "id-smime-ct-authData", "id-smime-ct-authData"),
       (3, "id-smime-ct-publishCert", "id-smime-ct-publishCert"),
       (4, "id-smime-ct-TSTInfo", "id-smime-ct-TSTInfo"),
       (5, "id-smime-ct-TDTInfo", "id-smime-ct-TDTInfo"),
       (6, "id-smime-ct-contentInfo", "id-smime-ct-contentInfo"),
       (7, "id-smime-ct-DVCSRequestData", "id-smime-ct-DVCSRequestData"),
       (8, "id-smime-ct-DVCSResponseData", "id-smime-ct-DVCSResponseData"),
       (9, "id-smime-ct-compressedData", "id-smime-ct-compressedData"),
       (19, "id-smime-ct-contentCollection", "id-smime-ct-contentCollection"),
       (23, "id-smime-ct-authEnvelopedData", "id-smime-ct-authEnvelopedData"),
       (24, "id-ct-routeOriginAuthz", "id-ct-routeOriginAuthz"),
       (26, "id-ct-rpkiManifest", "id-ct-rpkiManifest"),
       (27, "id-ct-asciiTextWithCRLF", "id-ct-asciiTextWithCRLF"), (28, "id-ct-xml", "id-ct-xml"),
       (35, "id-ct-rpkiGhostbusters", "id-ct-rpkiGhostbusters"),
       (36, "id-ct-resourceTaggedAttest", "id-ct-resourceTaggedAttest"),
       (47, "id-ct-geofeedCSVwithCRLF", "id-ct-geofeedCSVwithCRLF"),
       (48, "id-ct-signedChecklist", "id-ct-signedChecklist"), (49, "id-ct-ASPA", "id-ct-ASPA"),
       (50, "id-ct-signedTAL", "id-ct-signedTAL"),
       (51, "id-ct-rpkiSignedPrefixList", "id-ct-rpkiSignedPrefixList")],
    under [1, 2, 840, 113549, 1, 9, 16, 2]
      [(1, "id-smime-aa-receiptRequest", "id-smime-aa-receiptRequest"),
       (2, "id-smime-aa-securityLabel", "id-smime-aa-securityLabel"),
       (3, "id-smime-aa-mlExpandHistory", "id-smime-aa-mlExpandHistory"),
       (4, "id-smime-aa-contentHint", "id-smime-aa-contentHint"),
       (5, "id-smime-aa-msgSigDigest", "id-smime-aa-msgSigDigest"),
       (6, "id-smime-aa-encapContentType", "id-smime-aa-encapContentType"),
       (7, "id-smime-aa-contentIdentifier", "id-smime-aa-contentIdentifier"),
       (8, "id-smime-aa-macValue", "id-smime-aa-macValue"),
       (9, "id-smime-aa-equivalentLabels", "id-smime-aa-equivalentLabels"),
       (10, "id-smime-aa-contentReference", "id-smime-aa-contentReference"),
       (11, "id-smime-aa-encrypKeyPref", "id-smime-aa-encrypKeyPref"),
       (12, "id-smime-aa-signingCertificate", "id-smime-aa-signingCertificate"),
       (13, "id-smime-aa-smimeEncryptCerts", "id-smime-aa-smimeEncryptCerts"),
       (14, "id-smime-aa-timeStampToken", "id-smime-aa-timeStampToken"),
       (15, "id-smime-aa-ets-sigPolicyId", "id-smime-aa-ets-sigPolicyId"),
       (16, "id-smime-aa-ets-commitmentType", "id-smime-aa-ets-commitmentType"),
       (17, "id-smime-aa-ets-signerLocation", "id-smime-aa-ets-signerLocation"),
       (18, "id-smime-aa-ets-signerAttr", "id-smime-aa-ets-signerAttr"),
       (19, "id-smime-aa-ets-otherSigCert", "id-smime-aa-ets-otherSigCert"),
       (20, "id-smime-aa-ets-contentTimestamp", "id-smime-aa-ets-contentTimestamp"),
       (21, "id-smime-aa-ets-CertificateRefs", "id-smime-aa-ets-CertificateRefs"),
       (22, "id-smime-aa-ets-RevocationRefs", "id-smime-aa-ets-RevocationRefs"),
       (23, "id-smime-aa-ets-certValues", "id-smime-aa-ets-certValues"),
       (24, "id-smime-aa-ets-revocationValues", "id-smime-aa-ets-revocationValues"),
       (25, "id-smime-aa-ets-escTimeStamp", "id-smime-aa-ets-escTimeStamp"),
       (26, "id-smime-aa-ets-certCRLTimestamp", "id-smime-aa-ets-certCRLTimestamp"),
       (27, "id-smime-aa-ets-archiveTimeStamp", "id-smime-aa-ets-archiveTimeStamp"),
       (28, "id-smime-aa-signatureType", "id-smime-aa-signatureType"),
       (29, "id-smime-aa-dvcs-dvc", "id-smime-aa-dvcs-dvc"),
       (44, "id-aa-ets-attrCertificateRefs", "id-aa-ets-attrCertificateRefs"),
       (45, "id-aa-ets-attrRevocationRefs", "id-aa-ets-attrRevocationRefs"),
       (47, "id-smime-aa-signingCertificateV2", "id-smime-aa-signingCertificateV2"),
       (48, "id-aa-ets-archiveTimestampV2", "id-aa-ets-archiveTimestampV2")],
    under [1, 2, 840, 113549, 1, 9, 16, 3]
      [(1, "id-smime-alg-ESDHwith3DES", "id-smime-alg-ESDHwith3DES"),
       (2, "id-smime-alg-ESDHwithRC2", "id-smime-alg-ESDHwithRC2"),
       (3, "id-smime-alg-3DESwrap", "id-smime-alg-3DESwrap"),
       (4, "id-smime-alg-RC2wrap", "id-smime-alg-RC2wrap"),
       (5, "id-smime-alg-ESDH", "id-smime-alg-ESDH"),
       (6, "id-smime-alg-CMS3DESwrap", "id-smime-alg-CMS3DESwrap"),
       (7, "id-smime-alg-CMSRC2wrap", "id-smime-alg-CMSRC2wrap"), (8, "ZLIB", "zlib compression"),
       (9, "id-alg-PWRI-KEK", "id-alg-PWRI-KEK")],
    under [1, 2, 840, 113549, 1, 9, 16, 4]
      [(1, "id-smime-cd-ldap", "id-smime-cd-ldap")],
    under [1, 2, 840, 113549, 1, 9, 16, 5]
      [(1, "id-smime-spq-ets-sqt-uri", "id-smime-spq-ets-sqt-uri"),
       (2, "id-smime-spq-ets-sqt-unotice", "id-smime-spq-ets-sqt-unotice")],
    under [1, 2, 840, 113549, 1, 9, 16, 6]
      [(1, "id-smime-cti-ets-proofOfOrigin", "id-smime-cti-ets-proofOfOrigin"),
       (2, "id-smime-cti-ets-proofOfReceipt", "id-smime-cti-ets-proofOfReceipt"),
       (3, "id-smime-cti-ets-proofOfDelivery", "id-smime-cti-ets-proofOfDelivery"),
       (4, "id-smime-cti-ets-proofOfSender", "id-smime-cti-ets-proofOfSender"),
       (5, "id-smime-cti-ets-proofOfApproval", "id-smime-cti-ets-proofOfApproval"),
       (6, "id-smime-cti-ets-proofOfCreation", "id-smime-cti-ets-proofOfCreation")],
    under [1, 2, 840, 113549, 1, 9, 22]
      [(1, "x509Certificate", "x509Certificate"), (2, "sdsiCertificate", "sdsiCertificate")],
    under [1, 2, 840, 113549, 1, 9, 23]
      [(1, "x509Crl", "x509Crl")],
    under [1, 2, 840, 113549, 1, 12, 1]
      [(1, "PBE-SHA1-RC4-128", "pbeWithSHA1And128BitRC4"),
       (2, "PBE-SHA1-RC4-40", "pbeWithSHA1And40BitRC4"),
       (3, "PBE-SHA1-3DES", "pbeWithSHA1And3-KeyTripleDES-CBC"),
       (4, "PBE-SHA1-2DES", "pbeWithSHA1And2-KeyTripleDES-CBC"),
       (5, "PBE-SHA1-RC2-128", "pbeWithSHA1And128BitRC2-CBC"),
       (6, "PBE-SHA1-RC2-40", "pbeWithSHA1And40BitRC2-CBC")],
    under [1, 2, 840, 113549, 1, 12, 10, 1]
      [(1, "keyBag", "keyBag"), (2, "pkcs8ShroudedKeyBag", "pkcs8ShroudedKeyBag"),
       (3, "certBag", "certBag"), (4, "crlBag", "crlBag"), (5, "secretBag", "secretBag"),
       (6, "safeContentsBag", "safeContentsBag")],
    under [1, 2, 840, 113549, 2]
      [(2, "MD2", "md2"), (4, "MD4", "md4"), (5, "MD5", "md5"), (6, "hmacWithMD5", "hmacWithMD5"),
       (7, "hmacWithSHA1", "hmacWithSHA1"), (8, "hmacWithSHA224", "hmacWithSHA224"),
       (9, "hmacWithSHA256", "hmacWithSHA256"), (10, "hmacWithSHA384", "hmacWithSHA384"),
       (11, "hmacWithSHA512", "hmacWithSHA512"), (12, "hmacWithSHA512-224", "hmacWithSHA512-224"),
       (13, "hmacWithSHA512-256", "hmacWithSHA512-256")],
    under [1, 2, 840, 113549, 3]
      [(2, "RC2-CBC", "rc2-cbc"), (4, "RC4", "rc4"), (7, "DES-EDE3-CBC", "des-ede3-cbc"),
       (8, "RC5-CBC", "rc5-cbc"), (10, "DES-CDMF", "des-cdmf")] ].flatten

end OwnerKeys.ObjectName
