import OwnerKeys.Certificate.ObjectName.Basic

/-!
# Objects of the internet

The extensions, purposes and methods of the internet's public-key infrastructure, and the objects
that private enterprises registered below the same branch.
-/

namespace OwnerKeys.ObjectName

/-- The objects of the internet. -/
def internet : List ObjectName :=
  [ under [1, 3, 6]
      [(1, "IANA", "iana")],
    under [1, 3, 6, 1]
      [(1, "directory", "Directory"), (2, "mgmt", "Management"),
       (3, "experimental", "Experimental"), (4, "private", "Private"), (5, "security", "Security"),
       (6, "snmpv2", "SNMPv2"), (7, "Mail", "Mail")],
    under [1, 3, 6, 1, 4]
      [(1, "enterprises", "Enterprises")],
    under [1, 3, 6, 1, 4, 1, 188, 7, 1, 1]
      [(2, "IDEA-CBC", "idea-cbc")],
    under [1, 3, 6, 1, 4, 1, 311, 2, 1]
      [(14, "msExtReq", "Microsoft Extension Request"),
       (21, "msCodeInd", "Microsoft Individual Code Signing"),
       (22, "msCodeCom", "Microsoft Commercial Code Signing")],
    under [1, 3, 6, 1, 4, 1, 311, 10, 3]
      [(1, "msCTLSign", "Microsoft Trust List Signing"),
       (3, "msSGC", "Microsoft Server Gated Crypto"),
       (4, "msEFS", "Microsoft Encrypted File System")],
    under [1, 3, 6, 1, 4, 1, 311, 17]
      [(1, "CSPName", "Microsoft CSP Name"), (2, "LocalKeySet", "Microsoft Local Key set")],
    under [1, 3, 6, 1, 4, 1, 311, 20, 2]
      [(2, "msSmartcardLogin", "Microsoft Smartcard Login"),
       (3, "msUPN", "Microsoft User Principal Name")],
    under [1, 3, 6, 1, 4, 1, 311, 21]
      [(7, "ms-cert-templ", "Microsoft certificate template"),
       (10, "ms-app-policies", "Microsoft Application Policies Extension")],
    under [1, 3, 6, 1, 4, 1, 311, 25]
      [(2, "ms-ntds-sec-ext", "Microsoft NTDS CA Extension")],
    under [1, 3, 6, 1, 4, 1, 311, 25, 2]
      [(1, "ms-ntds-obj-sid", "Microsoft NTDS AD objectSid")],
    under [1, 3, 6, 1, 4, 1, 311, 60, 2, 1]
      [(1, "jurisdictionL", "jurisdictionLocalityName"),
       (2, "jurisdictionST", "jurisdictionStateOrProvinceName"),
       (3, "jurisdictionC", "jurisdictionCountryName")],
    under [1, 3, 6, 1, 4, 1, 1466]
      [(344, "dcobject", "dcObject")],
    under [1, 3, 6, 1, 4, 1, 1722, 12, 2]
      [(1, "BLAKE2BMAC", "blake2bmac"), (2, "BLAKE2SMAC", "blake2smac")],
    under [1, 3, 6, 1, 4, 1, 1722, 12, 2, 1]
      [(16, "BLAKE2b512", "blake2b512")],
    under [1, 3, 6, 1, 4, 1, 1722, 12, 2, 2]
      [(8, "BLAKE2s256", "blake2s256")],
    under [1, 3, 6, 1, 4, 1, 3029, 1]
      [(2, "BF-CBC", "bf-cbc")],
    under [1, 3, 6, 1, 4, 1, 11129, 2, 4]
      [(2, "ct_precert_scts", "CT Precertificate SCTs"),
       (3, "ct_precert_poison", "CT Precertificate Poison"),
       (4, "ct_precert_signer", "CT Precertificate Signer"),
       (5, "ct_cert_scts", "CT Certificate SCTs")],
    under [1, 3, 6, 1, 4, 1, 11591, 4]
      [(11, "id-scrypt", "scrypt")],
    under [1, 3, 6, 1, 4, 1, 45605]
      [(1, "id-kp-wisun-fan-device", "Wi-SUN Alliance Field Area Network (FAN)")],
    under [1, 3, 6, 1, 5, 2]
      [(3, "id-pkinit", "id-pkinit")],
    under [1, 3, 6, 1, 5, 2, 3]
      [(4, "pkInitClientAuth", "PKINIT Client Auth"), (5, "pkInitKDC", "Signing KDC Response")],
    under [1, 3, 6, 1, 5, 5]
      [(7, "PKIX", "PKIX")],
    under [1, 3, 6, 1, 5, 5, 7]
      [(0, "id-pkix-mod", "id-pkix-mod"), (1, "id-pe", "id-pe"), (2, "id-qt", "id-qt"),
       (3, "id-kp", "id-kp"), (4, "id-it", "id-it"), (5, "id-pkip", "id-pkip"),
       (6, "id-alg", "id-alg"), (7, "id-cmc", "id-cmc"), (8, "id-on", "id-on"),
       (9, "id-pda", "id-pda"), (10, "id-aca", "id-aca"), (11, "id-qcs", "id-qcs"),
       (12, "id-cct", "id-cct"), (14, "id-cp", "id-cp"), (21, "id-ppl", "id-ppl"),
       (48, "id-ad", "id-ad")],
    under [1, 3, 6, 1, 5, 5, 7, 0]
      [(1, "id-pkix1-explicit-88", "id-pkix1-explicit-88"),
       (2, "id-pkix1-implicit-88", "id-pkix1-implicit-88"),
       (3, "id-pkix1-explicit-93", "id-pkix1-explicit-93"),
       (4, "id-pkix1-implicit-93", "id-pkix1-implicit-93"), (5, "id-mod-crmf", "id-mod-crmf"),
       (6, "id-mod-cmc", "id-mod-cmc"), (7, "id-mod-kea-profile-88", "id-mod-kea-profile-88"),
       (8, "id-mod-kea-profile-93", "id-mod-kea-profile-93"), (9, "id-mod-cmp", "id-mod-cmp"),
       (10, "id-mod-qualified-cert-88", "id-mod-qualified-cert-88"),
       (11, "id-mod-qualified-cert-93", "id-mod-qualified-cert-93"),
       (12, "id-mod-attribute-cert", "id-mod-attribute-cert"),
       (13, "id-mod-timestamp-protocol", "id-mod-timestamp-protocol"),
       (14, "id-mod-ocsp", "id-mod-ocsp"), (15, "id-mod-dvcs", "id-mod-dvcs"),
       (16, "id-mod-cmp2000", "id-mod-cmp2000"), (50, "id-mod-cmp2000-02", "id-mod-cmp2000-02"),
       (99, "id-mod-cmp2021-88", "id-mod-cmp2021-88"),
       (100, "id-mod-cmp2021-02", "id-mod-cmp2021-02")],
    under [1, 3, 6, 1, 5, 5, 7, 1]
      [(1, "authorityInfoAccess", "Authority Information Access"),
       (2, "biometricInfo", "Biometric Info"), (3, "qcStatements", "qcStatements"),
       (4, "ac-auditIdentity", "X509v3 Audit Identity"), (5, "ac-targeting", "ac-targeting"),
       (6, "aaControls", "aaControls"), (7, "sbgp-ipAddrBlock", "sbgp-ipAddrBlock"),
       (8, "sbgp-autonomousSysNum", "sbgp-autonomousSysNum"),
       (9, "sbgp-routerIdentifier", "sbgp-routerIdentifier"), (10, "ac-proxying", "ac-proxying"),
       (11, "subjectInfoAccess", "Subject Information Access"),
       (14, "proxyCertInfo", "Proxy Certificate Information"), (24, "tlsfeature", "TLS Feature"),
       (28, "sbgp-ipAddrBlockv2", "sbgp-ipAddrBlockv2"),
       (29, "sbgp-autonomousSysNumv2", "sbgp-autonomousSysNumv2")],
    under [1, 3, 6, 1, 5, 5, 7, 2]
      [(1, "id-qt-cps", "Policy Qualifier CPS"),
       (2, "id-qt-unotice", "Policy Qualifier User Notice"), (3, "textNotice", "textNotice")],
    under [1, 3, 6, 1, 5, 5, 7, 3]
      [(1, "serverAuth", "TLS Web Server Authentication"),
       (2, "clientAuth", "TLS Web Client Authentication"), (3, "codeSigning", "Code Signing"),
       (4, "emailProtection", "E-mail Protection"), (5, "ipsecEndSystem", "IPSec End System"),
       (6, "ipsecTunnel", "IPSec Tunnel"), (7, "ipsecUser", "IPSec User"),
       (8, "timeStamping", "Time Stamping"), (9, "OCSPSigning", "OCSP Signing"),
       (10, "DVCS", "dvcs"), (17, "ipsecIKE", "ipsec Internet Key Exchange"),
       (18, "capwapAC", "Ctrl/provision WAP Access"),
       (19, "capwapWTP", "Ctrl/Provision WAP Termination"),
       (21, "secureShellClient", "SSH Client"), (22, "secureShellServer", "SSH Server"),
       (23, "sendRouter", "Send Router"), (24, "sendProxiedRouter", "Send Proxied Router"),
       (25, "sendOwner", "Send Owner"), (26, "sendProxiedOwner", "Send Proxied Owner"),
       (27, "cmcCA", "CMC Certificate Authority"), (28, "cmcRA", "CMC Registration Authority"),
       (29, "cmcArchive", "CMC Archive Server"), (30, "id-kp-bgpsec-router", "BGPsec Router"),
       (31, "id-kp-BrandIndicatorforMessageIdentification",
        "Brand Indicator for Message Identification"),
       (32, "cmKGA", "Certificate Management Key Generation Authority")],
    under [1, 3, 6, 1, 5, 5, 7, 4]
      [(1, "id-it-caProtEncCert", "id-it-caProtEncCert"),
       (2, "id-it-signKeyPairTypes", "id-it-signKeyPairTypes"),
       (3, "id-it-encKeyPairTypes", "id-it-encKeyPairTypes"),
       (4, "id-it-preferredSymmAlg", "id-it-preferredSymmAlg"),
       (5, "id-it-caKeyUpdateInfo", "id-it-caKeyUpdateInfo"),
       (6, "id-it-currentCRL", "id-it-currentCRL"),
       (7, "id-it-unsupportedOIDs", "id-it-unsupportedOIDs"),
       (8, "id-it-subscriptionRequest", "id-it-subscriptionRequest"),
       (9, "id-it-subscriptionResponse", "id-it-subscriptionResponse"),
       (10, "id-it-keyPairParamReq", "id-it-keyPairParamReq"),
       (11, "id-it-keyPairParamRep", "id-it-keyPairParamRep"),
       (12, "id-it-revPassphrase", "id-it-revPassphrase"),
       (13, "id-it-implicitConfirm", "id-it-implicitConfirm"),
       (14, "id-it-confirmWaitTime", "id-it-confirmWaitTime"),
       (15, "id-it-origPKIMessage", "id-it-origPKIMessage"),
       (16, "id-it-suppLangTags", "id-it-suppLangTags"), (17, "id-it-caCerts", "id-it-caCerts"),
       (18, "id-it-rootCaKeyUpdate", "id-it-rootCaKeyUpdate"),
       (19, "id-it-certReqTemplate", "id-it-certReqTemplate"),
       (20, "id-it-rootCaCert", "id-it-rootCaCert"),
       (21, "id-it-certProfile", "id-it-certProfile"),
       (22, "id-it-crlStatusList", "id-it-crlStatusList"), (23, "id-it-crls", "id-it-crls")],
    under [1, 3, 6, 1, 5, 5, 7, 5]
      [(1, "id-regCtrl", "id-regCtrl"), (2, "id-regInfo", "id-regInfo")],
    under [1, 3, 6, 1, 5, 5, 7, 5, 1]
      [(1, "id-regCtrl-regToken", "id-regCtrl-regToken"),
       (2, "id-regCtrl-authenticator", "id-regCtrl-authenticator"),
       (3, "id-regCtrl-pkiPublicationInfo", "id-regCtrl-pkiPublicationInfo"),
       (4, "id-regCtrl-pkiArchiveOptions", "id-regCtrl-pkiArchiveOptions"),
       (5, "id-regCtrl-oldCertID", "id-regCtrl-oldCertID"),
       (6, "id-regCtrl-protocolEncrKey", "id-regCtrl-protocolEncrKey"),
       (7, "id-regCtrl-altCertTemplate", "id-regCtrl-altCertTemplate"),
       (11, "id-regCtrl-algId", "id-regCtrl-algId"),
       (12, "id-regCtrl-rsaKeyLen", "id-regCtrl-rsaKeyLen")],
    under [1, 3, 6, 1, 5, 5, 7, 5, 2]
      [(1, "id-regInfo-utf8Pairs", "id-regInfo-utf8Pairs"),
       (2, "id-regInfo-certReq", "id-regInfo-certReq")],
    under [1, 3, 6, 1, 5, 5, 7, 6]
      [(1, "id-alg-des40", "id-alg-des40"), (2, "id-alg-noSignature", "id-alg-noSignature"),
       (3, "id-alg-dh-sig-hmac-sha1", "id-alg-dh-sig-hmac-sha1"),
       (4, "id-alg-dh-pop", "id-alg-dh-pop")],
    under [1, 3, 6, 1, 5, 5, 7, 7]
      [(1, "id-cmc-statusInfo", "id-cmc-statusInfo"),
       (2, "id-cmc-identification", "id-cmc-identification"),
       (3, "id-cmc-identityProof", "id-cmc-identityProof"),
       (4, "id-cmc-dataReturn", "id-cmc-dataReturn"),
       (5, "id-cmc-transactionId", "id-cmc-transactionId"),
       (6, "id-cmc-senderNonce", "id-cmc-senderNonce"),
       (7, "id-cmc-recipientNonce", "id-cmc-recipientNonce"),
       (8, "id-cmc-addExtensions", "id-cmc-addExtensions"),
       (9, "id-cmc-encryptedPOP", "id-cmc-encryptedPOP"),
       (10, "id-cmc-decryptedPOP", "id-cmc-decryptedPOP"),
       (11, "id-cmc-lraPOPWitness", "id-cmc-lraPOPWitness"),
       (15, "id-cmc-getCert", "id-cmc-getCert"), (16, "id-cmc-getCRL", "id-cmc-getCRL"),
       (17, "id-cmc-revokeRequest", "id-cmc-revokeRequest"),
       (18, "id-cmc-regInfo", "id-cmc-regInfo"),
       (19, "id-cmc-responseInfo", "id-cmc-responseInfo"),
       (21, "id-cmc-queryPending", "id-cmc-queryPending"),
       (22, "id-cmc-popLinkRandom", "id-cmc-popLinkRandom"),
       (23, "id-cmc-popLinkWitness", "id-cmc-popLinkWitness"),
       (24, "id-cmc-confirmCertAcceptance", "id-cmc-confirmCertAcceptance")],
    under [1, 3, 6, 1, 5, 5, 7, 8]
      [(1, "id-on-personalData", "id-on-personalData"),
       (3, "id-on-permanentIdentifier", "Permanent Identifier"),
       (4, "id-on-hardwareModuleName", "Hardware Module Name"), (5, "id-on-xmppAddr", "XmppAddr"),
       (7, "id-on-dnsSRV", "SRVName"), (8, "id-on-NAIRealm", "NAIRealm"),
       (9, "id-on-SmtpUTF8Mailbox", "Smtp UTF8 Mailbox")],
    under [1, 3, 6, 1, 5, 5, 7, 9]
      [(1, "id-pda-dateOfBirth", "id-pda-dateOfBirth"),
       (2, "id-pda-placeOfBirth", "id-pda-placeOfBirth"), (3, "id-pda-gender", "id-pda-gender"),
       (4, "id-pda-countryOfCitizenship", "id-pda-countryOfCitizenship"),
       (5, "id-pda-countryOfResidence", "id-pda-countryOfResidence")],
    under [1, 3, 6, 1, 5, 5, 7, 10]
      [(1, "id-aca-authenticationInfo", "id-aca-authenticationInfo"),
       (2, "id-aca-accessIdentity", "id-aca-accessIdentity"),
       (3, "id-aca-chargingIdentity", "id-aca-chargingIdentity"),
       (4, "id-aca-group", "id-aca-group"), (5, "id-aca-role", "id-aca-role"),
       (6, "id-aca-encAttrs", "id-aca-encAttrs")],
    under [1, 3, 6, 1, 5, 5, 7, 11]
      [(1, "id-qcs-pkixQCSyntax-v1", "id-qcs-pkixQCSyntax-v1")],
    under [1, 3, 6, 1, 5, 5, 7, 12]
      [(1, "id-cct-crs", "id-cct-crs"), (2, "id-cct-PKIData", "id-cct-PKIData"),
       (3, "id-cct-PKIResponse", "id-cct-PKIResponse")],
    under [1, 3, 6, 1, 5, 5, 7, 14]
      [(2, "ipAddr-asNumber", "ipAddr-asNumber"), (3, "ipAddr-asNumberv2", "ipAddr-asNumberv2")],
    under [1, 3, 6, 1, 5, 5, 7, 21]
      [(0, "id-ppl-anyLanguage", "Any language"), (1, "id-ppl-inheritAll", "Inherit all"),
       (2, "id-ppl-independent", "Independent")],
    under [1, 3, 6, 1, 5, 5, 7, 48]
      [(1, "OCSP", "OCSP"), (2, "caIssuers", "CA Issuers"),
       (3, "ad_timestamping", "AD Time Stamping"), (4, "AD_DVCS", "ad dvcs"),
       (5, "caRepository", "CA Repository"), (10, "rpkiManifest", "RPKI Manifest"),
       (11, "signedObject", "Signed Object"), (13, "rpkiNotify", "RPKI Notify")],
    under [1, 3, 6, 1, 5, 5, 7, 48, 1]
      [(1, "basicOCSPResponse", "Basic OCSP Response"), (2, "Nonce", "OCSP Nonce"),
       (3, "CrlID", "OCSP CRL ID"), (4, "acceptableResponses", "Acceptable OCSP Responses"),
       (5, "noCheck", "OCSP No Check"), (6, "archiveCutoff", "OCSP Archive Cutoff"),
       (7, "serviceLocator", "OCSP Service Locator"),
       (8, "extendedStatus", "Extended OCSP Status"), (9, "valid", "valid"), (10, "path", "path"),
       (11, "trustRoot", "Trust Root")],
    under [1, 3, 6, 1, 5, 5, 8, 1]
      [(1, "HMAC-MD5", "hmac-md5"), (2, "HMAC-SHA1", "hmac-sha1")],
    under [1, 3, 6, 1, 7]
      [(1, "mime-mhs", "MIME MHS")],
    under [1, 3, 6, 1, 7, 1]
      [(1, "mime-mhs-headings", "mime-mhs-headings"), (2, "mime-mhs-bodies", "mime-mhs-bodies")],
    under [1, 3, 6, 1, 7, 1, 1]
      [(1, "id-hex-partial-message", "id-hex-partial-message"),
       (2, "id-hex-multipart-message", "id-hex-multipart-message")] ].flatten

end OwnerKeys.ObjectName
