import OwnerKeys.Certificate.ObjectName.Basic

/-!
# Objects for payments

The objects of secure electronic transactions and of wireless applications.
-/

namespace OwnerKeys.ObjectName

/-- The objects for payments and for wireless applications. -/
def payment : List ObjectName :=
  [ under [2, 23]
      [(42, "id-set", "Secure Electronic Transactions"), (43, "wap", "wap")],
    under [2, 23, 42]
      [(0, "set-ctype", "content types"), (1, "set-msgExt", "message extensions"),
       (3, "set-attr", "set-attr"), (5, "set-policy", "set-policy"),
       (7, "set-certExt", "certificate extensions"), (8, "set-brand", "set-brand")],
    under [2, 23, 42, 0]
      [(0, "setct-PANData", "setct-PANData"), (1, "setct-PANToken", "setct-PANToken"),
       (2, "setct-PANOnly", "setct-PANOnly"), (3, "setct-OIData", "setct-OIData"),
       (4, "setct-PI", "setct-PI"), (5, "setct-PIData", "setct-PIData"),
       (6, "setct-PIDataUnsigned", "setct-PIDataUnsigned"),
       (7, "setct-HODInput", "setct-HODInput"),
       (8, "setct-AuthResBaggage", "setct-AuthResBaggage"),
       (9, "setct-AuthRevReqBaggage", "setct-AuthRevReqBaggage"),
       (10, "setct-AuthRevResBaggage", "setct-AuthRevResBaggage"),
       (11, "setct-CapTokenSeq", "setct-CapTokenSeq"),
       (12, "setct-PInitResData", "setct-PInitResData"), (13, "setct-PI-TBS", "setct-PI-TBS"),
       (14, "setct-PResData", "setct-PResData"), (16, "setct-AuthReqTBS", "setct-AuthReqTBS"),
       (17, "setct-AuthResTBS", "setct-AuthResTBS"),
       (18, "setct-AuthResTBSX", "setct-AuthResTBSX"),
       (19, "setct-AuthTokenTBS", "setct-AuthTokenTBS"),
       (20, "setct-CapTokenData", "setct-CapTokenData"),
       (21, "setct-CapTokenTBS", "setct-CapTokenTBS"),
       (22, "setct-AcqCardCodeMsg", "setct-AcqCardCodeMsg"),
       (23, "setct-AuthRevReqTBS", "setct-AuthRevReqTBS"),
       (24, "setct-AuthRevResData", "setct-AuthRevResData"),
       (25, "setct-AuthRevResTBS", "setct-AuthRevResTBS"),
       (26, "setct-CapReqTBS", "setct-CapReqTBS"), (27, "setct-CapReqTBSX", "setct-CapReqTBSX"),
       (28, "setct-CapResData", "setct-CapResData"),
       (29, "setct-CapRevReqTBS", "setct-CapRevReqTBS"),
       (30, "setct-CapRevReqTBSX", "setct-CapRevReqTBSX"),
       (31, "setct-CapRevResData", "setct-CapRevResData"),
       (32, "setct-CredReqTBS", "setct-CredReqTBS"),
       (33, "setct-CredReqTBSX", "setct-CredReqTBSX"),
       (34, "setct-CredResData", "setct-CredResData"),
       (35, "setct-CredRevReqTBS", "setct-CredRevReqTBS"),
       (36, "setct-CredRevReqTBSX", "setct-CredRevReqTBSX"),
       (37, "setct-CredRevResData", "setct-CredRevResData"),
       (38, "setct-PCertReqData", "setct-PCertReqData"),
       (39, "setct-PCertResTBS", "setct-PCertResTBS"),
       (40, "setct-BatchAdminReqData", "setct-BatchAdminReqData"),
       (41, "setct-BatchAdminResData", "setct-BatchAdminResData"),
       (42, "setct-CardCInitResTBS", "setct-CardCInitResTBS"),
       (43, "setct-MeAqCInitResTBS", "setct-MeAqCInitResTBS"),
       (44, "setct-RegFormResTBS", "setct-RegFormResTBS"),
       (45, "setct-CertReqData", "setct-CertReqData"),
       (46, "setct-CertReqTBS", "setct-CertReqTBS"),
       (47, "setct-CertResData", "setct-CertResData"),
       (48, "setct-CertInqReqTBS", "setct-CertInqReqTBS"),
       (49, "setct-ErrorTBS", "setct-ErrorTBS"),
       (50, "setct-PIDualSignedTBE", "setct-PIDualSignedTBE"),
       (51, "setct-PIUnsignedTBE", "setct-PIUnsignedTBE"),
       (52, "setct-AuthReqTBE", "setct-AuthReqTBE"), (53, "setct-AuthResTBE", "setct-AuthResTBE"),
       (54, "setct-AuthResTBEX", "setct-AuthResTBEX"),
       (55, "setct-AuthTokenTBE", "setct-AuthTokenTBE"),
       (56, "setct-CapTokenTBE", "setct-CapTokenTBE"),
       (57, "setct-CapTokenTBEX", "setct-CapTokenTBEX"),
       (58, "setct-AcqCardCodeMsgTBE", "setct-AcqCardCodeMsgTBE"),
       (59, "setct-AuthRevReqTBE", "setct-AuthRevReqTBE"),
       (60, "setct-AuthRevResTBE", "setct-AuthRevResTBE"),
       (61, "setct-AuthRevResTBEB", "setct-AuthRevResTBEB"),
       (62, "setct-CapReqTBE", "setct-CapReqTBE"), (63, "setct-CapReqTBEX", "setct-CapReqTBEX"),
       (64, "setct-CapResTBE", "setct-CapResTBE"),
       (65, "setct-CapRevReqTBE", "setct-CapRevReqTBE"),
       (66, "setct-CapRevReqTBEX", "setct-CapRevReqTBEX"),
       (67, "setct-CapRevResTBE", "setct-CapRevResTBE"),
       (68, "setct-CredReqTBE", "setct-CredReqTBE"),
       (69, "setct-CredReqTBEX", "setct-CredReqTBEX"),
       (70, "setct-CredResTBE", "setct-CredResTBE"),
       (71, "setct-CredRevReqTBE", "setct-CredRevReqTBE"),
       (72, "setct-CredRevReqTBEX", "setct-CredRevReqTBEX"),
       (73, "setct-CredRevResTBE", "setct-CredRevResTBE"),
       (74, "setct-BatchAdminReqTBE", "setct-BatchAdminReqTBE"),
       (75, "setct-BatchAdminResTBE", "setct-BatchAdminResTBE"),
       (76, "setct-RegFormReqTBE", "setct-RegFormReqTBE"),
       (77, "setct-CertReqTBE", "setct-CertReqTBE"),
       (78, "setct-CertReqTBEX", "setct-CertReqTBEX"),
       (79, "setct-CertResTBE", "setct-CertResTBE"),
       (80, "setct-CRLNotificationTBS", "setct-CRLNotificationTBS"),
       (81, "setct-CRLNotificationResTBS", "setct-CRLNotificationResTBS"),
       (82, "setct-BCIDistributionTBS", "setct-BCIDistributionTBS")],
    under [2, 23, 42, 1]
      [(1, "setext-genCrypt", "generic cryptogram"),
       (3, "setext-miAuth", "merchant initiated auth"),
       (4, "setext-pinSecure", "setext-pinSecure"), (5, "setext-pinAny", "setext-pinAny"),
       (7, "setext-track2", "setext-track2"), (8, "setext-cv", "additional verification")],
    under [2, 23, 42, 3]
      [(0, "setAttr-Cert", "setAttr-Cert"), (1, "setAttr-PGWYcap", "payment gateway capabilities"),
       (2, "setAttr-TokenType", "setAttr-TokenType"), (3, "setAttr-IssCap", "issuer capabilities")],
    under [2, 23, 42, 3, 0]
      [(0, "set-rootKeyThumb", "set-rootKeyThumb"), (1, "set-addPolicy", "set-addPolicy")],
    under [2, 23, 42, 3, 2]
      [(1, "setAttr-Token-EMV", "setAttr-Token-EMV"),
       (2, "setAttr-Token-B0Prime", "setAttr-Token-B0Prime")],
    under [2, 23, 42, 3, 3]
      [(3, "setAttr-IssCap-CVM", "setAttr-IssCap-CVM"),
       (4, "setAttr-IssCap-T2", "setAttr-IssCap-T2"),
       (5, "setAttr-IssCap-Sig", "setAttr-IssCap-Sig")],
    under [2, 23, 42, 3, 3, 3]
      [(1, "setAttr-GenCryptgrm", "generate cryptogram")],
    under [2, 23, 42, 3, 3, 4]
      [(1, "setAttr-T2Enc", "encrypted track 2"), (2, "setAttr-T2cleartxt", "cleartext track 2")],
    under [2, 23, 42, 3, 3, 5]
      [(1, "setAttr-TokICCsig", "ICC or token signature"),
       (2, "setAttr-SecDevSig", "secure device signature")],
    under [2, 23, 42, 5]
      [(0, "set-policy-root", "set-policy-root")],
    under [2, 23, 42, 7]
      [(0, "setCext-hashedRoot", "setCext-hashedRoot"),
       (1, "setCext-certType", "setCext-certType"), (2, "setCext-merchData", "setCext-merchData"),
       (3, "setCext-cCertRequired", "setCext-cCertRequired"),
       (4, "setCext-tunneling", "setCext-tunneling"), (5, "setCext-setExt", "setCext-setExt"),
       (6, "setCext-setQualf", "setCext-setQualf"),
       (7, "setCext-PGWYcapabilities", "setCext-PGWYcapabilities"),
       (8, "setCext-TokenIdentifier", "setCext-TokenIdentifier"),
       (9, "setCext-Track2Data", "setCext-Track2Data"),
       (10, "setCext-TokenType", "setCext-TokenType"),
       (11, "setCext-IssuerCapabilities", "setCext-IssuerCapabilities")],
    under [2, 23, 42, 8]
      [(1, "set-brand-IATA-ATA", "set-brand-IATA-ATA"), (4, "set-brand-Visa", "set-brand-Visa"),
       (5, "set-brand-MasterCard", "set-brand-MasterCard"),
       (30, "set-brand-Diners", "set-brand-Diners"),
       (34, "set-brand-AmericanExpress", "set-brand-AmericanExpress"),
       (35, "set-brand-JCB", "set-brand-JCB"), (6011, "set-brand-Novus", "set-brand-Novus")],
    under [2, 23, 43]
      [(1, "wap-wsg", "wap-wsg")],
    under [2, 23, 43, 1, 4]
      [(1, "wap-wsg-idm-ecid-wtls1", "wap-wsg-idm-ecid-wtls1"),
       (3, "wap-wsg-idm-ecid-wtls3", "wap-wsg-idm-ecid-wtls3"),
       (4, "wap-wsg-idm-ecid-wtls4", "wap-wsg-idm-ecid-wtls4"),
       (5, "wap-wsg-idm-ecid-wtls5", "wap-wsg-idm-ecid-wtls5"),
       (6, "wap-wsg-idm-ecid-wtls6", "wap-wsg-idm-ecid-wtls6"),
       (7, "wap-wsg-idm-ecid-wtls7", "wap-wsg-idm-ecid-wtls7"),
       (8, "wap-wsg-idm-ecid-wtls8", "wap-wsg-idm-ecid-wtls8"),
       (9, "wap-wsg-idm-ecid-wtls9", "wap-wsg-idm-ecid-wtls9"),
       (10, "wap-wsg-idm-ecid-wtls10", "wap-wsg-idm-ecid-wtls10"),
       (11, "wap-wsg-idm-ecid-wtls11", "wap-wsg-idm-ecid-wtls11"),
       (12, "wap-wsg-idm-ecid-wtls12", "wap-wsg-idm-ecid-wtls12")] ].flatten

end OwnerKeys.ObjectName
