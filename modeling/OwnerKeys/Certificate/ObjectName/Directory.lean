import OwnerKeys.Certificate.ObjectName.Basic

/-!
# Objects of the directory

The attributes, classes and extensions that the directory standards define, and those of the early
directory pilots.
-/

namespace OwnerKeys.ObjectName

/-- The objects of the directory. -/
def directory : List ObjectName :=
  [ under [0]
      [(9, "data", "data")],
    under [0, 9]
      [(2342, "pss", "pss")],
    under [0, 9, 2342]
      [(19200300, "ucl", "ucl")],
    under [0, 9, 2342, 19200300]
      [(100, "pilot", "pilot")],
    under [0, 9, 2342, 19200300, 100]
      [(1, "pilotAttributeType", "pilotAttributeType"),
       (3, "pilotAttributeSyntax", "pilotAttributeSyntax"),
       (4, "pilotObjectClass", "pilotObjectClass"), (10, "pilotGroups", "pilotGroups")],
    under [0, 9, 2342, 19200300, 100, 1]
      [(1, "UID", "userId"), (2, "textEncodedORAddress", "textEncodedORAddress"),
       (3, "mail", "rfc822Mailbox"), (4, "info", "info"), (5, "favouriteDrink", "favouriteDrink"),
       (6, "roomNumber", "roomNumber"), (7, "photo", "photo"), (8, "userClass", "userClass"),
       (9, "host", "host"), (10, "manager", "manager"),
       (11, "documentIdentifier", "documentIdentifier"), (12, "documentTitle", "documentTitle"),
       (13, "documentVersion", "documentVersion"), (14, "documentAuthor", "documentAuthor"),
       (15, "documentLocation", "documentLocation"),
       (20, "homeTelephoneNumber", "homeTelephoneNumber"), (21, "secretary", "secretary"),
       (22, "otherMailbox", "otherMailbox"), (23, "lastModifiedTime", "lastModifiedTime"),
       (24, "lastModifiedBy", "lastModifiedBy"), (25, "DC", "domainComponent"),
       (26, "aRecord", "aRecord"), (27, "pilotAttributeType27", "pilotAttributeType27"),
       (28, "mXRecord", "mXRecord"), (29, "nSRecord", "nSRecord"), (30, "sOARecord", "sOARecord"),
       (31, "cNAMERecord", "cNAMERecord"), (37, "associatedDomain", "associatedDomain"),
       (38, "associatedName", "associatedName"), (39, "homePostalAddress", "homePostalAddress"),
       (40, "personalTitle", "personalTitle"),
       (41, "mobileTelephoneNumber", "mobileTelephoneNumber"),
       (42, "pagerTelephoneNumber", "pagerTelephoneNumber"),
       (43, "friendlyCountryName", "friendlyCountryName"), (44, "uid", "uniqueIdentifier"),
       (45, "organizationalStatus", "organizationalStatus"), (46, "janetMailbox", "janetMailbox"),
       (47, "mailPreferenceOption", "mailPreferenceOption"), (48, "buildingName", "buildingName"),
       (49, "dSAQuality", "dSAQuality"), (50, "singleLevelQuality", "singleLevelQuality"),
       (51, "subtreeMinimumQuality", "subtreeMinimumQuality"),
       (52, "subtreeMaximumQuality", "subtreeMaximumQuality"),
       (53, "personalSignature", "personalSignature"), (54, "dITRedirect", "dITRedirect"),
       (55, "audio", "audio"), (56, "documentPublisher", "documentPublisher")],
    under [0, 9, 2342, 19200300, 100, 3]
      [(4, "iA5StringSyntax", "iA5StringSyntax"),
       (5, "caseIgnoreIA5StringSyntax", "caseIgnoreIA5StringSyntax")],
    under [0, 9, 2342, 19200300, 100, 4]
      [(3, "pilotObject", "pilotObject"), (4, "pilotPerson", "pilotPerson"),
       (5, "account", "account"), (6, "document", "document"), (7, "room", "room"),
       (9, "documentSeries", "documentSeries"), (13, "domain", "Domain"),
       (14, "rFC822localPart", "rFC822localPart"), (15, "dNSDomain", "dNSDomain"),
       (17, "domainRelatedObject", "domainRelatedObject"),
       (18, "friendlyCountry", "friendlyCountry"),
       (19, "simpleSecurityObject", "simpleSecurityObject"),
       (20, "pilotOrganization", "pilotOrganization"), (21, "pilotDSA", "pilotDSA"),
       (22, "qualityLabelledData", "qualityLabelledData")],
    under [2]
      [(5, "X500", "directory services (X.500)")],
    under [2, 5]
      [(4, "X509", "X509"), (8, "X500algorithms", "directory services - algorithms"),
       (29, "id-ce", "id-ce")],
    under [2, 5, 1]
      [(5, "selected-attribute-types", "Selected Attribute Types")],
    under [2, 5, 1, 5]
      [(55, "clearance", "clearance")],
    under [2, 5, 4]
      [(3, "CN", "commonName"), (4, "SN", "surname"), (5, "serialNumber", "serialNumber"),
       (6, "C", "countryName"), (7, "L", "localityName"), (8, "ST", "stateOrProvinceName"),
       (9, "street", "streetAddress"), (10, "O", "organizationName"),
       (11, "OU", "organizationalUnitName"), (12, "title", "title"),
       (13, "description", "description"), (14, "searchGuide", "searchGuide"),
       (15, "businessCategory", "businessCategory"), (16, "postalAddress", "postalAddress"),
       (17, "postalCode", "postalCode"), (18, "postOfficeBox", "postOfficeBox"),
       (19, "physicalDeliveryOfficeName", "physicalDeliveryOfficeName"),
       (20, "telephoneNumber", "telephoneNumber"), (21, "telexNumber", "telexNumber"),
       (22, "teletexTerminalIdentifier", "teletexTerminalIdentifier"),
       (23, "facsimileTelephoneNumber", "facsimileTelephoneNumber"),
       (24, "x121Address", "x121Address"),
       (25, "internationaliSDNNumber", "internationaliSDNNumber"),
       (26, "registeredAddress", "registeredAddress"),
       (27, "destinationIndicator", "destinationIndicator"),
       (28, "preferredDeliveryMethod", "preferredDeliveryMethod"),
       (29, "presentationAddress", "presentationAddress"),
       (30, "supportedApplicationContext", "supportedApplicationContext"),
       (31, "member", "member"), (32, "owner", "owner"), (33, "roleOccupant", "roleOccupant"),
       (34, "seeAlso", "seeAlso"), (35, "userPassword", "userPassword"),
       (36, "userCertificate", "userCertificate"), (37, "cACertificate", "cACertificate"),
       (38, "authorityRevocationList", "authorityRevocationList"),
       (39, "certificateRevocationList", "certificateRevocationList"),
       (40, "crossCertificatePair", "crossCertificatePair"), (41, "name", "name"),
       (42, "GN", "givenName"), (43, "initials", "initials"),
       (44, "generationQualifier", "generationQualifier"),
       (45, "x500UniqueIdentifier", "x500UniqueIdentifier"), (46, "dnQualifier", "dnQualifier"),
       (47, "enhancedSearchGuide", "enhancedSearchGuide"),
       (48, "protocolInformation", "protocolInformation"),
       (49, "distinguishedName", "distinguishedName"), (50, "uniqueMember", "uniqueMember"),
       (51, "houseIdentifier", "houseIdentifier"),
       (52, "supportedAlgorithms", "supportedAlgorithms"),
       (53, "deltaRevocationList", "deltaRevocationList"), (54, "dmdName", "dmdName"),
       (65, "pseudonym", "pseudonym"), (72, "role", "role"),
       (97, "organizationIdentifier", "organizationIdentifier"), (98, "c3", "countryCode3c"),
       (99, "n3", "countryCode3n"), (100, "dnsName", "dnsName")],
    under [2, 5, 8, 1]
      [(1, "RSA", "rsa")],
    under [2, 5, 8, 3]
      [(100, "RSA-MDC2", "mdc2WithRSA"), (101, "MDC2", "mdc2")],
    under [2, 5, 29]
      [(9, "subjectDirectoryAttributes", "X509v3 Subject Directory Attributes"),
       (14, "subjectKeyIdentifier", "X509v3 Subject Key Identifier"),
       (15, "keyUsage", "X509v3 Key Usage"),
       (16, "privateKeyUsagePeriod", "X509v3 Private Key Usage Period"),
       (17, "subjectAltName", "X509v3 Subject Alternative Name"),
       (18, "issuerAltName", "X509v3 Issuer Alternative Name"),
       (19, "basicConstraints", "X509v3 Basic Constraints"),
       (20, "crlNumber", "X509v3 CRL Number"), (21, "CRLReason", "X509v3 CRL Reason Code"),
       (23, "holdInstructionCode", "Hold Instruction Code"),
       (24, "invalidityDate", "Invalidity Date"), (27, "deltaCRL", "X509v3 Delta CRL Indicator"),
       (28, "issuingDistributionPoint", "X509v3 Issuing Distribution Point"),
       (29, "certificateIssuer", "X509v3 Certificate Issuer"),
       (30, "nameConstraints", "X509v3 Name Constraints"),
       (31, "crlDistributionPoints", "X509v3 CRL Distribution Points"),
       (32, "certificatePolicies", "X509v3 Certificate Policies"),
       (33, "policyMappings", "X509v3 Policy Mappings"),
       (35, "authorityKeyIdentifier", "X509v3 Authority Key Identifier"),
       (36, "policyConstraints", "X509v3 Policy Constraints"),
       (37, "extendedKeyUsage", "X509v3 Extended Key Usage"),
       (38, "authorityAttributeIdentifier", "X509v3 Authority Attribute Identifier"),
       (39, "roleSpecCertIdentifier", "X509v3 Role Specification Certificate Identifier"),
       (41, "basicAttConstraints", "X509v3 Basic Attribute Certificate Constraints"),
       (42, "delegatedNameConstraints", "X509v3 Delegated Name Constraints"),
       (43, "timeSpecification", "X509v3 Time Specification"),
       (46, "freshestCRL", "X509v3 Freshest CRL"),
       (48, "attributeDescriptor", "X509v3 Attribute Descriptor"),
       (49, "userNotice", "X509v3 User Notice"),
       (50, "sOAIdentifier", "X509v3 Source of Authority Identifier"),
       (52, "acceptableCertPolicies", "X509v3 Acceptable Certification Policies"),
       (54, "inhibitAnyPolicy", "X509v3 Inhibit Any Policy"),
       (55, "targetInformation", "X509v3 AC Targeting"),
       (56, "noRevAvail", "X509v3 No Revocation Available"),
       (57, "acceptablePrivPolicies", "X509v3 Acceptable Privilege Policies"),
       (61, "indirectIssuer", "X509v3 Indirect Issuer"),
       (62, "noAssertion", "X509v3 No Assertion"),
       (63, "aAissuingDistributionPoint",
        "X509v3 Attribute Authority Issuing Distribution Point"),
       (64, "issuedOnBehalfOf", "X509v3 Issued On Behalf Of"),
       (65, "singleUse", "X509v3 Single Use"),
       (66, "groupAC", "X509v3 Group Attribute Certificate"),
       (67, "allowedAttributeAssignments", "X509v3 Allowed Attribute Assignments"),
       (68, "attributeMappings", "X509v3 Attribute Mappings"),
       (69, "holderNameConstraints", "X509v3 Holder Name Constraints"),
       (70, "authorizationValidation", "X509v3 Authorization Validation"),
       (71, "protRestrict", "X509v3 Protocol Restriction"),
       (72, "subjectAltPublicKeyInfo", "X509v3 Subject Alternative Public Key Info"),
       (73, "altSignatureAlgorithm", "X509v3 Alternative Signature Algorithm"),
       (74, "altSignatureValue", "X509v3 Alternative Signature Value"),
       (75, "associatedInformation", "X509v3 Associated Information")],
    under [2, 5, 29, 32]
      [(0, "anyPolicy", "X509v3 Any Policy")],
    under [2, 5, 29, 37]
      [(0, "anyExtendedKeyUsage", "Any Extended Key Usage")] ].flatten

end OwnerKeys.ObjectName
