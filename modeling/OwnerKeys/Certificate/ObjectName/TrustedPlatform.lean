import OwnerKeys.Certificate.ObjectName.Basic

/-!
# Objects of trusted platforms

The attributes, purposes and traits by which certificates describe platforms and their parts.
-/

namespace OwnerKeys.ObjectName

/-- The objects of trusted platforms. -/
def trustedPlatform : List ObjectName :=
  [ under [2, 23]
      [(133, "tcg", "Trusted Computing Group")],
    under [2, 23, 133]
      [(1, "tcg-tcpaSpecVersion", "tcg-tcpaSpecVersion"),
       (2, "tcg-attribute", "Trusted Computing Group Attributes"),
       (3, "tcg-protocol", "Trusted Computing Group Protocols"),
       (4, "tcg-algorithm", "Trusted Computing Group Algorithms"),
       (5, "tcg-platformClass", "Trusted Computing Group Platform Classes"),
       (6, "tcg-ce", "Trusted Computing Group Certificate Extensions"),
       (8, "tcg-kp", "Trusted Computing Group Key Purposes"),
       (11, "tcg-ca", "Trusted Computing Group Certificate Policies"),
       (17, "tcg-address", "Trusted Computing Group Address Formats"),
       (18, "tcg-registry", "Trusted Computing Group Registry"),
       (19, "tcg-traits", "Trusted Computing Group Traits")],
    under [2, 23, 133, 2]
      [(1, "tcg-at-tpmManufacturer", "TPM Manufacturer"), (2, "tcg-at-tpmModel", "TPM Model"),
       (3, "tcg-at-tpmVersion", "TPM Version"),
       (10, "tcg-at-securityQualities", "Security Qualities"),
       (11, "tcg-at-tpmProtectionProfile", "TPM Protection Profile"),
       (12, "tcg-at-tpmSecurityTarget", "TPM Security Target"),
       (13, "tcg-at-tbbProtectionProfile", "TBB Protection Profile"),
       (14, "tcg-at-tbbSecurityTarget", "TBB Security Target"),
       (15, "tcg-at-tpmIdLabel", "TPM ID Label"),
       (16, "tcg-at-tpmSpecification", "TPM Specification"),
       (17, "tcg-at-tcgPlatformSpecification", "TPM Platform Specification"),
       (18, "tcg-at-tpmSecurityAssertions", "TPM Security Assertions"),
       (19, "tcg-at-tbbSecurityAssertions", "TBB Security Assertions"),
       (23, "tcg-at-tcgCredentialSpecification", "TCG Credential Specification"),
       (25, "tcg-at-tcgCredentialType", "TCG Credential Type"),
       (26, "tcg-at-previousPlatformCertificates", "TCG Previous Platform Certificates"),
       (27, "tcg-at-tbbSecurityAssertions-v3", "TCG TBB Security Assertions V3"),
       (28, "tcg-at-cryptographicAnchors", "TCG Cryptographic Anchors")],
    under [2, 23, 133, 3]
      [(1, "tcg-prt-tpmIdProtocol", "TCG TPM Protocol")],
    under [2, 23, 133, 4]
      [(1, "tcg-algorithm-null", "TCG NULL Algorithm")],
    under [2, 23, 133, 5]
      [(1, "tcg-common", "Trusted Computing Group Common")],
    under [2, 23, 133, 5, 1]
      [(1, "tcg-at-platformManufacturerStr", "TCG Platform Manufacturer String"),
       (2, "tcg-at-platformManufacturerId", "TCG Platform Manufacturer ID"),
       (3, "tcg-at-platformConfigUri", "TCG Platform Configuration URI"),
       (4, "tcg-at-platformModel", "TCG Platform Model"),
       (5, "tcg-at-platformVersion", "TCG Platform Version"),
       (6, "tcg-at-platformSerial", "TCG Platform Serial Number"),
       (7, "tcg-at-platformConfiguration", "TCG Platform Configuration"),
       (8, "tcg-at-platformIdentifier", "TCG Platform Identifier")],
    under [2, 23, 133, 5, 1, 7]
      [(1, "tcg-at-platformConfiguration-v1", "Platform Configuration Version 1"),
       (2, "tcg-at-platformConfiguration-v2", "Platform Configuration Version 2"),
       (3, "tcg-at-platformConfiguration-v3", "Platform Configuration Version 3"),
       (4, "tcg-at-platformConfigUri-v3", "Platform Configuration URI Version 3")],
    under [2, 23, 133, 6]
      [(2, "tcg-ce-relevantCredentials", "Relevant Credentials"),
       (3, "tcg-ce-relevantManifests", "Relevant Manifests"),
       (4, "tcg-ce-virtualPlatformAttestationService",
        "Virtual Platform Attestation Service"),
       (5, "tcg-ce-migrationControllerAttestationService",
        "Migration Controller Attestation Service"),
       (6, "tcg-ce-migrationControllerRegistrationService",
        "Migration Controller Registration Service"),
       (7, "tcg-ce-virtualPlatformBackupService", "Virtual Platform Backup Service")],
    under [2, 23, 133, 8]
      [(1, "tcg-kp-EKCertificate", "Endorsement Key Certificate"),
       (2, "tcg-kp-PlatformAttributeCertificate", "Platform Attribute Certificate"),
       (3, "tcg-kp-AIKCertificate", "Attestation Identity Key Certificate"),
       (4, "tcg-kp-PlatformKeyCertificate", "Platform Key Certificate"),
       (5, "tcg-kp-DeltaPlatformAttributeCertificate",
        "Delta Platform Attribute Certificate"),
       (6, "tcg-kp-DeltaPlatformKeyCertificate", "Delta Platform Key Certificate"),
       (7, "tcg-kp-AdditionalPlatformAttributeCertificate",
        "Additional Platform Attribute Certificate"),
       (8, "tcg-kp-AdditionalPlatformKeyCertificate",
        "Additional Platform Key Certificate")],
    under [2, 23, 133, 11]
      [(4, "tcg-cap-verifiedPlatformCertificate",
        "TCG Verified Platform Certificate CA Policy")],
    under [2, 23, 133, 17]
      [(1, "tcg-address-ethernetmac", "Ethernet MAC Address"),
       (2, "tcg-address-wlanmac", "WLAN MAC Address"),
       (3, "tcg-address-bluetoothmac", "Bluetooth MAC Address")],
    under [2, 23, 133, 18]
      [(3, "tcg-registry-componentClass", "TCG Component Class")],
    under [2, 23, 133, 18, 3]
      [(1, "tcg-registry-componentClass-tcg", "Trusted Computed Group Registry"),
       (2, "tcg-registry-componentClass-ietf",
        "Internet Engineering Task Force Registry"),
       (3, "tcg-registry-componentClass-dmtf",
        "Distributed Management Task Force Registry"),
       (4, "tcg-registry-componentClass-pcie", "PCIE Component Class"),
       (5, "tcg-registry-componentClass-disk", "Disk Component Class")],
    under [2, 23, 133, 19]
      [(1, "tcg-tr-ID", "TCG Trait Identifiers"), (2, "tcg-tr-category", "TCG Trait Categories"),
       (3, "tcg-tr-registry", "TCG Trait Registries")],
    under [2, 23, 133, 19, 1]
      [(1, "tcg-tr-ID-Boolean", "Boolean Trait"),
       (2, "tcg-tr-ID-CertificateIdentifier", "Certificate Identifier Trait"),
       (3, "tcg-tr-ID-CommonCriteria", "Common Criteria Trait"),
       (4, "tcg-tr-ID-componentClass", "Component Class Trait"),
       (5, "tcg-tr-ID-componentIdentifierV11", "Component Identifier V1.1 Trait"),
       (6, "tcg-tr-ID-FIPSLevel", "FIPS Level Trait"),
       (7, "tcg-tr-ID-ISO9000Level", "ISO 9000 Level Trait"),
       (8, "tcg-tr-ID-networkMAC", "Network MAC Trait"),
       (9, "tcg-tr-ID-OID", "Object Identifier Trait"),
       (10, "tcg-tr-ID-PEN", "Private Enterprise Number Trait"),
       (11, "tcg-tr-ID-platformFirmwareCapabilities",
        "Platform Firmware Capabilities Trait"),
       (12, "tcg-tr-ID-platformFirmwareSignatureVerification",
        "Platform Firmware Signature Verification Trait"),
       (13, "tcg-tr-ID-platformFirmwareUpdateCompliance",
        "Platform Firmware Update Compliance Trait"),
       (14, "tcg-tr-ID-platformHardwareCapabilities",
        "Platform Hardware Capabilities Trait"),
       (15, "tcg-tr-ID-RTM", "Root of Trust for Measurement Trait"),
       (16, "tcg-tr-ID-status", "Attribute Status Trait"),
       (17, "tcg-tr-ID-URI", "Uniform Resource Identifier Trait"),
       (18, "tcg-tr-ID-UTF8String", "UTF8String Trait"),
       (19, "tcg-tr-ID-IA5String", "IA5String Trait"),
       (20, "tcg-tr-ID-PEMCertString", "PEM-Encoded Certificate String Trait"),
       (21, "tcg-tr-ID-PublicKey", "Public Key Trait")],
    under [2, 23, 133, 19, 2]
      [(1, "tcg-tr-cat-platformManufacturer", "Platform Manufacturer Trait Category"),
       (2, "tcg-tr-cat-platformModel", "Platform Model Trait Category"),
       (3, "tcg-tr-cat-platformVersion", "Platform Version Trait Category"),
       (4, "tcg-tr-cat-platformSerial", "Platform Serial Trait Category"),
       (5, "tcg-tr-cat-platformManufacturerIdentifier",
        "Platform Manufacturer Identifier Trait Category"),
       (6, "tcg-tr-cat-platformOwnership", "Platform Ownership Trait Category"),
       (7, "tcg-tr-cat-componentClass", "Component Class Trait Category"),
       (8, "tcg-tr-cat-componentManufacturer", "Component Manufacturer Trait Category"),
       (9, "tcg-tr-cat-componentModel", "Component Model Trait Category"),
       (10, "tcg-tr-cat-componentSerial", "Component Serial Trait Category"),
       (11, "tcg-tr-cat-componentStatus", "Component Status Trait Category"),
       (12, "tcg-tr-cat-componentLocation", "Component Location Trait Category"),
       (13, "tcg-tr-cat-componentRevision", "Component Revision Trait Category"),
       (14, "tcg-tr-cat-componentFieldReplaceable",
        "Component Field Replaceable Trait Category"),
       (15, "tcg-tr-cat-EKCertificate", "EK Certificate Trait Category"),
       (16, "tcg-tr-cat-IAKCertificate", "IAK Certificate Trait Category"),
       (17, "tcg-tr-cat-IDevIDCertificate", "IDevID Certificate Trait Category"),
       (18, "tcg-tr-cat-DICECertificate", "DICE Certificate Trait Category"),
       (19, "tcg-tr-cat-SPDMCertificate", "SPDM Certificate Trait Category"),
       (20, "tcg-tr-cat-PEMCertificate", "PEM Certificate Trait Category"),
       (21, "tcg-tr-cat-PlatformCertificate", "Platform Certificate Trait Category"),
       (22, "tcg-tr-cat-DeltaPlatformCertificate",
        "Delta Platform Certificate Trait Category"),
       (23, "tcg-tr-cat-RebasePlatformCertificate",
        "Rebase Platform Certificate Trait Category"),
       (24, "tcg-tr-cat-genericCertificate", "Generic Certificate Trait Category"),
       (25, "tcg-tr-cat-CommonCriteria", "Common Criteria Trait Category"),
       (26, "tcg-tr-cat-componentIdentifierV11",
        "Component Identifier V1.1 Trait Category"),
       (27, "tcg-tr-cat-FIPSLevel", "FIPS Level Trait Category"),
       (28, "tcg-tr-cat-ISO9000", "ISO 9000 Trait Category"),
       (29, "tcg-tr-cat-networkMAC", "Network MAC Trait Category"),
       (30, "tcg-tr-cat-attestationProtocol", "Attestation Protocol Trait Category"),
       (31, "tcg-tr-cat-PEN", "Private Enterprise Number Trait Category"),
       (32, "tcg-tr-cat-platformFirmwareCapabilities",
        "Platform Firmware Capabilities Trait Category"),
       (33, "tcg-tr-cat-platformHardwareCapabilities",
        "Platform Hardware Capabilities Trait Category"),
       (34, "tcg-tr-cat-platformFirmwareSignatureVerification",
        "Platform Firmware Signature Verification Trait Category"),
       (35, "tcg-tr-cat-platformFirmwareUpdateCompliance",
        "Platform Firmware Update Compliance Trait Category"),
       (36, "tcg-tr-cat-RTM", "Root of Trust of Measurement Trait Category"),
       (37, "tcg-tr-cat-PublicKey", "Public Key Trait Category")] ].flatten

end OwnerKeys.ObjectName
