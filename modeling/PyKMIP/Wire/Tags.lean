import PyKMIP.Lib.Formats
import PyKMIP.AttributePolicy

/-!
# Tags

The tags of encoded items, the names of attributes, and which tags are those
of attributes in a protocol version.
-/

namespace PyKMIP

/-- The members in the order of their codes. -/
inductive Tag where
  | default | activationDate | applicationData | applicationNamespace
  | applicationSpecificInformation | archiveDate | asynchronousCorrelationValue
  | asynchronousIndicator | attributeItem | attributeIndex | attributeName
  | attributeValue | authentication | batchCount | batchErrorContinuationOption
  | batchItem | batchOrderOption | blockCipherMode | cancellationResult
  | certificate | certificateIdentifier | certificateIssuer
  | certificateIssuerAlternativeName | certificateIssuerDistinguishedName
  | certificateRequest | certificateRequestType | certificateSubject
  | certificateSubjectAlternativeName | certificateSubjectDistinguishedName
  | certificateType | certificateValue | commonTemplateAttribute
  | compromiseDate | compromiseOccurrenceDate | contactInformation | credential
  | credentialType | credentialValue | criticalityIndicator | crtCoefficient
  | cryptographicAlgorithm | cryptographicDomainParameters
  | cryptographicLength | cryptographicParameters | cryptographicUsageMask
  | customAttribute | d | deactivationDate | derivationData | derivationMethod
  | derivationParameters | destroyDate | digest | digestValue
  | encryptionKeyInformation | g | hashingAlgorithm | initialDate
  | initializationVector | issuer | iterationCount | ivCounterNonce | j | key
  | keyBlock | keyCompressionType | keyFormatType | keyMaterial
  | keyPartIdentifier | keyValue | keyWrappingData | keyWrappingSpecification
  | lastChangeDate | leaseTime | link | linkType | linkedObjectIdentifier
  | macSignature | macSignatureKeyInformation | maximumItems
  | maximumResponseSize | messageExtension | modulus | name | nameType
  | nameValue | objectGroup | objectType | offset | opaqueDataType
  | opaqueDataValue | opaqueObject | operation | operationPolicyName | p
  | paddingMethod | primeExponentP | primeExponentQ | primeFieldSize
  | privateExponent | privateKey | privateKeyTemplateAttribute
  | privateKeyUniqueIdentifier | processStartDate | protectStopDate
  | protocolVersion | protocolVersionMajor | protocolVersionMinor
  | publicExponent | publicKey | publicKeyTemplateAttribute
  | publicKeyUniqueIdentifier | putFunction | q | qString | qlength
  | queryFunction | recommendedCurve | replacedUniqueIdentifier | requestHeader
  | requestMessage | requestPayload | responseHeader | responseMessage
  | responsePayload | resultMessage | resultReason | resultStatus
  | revocationMessage | revocationReason | revocationReasonCode | keyRoleType
  | salt | secretData | secretDataType | serialNumber | serverInformation
  | splitKey | splitKeyMethod | splitKeyParts | splitKeyThreshold | state
  | storageStatusMask | symmetricKey | template | templateAttribute | timeStamp
  | uniqueBatchItemId | uniqueIdentifier | usageLimits | usageLimitsCount
  | usageLimitsTotal | usageLimitsUnit | username | validityDate
  | validityIndicator | vendorExtension | vendorIdentification | wrappingMethod
  | x | y | password | deviceIdentifier | encodingOption | extensionInformation
  | extensionName | extensionTag | extensionType | fresh | machineIdentifier
  | mediaIdentifier | networkIdentifier | objectGroupMember | certificateLength
  | digitalSignatureAlgorithm | certificateSerialNumber | deviceSerialNumber
  | issuerAlternativeName | issuerDistinguishedName | subjectAlternativeName
  | subjectDistinguishedName | x509CertificateIdentifier
  | x509CertificateIssuer | x509CertificateSubject | keyValueLocation
  | keyValueLocationValue | keyValueLocationType | keyValuePresent
  | originalCreationDate | pgpKey | pgpKeyVersion | alternativeName
  | alternativeNameValue | alternativeNameType | data | signatureData
  | dataLength | randomIv | macData | attestationType | nonce | nonceId
  | nonceValue | attestationMeasurement | attestationAssertion | ivLength
  | tagLength | fixedFieldLength | counterLength | initialCounterValue
  | invocationFieldLength | attestationCapableIndicator | offsetItems
  | locatedItems | correlationValue | initIndicator | finalIndicator
  | rngParameters | rngAlgorithm | drbgAlgorithm | fips186Variation
  | predictionResistance | randomNumberGenerator | validationInformation
  | validationAuthorityType | validationAuthorityCountry
  | validationAuthorityUri | validationVersionMajor | validationVersionMinor
  | validationType | validationLevel | validationCertificateIdentifier
  | validationCertificateUri | validationVendorUri | validationProfile
  | profileInformation | profileName | serverUri | serverPort
  | streamingCapability | asynchronousCapability | attestationCapability
  | unwrapMode | destroyAction | shreddingAlgorithm | rngMode
  | clientRegistrationMethod | capabilityInformation | keyWrapType
  | batchUndoCapability | batchContinueCapability | pkcs12FriendlyName
  | description | comment | authenticatedEncryptionAdditionalData
  | authenticatedEncryptionTag | saltLength | maskGenerator
  | maskGeneratorHashingAlgorithm | pSource | trailerField
  | clientCorrelationValue | serverCorrelationValue | digestedData
  | certificateSubjectCn | certificateSubjectO | certificateSubjectOu
  | certificateSubjectEmail | certificateSubjectC | certificateSubjectSt
  | certificateSubjectL | certificateSubjectUid
  | certificateSubjectSerialNumber | certificateSubjectTitle
  | certificateSubjectDc | certificateSubjectDnQualifier | certificateIssuerCn
  | certificateIssuerO | certificateIssuerOu | certificateIssuerEmail
  | certificateIssuerC | certificateIssuerSt | certificateIssuerL
  | certificateIssuerUid | certificateIssuerSerialNumber
  | certificateIssuerTitle | certificateIssuerDc | certificateIssuerDnQualifier
  | sensitive | alwaysSensitive | extractable | neverExtractable
  | replaceExisting | attributes | commonAttributes | privateKeyAttributes
  | publicKeyAttributes | extensionEnumeration | extensionAttribute
  | extensionParentStructureTag | extensionDescription | serverName
  | serverSerialNumber | serverVersion | serverLoad | productName | buildLevel
  | buildDate | clusterInfo | alternateFailoverEndpoints
  | shortUniqueIdentifier | reserved | tagItem
  | certificateRequestUniqueIdentifier
  | nistKeyType | attributeReference | currentAttribute | newAttribute
  | certificateRequestValue | logMessage | profileVersion | profileVersionMajor
  | profileVersionMinor | protectionLevel | protectionPeriod | quantumSafe
  | quantumSafeCapability | ticket | ticketType | ticketValue | requestCount
  | rights | objects | operations | right | endpointRole | defaultsInformation
  | objectDefaults | ephemeral | serverHashedPassword | oneTimePassword
  | hashedPassword | adjustmentType | pkcs11Interface | pkcs11Function
  | pkcs11InputParameters | pkcs11OutputParameters | pkcs11ReturnCode
  | protectionStorageMask | protectionStorageMasks | interopFunction
  | interopIdentifier | adjustmentValue | commonProtectionStorageMasks
  | privateProtectionStorageMasks | publicProtectionStorageMasks
deriving DecidableEq

/-- Two codes are not used. -/
def Tag.code (tag : Tag) : Nat :=
  if tag.ctorIdx ≤ 317 then 0x420000 + tag.ctorIdx
  else 0x420002 + tag.ctorIdx

/-- `enums.Tags(code)`. -/
def Tag.ofCode? (code : Nat) : Option Tag :=
  if 0x420000 ≤ code ∧ code ≤ 0x42013d then some (.ofNat (code - 0x420000))
  else if 0x420140 ≤ code ∧ code ≤ 0x420165 then
    some (.ofNat (code - 0x420002))
  else none

theorem Tag.ctorIdx_lt (tag : Tag) : tag.ctorIdx < 356 := by
  cases tag <;> decide

theorem Tag.code_lt (tag : Tag) : tag.code < 256 ^ 3 := by
  have small := tag.ctorIdx_lt
  unfold code
  split <;> omega

theorem Tag.ofCode?_code (tag : Tag) : ofCode? tag.code = some tag := by
  have small := tag.ctorIdx_lt
  have same := Tag.ofNat_ctorIdx tag
  unfold ofCode? code
  by_cases low : tag.ctorIdx ≤ 317
  · rw [if_pos low, if_pos (by omega), Nat.add_sub_cancel_left, same]
  · rw [if_neg low, if_neg (by omega), if_pos (by omega),
      Nat.add_sub_cancel_left, same]

section AttributeNames

inductive AttributeType where
  | uniqueIdentifier | name | objectType | cryptographicAlgorithm
  | cryptographicLength | cryptographicParameters
  | cryptographicDomainParameters | certificateType | certificateLength
  | x509CertificateIdentifier | x509CertificateSubject | x509CertificateIssuer
  | certificateIdentifier | certificateSubject | certificateIssuer
  | digitalSignatureAlgorithm | digest | operationPolicyName
  | cryptographicUsageMask | leaseTime | usageLimits | state | initialDate
  | activationDate | processStartDate | protectStopDate | deactivationDate
  | destroyDate | compromiseOccurrenceDate | compromiseDate | revocationReason
  | archiveDate | objectGroup | fresh | link | applicationSpecificInformation
  | contactInformation | lastChangeDate | customAttribute | alternativeName
  | keyValuePresent | keyValueLocation | originalCreationDate | sensitive
  | alwaysSensitive | extractable | neverExtractable
deriving DecidableEq

def AttributeType.value : AttributeType → String
  | .uniqueIdentifier => "Unique Identifier"
  | .name => "Name"
  | .objectType => "Object Type"
  | .cryptographicAlgorithm => "Cryptographic Algorithm"
  | .cryptographicLength => "Cryptographic Length"
  | .cryptographicParameters => "Cryptographic Parameters"
  | .cryptographicDomainParameters => "Cryptographic Domain Parameters"
  | .certificateType => "Certificate Type"
  | .certificateLength => "Certificate Length"
  | .x509CertificateIdentifier => "X.509 Certificate Identifier"
  | .x509CertificateSubject => "X.509 Certificate Subject"
  | .x509CertificateIssuer => "X.509 Certificate Issuer"
  | .certificateIdentifier => "Certificate Identifier"
  | .certificateSubject => "Certificate Subject"
  | .certificateIssuer => "Certificate Issuer"
  | .digitalSignatureAlgorithm => "Digital Signature Algorithm"
  | .digest => "Digest"
  | .operationPolicyName => "Operation Policy Name"
  | .cryptographicUsageMask => "Cryptographic Usage Mask"
  | .leaseTime => "Lease Time"
  | .usageLimits => "Usage Limits"
  | .state => "State"
  | .initialDate => "Initial Date"
  | .activationDate => "Activation Date"
  | .processStartDate => "Process Start Date"
  | .protectStopDate => "Protect Stop Date"
  | .deactivationDate => "Deactivation Date"
  | .destroyDate => "Destroy Date"
  | .compromiseOccurrenceDate => "Compromise Occurrence Date"
  | .compromiseDate => "Compromise Date"
  | .revocationReason => "Revocation Reason"
  | .archiveDate => "Archive Date"
  | .objectGroup => "Object Group"
  | .fresh => "Fresh"
  | .link => "Link"
  | .applicationSpecificInformation => "Application Specific Information"
  | .contactInformation => "Contact Information"
  | .lastChangeDate => "Last Change Date"
  | .customAttribute => "Custom Attribute"
  | .alternativeName => "Alternative Name"
  | .keyValuePresent => "Key Value Present"
  | .keyValueLocation => "Key Value Location"
  | .originalCreationDate => "Original Creation Date"
  | .sensitive => "Sensitive"
  | .alwaysSensitive => "Always Sensitive"
  | .extractable => "Extractable"
  | .neverExtractable => "Never Extractable"

def AttributeType.all : List AttributeType :=
  [.uniqueIdentifier, .name, .objectType, .cryptographicAlgorithm,
   .cryptographicLength, .cryptographicParameters,
   .cryptographicDomainParameters, .certificateType, .certificateLength,
   .x509CertificateIdentifier, .x509CertificateSubject, .x509CertificateIssuer,
   .certificateIdentifier, .certificateSubject, .certificateIssuer,
   .digitalSignatureAlgorithm, .digest, .operationPolicyName,
   .cryptographicUsageMask, .leaseTime, .usageLimits, .state, .initialDate,
   .activationDate, .processStartDate, .protectStopDate, .deactivationDate,
   .destroyDate, .compromiseOccurrenceDate, .compromiseDate, .revocationReason,
   .archiveDate, .objectGroup, .fresh, .link, .applicationSpecificInformation,
   .contactInformation, .lastChangeDate, .customAttribute, .alternativeName,
   .keyValuePresent, .keyValueLocation, .originalCreationDate, .sensitive,
   .alwaysSensitive, .extractable, .neverExtractable]

def attributeNameTagTable : List (String × Tag) :=
  [("Activation Date", .activationDate),
   ("Alternative Name", .alternativeName),
   ("Always Sensitive", .alwaysSensitive),
   ("Application Specific Information", .applicationSpecificInformation),
   ("Archive Date", .archiveDate), ("Attribute", .attributeItem),
   ("Certificate Identifier", .certificateIdentifier),
   ("Certificate Issuer", .certificateIssuer),
   ("Certificate Issuer C", .certificateIssuerC),
   ("Certificate Issuer CN", .certificateIssuerCn),
   ("Certificate Issuer DC", .certificateIssuerDc),
   ("Certificate Issuer DN Qualifier", .certificateIssuerDnQualifier),
   ("Certificate Issuer Email", .certificateIssuerEmail),
   ("Certificate Issuer L", .certificateIssuerL),
   ("Certificate Issuer O", .certificateIssuerO),
   ("Certificate Issuer OU", .certificateIssuerOu),
   ("Certificate Issuer Serial Number", .certificateIssuerSerialNumber),
   ("Certificate Issuer ST", .certificateIssuerSt),
   ("Certificate Issuer Title", .certificateIssuerTitle),
   ("Certificate Issuer UID", .certificateIssuerUid),
   ("Certificate Length", .certificateLength),
   ("Certificate Subject", .certificateSubject),
   ("Certificate Subject C", .certificateSubjectC),
   ("Certificate Subject CN", .certificateSubjectCn),
   ("Certificate Subject DC", .certificateSubjectDc),
   ("Certificate Subject DN Qualifier", .certificateSubjectDnQualifier),
   ("Certificate Subject Email", .certificateSubjectEmail),
   ("Certificate Subject L", .certificateSubjectL),
   ("Certificate Subject O", .certificateSubjectO),
   ("Certificate Subject OU", .certificateSubjectOu),
   ("Certificate Subject Serial Number", .certificateSubjectSerialNumber),
   ("Certificate Subject ST", .certificateSubjectSt),
   ("Certificate Subject Title", .certificateSubjectTitle),
   ("Certificate Subject UID", .certificateSubjectUid),
   ("Certificate Type", .certificateType), ("Comment", .comment),
   ("Compromise Date", .compromiseDate),
   ("Compromise Occurrence Date", .compromiseOccurrenceDate),
   ("Contact Information", .contactInformation),
   ("Cryptographic Algorithm", .cryptographicAlgorithm),
   ("Cryptographic Domain Parameters", .cryptographicDomainParameters),
   ("Cryptographic Length", .cryptographicLength),
   ("Cryptographic Parameters", .cryptographicParameters),
   ("Cryptographic Usage Mask", .cryptographicUsageMask),
   ("Custom Attribute", .customAttribute),
   ("Deactivation Date", .deactivationDate), ("Description", .description),
   ("Destroy Date", .destroyDate), ("Digest", .digest),
   ("Digital Signature Algorithm", .digitalSignatureAlgorithm),
   ("Extractable", .extractable), ("Fresh", .fresh),
   ("Initial Date", .initialDate), ("Key Format Type", .keyFormatType),
   ("Key Value Location", .keyValueLocation),
   ("Key Value Present", .keyValuePresent),
   ("Last Change Date", .lastChangeDate), ("Lease Time", .leaseTime),
   ("Link", .link), ("Name", .name), ("Never Extractable", .neverExtractable),
   ("NIST Key Type", .nistKeyType), ("Object Group", .objectGroup),
   ("Object Type", .objectType), ("Opaque Data Type", .opaqueDataType),
   ("Operation Policy Name", .operationPolicyName),
   ("Original Creation Date", .originalCreationDate),
   ("PKCS#12 Friendly Name", .pkcs12FriendlyName),
   ("Process Start Date", .processStartDate),
   ("Protect Stop Date", .protectStopDate),
   ("Protection Level", .protectionLevel),
   ("Protection Period", .protectionPeriod),
   ("Protection Storage Mask", .protectionStorageMask),
   ("Quantum Safe", .quantumSafe),
   ("Random Number Generator", .randomNumberGenerator),
   ("Revocation Reason", .revocationReason), ("Sensitive", .sensitive),
   ("Short Unique Identifier", .shortUniqueIdentifier), ("State", .state),
   ("Unique Identifier", .uniqueIdentifier), ("Usage Limits", .usageLimits),
   ("X.509 Certificate Identifier", .x509CertificateIdentifier),
   ("X.509 Certificate Issuer", .x509CertificateIssuer),
   ("X.509 Certificate Subject", .x509CertificateSubject)]

def convertAttributeNameToTag (name : String) : Option Tag :=
  (attributeNameTagTable.find? (·.1 = name)).map (·.2)

def convertAttributeTagToName (tag : Tag) : Option String :=
  (attributeNameTagTable.find? (·.2 = tag)).map (·.1)

end AttributeNames

section Versions

/-- The protocol versions with which items are encoded. -/
inductive KmipVersion where
  | kmip10 | kmip11 | kmip12 | kmip13 | kmip14 | kmip20
deriving DecidableEq

instance : LE KmipVersion where
  le lower upper := lower.ctorIdx ≤ upper.ctorIdx

instance (lower upper : KmipVersion) : Decidable (lower ≤ upper) :=
  inferInstanceAs (Decidable (lower.ctorIdx ≤ upper.ctorIdx))

def kmip10AttributeTags : List Tag :=
  [.uniqueIdentifier, .name, .objectType, .cryptographicAlgorithm,
   .cryptographicLength, .cryptographicParameters,
   .cryptographicDomainParameters, .certificateType, .certificateIdentifier,
   .certificateSubject, .certificateIssuer, .digest, .operationPolicyName,
   .cryptographicUsageMask, .leaseTime, .usageLimits, .state, .initialDate,
   .activationDate, .processStartDate, .protectStopDate, .deactivationDate,
   .destroyDate, .compromiseOccurrenceDate, .compromiseDate, .revocationReason,
   .archiveDate, .objectGroup, .link, .applicationSpecificInformation,
   .contactInformation, .lastChangeDate, .customAttribute]

def kmip11AttributeTags : List Tag :=
  kmip10AttributeTags ++
  [.certificateLength, .x509CertificateIdentifier, .x509CertificateSubject,
   .x509CertificateIssuer, .digitalSignatureAlgorithm, .fresh]

def kmip12AttributeTags : List Tag :=
  kmip11AttributeTags ++
  [.alternativeName, .keyValuePresent, .keyValueLocation,
   .originalCreationDate]

def kmip13AttributeTags : List Tag :=
  kmip12AttributeTags ++
  [.randomNumberGenerator]

def kmip14AttributeTags : List Tag :=
  kmip13AttributeTags ++
  [.pkcs12FriendlyName, .description, .comment, .sensitive, .alwaysSensitive,
   .extractable, .neverExtractable]

def kmip20AttributeTags : List Tag :=
  List.diff
    (kmip14AttributeTags ++
    [.certificateSubjectCn, .certificateSubjectO, .certificateSubjectOu,
     .certificateSubjectEmail, .certificateSubjectC, .certificateSubjectSt,
     .certificateSubjectL, .certificateSubjectUid,
     .certificateSubjectSerialNumber, .certificateSubjectTitle,
     .certificateSubjectDc, .certificateSubjectDnQualifier, .certificateIssuerCn,
     .certificateIssuerO, .certificateIssuerOu, .certificateIssuerEmail,
     .certificateIssuerC, .certificateIssuerSt, .certificateIssuerL,
     .certificateIssuerUid, .certificateIssuerSerialNumber,
     .certificateIssuerTitle, .certificateIssuerDc,
     .certificateIssuerDnQualifier, .keyFormatType, .nistKeyType,
     .opaqueDataType, .protectionLevel, .protectionPeriod,
     .protectionStorageMask, .quantumSafe, .shortUniqueIdentifier,
     .attributeItem])
    [.certificateIdentifier, .certificateSubject, .certificateIssuer,
     .operationPolicyName, .customAttribute]

def attributeTags : KmipVersion → List Tag
  | .kmip10 => kmip10AttributeTags
  | .kmip11 => kmip11AttributeTags
  | .kmip12 => kmip12AttributeTags
  | .kmip13 => kmip13AttributeTags
  | .kmip14 => kmip14AttributeTags
  | .kmip20 => kmip20AttributeTags

/-- `enums.is_attribute(tag, kmip_version)`; without a version, a tag of any of
them will do. -/
def isAttribute (tag : Tag) (version : Option KmipVersion) : Bool :=
  match version with
  | some version => (attributeTags version).contains tag
  | none => kmip14AttributeTags.contains tag || kmip20AttributeTags.contains tag

end Versions

end PyKMIP
