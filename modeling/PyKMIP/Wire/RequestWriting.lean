import PyKMIP.Lib.RoundTrips
import PyKMIP.Wire.Requests

/-!
# Writing requests

The writers of request messages: of the header with its credentials, of the
batch items and of their payloads.  What is written has just been made, so its
texts carry the padding of new objects and its attribute values the tag of
their attribute.
-/

namespace PyKMIP.Wire

open Formats Traces

section Items

theorem Tag.code_small (tag : Tag) : tag.code < 256 ^ 4 :=
  Nat.lt_of_lt_of_le tag.code_lt (by decide)

/-- The members of `Tags`, as values of an enumeration. -/
instance : Coded Tag where
  code := Tag.code
  ofCode? := Tag.ofCode?
  ofCode?_code := Tag.ofCode?_code
  code_lt := Tag.code_small

abbrev Writing := Except RequestError Bytes

def writeItem (item : Item α) (value : α) : Writing :=
  (item.encode value).mapError .codec

def writeText (tag : Tag) : String → Writing := writeItem (textStringItem tag)

def writeBytes (tag : Tag) : Bytes → Writing := writeItem (byteStringItem tag)

def writeInt (tag : Tag) : Int → Writing := writeItem (integerItem tag)

def writeLong (tag : Tag) : Int → Writing := writeItem (longIntegerItem tag)

def writeDate (tag : Tag) : Int → Writing := writeItem (dateTimeItem tag)

def writeSpan (tag : Tag) : Nat → Writing := writeItem (intervalItem tag)

def writeFlag (tag : Tag) : Bool → Writing := writeItem (booleanItem tag)

def writeMember [Coded α] (tag : Tag) : α → Writing :=
  writeItem (enumerationItem α tag)

/-- The fields are written to a local stream, whose length the header tells. -/
def writeFields (tag : Tag) (writers : List Writing) : Writing := do
  let localStream ← writeAll writers
  let header ← (writeBase tag .struct localStream.length).mapError .codec
  return header ++ localStream

/-- A field that the writer only looks at from a version on. -/
def since (supported version : KmipVersion) (writing : Writing) : Writing :=
  if supported ≤ version then writing else .ok []

def refuseUnless (condition : Prop) [Decidable condition]
    (exception : RequestError) : Writing :=
  if condition then .ok [] else .error exception

def invalidField (message : String) : RequestError :=
  .codec (.invalidField message)

end Items

section Header

def writeProtocolVersion (version : ProtocolVersion) : Writing :=
  writeFields .protocolVersion
    [writeInt .protocolVersionMajor version.major,
     writeInt .protocolVersionMinor version.minor]

def writeNonce (nonceId nonceValue : Bytes) : Writing :=
  writeFields .nonce
    [writeBytes .nonceId nonceId, writeBytes .nonceValue nonceValue]

def writeCredentialValue : CredentialValue → Writing
  | .usernamePassword username password =>
      writeFields .credentialValue
        [writeText .username username,
         writePresent (writeText .password) password]
  | .device deviceSerialNumber password deviceIdentifier networkIdentifier
      machineIdentifier mediaIdentifier =>
      writeFields .credentialValue
        [writePresent (writeText .deviceSerialNumber) deviceSerialNumber,
         writePresent (writeText .password) password,
         writePresent (writeText .deviceIdentifier) deviceIdentifier,
         writePresent (writeText .networkIdentifier) networkIdentifier,
         writePresent (writeText .machineIdentifier) machineIdentifier,
         writePresent (writeText .mediaIdentifier) mediaIdentifier]
  | .attestation nonceId nonceValue attestationType attestationMeasurement
      attestationAssertion =>
      writeFields .credentialValue
        [writeNonce nonceId nonceValue,
         writeMember .attestationType attestationType,
         writePresent (writeBytes .attestationMeasurement)
           attestationMeasurement,
         writePresent (writeBytes .attestationAssertion) attestationAssertion,
         refuseUnless (¬(attestationMeasurement.isNone ∧
           attestationAssertion.isNone)) (.codec .valueError)]

def writeCredential (credential : Credential) : Writing :=
  writeFields .credential
    [writeMember .credentialType credential.credentialType,
     writeCredentialValue credential.credentialValue]

def writeAuthentication (credentials : List Credential) : Writing :=
  writeFields .authentication
    [refuseUnless (credentials ≠ []) (.codec .valueError),
     writeAll (credentials.map writeCredential)]

/-- `RequestHeader.write`. -/
def writeRequestHeader (header : RequestHeader) : Writing :=
  writeFields .requestHeader
    [writeProtocolVersion header.protocolVersion,
     writePresent (writeInt .maximumResponseSize) header.maximumResponseSize,
     writePresent (writeFlag .asynchronousIndicator)
       header.asynchronousIndicator,
     writePresent writeAuthentication header.authentication,
     writePresent (writeMember .batchErrorContinuationOption)
       header.batchErrorContOption,
     writePresent (writeFlag .batchOrderOption) header.batchOrderOption,
     writePresent (writeDate .timeStamp) header.timeStamp,
     writeInt .batchCount header.batchCount]

end Header

section Objects

def writeKeyBlock : KeyBlock Attribute → Writing :=
  writeItem (keyBlockItemOf textStringItem (attributeItemOf textStringItem))

def writeAttribute : Attribute → Writing := writeItem attributeItem

def writeKeyInformation (tag : Tag) : KeyInformation → Writing :=
  writeItem (keyInformationItemOf textStringItem tag)

def writeBigInteger (tag : Tag) (object : Primitive Int) : Writing :=
  (BigInteger.write tag object).mapError .codec

def writeSecret : Secret → Writing
  | .certificate certificateType certificateValue =>
      writeFields .certificate
        [writeMember .certificateType certificateType,
         writeBytes .certificateValue certificateValue]
  | .symmetricKey keyBlock =>
      writeFields .symmetricKey [writeKeyBlock keyBlock]
  | .publicKey keyBlock => writeFields .publicKey [writeKeyBlock keyBlock]
  | .privateKey keyBlock => writeFields .privateKey [writeKeyBlock keyBlock]
  | .splitKey splitKeyParts keyPartIdentifier splitKeyThreshold splitKeyMethod
      primeFieldSize keyBlock =>
      writeFields .splitKey
        [writeInt .splitKeyParts splitKeyParts,
         writeInt .keyPartIdentifier keyPartIdentifier,
         writeInt .splitKeyThreshold splitKeyThreshold,
         writeMember .splitKeyMethod splitKeyMethod,
         writePresent (writeBigInteger .primeFieldSize) primeFieldSize,
         refuseUnless (¬(primeFieldSize.isNone ∧
             splitKeyMethod = .polynomialSharingPrimeField))
           (invalidField ("The SplitKey object is missing the " ++
             "PrimeFieldSize field. This field is required when the " ++
             "SplitKeyMethod is PolynomialSharingPrimeField.")),
         writeKeyBlock keyBlock]
  | .template attributes =>
      writeFields .template [writeAll (attributes.map writeAttribute)]
  | .secretData secretDataType keyBlock =>
      writeFields .secretData
        [writeMember .secretDataType secretDataType, writeKeyBlock keyBlock]
  | .opaqueObject opaqueDataType opaqueDataValue =>
      writeFields .opaqueObject
        [writeMember .opaqueDataType opaqueDataType,
         writeBytes .opaqueDataValue opaqueDataValue]

def writeKeyWrappingSpecification (specification : KeyWrappingSpecification) :
    Writing :=
  writeFields .keyWrappingSpecification
    [match specification.wrappingMethod with
     | some wrappingMethod => writeMember .wrappingMethod wrappingMethod
     | none => .error (.codec .valueError),
     writePresent (writeKeyInformation .encryptionKeyInformation)
       specification.encryptionKeyInformation,
     writePresent (writeKeyInformation .macSignatureKeyInformation)
       specification.macSignatureKeyInformation,
     writeAll (specification.attributeNames.map (writeText .attributeName)),
     writePresent (writeMember .encodingOption) specification.encodingOption]

def writeRevocationReason
    (reason : RevocationReasonCode × Option String) : Writing :=
  writeFields .revocationReason
    [writeMember .revocationReasonCode reason.1,
     writePresent (writeText .revocationMessage) reason.2]

/-- From version 2.0 on the attributes structure is written. -/
def writeTemplate (version : KmipVersion) (template : TemplateAttribute) :
    Writing :=
  if .kmip20 ≤ version then do
    let attributes ←
      (convertTemplateAttributeToAttributes template).mapError .codec
    (attributes.write version).mapError .attributes
  else template.write.mapError .codec

/-- `Attributes` under its tag, or what `TemplateAttribute.write` writes. -/
def writeTemplateAttribute (template : TemplateAttribute) : Writing :=
  template.write.mapError .codec

def writeStorageMasks (tag : Tag) : List Int → Writing :=
  writeItem (protectionStorageMasksItem tag)

/-- `CurrentAttribute.write` and `NewAttribute.write`. -/
def writeHeldAttribute (tag : Tag) (object : String) (version : KmipVersion)
    (held : Tag × ValueObject) : Writing :=
  if .kmip20 ≤ version then
    writeFields tag
      [if isAttribute held.1 (some version) then
        (held.2.write held.1).mapError .codec
      else .error (.attributes (.attributeNotSupported held.1 version))]
  else .error (.versionNotSupported (object ++ " object") version)

def writeAttributeReference (version : KmipVersion)
    (reference : AttributeReference) : Writing :=
  if .kmip20 ≤ version then
    writeFields .attributeReference
      [writeText .vendorIdentification reference.vendorIdentification,
       writeText .attributeName reference.attributeName]
  else .error (.versionNotSupported "AttributeReference object" version)

/-- The name of a referenced attribute; the two payloads that read names so
differ in the exception for a reference of another type. -/
def nameOfReference (exception : RequestError) (version : KmipVersion) :
    RequestField String where
  tag := .attributeReference
  reading := .after .look fun input =>
    if nextTypeIs .struct input then
      (attributeReference version).reading.map (·.attributeName)
    else if nextTypeIs .enumeration input then
      referencedTag.followedBy fun tag =>
        match convertAttributeTagToName tag with
        | some name => return name
        | none => raise (.codec .valueError)
    else .throw exception

/-- Names are written as references by the tags of the attributes. -/
def writeReferencedName (attributeName : String) : Writing :=
  match convertAttributeNameToTag attributeName with
  | some tag => writeMember .attributeReference tag
  | none => .error (.codec .valueError)

end Objects

section Payloads

def writePayload : List Writing → Writing := writeFields .requestPayload

def writeRecentMasks (version : KmipVersion) (tag : Tag)
    (masks : Option (List Int)) : Writing :=
  since .kmip20 version (writePresent (writeStorageMasks tag) masks)

/-- The writer of each payload. -/
def RequestPayload.write (version : KmipVersion) : RequestPayload → Writing
  | .create objectType templateAttribute storageMasks =>
      writePayload
        [writeMember .objectType objectType,
         writeTemplate version templateAttribute,
         writeRecentMasks version .protectionStorageMasks storageMasks]
  | .createKeyPair commonTemplateAttribute privateKeyTemplateAttribute
      publicKeyTemplateAttribute commonMasks privateMasks publicMasks =>
      writePayload
        [writePresent (writeTemplate version) commonTemplateAttribute,
         writePresent (writeTemplate version) privateKeyTemplateAttribute,
         writePresent (writeTemplate version) publicKeyTemplateAttribute,
         writeRecentMasks version .commonProtectionStorageMasks commonMasks,
         writeRecentMasks version .privateProtectionStorageMasks privateMasks,
         writeRecentMasks version .publicProtectionStorageMasks publicMasks]
  | .register objectType templateAttribute managedObject storageMasks =>
      writePayload
        [writeMember .objectType objectType,
         writeTemplate version templateAttribute,
         writeSecret managedObject,
         writeRecentMasks version .protectionStorageMasks storageMasks]
  | .deriveKey objectType uniqueIdentifiers derivationMethod
      derivationParameters templateAttribute =>
      writePayload
        [writeMember .objectType objectType,
         refuseUnless (uniqueIdentifiers ≠ []) (invalidField
           ("The DeriveKey request payload is missing the unique " ++
             "identifiers field.")),
         writeAll (uniqueIdentifiers.map (writeText .uniqueIdentifier)),
         writeMember .derivationMethod derivationMethod,
         writeItem derivationParametersItem derivationParameters,
         writeTemplate version templateAttribute]
  | .rekey uniqueIdentifier offset templateAttribute =>
      writePayload
        [writePresent (writeText .uniqueIdentifier) uniqueIdentifier,
         writePresent (writeSpan .offset) offset,
         writePresent writeTemplateAttribute templateAttribute]
  | .rekeyKeyPair privateKeyUuid offset commonTemplateAttribute
      privateKeyTemplateAttribute publicKeyTemplateAttribute =>
      writePayload
        [writePresent (writeText .privateKeyUniqueIdentifier) privateKeyUuid,
         writePresent (writeSpan .offset) offset,
         writePresent writeTemplateAttribute commonTemplateAttribute,
         writePresent writeTemplateAttribute privateKeyTemplateAttribute,
         writePresent writeTemplateAttribute publicKeyTemplateAttribute]
  | .locate maximumItems offsetItems storageStatusMask objectGroupMember
      attributes =>
      writePayload
        [writePresent (writeInt .maximumItems) maximumItems,
         writePresent (writeInt .offsetItems) offsetItems,
         writePresent (writeInt .storageStatusMask) storageStatusMask,
         writePresent (writeMember .objectGroupMember) objectGroupMember,
         if .kmip20 ≤ version then
           if attributes = [] then .ok []
           else writeTemplate version { attributes }
         else writeAll (attributes.map writeAttribute)]
  | .check uniqueIdentifier usageLimitsCount cryptographicUsageMask leaseTime =>
      writePayload
        [writePresent (writeText .uniqueIdentifier) uniqueIdentifier,
         writePresent (writeLong .usageLimitsCount) usageLimitsCount,
         writePresent (writeInt .cryptographicUsageMask) cryptographicUsageMask,
         writePresent (writeSpan .leaseTime) leaseTime]
  | .get uniqueIdentifier keyFormatType keyCompressionType
      keyWrappingSpecification =>
      writePayload
        [writePresent (writeText .uniqueIdentifier) uniqueIdentifier,
         writePresent (writeMember .keyFormatType) keyFormatType,
         writePresent (writeMember .keyCompressionType) keyCompressionType,
         writePresent writeKeyWrappingSpecification keyWrappingSpecification]
  | .getAttributes uniqueIdentifier attributeNames =>
      writePayload
        [writePresent (writeText .uniqueIdentifier) uniqueIdentifier,
         if .kmip20 ≤ version then
           writeAll (attributeNames.map writeReferencedName)
         else writeAll (attributeNames.map (writeText .attributeName))]
  | .getAttributeList uniqueIdentifier =>
      writePayload
        [writePresent (writeText .uniqueIdentifier) uniqueIdentifier]
  | .deleteAttribute uniqueIdentifier attributeName attributeIndex
      currentAttribute attributeReference =>
      writePayload <|
        writePresent (writeText .uniqueIdentifier) uniqueIdentifier ::
        if .kmip20 ≤ version then
          [refuseUnless (¬(currentAttribute.isNone ∧ attributeReference.isNone))
             (invalidField ("The DeleteAttribute request payload is missing " ++
               "either the current attribute or the attribute reference field.")),
           writePresent (writeHeldAttribute .currentAttribute "CurrentAttribute"
             version) currentAttribute,
           writePresent (writeAttributeReference version) attributeReference]
        else
          [match attributeName with
           | some attributeName => writeText .attributeName attributeName
           | none => .error (invalidField ("The DeleteAttribute request " ++
               "payload is missing the attribute name field.")),
           writePresent (writeInt .attributeIndex) attributeIndex]
  | .setAttribute uniqueIdentifier newAttribute =>
      if .kmip20 ≤ version then
        writePayload
          [writePresent (writeText .uniqueIdentifier) uniqueIdentifier,
           writeHeldAttribute .newAttribute "NewAttribute" version newAttribute]
      else .error (.versionNotSupported "SetAttribute operation" version)
  | .modifyAttribute uniqueIdentifier entry currentAttribute newAttribute =>
      writePayload <|
        writePresent (writeText .uniqueIdentifier) uniqueIdentifier ::
        if .kmip20 ≤ version then
          [writePresent (writeHeldAttribute .currentAttribute "CurrentAttribute"
             version) currentAttribute,
           match newAttribute with
           | some newAttribute =>
               writeHeldAttribute .newAttribute "NewAttribute" version
                 newAttribute
           | none => .error (invalidField ("The ModifyAttribute request " ++
               "payload is missing the new attribute field."))]
        else
          [match entry with
           | some entry => writeAttribute entry
           | none => .error (invalidField ("The ModifyAttribute request " ++
               "payload is missing the attribute field."))]
  | .destroy uniqueIdentifier =>
      writePayload
        [writePresent (writeText .uniqueIdentifier) uniqueIdentifier]
  | .query queryFunctions =>
      writePayload
        [refuseUnless (queryFunctions ≠ []) (invalidField
           ("The Query request payload is missing the query functions field.")),
         writeAll (queryFunctions.map (writeMember .queryFunction))]
  | .discoverVersions protocolVersions =>
      writePayload [writeAll (protocolVersions.map writeProtocolVersion)]
  | .activate uniqueIdentifier =>
      writePayload
        [writePresent (writeText .uniqueIdentifier) uniqueIdentifier]
  | .revoke uniqueIdentifier revocationReason compromiseOccurrenceDate =>
      writePayload
        [writePresent (writeText .uniqueIdentifier) uniqueIdentifier,
         writeRevocationReason revocationReason,
         writePresent (writeDate .compromiseOccurrenceDate)
           compromiseOccurrenceDate]
  | .mac uniqueIdentifier cryptographicParameters data =>
      writePayload
        [writePresent (writeText .uniqueIdentifier) uniqueIdentifier,
         writePresent (writeItem (cryptographicParametersItem
           .cryptographicParameters)) cryptographicParameters,
         writeBytes .data data]
  | .encrypt uniqueIdentifier cryptographicParameters data ivCounterNonce
      authAdditionalData =>
      writePayload
        [writePresent (writeText .uniqueIdentifier) uniqueIdentifier,
         writePresent (writeItem (cryptographicParametersItem
           .cryptographicParameters)) cryptographicParameters,
         writeBytes .data data,
         writePresent (writeBytes .ivCounterNonce) ivCounterNonce,
         since .kmip14 version (writePresent (writeBytes
           .authenticatedEncryptionAdditionalData) authAdditionalData)]
  | .decrypt uniqueIdentifier cryptographicParameters data ivCounterNonce
      authAdditionalData authTag =>
      writePayload
        [writePresent (writeText .uniqueIdentifier) uniqueIdentifier,
         writePresent (writeItem (cryptographicParametersItem
           .cryptographicParameters)) cryptographicParameters,
         writeBytes .data data,
         writePresent (writeBytes .ivCounterNonce) ivCounterNonce,
         since .kmip14 version (writePresent (writeBytes
           .authenticatedEncryptionAdditionalData) authAdditionalData),
         since .kmip14 version (writePresent (writeBytes
           .authenticatedEncryptionTag) authTag)]
  | .sign uniqueIdentifier cryptographicParameters data =>
      writePayload
        [writePresent (writeText .uniqueIdentifier) uniqueIdentifier,
         writePresent (writeItem (cryptographicParametersItem
           .cryptographicParameters)) cryptographicParameters,
         writeBytes .data data]
  | .signatureVerify uniqueIdentifier cryptographicParameters data digestedData
      signatureData correlationValue initIndicator finalIndicator =>
      writePayload
        [writePresent (writeText .uniqueIdentifier) uniqueIdentifier,
         writePresent (writeItem (cryptographicParametersItem
           .cryptographicParameters)) cryptographicParameters,
         writePresent (writeBytes .data) data,
         writePresent (writeBytes .digestedData) digestedData,
         writePresent (writeBytes .signatureData) signatureData,
         writePresent (writeBytes .correlationValue) correlationValue,
         writePresent (writeFlag .initIndicator) initIndicator,
         writePresent (writeFlag .finalIndicator) finalIndicator]

end Payloads

section Messages

/-- A message extension writes its header and nothing else. -/
def writeMessageExtension (length : Nat) : Writing :=
  (writeBase .messageExtension .struct length).mapError .codec

/-- `RequestBatchItem.write`. -/
def RequestBatchItem.write (version : KmipVersion) (item : RequestBatchItem) :
    Writing :=
  writeFields .batchItem
    [writeMember .operation item.operation,
     since .kmip20 version (writePresent (writeFlag .ephemeral) item.ephemeral),
     writePresent (writeBytes .uniqueBatchItemId) item.uniqueBatchItemId,
     item.requestPayload.write version,
     writePresent writeMessageExtension item.messageExtension]

/-- `RequestMessage.write`. -/
def RequestMessage.write (version : KmipVersion) (message : RequestMessage) :
    Writing :=
  writeFields .requestMessage
    [writeRequestHeader message.requestHeader,
     writeAll (message.batchItems.map (RequestBatchItem.write version))]

end Messages

end PyKMIP.Wire
