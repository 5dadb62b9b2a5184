import PyKMIP.Wire.Responses

/-!
# Writing responses

The writers of response messages: of the header, of the batch items and of
their payloads.
-/

namespace PyKMIP.Wire

open Formats Traces

section Payloads

def writeResponsePayload : List Writing → Writing := writeFields .responsePayload

def writeKeyPairResponse (privateKeyUniqueIdentifier
    publicKeyUniqueIdentifier : String)
    (privateKeyTemplateAttribute publicKeyTemplateAttribute :
      Option TemplateAttribute) : Writing :=
  writeResponsePayload
    [writeText .privateKeyUniqueIdentifier privateKeyUniqueIdentifier,
     writeText .publicKeyUniqueIdentifier publicKeyUniqueIdentifier,
     writePresent writeTemplateAttribute privateKeyTemplateAttribute,
     writePresent writeTemplateAttribute publicKeyTemplateAttribute]

/-- Before version 2.0 the attribute is part of the response. -/
def writeChangedAttribute (operation : String) (version : KmipVersion)
    (uniqueIdentifier : String) (entry : Option Attribute) : Writing :=
  writeResponsePayload
    [writeText .uniqueIdentifier uniqueIdentifier,
     writeBefore20 version
       (match entry with
        | some entry => writeAttribute entry
        | none => .error (invalidField ("The " ++ operation ++
            " response payload is missing the attribute field.")))]

def writeIdentified (uniqueIdentifier : String) : Writing :=
  writeResponsePayload [writeText .uniqueIdentifier uniqueIdentifier]

def writeQueryInformation (version : KmipVersion)
    (information : QueryInformation) : Writing :=
  writeResponsePayload
    [writeAll (information.operations.map (writeMember .operation)),
     writeAll (information.objectTypes.map (writeMember .objectType)),
     writePresent (writeText .vendorIdentification)
       information.vendorIdentification,
     writePresent writeServerInformation information.serverInformation,
     writeAll (information.applicationNamespaces.map
       (writeText .applicationNamespace)),
     since .kmip11 version (writeAll (information.extensionInformation.map
       (writeItem extensionInformationItem))),
     since .kmip12 version (writeAll (information.attestationTypes.map
       (writeMember .attestationType))),
     since .kmip13 version (writeAll (information.rngParameters.map
       fun parameters => writeFromVersion .kmip13 version "RNGParameters"
         (writeItem rngParametersItem parameters))),
     since .kmip13 version (writeAll (information.profileInformation.map
       fun profile => writeFromVersion .kmip13 version "ProfileInformation"
         (writeItem profileInformationItem profile))),
     since .kmip13 version (writeAll (information.validationInformation.map
       fun validation => writeFromVersion .kmip13 version
         "ValidationInformation"
         (writeItem validationInformationItem validation))),
     since .kmip13 version (writeAll (information.capabilityInformation.map
       (writeCapabilityInformation version))),
     since .kmip13 version (writeAll (information.clientRegistrationMethods.map
       (writeMember .clientRegistrationMethod))),
     since .kmip20 version (writePresent (writeDefaultsInformation version)
       information.defaultsInformation),
     since .kmip20 version (writeAll (information.protectionStorageMasks.map
       (writeInt .protectionStorageMask)))]

/-- The writer of each payload. -/
def ResponsePayload.write (version : KmipVersion) : ResponsePayload → Writing
  | .create objectType uniqueIdentifier templateAttribute =>
      writeResponsePayload
        [writeMember .objectType objectType,
         writeText .uniqueIdentifier uniqueIdentifier,
         writeBefore20 version
           (writePresent writeTemplateAttribute templateAttribute)]
  | .createKeyPair privateKeyUniqueIdentifier publicKeyUniqueIdentifier
      privateKeyTemplateAttribute publicKeyTemplateAttribute =>
      writeKeyPairResponse privateKeyUniqueIdentifier publicKeyUniqueIdentifier
        privateKeyTemplateAttribute publicKeyTemplateAttribute
  | .register uniqueIdentifier templateAttribute
  | .deriveKey uniqueIdentifier templateAttribute =>
      writeResponsePayload
        [writeText .uniqueIdentifier uniqueIdentifier,
         writeBefore20 version
           (writePresent writeTemplateAttribute templateAttribute)]
  | .rekey uniqueIdentifier templateAttribute =>
      writeResponsePayload
        [writeText .uniqueIdentifier uniqueIdentifier,
         writePresent writeTemplateAttribute templateAttribute]
  | .rekeyKeyPair privateKeyUniqueIdentifier publicKeyUniqueIdentifier
      privateKeyTemplateAttribute publicKeyTemplateAttribute =>
      writeKeyPairResponse privateKeyUniqueIdentifier publicKeyUniqueIdentifier
        privateKeyTemplateAttribute publicKeyTemplateAttribute
  | .locate locatedItems uniqueIdentifiers =>
      writeResponsePayload
        [writePresent (writeInt .locatedItems) locatedItems,
         writeAll (uniqueIdentifiers.map (writeText .uniqueIdentifier))]
  | .check uniqueIdentifier usageLimitsCount cryptographicUsageMask leaseTime =>
      writeResponsePayload
        [writePresent (writeText .uniqueIdentifier) uniqueIdentifier,
         writePresent (writeLong .usageLimitsCount) usageLimitsCount,
         writePresent (writeInt .cryptographicUsageMask) cryptographicUsageMask,
         writePresent (writeSpan .leaseTime) leaseTime]
  | .get objectType uniqueIdentifier secret =>
      writeResponsePayload
        [writeMember .objectType objectType,
         -- an empty identifier counts as none
         refuseUnless (uniqueIdentifier ≠ "") (.codec .valueError),
         writeText .uniqueIdentifier uniqueIdentifier,
         writeSecret secret]
  | .getAttributes uniqueIdentifier attributes =>
      writeResponsePayload <|
        writeText .uniqueIdentifier uniqueIdentifier ::
        if .kmip20 ≤ version then
          [refuseUnless (attributes ≠ []) (invalidField
             ("The GetAttributes response payload is missing the attributes " ++
               "list.")),
           writeTemplate version { attributes }]
        else [writeAll (attributes.map writeAttribute)]
  | .getAttributeList uniqueIdentifier attributeNames =>
      writeResponsePayload <|
        writeText .uniqueIdentifier uniqueIdentifier ::
        refuseUnless (attributeNames ≠ []) (invalidField
          ("The GetAttributeList response payload is missing the attribute " ++
            "names field.")) ::
        if .kmip20 ≤ version then
          [writeAll (attributeNames.map writeReferencedName)]
        else [writeAll (attributeNames.map (writeText .attributeName))]
  | .deleteAttribute uniqueIdentifier entry =>
      writeChangedAttribute "DeleteAttribute" version uniqueIdentifier entry
  | .setAttribute uniqueIdentifier =>
      if .kmip20 ≤ version then writeIdentified uniqueIdentifier
      else .error (.versionNotSupported "SetAttribute operation" version)
  | .modifyAttribute uniqueIdentifier entry =>
      writeChangedAttribute "ModifyAttribute" version uniqueIdentifier entry
  | .destroy uniqueIdentifier => writeIdentified uniqueIdentifier
  | .query information => writeQueryInformation version information
  | .discoverVersions protocolVersions =>
      writeResponsePayload [writeAll (protocolVersions.map writeProtocolVersion)]
  | .activate uniqueIdentifier => writeIdentified uniqueIdentifier
  | .revoke uniqueIdentifier => writeIdentified uniqueIdentifier
  | .mac uniqueIdentifier macData =>
      writeResponsePayload
        [writeText .uniqueIdentifier uniqueIdentifier,
         writeBytes .macData macData]
  | .encrypt uniqueIdentifier data ivCounterNonce authTag =>
      writeResponsePayload
        [writeText .uniqueIdentifier uniqueIdentifier, writeBytes .data data,
         writePresent (writeBytes .ivCounterNonce) ivCounterNonce,
         since .kmip14 version
           (writePresent (writeBytes .authenticatedEncryptionTag) authTag)]
  | .decrypt uniqueIdentifier data =>
      writeResponsePayload
        [writeText .uniqueIdentifier uniqueIdentifier, writeBytes .data data]
  | .sign uniqueIdentifier signatureData =>
      writeResponsePayload
        [writeText .uniqueIdentifier uniqueIdentifier,
         writeBytes .signatureData signatureData]
  | .signatureVerify uniqueIdentifier validityIndicator data correlationValue =>
      writeResponsePayload
        [writeText .uniqueIdentifier uniqueIdentifier,
         writeMember .validityIndicator validityIndicator,
         writePresent (writeBytes .data) data,
         writePresent (writeBytes .correlationValue) correlationValue]

end Payloads

section Messages

/-- `ResponseHeader.write`: the correlation value is not written. -/
def writeResponseHeader (version : KmipVersion) (header : ResponseHeader) :
    Writing :=
  writeFields .responseHeader
    [writeProtocolVersion header.protocolVersion,
     writeDate .timeStamp header.timeStamp,
     since .kmip20 version (writePresent (writeBytes .serverHashedPassword)
       header.serverHashedPassword),
     writeInt .batchCount header.batchCount]

/-- `ResponseBatchItem.write`. -/
def ResponseBatchItem.write (version : KmipVersion) (item : ResponseBatchItem) :
    Writing :=
  writeFields .batchItem
    [writePresent (writeMember .operation) item.operation,
     writePresent (writeBytes .uniqueBatchItemId) item.uniqueBatchItemId,
     writeMember .resultStatus item.resultStatus,
     writePresent (writeMember .resultReason) item.resultReason,
     writePresent (writeText .resultMessage) item.resultMessage,
     writePresent (writeBytes .asynchronousCorrelationValue)
       item.asyncCorrelationValue,
     writePresent (ResponsePayload.write version) item.responsePayload,
     writePresent writeMessageExtension item.messageExtension]

/-- `ResponseMessage.write`. -/
def ResponseMessage.write (version : KmipVersion) (message : ResponseMessage) :
    Writing :=
  writeFields .responseMessage
    [writeResponseHeader version message.responseHeader,
     writeAll (message.batchItems.map (ResponseBatchItem.write version))]

end Messages

end PyKMIP.Wire
