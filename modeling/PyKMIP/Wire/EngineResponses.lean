import PyKMIP.Wire.ResponseWriting

/-!
# Responses of the engine

The objects that the engine makes for the writers of the responses.
-/

namespace PyKMIP.Wire

open Formats Traces

section Attributes

/-- `enums.AttributeType(attribute_name)`. -/
def attributeType? (attributeName : AttributeName) : Option AttributeType :=
  AttributeType.all.find? (·.value = attributeName.text)

/-- What the engine passes to the factory.  A usage mask is passed as the list
of its flags. -/
def argument (attributeName : AttributeName) : AttributeValue → Argument
  | .text value => .text value
  | .name value => .name value.nameValue (some value.nameType)
  | .objectType value => .objectType value
  | .cryptographicAlgorithm value => .cryptographicAlgorithm value
  | .certificateType value => .certificateType value
  | .state value => .state value
  | .integer value =>
      if attributeName = .cryptographicUsageMask then .usageMasks (masksOf value)
      else .integer value
  | .interval value => .integer value
  | .dateTime value => .integer value
  | .boolean value => .boolean value
  | .cryptographicParameters value => .cryptographicParameters value
  | .digest => .none
  | .applicationSpecificInformation value =>
      .applicationInformation (some value.applicationNamespace)
        (some value.applicationData)

/-- `AttributeFactory.create_attribute`.  Nothing is made without a value, so
the clock is not asked. -/
def Attribute.ofEngine (entry : PyKMIP.Attribute) : Option Attribute := do
  let type ← attributeType? entry.attributeName
  let attributeValue ← (createAttributeValue 0 type
    (argument entry.attributeName entry.attributeValue)).toOption
  return { attributeName := type.value
           attributeIndex := entry.attributeIndex
           attributeValue }

end Attributes

section Secrets

def KeyBlock.ofEngine (block : PyKMIP.KeyBlock) : Option (KeyBlock Attribute) := do
  let attributes ← block.keyValue.attributes.mapM Attribute.ofEngine
  return { keyFormatType := block.keyFormatType
           keyCompressionType := block.keyCompressionType
           keyValue := { keyMaterial := .bytes block.keyValue.keyMaterial
                         attributes }
           cryptographicAlgorithm := block.cryptographicAlgorithm
           cryptographicLength := block.cryptographicLength
           keyWrappingData := block.keyWrappingData }

/-- A split key without one of its fields is refused by its writer, and the
engine makes no templates. -/
def Secret.ofEngine : CoreSecret → Option Secret
  | .certificate certificateType certificateValue =>
      some (.certificate certificateType certificateValue)
  | .symmetricKey keyBlock => Secret.symmetricKey <$> KeyBlock.ofEngine keyBlock
  | .publicKey keyBlock => Secret.publicKey <$> KeyBlock.ofEngine keyBlock
  | .privateKey keyBlock => Secret.privateKey <$> KeyBlock.ofEngine keyBlock
  | .splitKey fields keyBlock => do
      let splitKeyParts ← fields.splitKeyParts
      let keyPartIdentifier ← fields.keyPartIdentifier
      let splitKeyThreshold ← fields.splitKeyThreshold
      let splitKeyMethod ← fields.splitKeyMethod
      let keyBlock ← KeyBlock.ofEngine keyBlock
      return .splitKey splitKeyParts keyPartIdentifier splitKeyThreshold
        splitKeyMethod (fields.primeFieldSize.map BigInteger.new) keyBlock
  | .template => none
  | .secretData secretDataType keyBlock =>
      Secret.secretData secretDataType <$> KeyBlock.ofEngine keyBlock
  | .opaqueObject opaqueDataType opaqueDataValue =>
      some (.opaqueObject opaqueDataType opaqueDataValue)

end Secrets

section Responses

/-- The payload that the handler of an operation makes.  A writer refuses a
payload without the identifier of its object. -/
def ResponsePayload.ofEngine :
    PyKMIP.ResponsePayload → Option ResponsePayload
  | .create objectType uniqueIdentifier =>
      some (.create objectType uniqueIdentifier none)
  | .createKeyPair privateKeyUniqueIdentifier publicKeyUniqueIdentifier =>
      some (.createKeyPair privateKeyUniqueIdentifier publicKeyUniqueIdentifier
        none none)
  | .deleteAttribute uniqueIdentifier deleted => do
      return .deleteAttribute (← uniqueIdentifier)
        (← deleted.mapM Attribute.ofEngine)
  | .setAttribute uniqueIdentifier => ResponsePayload.setAttribute <$>
      uniqueIdentifier
  | .modifyAttribute uniqueIdentifier modified => do
      return .modifyAttribute (← uniqueIdentifier)
        (← modified.mapM Attribute.ofEngine)
  | .register uniqueIdentifier => some (.register uniqueIdentifier none)
  | .deriveKey uniqueIdentifier => some (.deriveKey uniqueIdentifier none)
  | .locate uniqueIdentifiers => some (.locate none uniqueIdentifiers)
  | .get objectType uniqueIdentifier secret => do
      return .get objectType (← uniqueIdentifier) (← Secret.ofEngine secret)
  | .getAttributes uniqueIdentifier attributes => do
      return .getAttributes (← uniqueIdentifier)
        (← attributes.mapM Attribute.ofEngine)
  | .getAttributeList uniqueIdentifier attributeNames => do
      return .getAttributeList (← uniqueIdentifier)
        (attributeNames.map AttributeName.text)
  | .activate uniqueIdentifier => ResponsePayload.activate <$> uniqueIdentifier
  | .revoke uniqueIdentifier => ResponsePayload.revoke <$> uniqueIdentifier
  | .destroy uniqueIdentifier => ResponsePayload.destroy <$> uniqueIdentifier
  | .query operations vendorIdentification =>
      some (.query { operations, vendorIdentification })
  | .discoverVersions protocolVersions =>
      some (.discoverVersions protocolVersions)
  | .encrypt uniqueIdentifier data ivCounterNonce authTag => do
      return .encrypt (← uniqueIdentifier) data ivCounterNonce authTag
  | .decrypt uniqueIdentifier data => do
      return .decrypt (← uniqueIdentifier) data
  | .signatureVerify uniqueIdentifier validityIndicator => do
      return .signatureVerify (← uniqueIdentifier) validityIndicator none none
  | .mac uniqueIdentifier macData => do return .mac (← uniqueIdentifier) macData
  | .sign uniqueIdentifier signatureData => do
      return .sign (← uniqueIdentifier) signatureData

def ResponseBatchItem.ofEngine (item : PyKMIP.ResponseBatchItem) :
    Option ResponseBatchItem := do
  return { operation := item.operation
           uniqueBatchItemId := item.uniqueBatchItemId
           resultStatus := item.resultStatus
           resultReason := item.resultReason
           resultMessage := item.resultMessage
           asyncCorrelationValue := none
           responsePayload :=
             ← item.responsePayload.mapM ResponsePayload.ofEngine
           messageExtension := none }

/-- The message of `_build_response`. -/
def ResponseMessage.ofEngine (message : PyKMIP.ResponseMessage) :
    Option ResponseMessage := do
  return { responseHeader :=
             { protocolVersion := message.responseHeader.protocolVersion
               timeStamp := message.responseHeader.timeStamp
               serverHashedPassword := none
               serverCorrelationValue := none
               batchCount := message.responseHeader.batchCount }
           batchItems := ← message.batchItems.mapM ResponseBatchItem.ofEngine }

end Responses

end PyKMIP.Wire
