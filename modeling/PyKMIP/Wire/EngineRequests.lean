import PyKMIP.Session.MessageLoop
import PyKMIP.Wire.Requests

/-!
# Requests for the engine

What the handlers of the engine take of the requests that have been read.
-/

namespace PyKMIP.Wire

section Attributes

/-- The name with this text. -/
def attributeNameOf (text : String) : AttributeName :=
  if unlisted : text ∉ listedNames then .other text unlisted
  else (AttributePolicy.getAllAttributeNames.find? (·.text = text)).getD .name

/-- A value object without a value has none for the engine. -/
def ValueObject.toEngine : ValueObject → Option AttributeValue
  | ⟨.text, value⟩ => some (.text value)
  | ⟨.name, value⟩ => do
      return .name { nameValue := ← NameStructure.nameValue value
                     nameType := ← NameStructure.nameType value }
  | ⟨.objectType, value⟩ => AttributeValue.objectType <$> value
  | ⟨.cryptographicAlgorithm, value⟩ =>
      AttributeValue.cryptographicAlgorithm <$> value
  | ⟨.certificateType, value⟩ => AttributeValue.certificateType <$> value
  | ⟨.state, value⟩ => AttributeValue.state <$> value
  | ⟨.integer, value⟩ => some (.integer value)
  | ⟨.usageMask, value⟩ => some (.integer value)
  | ⟨.interval, value⟩ =>
      (fun value : Nat => AttributeValue.interval value) <$> value
  | ⟨.dateTime, value⟩ => some (.dateTime value)
  | ⟨.boolean, value⟩ => AttributeValue.boolean <$> value
  | ⟨.cryptographicParameters, value⟩ => some (.cryptographicParameters value)
  | ⟨.digest, _⟩ => some .digest
  | ⟨.applicationSpecificInformation, value⟩ => do
      return .applicationSpecificInformation
        { applicationNamespace :=
            ← ApplicationInformationStructure.applicationNamespace value
          applicationData :=
            ← ApplicationInformationStructure.applicationData value }

def Attribute.toEngine (entry : Attribute) : Option PyKMIP.Attribute := do
  return { attributeName := attributeNameOf entry.attributeName
           attributeIndex := entry.attributeIndex
           attributeValue := ← entry.attributeValue.toEngine }

/-- `convert_attribute_tag_to_name`, for an attribute of version 2.0. -/
def taggedToEngine (entry : Tag × ValueObject) : Option TaggedAttribute := do
  let name ← convertAttributeTagToName entry.1
  return { attributeName := attributeNameOf name
           attributeValue := ← entry.2.toEngine }

def TemplateAttribute.toEngine (template : TemplateAttribute) :
    Option PyKMIP.TemplateAttribute := do
  let names ← template.names.mapM fun name => do
    return ({ nameValue := ← name.nameValue
              nameType := ← name.nameType } : Name)
  return { names, attributes := ← template.attributes.mapM Attribute.toEngine }

end Attributes

section Secrets

/-- Key material that is a structure has no bytes. -/
def KeyBlock.toEngine (block : KeyBlock Attribute) : Option PyKMIP.KeyBlock := do
  let keyMaterial ←
    match block.keyValue.keyMaterial with
    | .bytes value => some value
    | .struct _ => none
  let attributes ← block.keyValue.attributes.mapM Attribute.toEngine
  return { keyFormatType := block.keyFormatType
           keyCompressionType := block.keyCompressionType
           keyValue := { keyMaterial, attributes }
           cryptographicAlgorithm := block.cryptographicAlgorithm
           cryptographicLength := block.cryptographicLength
           keyWrappingData := block.keyWrappingData }

def Secret.toEngine : Secret → Option CoreSecret
  | .certificate certificateType certificateValue =>
      some (.certificate certificateType certificateValue)
  | .symmetricKey keyBlock => CoreSecret.symmetricKey <$> keyBlock.toEngine
  | .publicKey keyBlock => CoreSecret.publicKey <$> keyBlock.toEngine
  | .privateKey keyBlock => CoreSecret.privateKey <$> keyBlock.toEngine
  | .splitKey splitKeyParts keyPartIdentifier splitKeyThreshold splitKeyMethod
      primeFieldSize keyBlock => do
      return .splitKey
        { splitKeyParts := some splitKeyParts
          keyPartIdentifier := some keyPartIdentifier
          splitKeyThreshold := some splitKeyThreshold
          splitKeyMethod := some splitKeyMethod
          primeFieldSize := primeFieldSize.map Primitive.value }
        (← keyBlock.toEngine)
  | .template _ => some .template
  | .secretData secretDataType keyBlock =>
      CoreSecret.secretData secretDataType <$> keyBlock.toEngine
  | .opaqueObject opaqueDataType opaqueDataValue =>
      some (.opaqueObject opaqueDataType opaqueDataValue)

end Secrets

section Requests

/-- A payload for which the engine has no handler. -/
def unsupported (operation : Operation) : Option PyKMIP.RequestPayload :=
  if undispatched : operation ∉ dispatchedOperations then
    some (.unsupported operation undispatched)
  else none

/-- The fields of a payload that its handler reads. -/
def RequestPayload.toEngine : RequestPayload → Option PyKMIP.RequestPayload
  | .create objectType templateAttribute _ => do
      return .create { objectType
                       templateAttribute := ← templateAttribute.toEngine }
  | .createKeyPair commonTemplateAttribute privateKeyTemplateAttribute
      publicKeyTemplateAttribute _ _ _ => do
      return .createKeyPair
        { commonTemplateAttribute :=
            ← commonTemplateAttribute.mapM TemplateAttribute.toEngine
          privateKeyTemplateAttribute :=
            ← privateKeyTemplateAttribute.mapM TemplateAttribute.toEngine
          publicKeyTemplateAttribute :=
            ← publicKeyTemplateAttribute.mapM TemplateAttribute.toEngine }
  | .register objectType templateAttribute managedObject _ => do
      return .register { objectType
                         templateAttribute := ← templateAttribute.toEngine
                         managedObject := ← managedObject.toEngine }
  | .deriveKey objectType uniqueIdentifiers derivationMethod
      derivationParameters templateAttribute => do
      return .deriveKey
        { objectType, uniqueIdentifiers, derivationMethod
          derivationParameters :=
            { cryptographicParameters :=
                derivationParameters.cryptographicParameters
              initializationVector := derivationParameters.initializationVector
              derivationData := derivationParameters.derivationData
              salt := derivationParameters.salt
              iterationCount := derivationParameters.iterationCount }
          templateAttribute := ← templateAttribute.toEngine }
  | .rekey _ _ _ => unsupported .rekey
  | .rekeyKeyPair _ _ _ _ _ => unsupported .rekeyKeyPair
  | .locate maximumItems offsetItems _ _ attributes => do
      return .locate { maximumItems, offsetItems
                       attributes := ← attributes.mapM Attribute.toEngine }
  | .check _ _ _ _ => unsupported .check
  | .get uniqueIdentifier keyFormatType keyCompressionType
      keyWrappingSpecification =>
      some (.get { uniqueIdentifier, keyFormatType, keyCompressionType,
                   keyWrappingSpecification })
  | .getAttributes uniqueIdentifier attributeNames =>
      some (.getAttributes
        { uniqueIdentifier
          attributeNames := attributeNames.map attributeNameOf })
  | .getAttributeList uniqueIdentifier =>
      some (.getAttributeList uniqueIdentifier)
  | .deleteAttribute uniqueIdentifier attributeName attributeIndex
      currentAttribute attributeReference => do
      return .deleteAttribute
        { uniqueIdentifier
          attributeName := attributeName.map attributeNameOf
          attributeIndex
          currentAttribute := ← currentAttribute.mapM taggedToEngine
          attributeReference := attributeReference.map fun reference =>
            attributeNameOf reference.attributeName }
  | .setAttribute uniqueIdentifier newAttribute => do
      return .setAttribute { uniqueIdentifier
                             newAttribute := ← taggedToEngine newAttribute }
  | .modifyAttribute uniqueIdentifier attributeField currentAttribute
      newAttribute => do
      return .modifyAttribute
        { uniqueIdentifier
          attributeField := ← attributeField.mapM Attribute.toEngine
          currentAttribute := ← currentAttribute.mapM taggedToEngine
          newAttribute := ← newAttribute.mapM taggedToEngine }
  | .destroy uniqueIdentifier => some (.destroy uniqueIdentifier)
  | .query queryFunctions => some (.query queryFunctions)
  | .discoverVersions protocolVersions =>
      some (.discoverVersions protocolVersions)
  | .activate uniqueIdentifier => some (.activate uniqueIdentifier)
  | .revoke uniqueIdentifier revocationReason _ =>
      some (.revoke { uniqueIdentifier, revocationCode := revocationReason.1 })
  | .mac uniqueIdentifier cryptographicParameters data =>
      some (.mac { uniqueIdentifier, cryptographicParameters, data })
  | .encrypt uniqueIdentifier cryptographicParameters data ivCounterNonce
      authAdditionalData =>
      some (.encrypt { uniqueIdentifier, cryptographicParameters, data,
                       ivCounterNonce, authAdditionalData })
  | .decrypt uniqueIdentifier cryptographicParameters data ivCounterNonce
      authAdditionalData authTag =>
      some (.decrypt { uniqueIdentifier, cryptographicParameters, data,
                       ivCounterNonce, authAdditionalData, authTag })
  | .sign uniqueIdentifier cryptographicParameters data =>
      some (.sign { uniqueIdentifier, cryptographicParameters, data })
  | .signatureVerify uniqueIdentifier cryptographicParameters data _
      signatureData _ _ _ =>
      some (.signatureVerify { uniqueIdentifier, cryptographicParameters, data,
                               signatureData })

def RequestBatchItem.toEngine (item : RequestBatchItem) :
    Option PyKMIP.RequestBatchItem := do
  return { uniqueBatchItemId := item.uniqueBatchItemId
           requestPayload := ← item.requestPayload.toEngine }

/-- The credentials are for the session, which has no use for them. -/
def RequestHeader.toEngine (header : RequestHeader) : PyKMIP.RequestHeader where
  protocolVersion := header.protocolVersion
  maximumResponseSize := header.maximumResponseSize
  asynchronousIndicator := header.asynchronousIndicator
  batchErrorContOption := header.batchErrorContOption
  batchOrderOption := header.batchOrderOption
  timeStamp := header.timeStamp

def RequestMessage.toEngine (message : RequestMessage) :
    Option PyKMIP.RequestMessage := do
  return { requestHeader := message.requestHeader.toEngine
           batchItems := ← message.batchItems.mapM RequestBatchItem.toEngine }

end Requests

end PyKMIP.Wire
