import PyKMIP.Objects

/-!
# Messages

A request message is a header and a list of batch items, each with the payload
of one operation; the response has the same shape.  The payloads hold what the
engine reads from a request and what it writes into a response.
-/

namespace PyKMIP

structure TemplateAttribute where
  names : List Name := []
  attributes : List Attribute := []
deriving DecidableEq

structure KeyWrappingSpecification where
  wrappingMethod : Option WrappingMethod := none
  encryptionKeyInformation : Option KeyInformation := none
  macSignatureKeyInformation : Option KeyInformation := none
  attributeNames : List String := []
  encodingOption : Option EncodingOption := none
deriving DecidableEq, Repr

structure DerivationParameters where
  cryptographicParameters : Option CryptographicParameters := none
  initializationVector : Option Bytes := none
  derivationData : Option Bytes := none
  salt : Option Bytes := none
  iterationCount : Option Int := none
deriving DecidableEq, Repr

section RequestPayloads

structure CreateRequestPayload where
  objectType : ObjectType
  templateAttribute : Option TemplateAttribute
deriving DecidableEq

structure CreateKeyPairRequestPayload where
  commonTemplateAttribute : Option TemplateAttribute
  privateKeyTemplateAttribute : Option TemplateAttribute
  publicKeyTemplateAttribute : Option TemplateAttribute
deriving DecidableEq

structure DeleteAttributeRequestPayload where
  uniqueIdentifier : Option String
  attributeName : Option AttributeName := none
  attributeIndex : Option Int := none
  currentAttribute : Option TaggedAttribute := none
  attributeReference : Option AttributeName := none
deriving DecidableEq

structure SetAttributeRequestPayload where
  uniqueIdentifier : Option String
  newAttribute : Option TaggedAttribute
deriving DecidableEq

structure ModifyAttributeRequestPayload where
  uniqueIdentifier : Option String
  attributeField : Option Attribute := none
  currentAttribute : Option TaggedAttribute := none
  newAttribute : Option TaggedAttribute := none
deriving DecidableEq

structure RegisterRequestPayload where
  objectType : ObjectType
  templateAttribute : Option TemplateAttribute
  managedObject : Option CoreSecret
deriving DecidableEq

structure DeriveKeyRequestPayload where
  objectType : ObjectType
  uniqueIdentifiers : List String
  derivationMethod : DerivationMethod
  derivationParameters : DerivationParameters
  templateAttribute : Option TemplateAttribute
deriving DecidableEq

structure LocateRequestPayload where
  maximumItems : Option Int := none
  offsetItems : Option Int := none
  attributes : List Attribute := []
deriving DecidableEq

structure GetRequestPayload where
  uniqueIdentifier : Option String
  keyFormatType : Option KeyFormatType := none
  keyCompressionType : Option KeyCompressionType := none
  keyWrappingSpecification : Option KeyWrappingSpecification := none
deriving DecidableEq, Repr

structure GetAttributesRequestPayload where
  uniqueIdentifier : Option String
  attributeNames : List AttributeName := []
deriving DecidableEq

structure RevokeRequestPayload where
  uniqueIdentifier : Option String
  revocationCode : Option RevocationReasonCode
deriving DecidableEq, Repr

structure EncryptRequestPayload where
  uniqueIdentifier : Option String
  cryptographicParameters : Option CryptographicParameters
  data : Option Bytes
  ivCounterNonce : Option Bytes := none
  authAdditionalData : Option Bytes := none
deriving DecidableEq, Repr

structure DecryptRequestPayload where
  uniqueIdentifier : Option String
  cryptographicParameters : Option CryptographicParameters
  data : Option Bytes
  ivCounterNonce : Option Bytes := none
  authAdditionalData : Option Bytes := none
  authTag : Option Bytes := none
deriving DecidableEq, Repr

structure SignatureVerifyRequestPayload where
  uniqueIdentifier : Option String
  cryptographicParameters : Option CryptographicParameters
  data : Option Bytes
  signatureData : Option Bytes
deriving DecidableEq, Repr

structure MACRequestPayload where
  uniqueIdentifier : Option String
  cryptographicParameters : Option CryptographicParameters
  data : Option Bytes
deriving DecidableEq, Repr

structure SignRequestPayload where
  uniqueIdentifier : Option String
  cryptographicParameters : Option CryptographicParameters
  data : Option Bytes
deriving DecidableEq, Repr

/-- The operations that the engine dispatches. -/
def dispatchedOperations : List Operation :=
  [.create, .createKeyPair, .deleteAttribute, .register, .deriveKey, .locate,
    .get, .getAttributes, .getAttributeList, .activate, .revoke, .destroy,
    .query, .discoverVersions, .encrypt, .decrypt, .signatureVerify,
    .setAttribute, .modifyAttribute, .mac, .sign]

/-- The payload of a request batch item.  Its constructor tells the operation. -/
inductive RequestPayload where
  | create (payload : CreateRequestPayload)
  | createKeyPair (payload : CreateKeyPairRequestPayload)
  | deleteAttribute (payload : DeleteAttributeRequestPayload)
  | register (payload : RegisterRequestPayload)
  | deriveKey (payload : DeriveKeyRequestPayload)
  | locate (payload : LocateRequestPayload)
  | get (payload : GetRequestPayload)
  | getAttributes (payload : GetAttributesRequestPayload)
  | getAttributeList (uniqueIdentifier : Option String)
  | activate (uniqueIdentifier : Option String)
  | revoke (payload : RevokeRequestPayload)
  | destroy (uniqueIdentifier : Option String)
  | query (queryFunctions : List QueryFunction)
  | discoverVersions (protocolVersions : List ProtocolVersion)
  | encrypt (payload : EncryptRequestPayload)
  | decrypt (payload : DecryptRequestPayload)
  | signatureVerify (payload : SignatureVerifyRequestPayload)
  | setAttribute (payload : SetAttributeRequestPayload)
  | modifyAttribute (payload : ModifyAttributeRequestPayload)
  | mac (payload : MACRequestPayload)
  | sign (payload : SignRequestPayload)
  | unsupported (operation : Operation)
      (undispatched : operation ∉ dispatchedOperations)
deriving DecidableEq

def RequestPayload.operation : RequestPayload → Operation
  | .create _ => .create
  | .createKeyPair _ => .createKeyPair
  | .deleteAttribute _ => .deleteAttribute
  | .register _ => .register
  | .deriveKey _ => .deriveKey
  | .locate _ => .locate
  | .get _ => .get
  | .getAttributes _ => .getAttributes
  | .getAttributeList _ => .getAttributeList
  | .activate _ => .activate
  | .revoke _ => .revoke
  | .destroy _ => .destroy
  | .query _ => .query
  | .discoverVersions _ => .discoverVersions
  | .encrypt _ => .encrypt
  | .decrypt _ => .decrypt
  | .signatureVerify _ => .signatureVerify
  | .setAttribute _ => .setAttribute
  | .modifyAttribute _ => .modifyAttribute
  | .mac _ => .mac
  | .sign _ => .sign
  | .unsupported operation _ => operation

end RequestPayloads

inductive ResponsePayload where
  | create (objectType : ObjectType) (uniqueIdentifier : String)
  | createKeyPair (privateKeyUniqueIdentifier : String)
      (publicKeyUniqueIdentifier : String)
  | deleteAttribute (uniqueIdentifier : Option String)
      (deleted : Option Attribute)
  | setAttribute (uniqueIdentifier : Option String)
  | modifyAttribute (uniqueIdentifier : Option String)
      (modified : Option Attribute)
  | register (uniqueIdentifier : String)
  | deriveKey (uniqueIdentifier : String)
  | locate (uniqueIdentifiers : List String)
  | get (objectType : ObjectType) (uniqueIdentifier : Option String)
      (secret : CoreSecret)
  | getAttributes (uniqueIdentifier : Option String)
      (attributes : List Attribute)
  | getAttributeList (uniqueIdentifier : Option String)
      (attributeNames : List AttributeName)
  | activate (uniqueIdentifier : Option String)
  | revoke (uniqueIdentifier : Option String)
  | destroy (uniqueIdentifier : Option String)
  | query (operations : List Operation) (vendorIdentification : Option String)
  | discoverVersions (protocolVersions : List ProtocolVersion)
  | encrypt (uniqueIdentifier : Option String) (data : Bytes)
      (ivCounterNonce : Option Bytes) (authTag : Option Bytes)
  | decrypt (uniqueIdentifier : Option String) (data : Bytes)
  | signatureVerify (uniqueIdentifier : Option String)
      (validityIndicator : ValidityIndicator)
  | mac (uniqueIdentifier : Option String) (macData : Bytes)
  | sign (uniqueIdentifier : Option String) (signatureData : Bytes)
deriving DecidableEq

structure RequestBatchItem where
  uniqueBatchItemId : Option Bytes := none
  requestPayload : RequestPayload
deriving DecidableEq

structure RequestHeader where
  protocolVersion : ProtocolVersion
  maximumResponseSize : Option Int := none
  asynchronousIndicator : Option Bool := none
  batchErrorContOption : Option BatchErrorContinuationOption := none
  batchOrderOption : Option Bool := none
  timeStamp : Option Int := none
deriving DecidableEq

structure RequestMessage where
  requestHeader : RequestHeader
  batchItems : List RequestBatchItem
deriving DecidableEq

structure ResponseBatchItem where
  operation : Option Operation := none
  uniqueBatchItemId : Option Bytes := none
  resultStatus : ResultStatus
  resultReason : Option ResultReason := none
  resultMessage : Option String := none
  responsePayload : Option ResponsePayload := none
deriving DecidableEq

structure ResponseHeader where
  protocolVersion : ProtocolVersion
  timeStamp : Int
  batchCount : Nat
deriving DecidableEq

structure ResponseMessage where
  responseHeader : ResponseHeader
  batchItems : List ResponseBatchItem
deriving DecidableEq

end PyKMIP
