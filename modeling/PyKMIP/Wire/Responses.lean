import PyKMIP.Wire.ServerInformation

/-!
# Responses

The writers of response messages, which the server calls, and the readers,
which the client calls: of the header, of the batch items, and of the payloads
of the operations.
-/

namespace PyKMIP.Wire

open Formats Traces

section Enumerations

instance : Coded ValidityIndicator :=
  .inOrder ValidityIndicator.ctorIdx .ofNat 3 ValidityIndicator.ofNat_ctorIdx
    (fun value => by cases value <;> decide) Coded.three_few

/-- The codes begin with zero. -/
instance : Coded ResultStatus where
  code := ResultStatus.ctorIdx
  ofCode? code := if code ≤ 3 then some (.ofNat code) else none
  ofCode?_code status := by cases status <;> rfl
  code_lt status := by cases status <;> decide

/-- The codes of the result reasons, in the order of the members. -/
def resultReasonCodes : List Nat :=
  (List.range' 0x01 24) ++ [0x100] ++ (List.range' 0x19 14) ++
    (List.range' 0x28 9) ++ [0x32] ++ (List.range' 0x34 4) ++
    (List.range' 0x39 15)

instance : Coded ResultReason where
  code reason := resultReasonCodes.getD reason.ctorIdx 0
  ofCode? code := (resultReasonCodes.idxOf? code).map .ofNat
  ofCode?_code reason := by cases reason <;> rfl
  code_lt reason := by cases reason <;> decide

end Enumerations

section Objects

/-- A field of the versions before 2.0. -/
def before20 (version : KmipVersion) (field : RequestField α) :
    RequestReading (Option α) :=
  if .kmip20 ≤ version then return none else optional field

def writeBefore20 (version : KmipVersion) (writing : Writing) : Writing :=
  if .kmip20 ≤ version then .ok [] else writing

def sinceMany (supported version : KmipVersion) (field : RequestField α) :
    RequestReading (List α) :=
  if supported ≤ version then many field else return []

end Objects

section Payloads

structure QueryInformation where
  operations : List Operation := []
  objectTypes : List ObjectType := []
  vendorIdentification : Option String := none
  serverInformation : Option Bytes := none
  applicationNamespaces : List String := []
  extensionInformation : List ExtensionInformation := []
  attestationTypes : List AttestationType := []
  rngParameters : List RNGParameters := []
  profileInformation : List ProfileInformation := []
  validationInformation : List ValidationInformation := []
  capabilityInformation : List CapabilityInformation := []
  clientRegistrationMethods : List ClientRegistrationMethod := []
  defaultsInformation : Option (List ObjectDefaults) := none
  protectionStorageMasks : List Int := []

/-- The payloads of the operations that the payload factory knows. -/
inductive ResponsePayload where
  | create (objectType : ObjectType) (uniqueIdentifier : String)
      (templateAttribute : Option TemplateAttribute)
  | createKeyPair (privateKeyUniqueIdentifier publicKeyUniqueIdentifier : String)
      (privateKeyTemplateAttribute publicKeyTemplateAttribute :
        Option TemplateAttribute)
  | register (uniqueIdentifier : String)
      (templateAttribute : Option TemplateAttribute)
  | deriveKey (uniqueIdentifier : String)
      (templateAttribute : Option TemplateAttribute)
  | rekey (uniqueIdentifier : String)
      (templateAttribute : Option TemplateAttribute)
  | rekeyKeyPair (privateKeyUniqueIdentifier publicKeyUniqueIdentifier : String)
      (privateKeyTemplateAttribute publicKeyTemplateAttribute :
        Option TemplateAttribute)
  | locate (locatedItems : Option Int) (uniqueIdentifiers : List String)
  | check (uniqueIdentifier : Option String) (usageLimitsCount : Option Int)
      (cryptographicUsageMask : Option Int) (leaseTime : Option Nat)
  | get (objectType : ObjectType) (uniqueIdentifier : String) (secret : Secret)
  | getAttributes (uniqueIdentifier : String) (attributes : List Attribute)
  | getAttributeList (uniqueIdentifier : String) (attributeNames : List String)
  | deleteAttribute (uniqueIdentifier : String) (entry : Option Attribute)
  | setAttribute (uniqueIdentifier : String)
  | modifyAttribute (uniqueIdentifier : String) (entry : Option Attribute)
  | destroy (uniqueIdentifier : String)
  | query (information : QueryInformation)
  | discoverVersions (protocolVersions : List ProtocolVersion)
  | activate (uniqueIdentifier : String)
  | revoke (uniqueIdentifier : String)
  | mac (uniqueIdentifier : String) (macData : Bytes)
  | encrypt (uniqueIdentifier : String) (data : Bytes)
      (ivCounterNonce authTag : Option Bytes)
  | decrypt (uniqueIdentifier : String) (data : Bytes)
  | sign (uniqueIdentifier : String) (signatureData : Bytes)
  | signatureVerify (uniqueIdentifier : String)
      (validityIndicator : ValidityIndicator)
      (data correlationValue : Option Bytes)

/-- The reader of a response payload. -/
abbrev ResponsePayloadReader := KmipVersion → RequestField ResponsePayload

def responsePayload (contents : RequestReading ResponsePayload) :
    RequestField ResponsePayload := struct .responsePayload contents

def missingInResponse (operation field : String) : RequestError :=
  invalidEncoding
    ("The " ++ operation ++ " response payload encoding is missing the " ++
      field ++ ".")

def demandedIdentifier (operation : String) : RequestReading String :=
  demanded (missingInResponse operation "unique identifier")
    (text .uniqueIdentifier)

def CreateResponsePayload.read : ResponsePayloadReader := fun version =>
  responsePayload do
    let objectType ← demanded (missingInResponse "Create" "object type")
      (enumeration ObjectType .objectType)
    let uniqueIdentifier ← demandedIdentifier "Create"
    let templateAttribute ← before20 version
      (templateAttribute .templateAttribute)
    notOversized
    return .create objectType uniqueIdentifier templateAttribute

def CreateKeyPairResponsePayload.readAs
    (make : String → String → Option TemplateAttribute →
      Option TemplateAttribute → ResponsePayload) : ResponsePayloadReader :=
  fun version => responsePayload do
    let privateKeyUniqueIdentifier ← demanded
      (missingInResponse "CreateKeyPair" "private key unique identifier")
      (text .privateKeyUniqueIdentifier)
    let publicKeyUniqueIdentifier ← demanded
      (missingInResponse "CreateKeyPair" "public key unique identifier")
      (text .publicKeyUniqueIdentifier)
    let privateKeyTemplateAttribute ← before20 version
      (templateAttribute .privateKeyTemplateAttribute)
    let publicKeyTemplateAttribute ← before20 version
      (templateAttribute .publicKeyTemplateAttribute)
    notOversized
    return make privateKeyUniqueIdentifier publicKeyUniqueIdentifier
      privateKeyTemplateAttribute publicKeyTemplateAttribute

def CreateKeyPairResponsePayload.read : ResponsePayloadReader :=
  readAs .createKeyPair

/-- The class inherits its reader. -/
def RekeyKeyPairResponsePayload.read : ResponsePayloadReader :=
  CreateKeyPairResponsePayload.readAs .rekeyKeyPair

def RegisterResponsePayload.read : ResponsePayloadReader := fun version =>
  responsePayload do
    let uniqueIdentifier ← demandedIdentifier "Register"
    let templateAttribute ← before20 version
      (templateAttribute .templateAttribute)
    notOversized
    return .register uniqueIdentifier templateAttribute

def DeriveKeyResponsePayload.read : ResponsePayloadReader := fun version =>
  responsePayload do
    let uniqueIdentifier ← demandedIdentifier "DeriveKey"
    let templateAttribute ← before20 version
      (templateAttribute .templateAttribute)
    notOversized
    return .deriveKey uniqueIdentifier templateAttribute

def RekeyResponsePayload.read : ResponsePayloadReader := fun _ =>
  responsePayload do
    let uniqueIdentifier ← demanded (.codec .valueError) (text .uniqueIdentifier)
    let templateAttribute ← optional (templateAttribute .templateAttribute)
    notOversized
    return .rekey uniqueIdentifier templateAttribute

def LocateResponsePayload.read : ResponsePayloadReader := fun _ =>
  responsePayload do
    let locatedItems ← optional (integer .locatedItems)
    let uniqueIdentifiers ← many (text .uniqueIdentifier)
    notOversized
    return .locate locatedItems uniqueIdentifiers

def CheckResponsePayload.read : ResponsePayloadReader := fun _ =>
  responsePayload do
    let uniqueIdentifier ← optional (text .uniqueIdentifier)
    let usageLimitsCount ← optional (longInteger .usageLimitsCount)
    let cryptographicUsageMask ← optional (integer .cryptographicUsageMask)
    let leaseTime ← optional (interval .leaseTime)
    notOversized
    return .check uniqueIdentifier usageLimitsCount cryptographicUsageMask
      leaseTime

def GetResponsePayload.read : ResponsePayloadReader := fun _ =>
  responsePayload do
    let objectType ← demanded (.codec .valueError)
      (enumeration ObjectType .objectType)
    let uniqueIdentifier ← demanded (.codec .valueError) (text .uniqueIdentifier)
    let secret ← .ofExcept (createSecret objectType)
    let secret ← demanded (.codec .valueError) secret
    notOversized
    return .get objectType uniqueIdentifier secret

def GetAttributesResponsePayload.read : ResponsePayloadReader := fun version =>
  responsePayload do
    let uniqueIdentifier ← demandedIdentifier "GetAttributes"
    if .kmip20 ≤ version then do
      let converted ← demanded
        (missingInResponse "GetAttributes" "attributes structure")
        (attributesStructure .attributes version)
      notOversized
      return .getAttributes uniqueIdentifier converted.attributes
    else do
      let attributes ← many attributeField
      notOversized
      return .getAttributes uniqueIdentifier attributes

def GetAttributeListResponsePayload.read : ResponsePayloadReader :=
  fun version => responsePayload do
    let uniqueIdentifier ← demandedIdentifier "GetAttributeList"
    if .kmip20 ≤ version then do
      let names ← many (nameOfReference
        (invalidEncoding ("The GetAttributeList response payload encoding " ++
          "contains an invalid AttributeReference type.")) version)
      notOversized
      return .getAttributeList uniqueIdentifier names
    else do
      let names ← many (text .attributeName)
      if names = [] then
        raise (missingInResponse "GetAttributeList" "attribute names")
      else do
        notOversized
        return .getAttributeList uniqueIdentifier names

/-- Before version 2.0 the attribute is part of the response. -/
def changedAttribute (operation : String)
    (make : String → Option Attribute → ResponsePayload) :
    ResponsePayloadReader := fun version =>
  responsePayload do
    let uniqueIdentifier ← demanded
      (missingInResponse operation "unique identifier field")
      (text .uniqueIdentifier)
    if .kmip20 ≤ version then do
      notOversized
      return make uniqueIdentifier none
    else do
      let entry ← demanded (missingInResponse operation "attribute field")
        attributeField
      notOversized
      return make uniqueIdentifier (some entry)

def DeleteAttributeResponsePayload.read : ResponsePayloadReader :=
  changedAttribute "DeleteAttribute" .deleteAttribute

def ModifyAttributeResponsePayload.read : ResponsePayloadReader :=
  changedAttribute "ModifyAttribute" .modifyAttribute

/-- The version is looked at before the header. -/
def SetAttributeResponsePayload.read : ResponsePayloadReader := fun version =>
  { tag := .responsePayload
    reading :=
      if .kmip20 ≤ version then
        Field.reading <| responsePayload do
          let uniqueIdentifier ← demanded
            (missingInResponse "SetAttribute" "unique identifier field")
            (text .uniqueIdentifier)
          notOversized
          return .setAttribute uniqueIdentifier
      else .throw (.versionNotSupported "SetAttribute operation" version) }

/-- A payload that is an identifier, which is read without a question. -/
def identifierOnly (make : String → ResponsePayload) : ResponsePayloadReader :=
  fun _ => responsePayload do
    let uniqueIdentifier ← (text .uniqueIdentifier).always
    notOversized
    return make uniqueIdentifier

def DestroyResponsePayload.read : ResponsePayloadReader :=
  identifierOnly .destroy

def ActivateResponsePayload.read : ResponsePayloadReader :=
  identifierOnly .activate

def RevokeResponsePayload.read : ResponsePayloadReader := identifierOnly .revoke

def QueryResponsePayload.read : ResponsePayloadReader := fun version =>
  responsePayload do
    let operations ← many (enumeration Operation .operation)
    let objectTypes ← many (enumeration ObjectType .objectType)
    let vendorIdentification ← optional (text .vendorIdentification)
    let serverInformation ← optional serverInformation
    let applicationNamespaces ← many (text .applicationNamespace)
    let extensionInformation ← sinceMany .kmip11 version
      (fieldOf tracedExtensionInformation)
    let attestationTypes ← sinceMany .kmip12 version
      (enumeration AttestationType .attestationType)
    let rngParameters ← sinceMany .kmip13 version
      (fromVersion .kmip13 version "RNGParameters"
        (fieldOf tracedRngParameters))
    let profileInformation ← sinceMany .kmip13 version
      (fromVersion .kmip13 version "ProfileInformation"
        (fieldOf tracedProfileInformation))
    let validationInformation ← sinceMany .kmip13 version
      (fromVersion .kmip13 version "ValidationInformation"
        (fieldOf tracedValidationInformation))
    let capabilityInformation ← sinceMany .kmip13 version
      (capabilityInformation version)
    let clientRegistrationMethods ← sinceMany .kmip13 version
      (enumeration ClientRegistrationMethod .clientRegistrationMethod)
    let defaultsInformation ← sinceVersion .kmip20 version
      (defaultsInformation version)
    let protectionStorageMasks ← sinceMany .kmip20 version
      (integer .protectionStorageMask)
    notOversized
    return .query
      { operations, objectTypes, vendorIdentification, serverInformation,
        applicationNamespaces, extensionInformation, attestationTypes,
        rngParameters, profileInformation, validationInformation,
        capabilityInformation, clientRegistrationMethods, defaultsInformation,
        protectionStorageMasks }

def DiscoverVersionsResponsePayload.read : ResponsePayloadReader := fun _ =>
  responsePayload do
    let protocolVersions ← many protocolVersion
    notOversized
    return .discoverVersions protocolVersions

def MACResponsePayload.read : ResponsePayloadReader := fun _ =>
  responsePayload do
    let uniqueIdentifier ← demanded
      (invalidEncoding "expected mac response unique identifier not found")
      (text .uniqueIdentifier)
    let macData ← demanded
      (invalidEncoding "expected mac response mac data not found")
      (byteString .macData)
    notOversized
    return .mac uniqueIdentifier macData

def EncryptResponsePayload.read : ResponsePayloadReader := fun version =>
  responsePayload do
    let uniqueIdentifier ← demanded (.codec .valueError) (text .uniqueIdentifier)
    let data ← demanded (.codec .valueError) (byteString .data)
    let ivCounterNonce ← optional (byteString .ivCounterNonce)
    let authTag ← since14 version (byteString .authenticatedEncryptionTag)
    notOversized
    return .encrypt uniqueIdentifier data ivCounterNonce authTag

def DecryptResponsePayload.read : ResponsePayloadReader := fun _ =>
  responsePayload do
    let uniqueIdentifier ← demanded (.codec .valueError) (text .uniqueIdentifier)
    let data ← demanded (.codec .valueError) (byteString .data)
    notOversized
    return .decrypt uniqueIdentifier data

/-- What is left of the payload is not looked at. -/
def SignResponsePayload.read : ResponsePayloadReader := fun _ =>
  responsePayload do
    let uniqueIdentifier ← demanded (.codec .valueError) (text .uniqueIdentifier)
    let signatureData ← demanded (.codec .valueError) (byteString .signatureData)
    return .sign uniqueIdentifier signatureData

def SignatureVerifyResponsePayload.read : ResponsePayloadReader := fun _ =>
  responsePayload do
    let uniqueIdentifier ← demanded (.codec .valueError) (text .uniqueIdentifier)
    let validityIndicator ← demanded (.codec .valueError)
      (enumeration ValidityIndicator .validityIndicator)
    let data ← optional (byteString .data)
    let correlationValue ← optional (byteString .correlationValue)
    notOversized
    return .signatureVerify uniqueIdentifier validityIndicator data
      correlationValue

/-- `ResponsePayloadFactory.create`. -/
def createResponsePayload :
    Operation → Except RequestError ResponsePayloadReader
  | .create => .ok CreateResponsePayload.read
  | .createKeyPair => .ok CreateKeyPairResponsePayload.read
  | .register => .ok RegisterResponsePayload.read
  | .rekey => .ok RekeyResponsePayload.read
  | .deriveKey => .ok DeriveKeyResponsePayload.read
  | .locate => .ok LocateResponsePayload.read
  | .check => .ok CheckResponsePayload.read
  | .get => .ok GetResponsePayload.read
  | .getAttributes => .ok GetAttributesResponsePayload.read
  | .getAttributeList => .ok GetAttributeListResponsePayload.read
  | .setAttribute => .ok SetAttributeResponsePayload.read
  | .modifyAttribute => .ok ModifyAttributeResponsePayload.read
  | .deleteAttribute => .ok DeleteAttributeResponsePayload.read
  | .activate => .ok ActivateResponsePayload.read
  | .revoke => .ok RevokeResponsePayload.read
  | .destroy => .ok DestroyResponsePayload.read
  | .query => .ok QueryResponsePayload.read
  | .rekeyKeyPair => .ok RekeyKeyPairResponsePayload.read
  | .discoverVersions => .ok DiscoverVersionsResponsePayload.read
  | .encrypt => .ok EncryptResponsePayload.read
  | .decrypt => .ok DecryptResponsePayload.read
  | .sign => .ok SignResponsePayload.read
  | .signatureVerify => .ok SignatureVerifyResponsePayload.read
  | .mac => .ok MACResponsePayload.read
  | .certify | .recertify | .addAttribute | .obtainLease | .getUsageAllocation
  | .archive | .recover | .validate | .cancel | .poll | .notify | .put
  | .macVerify | .rngRetrieve | .rngSeed | .hash | .createSplitKey
  | .joinSplitKey => .error (.codec .notImplementedError)
  | _ => .error (.codec .valueError)

end Payloads

section Messages

structure ResponseHeader where
  protocolVersion : ProtocolVersion
  timeStamp : Int
  serverHashedPassword : Option Bytes
  serverCorrelationValue : Option String
  batchCount : Int

structure ResponseBatchItem where
  operation : Option Operation
  uniqueBatchItemId : Option Bytes
  resultStatus : ResultStatus
  resultReason : Option ResultReason
  resultMessage : Option String
  asyncCorrelationValue : Option Bytes
  responsePayload : Option ResponsePayload
  /-- The length that the extension declares. -/
  messageExtension : Option Nat

structure ResponseMessage where
  responseHeader : ResponseHeader
  batchItems : List ResponseBatchItem

/-- `ResponseHeader.read`. -/
def responseHeader : RequestField ResponseHeader :=
  struct .responseHeader do
    let protocolVersion ← protocolVersion.always
    let timeStamp ← (dateTime .timeStamp).always
    let version ← comparable (protocolVersionToKmipVersion protocolVersion)
    let serverHashedPassword ← recent version (byteString .serverHashedPassword)
    let serverCorrelationValue ← optional (text .serverCorrelationValue)
    let batchCount ← (integer .batchCount).always
    notOversized
    return { protocolVersion, timeStamp, serverHashedPassword,
             serverCorrelationValue, batchCount }

/-- The payload that is expected of an operation, if there is an operation. -/
def expectedPayload (version : KmipVersion) :
    Option Operation → Except RequestError (Option (RequestField ResponsePayload))
  | none => .ok none
  | some operation =>
      (createResponsePayload operation).map fun reader => some (reader version)

/-- `ResponseBatchItem.read`. -/
def responseBatchItem (version : KmipVersion) :
    RequestField ResponseBatchItem :=
  struct .batchItem do
    let operation ← optional (enumeration Operation .operation)
    let uniqueBatchItemId ← optional (byteString .uniqueBatchItemId)
    let resultStatus ← (enumeration ResultStatus .resultStatus).always
    let resultReason ← optional (enumeration ResultReason .resultReason)
    let resultMessage ← optional (text .resultMessage)
    let asyncCorrelationValue ← optional
      (byteString .asynchronousCorrelationValue)
    let expected ← .ofExcept (expectedPayload version operation)
    let responsePayload ← expected.elim (pure none) optional
    let messageExtension ← optional messageExtension
    notOversized
    return { operation, uniqueBatchItemId, resultStatus, resultReason,
             resultMessage, asyncCorrelationValue, responsePayload,
             messageExtension }

/-- The header and the batch items. -/
def responseMessage : RequestReading ResponseMessage := do
  let responseHeader ← responseHeader.always
  let version ← comparable
    (protocolVersionToKmipVersion responseHeader.protocolVersion)
  let batchItems ← .times responseHeader.batchCount.toNat
    (responseBatchItem version).reading
  return { responseHeader, batchItems }

/-- `ResponseMessage.read`: no local stream is made of the declared length. -/
def ResponseMessage.read (_kmipVersion : KmipVersion) :
    Tracer Tag RequestError ResponseMessage :=
  responseMessage.tracer.inPlace .responseMessage
    (readHeader .responseMessage)

end Messages

end PyKMIP.Wire
