import PyKMIP.Wire.TracedItems
import PyKMIP.Messages
import PyKMIP.Session.MessageLoop

/-!
# Requests

The reader of request messages and the readers that it calls: of the header
with its credentials, of the batch items, and of their payloads, which the
operation chooses.
-/

namespace PyKMIP.Wire

open Formats Traces

section Enumerations

inductive CredentialType where
  | usernameAndPassword | device | attestation | oneTimePassword
  | hashedPassword | ticket
deriving DecidableEq

inductive AttestationType where
  | tpmQuote | tcgIntegrityReport | samlAssertion
deriving DecidableEq

instance : Coded CredentialType :=
  .inOrder CredentialType.ctorIdx .ofNat 6 CredentialType.ofNat_ctorIdx
    (fun value => by cases value <;> decide) Coded.six_few

instance : Coded AttestationType :=
  .inOrder AttestationType.ctorIdx .ofNat 3 AttestationType.ofNat_ctorIdx
    (fun value => by cases value <;> decide) (by decide)

instance : Coded Operation :=
  .inOrder Operation.ctorIdx .ofNat 53 Operation.ofNat_ctorIdx
    (fun value => by cases value <;> decide) (by decide)

instance : Coded BatchErrorContinuationOption :=
  .inOrder BatchErrorContinuationOption.ctorIdx .ofNat 3
    BatchErrorContinuationOption.ofNat_ctorIdx
    (fun value => by cases value <;> decide) (by decide)

instance : Coded QueryFunction :=
  .inOrder QueryFunction.ctorIdx .ofNat 14 QueryFunction.ofNat_ctorIdx
    (fun value => by cases value <;> decide) (by decide)

instance : Coded SplitKeyMethod :=
  .inOrder SplitKeyMethod.ctorIdx .ofNat 4 SplitKeyMethod.ofNat_ctorIdx
    (fun value => by cases value <;> decide) Coded.four_few

instance : Coded SecretDataType :=
  .inOrder SecretDataType.ctorIdx .ofNat 2 SecretDataType.ofNat_ctorIdx
    (fun value => by cases value <;> decide) Coded.two_few

instance : Coded RevocationReasonCode :=
  .inOrder RevocationReasonCode.ctorIdx .ofNat 7
    RevocationReasonCode.ofNat_ctorIdx
    (fun value => by cases value <;> decide) (by decide)

/-- The only member has a code of its own. -/
instance : Coded OpaqueDataType where
  code _ := 0x80000000
  ofCode? code := if code = 0x80000000 then some .none else none
  ofCode?_code value := by cases value; rfl
  code_lt _ := by decide

end Enumerations

section Items

/-- What reading a request raises. -/
inductive RequestError where
  | attributes (exception : AttributesError)
  | versionNotSupported (subject : String) (version : KmipVersion)
deriving DecidableEq

def RequestError.codec (exception : CodecError) : RequestError :=
  .attributes (.codec exception)

def invalidEncoding (message : String) : RequestError :=
  .codec (.invalidKmipEncoding message)

abbrev RequestField (α : Type) := Field 8 Tag RequestError α

abbrev RequestReading (α : Type) := Tracing RequestError α

def fieldOf {item : Item α} (traced : Traced 8 item) : RequestField α :=
  traced.field.mapError .codec

def text (tag : Tag) : RequestField String := fieldOf (tracedTextString tag)

def byteString (tag : Tag) : RequestField Bytes :=
  fieldOf (tracedByteString tag)

def integer (tag : Tag) : RequestField Int := fieldOf (tracedInteger tag)

def longInteger (tag : Tag) : RequestField Int := fieldOf (tracedLongInteger tag)

def dateTime (tag : Tag) : RequestField Int := fieldOf (tracedDateTime tag)

def interval (tag : Tag) : RequestField Nat := fieldOf (tracedInterval tag)

def boolean (tag : Tag) : RequestField Bool := fieldOf (tracedBoolean tag)

def enumeration (α : Type) [Coded α] (tag : Tag) : RequestField α :=
  fieldOf (tracedEnumeration α tag)

def bigInteger (tag : Tag) : RequestField (Primitive Int) where
  tag := tag
  reading := (Reading.ofDecoder (BigInteger.read tag)
    (takes_bigInteger tag)).mapError .codec

def cryptographicParameters : RequestField CryptographicParameters :=
  fieldOf (tracedCryptographicParameters .cryptographicParameters)

def keyBlock : RequestField (KeyBlock Attribute) := fieldOf tracedKeyBlock

def attributeField : RequestField Attribute := fieldOf tracedAttribute

/-- `super().read`, of a structure. -/
def readHeader (tag : Tag) : Decoder RequestError Nat := fun input =>
  ((readBase tag .struct).run input).mapError .codec

theorem takes_readHeader (tag : Tag) : Takes 8 (readHeader tag) :=
  (takes_readBase tag .struct).mapError RequestError.codec

def struct (tag : Tag) (contents : RequestReading α) : RequestField α where
  tag := tag
  reading := .slice tag (readHeader tag) (takes_readHeader tag) contents

def notOversized : RequestReading Unit := isOversizedTracing.mapError .codec

def optional (field : RequestField α) : RequestReading (Option α) :=
  field.optional nextTag

def demanded (exception : RequestError) (field : RequestField α) :
    RequestReading α := field.demanded nextTag exception

def many (field : RequestField α) : RequestReading (List α) :=
  field.many nextTag

def raise (exception : RequestError) : RequestReading α := .throw exception

def ofCodec (outcome : Except CodecError α) : RequestReading α :=
  .ofExcept (outcome.mapError .codec)

end Items

section Header

inductive CredentialValue where
  | usernamePassword (username : String) (password : Option String)
  | device (deviceSerialNumber password deviceIdentifier networkIdentifier
      machineIdentifier mediaIdentifier : Option String)
  | attestation (nonceId nonceValue : Bytes) (attestationType : AttestationType)
      (attestationMeasurement attestationAssertion : Option Bytes)

structure Credential where
  credentialType : CredentialType
  credentialValue : CredentialValue

structure RequestHeader where
  protocolVersion : ProtocolVersion
  maximumResponseSize : Option Int
  asynchronousIndicator : Option Bool
  authentication : Option (List Credential)
  batchErrorContOption : Option BatchErrorContinuationOption
  batchOrderOption : Option Bool
  timeStamp : Option Int
  batchCount : Int

def protocolVersion : RequestField ProtocolVersion :=
  struct .protocolVersion do
    let major ← demanded (.codec .valueError) (integer .protocolVersionMajor)
    let minor ← demanded (.codec .valueError) (integer .protocolVersionMinor)
    notOversized
    return { major, minor }

def usernamePasswordCredential : RequestField CredentialValue :=
  struct .credentialValue do
    let username ← demanded (.codec .valueError) (text .username)
    let password ← optional (text .password)
    notOversized
    return .usernamePassword username password

def deviceCredential : RequestField CredentialValue :=
  struct .credentialValue do
    let deviceSerialNumber ← optional (text .deviceSerialNumber)
    let password ← optional (text .password)
    let deviceIdentifier ← optional (text .deviceIdentifier)
    let networkIdentifier ← optional (text .networkIdentifier)
    let machineIdentifier ← optional (text .machineIdentifier)
    let mediaIdentifier ← optional (text .mediaIdentifier)
    notOversized
    return .device deviceSerialNumber password deviceIdentifier
      networkIdentifier machineIdentifier mediaIdentifier

def nonce : RequestField (Bytes × Bytes) :=
  struct .nonce do
    let nonceId ← demanded (.codec .valueError) (byteString .nonceId)
    let nonceValue ← demanded (.codec .valueError) (byteString .nonceValue)
    notOversized
    return (nonceId, nonceValue)

def attestationCredential : RequestField CredentialValue :=
  struct .credentialValue do
    let (nonceId, nonceValue) ← demanded (.codec .valueError) nonce
    let attestationType ← demanded (.codec .valueError)
      (enumeration AttestationType .attestationType)
    let attestationMeasurement ← optional (byteString .attestationMeasurement)
    let attestationAssertion ← optional (byteString .attestationAssertion)
    if attestationMeasurement.isNone ∧ attestationAssertion.isNone then
      raise (.codec .valueError)
    else do
      notOversized
      return .attestation nonceId nonceValue attestationType
        attestationMeasurement attestationAssertion

/-- The class of the credential value for a credential type. -/
def credentialValue : CredentialType → RequestReading CredentialValue
  | .usernameAndPassword =>
      demanded (.codec .valueError) usernamePasswordCredential
  | .device => demanded (.codec .valueError) deviceCredential
  | .attestation => demanded (.codec .valueError) attestationCredential
  | _ => raise (.codec .valueError)

def credential : RequestField Credential :=
  struct .credential do
    let credentialType ← demanded (.codec .valueError)
      (enumeration CredentialType .credentialType)
    let credentialValue ← credentialValue credentialType
    notOversized
    return { credentialType, credentialValue }

def authentication : RequestField (List Credential) :=
  struct .authentication do
    let credentials ← many credential
    if credentials = [] then raise (.codec .valueError)
    else do
      notOversized
      return credentials

/-- `RequestHeader.read`. -/
def requestHeader : RequestField RequestHeader :=
  struct .requestHeader do
    let protocolVersion ← protocolVersion.always
    let maximumResponseSize ← optional (integer .maximumResponseSize)
    let asynchronousIndicator ← optional (boolean .asynchronousIndicator)
    let authentication ← optional authentication
    let batchErrorContOption ← optional
      (enumeration BatchErrorContinuationOption .batchErrorContinuationOption)
    let batchOrderOption ← optional (boolean .batchOrderOption)
    let timeStamp ← optional (dateTime .timeStamp)
    let batchCount ← (integer .batchCount).always
    notOversized
    return { protocolVersion, maximumResponseSize, asynchronousIndicator,
             authentication, batchErrorContOption, batchOrderOption, timeStamp,
             batchCount }

end Header

section Objects

/-- The objects that a request registers. -/
inductive Secret where
  | certificate (certificateType : CertificateType) (certificateValue : Bytes)
  | symmetricKey (keyBlock : KeyBlock Attribute)
  | publicKey (keyBlock : KeyBlock Attribute)
  | privateKey (keyBlock : KeyBlock Attribute)
  | splitKey (splitKeyParts keyPartIdentifier splitKeyThreshold : Int)
      (splitKeyMethod : SplitKeyMethod) (primeFieldSize : Option (Primitive Int))
      (keyBlock : KeyBlock Attribute)
  | template (attributes : List Attribute)
  | secretData (secretDataType : SecretDataType) (keyBlock : KeyBlock Attribute)
  | opaqueObject (opaqueDataType : OpaqueDataType) (opaqueDataValue : Bytes)

def certificate : RequestField Secret :=
  struct .certificate do
    let certificateType ← (enumeration CertificateType .certificateType).always
    let certificateValue ← (byteString .certificateValue).always
    notOversized
    return .certificate certificateType certificateValue

/-- `KeyBlockKey.read`. -/
def keyBlockKey (tag : Tag) (make : KeyBlock Attribute → Secret) :
    RequestField Secret :=
  struct tag do
    let keyBlock ← keyBlock.always
    notOversized
    return make keyBlock

def splitKeyMissing (field : String) : RequestError :=
  invalidEncoding ("The SplitKey encoding is missing the " ++ field ++ " field.")

def splitKey : RequestField Secret :=
  struct .splitKey do
    let splitKeyParts ← demanded (splitKeyMissing "SplitKeyParts")
      (integer .splitKeyParts)
    let keyPartIdentifier ← demanded (splitKeyMissing "KeyPartIdentifier")
      (integer .keyPartIdentifier)
    let splitKeyThreshold ← demanded (splitKeyMissing "SplitKeyThreshold")
      (integer .splitKeyThreshold)
    let splitKeyMethod ← demanded (splitKeyMissing "SplitKeyMethod")
      (enumeration SplitKeyMethod .splitKeyMethod)
    let primeFieldSize ← optional (bigInteger .primeFieldSize)
    if primeFieldSize.isNone ∧ splitKeyMethod = .polynomialSharingPrimeField then
      raise (invalidEncoding ("The SplitKey encoding is missing the " ++
        "PrimeFieldSize field. This field is required when the " ++
        "SplitKeyMethod is PolynomialSharingPrimeField."))
    else do
      let keyBlock ← demanded (splitKeyMissing "KeyBlock") keyBlock
      notOversized
      return .splitKey splitKeyParts keyPartIdentifier splitKeyThreshold
        splitKeyMethod primeFieldSize keyBlock

/-- There is at least one attribute. -/
def template : RequestField Secret :=
  struct .template do
    let first ← attributeField.always
    let others ← many attributeField
    notOversized
    return .template (first :: others)

def secretData : RequestField Secret :=
  struct .secretData do
    let secretDataType ← (enumeration SecretDataType .secretDataType).always
    let keyBlock ← keyBlock.always
    notOversized
    return .secretData secretDataType keyBlock

def opaqueObject : RequestField Secret :=
  struct .opaqueObject do
    let opaqueDataType ← (enumeration OpaqueDataType .opaqueDataType).always
    let opaqueDataValue ← (byteString .opaqueDataValue).always
    notOversized
    return .opaqueObject opaqueDataType opaqueDataValue

/-- `SecretFactory.create`. -/
def createSecret : ObjectType → Except RequestError (RequestField Secret)
  | .certificate => .ok certificate
  | .symmetricKey => .ok (keyBlockKey .symmetricKey .symmetricKey)
  | .publicKey => .ok (keyBlockKey .publicKey .publicKey)
  | .privateKey => .ok (keyBlockKey .privateKey .privateKey)
  | .splitKey => .ok splitKey
  | .template => .ok template
  | .secretData => .ok secretData
  | .opaqueData => .ok opaqueObject
  | .pgpKey => .error (.codec .typeError)
  | .certificateRequest => .error (.codec .typeError)

/-- Encryption and MAC/signature key information. -/
def keyInformation (tag : Tag) : RequestField KeyInformation :=
  fieldOf (tracedKeyInformation tag)

def keyWrappingSpecification : RequestField KeyWrappingSpecification :=
  struct .keyWrappingSpecification do
    let wrappingMethod ← demanded (.codec .valueError)
      (enumeration WrappingMethod .wrappingMethod)
    let encryptionKeyInformation ← optional
      (keyInformation .encryptionKeyInformation)
    let macSignatureKeyInformation ← optional
      (keyInformation .macSignatureKeyInformation)
    let attributeNames ← many (text .attributeName)
    let encodingOption ← optional (enumeration EncodingOption .encodingOption)
    notOversized
    return { wrappingMethod := some wrappingMethod, encryptionKeyInformation,
             macSignatureKeyInformation, attributeNames, encodingOption }

def revocationReason :
    RequestField (RevocationReasonCode × Option String) :=
  struct .revocationReason do
    let revocationCode ←
      (enumeration RevocationReasonCode .revocationReasonCode).always
    let revocationMessage ← optional (text .revocationMessage)
    notOversized
    return (revocationCode, revocationMessage)

def templateAttribute (tag : Tag) : RequestField TemplateAttribute where
  tag := tag
  reading := (TemplateAttribute.tracing tag).mapError .codec

/-- The attributes structure, converted to a template attribute. -/
def attributesStructure (tag : Tag) (version : KmipVersion) :
    RequestField TemplateAttribute where
  tag := tag
  reading := ((Attributes.tracing tag version).mapError .attributes).followedBy
    fun attributes => ofCodec (convertAttributesToTemplateAttribute attributes)

def storageMasks (tag : Tag) : RequestField (List Int) :=
  fieldOf (tracedProtectionStorageMasks tag)

/-- A field of the versions from 2.0 on. -/
def recent (version : KmipVersion) (field : RequestField α) :
    RequestReading (Option α) :=
  if .kmip20 ≤ version then optional field else return none

/-- The loop body of `Attributes.read` without the loop. -/
def heldAttributeFields (object : String) (version : KmipVersion) :
    RequestReading (Tag × ValueObject) := do
  match nextTag (← .look) with
  | none =>
      raise (invalidEncoding
        ("The " ++ object ++ " encoding is missing the attribute field."))
  | some tag =>
      if isAttribute tag (some version) then do
        let value ← ((taggedTracing tag).mapError .codec).weaken
        notOversized
        return (tag, value)
      else raise (.attributes (.attributeNotSupported tag version))

/-- `CurrentAttribute.read` and `NewAttribute.read`. -/
def heldAttribute (tag : Tag) (object : String) (version : KmipVersion) :
    RequestField (Tag × ValueObject) where
  tag := tag
  reading :=
    if .kmip20 ≤ version then
      (struct tag (heldAttributeFields object version)).reading
    else .throw (.versionNotSupported (object ++ " object") version)

def currentAttribute (version : KmipVersion) :
    RequestField (Tag × ValueObject) :=
  heldAttribute .currentAttribute "CurrentAttribute" version

def newAttribute (version : KmipVersion) : RequestField (Tag × ValueObject) :=
  heldAttribute .newAttribute "NewAttribute" version

structure AttributeReference where
  vendorIdentification : String
  attributeName : String
deriving DecidableEq

def attributeReference (version : KmipVersion) :
    RequestField AttributeReference where
  tag := .attributeReference
  reading :=
    if .kmip20 ≤ version then
      Field.reading <| struct .attributeReference do
        let vendorIdentification ← demanded
          (invalidEncoding ("The AttributeReference encoding is missing the " ++
            "vendor identification string."))
          (text .vendorIdentification)
        let attributeName ← demanded
          (invalidEncoding ("The AttributeReference encoding is missing the " ++
            "attribute name string."))
          (text .attributeName)
        notOversized
        return { vendorIdentification, attributeName }
    else .throw (.versionNotSupported "AttributeReference object" version)

/-- A reference by the tag of the attribute. -/
def referencedTag : Reading 8 Tag RequestError 8 Tag :=
  (Reading.ofDecoder (readEnumeration Tag.ofCode? .attributeReference)
    (takes_readEnumeration Tag.ofCode? .attributeReference)).mapError .codec

/-- The name of a referenced attribute; a reference is a structure or an
enumeration. -/
def referencedName (version : KmipVersion) : RequestField String where
  tag := .attributeReference
  reading := .after .look fun input =>
    if nextTypeIs .struct input then
      (attributeReference version).reading.map (·.attributeName)
    else if nextTypeIs .enumeration input then
      referencedTag.followedBy fun tag =>
        match convertAttributeTagToName tag with
        | some name => return name
        | none => raise (.codec .valueError)
    else .throw (invalidEncoding ("The GetAttributes request payload " ++
      "encoding contains an invalid AttributeReference type."))

end Objects

section Payloads

/-- The payloads of the operations that the payload factory knows. -/
inductive RequestPayload where
  | create (objectType : ObjectType) (templateAttribute : TemplateAttribute)
      (storageMasks : Option (List Int))
  | createKeyPair
      (commonTemplateAttribute privateKeyTemplateAttribute
        publicKeyTemplateAttribute : Option TemplateAttribute)
      (commonProtectionStorageMasks privateProtectionStorageMasks
        publicProtectionStorageMasks : Option (List Int))
  | register (objectType : ObjectType) (templateAttribute : TemplateAttribute)
      (managedObject : Secret) (storageMasks : Option (List Int))
  | deriveKey (objectType : ObjectType) (uniqueIdentifiers : List String)
      (derivationMethod : DerivationMethod)
      (derivationParameters : DerivationParametersStructure)
      (templateAttribute : TemplateAttribute)
  | rekey (uniqueIdentifier : Option String) (offset : Option Nat)
      (templateAttribute : Option TemplateAttribute)
  | rekeyKeyPair (privateKeyUuid : Option String) (offset : Option Nat)
      (commonTemplateAttribute privateKeyTemplateAttribute
        publicKeyTemplateAttribute : Option TemplateAttribute)
  | locate (maximumItems offsetItems storageStatusMask : Option Int)
      (objectGroupMember : Option ObjectGroupMember)
      (attributes : List Attribute)
  | check (uniqueIdentifier : Option String) (usageLimitsCount : Option Int)
      (cryptographicUsageMask : Option Int) (leaseTime : Option Nat)
  | get (uniqueIdentifier : Option String) (keyFormatType : Option KeyFormatType)
      (keyCompressionType : Option KeyCompressionType)
      (keyWrappingSpecification : Option KeyWrappingSpecification)
  | getAttributes (uniqueIdentifier : Option String)
      (attributeNames : List String)
  | getAttributeList (uniqueIdentifier : Option String)
  | deleteAttribute (uniqueIdentifier attributeName : Option String)
      (attributeIndex : Option Int)
      (currentAttribute : Option (Tag × ValueObject))
      (attributeReference : Option AttributeReference)
  | setAttribute (uniqueIdentifier : Option String)
      (newAttribute : Tag × ValueObject)
  | modifyAttribute (uniqueIdentifier : Option String)
      (attribute_ : Option Attribute)
      (currentAttribute newAttribute : Option (Tag × ValueObject))
  | destroy (uniqueIdentifier : Option String)
  | query (queryFunctions : List QueryFunction)
  | discoverVersions (protocolVersions : List ProtocolVersion)
  | activate (uniqueIdentifier : Option String)
  | revoke (uniqueIdentifier : Option String)
      (revocationReason : RevocationReasonCode × Option String)
      (compromiseOccurrenceDate : Option Int)
  | mac (uniqueIdentifier : Option String)
      (cryptographicParameters : Option CryptographicParameters) (data : Bytes)
  | encrypt (uniqueIdentifier : Option String)
      (cryptographicParameters : Option CryptographicParameters) (data : Bytes)
      (ivCounterNonce authAdditionalData : Option Bytes)
  | decrypt (uniqueIdentifier : Option String)
      (cryptographicParameters : Option CryptographicParameters) (data : Bytes)
      (ivCounterNonce authAdditionalData authTag : Option Bytes)
  | sign (uniqueIdentifier : Option String)
      (cryptographicParameters : Option CryptographicParameters) (data : Bytes)
  | signatureVerify (uniqueIdentifier : Option String)
      (cryptographicParameters : Option CryptographicParameters)
      (data digestedData signatureData correlationValue : Option Bytes)
      (initIndicator finalIndicator : Option Bool)

/-- The reader of a payload. -/
abbrev PayloadReader := KmipVersion → RequestField RequestPayload

def payload (contents : RequestReading RequestPayload) :
    RequestField RequestPayload := struct .requestPayload contents

def missingField (operation field : String) : RequestError :=
  invalidEncoding
    ("The " ++ operation ++ " request payload encoding is missing the " ++
      field ++ ".")

/-- The template attribute, or the attributes structure in its place. -/
def demandedTemplate20 (operation : String) (version : KmipVersion) :
    RequestReading TemplateAttribute :=
  if .kmip20 ≤ version then
    demanded (missingField operation "attributes structure")
      (attributesStructure .attributes version)
  else
    demanded (missingField operation "template attribute")
      (templateAttribute .templateAttribute)

def CreateRequestPayload.read : PayloadReader := fun version => payload do
  let objectType ← demanded (missingField "Create" "object type")
    (enumeration ObjectType .objectType)
  let templateAttribute ← demandedTemplate20 "Create" version
  let masks ← recent version (storageMasks .protectionStorageMasks)
  notOversized
  return .create objectType templateAttribute masks

def optionalTemplate20 (tag recentTag : Tag) (version : KmipVersion) :
    RequestReading (Option TemplateAttribute) :=
  if .kmip20 ≤ version then optional (attributesStructure recentTag version)
  else optional (templateAttribute tag)

def CreateKeyPairRequestPayload.read : PayloadReader :=
  fun version => payload do
    let commonTemplateAttribute ← optionalTemplate20 .commonTemplateAttribute
      .commonAttributes version
    let privateKeyTemplateAttribute ← optionalTemplate20
      .privateKeyTemplateAttribute .privateKeyAttributes version
    let publicKeyTemplateAttribute ← optionalTemplate20
      .publicKeyTemplateAttribute .publicKeyAttributes version
    let commonMasks ← recent version
      (storageMasks .commonProtectionStorageMasks)
    let privateMasks ← recent version
      (storageMasks .privateProtectionStorageMasks)
    let publicMasks ← recent version
      (storageMasks .publicProtectionStorageMasks)
    notOversized
    return .createKeyPair commonTemplateAttribute privateKeyTemplateAttribute
      publicKeyTemplateAttribute commonMasks privateMasks publicMasks

def RegisterRequestPayload.read : PayloadReader := fun version => payload do
  let objectType ← demanded (missingField "Register" "object type")
    (enumeration ObjectType .objectType)
  let templateAttribute ← demandedTemplate20 "Register" version
  let managedObject ← .ofExcept (createSecret objectType)
  let managedObject ← demanded (missingField "Register" "managed object")
    managedObject
  let masks ← recent version (storageMasks .protectionStorageMasks)
  notOversized
  return .register objectType templateAttribute managedObject masks

def DeriveKeyRequestPayload.read : PayloadReader := fun version => payload do
  let objectType ← demanded (missingField "DeriveKey" "object type")
    (enumeration ObjectType .objectType)
  let uniqueIdentifiers ← many (text .uniqueIdentifier)
  if uniqueIdentifiers = [] then
    raise (missingField "DeriveKey" "unique identifiers")
  else do
    let derivationMethod ← demanded (missingField "DeriveKey" "derivation method")
      (enumeration DerivationMethod .derivationMethod)
    let derivationParameters ← demanded
      (missingField "DeriveKey" "derivation parameters")
      (fieldOf tracedDerivationParameters)
    let templateAttribute ← demandedTemplate20 "DeriveKey" version
    notOversized
    return .deriveKey objectType uniqueIdentifiers derivationMethod
      derivationParameters templateAttribute

def RekeyRequestPayload.read : PayloadReader := fun _ => payload do
  let uniqueIdentifier ← optional (text .uniqueIdentifier)
  let offset ← optional (interval .offset)
  let templateAttribute ← optional (templateAttribute .templateAttribute)
  notOversized
  return .rekey uniqueIdentifier offset templateAttribute

def RekeyKeyPairRequestPayload.read : PayloadReader := fun _ => payload do
  let privateKeyUuid ← optional (text .privateKeyUniqueIdentifier)
  let offset ← optional (interval .offset)
  let commonTemplateAttribute ← optional
    (templateAttribute .commonTemplateAttribute)
  let privateKeyTemplateAttribute ← optional
    (templateAttribute .privateKeyTemplateAttribute)
  let publicKeyTemplateAttribute ← optional
    (templateAttribute .publicKeyTemplateAttribute)
  notOversized
  return .rekeyKeyPair privateKeyUuid offset commonTemplateAttribute
    privateKeyTemplateAttribute publicKeyTemplateAttribute

/-- What is left of the payload is not looked at. -/
def LocateRequestPayload.read : PayloadReader := fun version => payload do
  let maximumItems ← optional (integer .maximumItems)
  let offsetItems ← optional (integer .offsetItems)
  let storageStatusMask ← optional (integer .storageStatusMask)
  let objectGroupMember ← optional
    (enumeration ObjectGroupMember .objectGroupMember)
  let attributes ←
    if .kmip20 ≤ version then do
      let converted ← optional (attributesStructure .attributes version)
      pure (converted.elim [] TemplateAttribute.attributes)
    else many attributeField
  return .locate maximumItems offsetItems storageStatusMask objectGroupMember
    attributes

def CheckRequestPayload.read : PayloadReader := fun _ => payload do
  let uniqueIdentifier ← optional (text .uniqueIdentifier)
  let usageLimitsCount ← optional (longInteger .usageLimitsCount)
  let cryptographicUsageMask ← optional (integer .cryptographicUsageMask)
  let leaseTime ← optional (interval .leaseTime)
  notOversized
  return .check uniqueIdentifier usageLimitsCount cryptographicUsageMask leaseTime

def GetRequestPayload.read : PayloadReader := fun _ => payload do
  let uniqueIdentifier ← optional (text .uniqueIdentifier)
  let keyFormatType ← optional (enumeration KeyFormatType .keyFormatType)
  let keyCompressionType ← optional
    (enumeration KeyCompressionType .keyCompressionType)
  let keyWrappingSpecification ← optional keyWrappingSpecification
  notOversized
  return .get uniqueIdentifier keyFormatType keyCompressionType
    keyWrappingSpecification

def GetAttributesRequestPayload.read : PayloadReader :=
  fun version => payload do
    let uniqueIdentifier ← optional (text .uniqueIdentifier)
    let attributeNames ←
      if .kmip20 ≤ version then many (referencedName version)
      else many (text .attributeName)
    notOversized
    return .getAttributes uniqueIdentifier attributeNames

def GetAttributeListRequestPayload.read : PayloadReader := fun _ => payload do
  let uniqueIdentifier ← optional (text .uniqueIdentifier)
  notOversized
  return .getAttributeList uniqueIdentifier

def DeleteAttributeRequestPayload.read : PayloadReader :=
  fun version => payload do
    let uniqueIdentifier ← optional (text .uniqueIdentifier)
    if .kmip20 ≤ version then do
      let currentAttribute ← optional (currentAttribute version)
      let attributeReference ← optional (attributeReference version)
      if currentAttribute.isNone ∧ attributeReference.isNone then
        raise (invalidEncoding ("The DeleteAttribute encoding is missing " ++
          "either the current attribute or the attribute reference field."))
      else do
        notOversized
        return .deleteAttribute uniqueIdentifier none none currentAttribute
          attributeReference
    else do
      let attributeName ← demanded
        (missingField "DeleteAttribute" "attribute name field")
        (text .attributeName)
      let attributeIndex ← optional (integer .attributeIndex)
      notOversized
      return .deleteAttribute uniqueIdentifier (some attributeName)
        attributeIndex none none

/-- The version is looked at before the header. -/
def SetAttributeRequestPayload.read : PayloadReader := fun version =>
  { tag := .requestPayload
    reading :=
      if .kmip20 ≤ version then
        Field.reading <| payload do
          let uniqueIdentifier ← optional (text .uniqueIdentifier)
          let newAttribute ← demanded
            (missingField "SetAttribute" "new attribute field")
            (newAttribute version)
          notOversized
          return .setAttribute uniqueIdentifier newAttribute
      else .throw (.versionNotSupported "SetAttribute operation" version) }

def ModifyAttributeRequestPayload.read : PayloadReader :=
  fun version => payload do
    let uniqueIdentifier ← optional (text .uniqueIdentifier)
    if .kmip20 ≤ version then do
      let currentAttribute ← optional (currentAttribute version)
      let newAttribute ← demanded
        (missingField "ModifyAttribute" "new attribute field")
        (newAttribute version)
      notOversized
      return .modifyAttribute uniqueIdentifier none currentAttribute
        (some newAttribute)
    else do
      let entry ← demanded (missingField "ModifyAttribute" "attribute field")
        attributeField
      notOversized
      return .modifyAttribute uniqueIdentifier (some entry) none none

def DestroyRequestPayload.read : PayloadReader := fun _ => payload do
  let uniqueIdentifier ← optional (text .uniqueIdentifier)
  notOversized
  return .destroy uniqueIdentifier

def QueryRequestPayload.read : PayloadReader := fun _ => payload do
  let queryFunctions ← many (enumeration QueryFunction .queryFunction)
  if queryFunctions = [] then raise (missingField "Query" "query functions")
  else do
    notOversized
    return .query queryFunctions

def DiscoverVersionsRequestPayload.read : PayloadReader := fun _ => payload do
  let protocolVersions ← many protocolVersion
  notOversized
  return .discoverVersions protocolVersions

def ActivateRequestPayload.read : PayloadReader := fun _ => payload do
  let uniqueIdentifier ← (text .uniqueIdentifier).always
  notOversized
  return .activate (some uniqueIdentifier)

def RevokeRequestPayload.read : PayloadReader := fun _ => payload do
  let uniqueIdentifier ← (text .uniqueIdentifier).always
  let revocationReason ← revocationReason.always
  let compromiseOccurrenceDate ← optional (dateTime .compromiseOccurrenceDate)
  notOversized
  return .revoke (some uniqueIdentifier) revocationReason
    compromiseOccurrenceDate

def MACRequestPayload.read : PayloadReader := fun _ => payload do
  let uniqueIdentifier ← optional (text .uniqueIdentifier)
  let cryptographicParameters ← optional cryptographicParameters
  let data ← demanded (invalidEncoding "expected mac request data not found")
    (byteString .data)
  notOversized
  return .mac uniqueIdentifier cryptographicParameters data

/-- A field of the versions from 1.4 on. -/
def since14 (version : KmipVersion) (field : RequestField α) :
    RequestReading (Option α) :=
  if .kmip14 ≤ version then optional field else return none

def EncryptRequestPayload.read : PayloadReader := fun version => payload do
  let uniqueIdentifier ← optional (text .uniqueIdentifier)
  let cryptographicParameters ← optional cryptographicParameters
  let data ← demanded (.codec .valueError) (byteString .data)
  let ivCounterNonce ← optional (byteString .ivCounterNonce)
  let authAdditionalData ← since14 version
    (byteString .authenticatedEncryptionAdditionalData)
  notOversized
  return .encrypt uniqueIdentifier cryptographicParameters data ivCounterNonce
    authAdditionalData

def DecryptRequestPayload.read : PayloadReader := fun version => payload do
  let uniqueIdentifier ← optional (text .uniqueIdentifier)
  let cryptographicParameters ← optional cryptographicParameters
  let data ← demanded (.codec .valueError) (byteString .data)
  let ivCounterNonce ← optional (byteString .ivCounterNonce)
  let authAdditionalData ← since14 version
    (byteString .authenticatedEncryptionAdditionalData)
  let authTag ← since14 version (byteString .authenticatedEncryptionTag)
  notOversized
  return .decrypt uniqueIdentifier cryptographicParameters data ivCounterNonce
    authAdditionalData authTag

/-- What is left of the payload is not looked at. -/
def SignRequestPayload.read : PayloadReader := fun _ => payload do
  let uniqueIdentifier ← optional (text .uniqueIdentifier)
  let cryptographicParameters ← optional cryptographicParameters
  let data ← demanded (.codec .valueError) (byteString .data)
  return .sign uniqueIdentifier cryptographicParameters data

def SignatureVerifyRequestPayload.read : PayloadReader := fun _ => payload do
  let uniqueIdentifier ← optional (text .uniqueIdentifier)
  let cryptographicParameters ← optional cryptographicParameters
  let data ← optional (byteString .data)
  let digestedData ← optional (byteString .digestedData)
  let signatureData ← optional (byteString .signatureData)
  let correlationValue ← optional (byteString .correlationValue)
  let initIndicator ← optional (boolean .initIndicator)
  let finalIndicator ← optional (boolean .finalIndicator)
  notOversized
  return .signatureVerify uniqueIdentifier cryptographicParameters data
    digestedData signatureData correlationValue initIndicator finalIndicator

/-- `RequestPayloadFactory.create`. -/
def createPayload : Operation → Except RequestError PayloadReader
  | .create => .ok CreateRequestPayload.read
  | .createKeyPair => .ok CreateKeyPairRequestPayload.read
  | .register => .ok RegisterRequestPayload.read
  | .rekey => .ok RekeyRequestPayload.read
  | .deriveKey => .ok DeriveKeyRequestPayload.read
  | .locate => .ok LocateRequestPayload.read
  | .check => .ok CheckRequestPayload.read
  | .get => .ok GetRequestPayload.read
  | .getAttributes => .ok GetAttributesRequestPayload.read
  | .getAttributeList => .ok GetAttributeListRequestPayload.read
  | .setAttribute => .ok SetAttributeRequestPayload.read
  | .modifyAttribute => .ok ModifyAttributeRequestPayload.read
  | .deleteAttribute => .ok DeleteAttributeRequestPayload.read
  | .activate => .ok ActivateRequestPayload.read
  | .revoke => .ok RevokeRequestPayload.read
  | .destroy => .ok DestroyRequestPayload.read
  | .query => .ok QueryRequestPayload.read
  | .rekeyKeyPair => .ok RekeyKeyPairRequestPayload.read
  | .discoverVersions => .ok DiscoverVersionsRequestPayload.read
  | .encrypt => .ok EncryptRequestPayload.read
  | .decrypt => .ok DecryptRequestPayload.read
  | .sign => .ok SignRequestPayload.read
  | .signatureVerify => .ok SignatureVerifyRequestPayload.read
  | .mac => .ok MACRequestPayload.read
  | .certify | .recertify | .addAttribute | .obtainLease | .getUsageAllocation
  | .archive | .recover | .validate | .cancel | .poll | .notify | .put
  | .macVerify | .rngRetrieve | .rngSeed | .hash | .createSplitKey
  | .joinSplitKey => .error (.codec .notImplementedError)
  | _ => .error (.codec .valueError)

end Payloads

section Messages

structure RequestBatchItem where
  operation : Operation
  ephemeral : Option Bool
  uniqueBatchItemId : Option Bytes
  requestPayload : RequestPayload
  /-- The length that the extension declares. -/
  messageExtension : Option Nat

structure RequestMessage where
  requestHeader : RequestHeader
  batchItems : List RequestBatchItem

/-- A message extension has no reader of its own: the header is read. -/
def messageExtension : RequestField Nat where
  tag := .messageExtension
  reading := .ofDecoder (readHeader .messageExtension)
    (takes_readHeader .messageExtension)

/-- `None` cannot be compared with a version. -/
def comparable : Option KmipVersion → RequestReading KmipVersion
  | some version => return version
  | none => raise (.codec .typeError)

/-- `RequestBatchItem.read`. -/
def requestBatchItem (version : Option KmipVersion) :
    RequestField RequestBatchItem :=
  struct .batchItem do
    let operation ← (enumeration Operation .operation).always
    let version ← comparable version
    let ephemeral ← recent version (boolean .ephemeral)
    let uniqueBatchItemId ← optional (byteString .uniqueBatchItemId)
    let payload ← .ofExcept (createPayload operation)
    let requestPayload ← (payload version).always
    let messageExtension ← optional messageExtension
    notOversized
    return { operation, ephemeral, uniqueBatchItemId, requestPayload,
             messageExtension }

/-- The header and the batch items. -/
def requestMessage : RequestReading RequestMessage := do
  let requestHeader ← requestHeader.always
  let version := protocolVersionToKmipVersion requestHeader.protocolVersion
  let batchItems ← .times requestHeader.batchCount.toNat
    (requestBatchItem version).reading
  return { requestHeader, batchItems }

/-- `RequestMessage.read`: no local stream is made of the declared length, and
the version is that of the header. -/
def RequestMessage.read (_kmipVersion : KmipVersion) :
    Tracer Tag RequestError RequestMessage :=
  requestMessage.tracer.inPlace .requestMessage
    (readHeader .requestMessage)

end Messages

end PyKMIP.Wire
