import PyKMIP.Attributes

/-!
# Managed objects and secrets

`ManagedObject` is a row of the object store together with the rows of its
class tables; `CoreSecret` is the form in which a secret travels in a message.
`convert` and `buildCoreObject` translate between the two.
-/

namespace PyKMIP

section WrappingData

/-- Encryption key information, or MAC/signature key information. -/
structure KeyInformation where
  uniqueIdentifier : Option String
  cryptographicParameters : Option CryptographicParameters
deriving DecidableEq, Repr

structure KeyWrappingData where
  wrappingMethod : Option WrappingMethod := none
  encryptionKeyInformation : Option KeyInformation := none
  macSignatureKeyInformation : Option KeyInformation := none
  macSignature : Option Bytes := none
  ivCounterNonce : Option Bytes := none
  encodingOption : Option EncodingOption := none
deriving DecidableEq, Repr

structure KeyInformationColumns where
  uniqueIdentifier : Option String := none
  cryptographicParameters : CryptographicParameters := {}
deriving DecidableEq, Repr

/-- The columns in which a key keeps its wrapping data. -/
structure KeyWrappingColumns where
  wrappingMethod : Option WrappingMethod := none
  encryptionKeyInformation : KeyInformationColumns := {}
  macSignatureKeyInformation : KeyInformationColumns := {}
  macSignature : Option Bytes := none
  ivCounterNonce : Option Bytes := none
  encodingOption : Option EncodingOption := none
deriving DecidableEq, Repr

/-- `any(cryptographic_parameters.values())`. -/
def CryptographicParameters.anyValue
    (parameters : CryptographicParameters) : Bool :=
  parameters.blockCipherMode.isSome || parameters.paddingMethod.isSome ||
    parameters.hashingAlgorithm.isSome || parameters.keyRoleType.isSome ||
    parameters.digitalSignatureAlgorithm.isSome ||
    parameters.cryptographicAlgorithm.isSome ||
    parameters.randomIv = some true || truthyInt parameters.ivLength ||
    truthyInt parameters.tagLength || truthyInt parameters.fixedFieldLength ||
    truthyInt parameters.invocationFieldLength ||
    truthyInt parameters.counterLength ||
    truthyInt parameters.initialCounterValue

/-- The dictionary that the property builds for one key information, turned
into the message structure; an empty dictionary becomes no structure. -/
def KeyInformationColumns.keyInformation
    (columns : KeyInformationColumns) : Option KeyInformation :=
  let parameters :=
    if columns.cryptographicParameters.anyValue
    then some columns.cryptographicParameters else none
  if truthyText columns.uniqueIdentifier || parameters.isSome then
    some {
      uniqueIdentifier := columns.uniqueIdentifier
      cryptographicParameters := parameters }
  else none

/-- The `key_wrapping_data` property of a key. -/
def KeyWrappingColumns.keyWrappingData
    (columns : KeyWrappingColumns) : Option KeyWrappingData :=
  let encryption := columns.encryptionKeyInformation.keyInformation
  let macSignature := columns.macSignatureKeyInformation.keyInformation
  if columns.wrappingMethod.isSome || encryption.isSome ||
      macSignature.isSome || truthyBytes columns.macSignature ||
      truthyBytes columns.ivCounterNonce || columns.encodingOption.isSome then
    some {
      wrappingMethod := columns.wrappingMethod
      encryptionKeyInformation := encryption
      macSignatureKeyInformation := macSignature
      macSignature := columns.macSignature
      ivCounterNonce := columns.ivCounterNonce
      encodingOption := columns.encodingOption }
  else none

/-- Key information without cryptographic parameters reads a field of `None`. -/
def buildKeyInformation :
    Option KeyInformation → Except PyError KeyInformationColumns
  | none => .ok {}
  | some information =>
      match information.cryptographicParameters with
      | none => .error (.python .attributeError)
      | some parameters =>
          .ok {
            uniqueIdentifier := information.uniqueIdentifier
            cryptographicParameters := parameters }

def buildKeyWrappingData :
    Option KeyWrappingData → Except PyError KeyWrappingColumns
  | none => .ok {}
  | some data => do
      let encryption ← buildKeyInformation data.encryptionKeyInformation
      let macSignature ← buildKeyInformation data.macSignatureKeyInformation
      return {
        wrappingMethod := data.wrappingMethod
        encryptionKeyInformation := encryption
        macSignatureKeyInformation := macSignature
        macSignature := data.macSignature
        ivCounterNonce := data.ivCounterNonce
        encodingOption := data.encodingOption }

end WrappingData

section ManagedObjects

structure CryptographicFields where
  cryptographicUsageMasks : List CryptographicUsageMask := []
  state : State := .preActive
deriving DecidableEq, Repr

structure KeyFields where
  cryptographicAlgorithm : CryptographicAlgorithm
  cryptographicLength : Int
  keyFormatType : KeyFormatType
  wrapping : KeyWrappingColumns := {}
deriving DecidableEq, Repr

structure SplitKeyFields where
  splitKeyParts : Option Int
  keyPartIdentifier : Option Int
  splitKeyThreshold : Option Int
  splitKeyMethod : Option SplitKeyMethod
  primeFieldSize : Option Int
deriving DecidableEq, Repr

inductive KeyKind where
  | symmetricKey
  | publicKey
  | privateKey
  | splitKey (fields : SplitKeyFields)
deriving DecidableEq, Repr

/-- What the class of an object adds to the fields of every managed object. -/
inductive ObjectClass where
  | key (kind : KeyKind) (cryptographic : CryptographicFields)
      (fields : KeyFields)
  | certificate (cryptographic : CryptographicFields)
      (certificateType : CertificateType)
  | secretData (cryptographic : CryptographicFields)
      (dataType : SecretDataType)
  | opaqueObject (opaqueType : OpaqueDataType)
deriving DecidableEq, Repr

structure ManagedObject where
  value : Bytes
  names : List String
  operationPolicyName : Option String := none
  sensitive : Bool := false
  initialDate : Int := 0
  owner : Option String := none
  appSpecificInfo : List ApplicationSpecificInformation := []
  objectGroups : List String := []
  objectClass : ObjectClass
deriving DecidableEq, Repr

namespace ManagedObject

variable (managedObject : ManagedObject)

def objectType : ObjectType :=
  match managedObject.objectClass with
  | .key .symmetricKey _ _ => .symmetricKey
  | .key .publicKey _ _ => .publicKey
  | .key .privateKey _ _ => .privateKey
  | .key (.splitKey _) _ _ => .splitKey
  | .certificate _ _ => .certificate
  | .secretData _ _ => .secretData
  | .opaqueObject _ => .opaqueData

/-- The fields of a cryptographic object; an opaque object has none of them. -/
def cryptographic? : Option CryptographicFields :=
  match managedObject.objectClass with
  | .key _ cryptographic _ => some cryptographic
  | .certificate cryptographic _ => some cryptographic
  | .secretData cryptographic _ => some cryptographic
  | .opaqueObject _ => none

def keyFields? : Option KeyFields :=
  match managedObject.objectClass with
  | .key _ _ fields => some fields
  | _ => none

def certificateType? : Option CertificateType :=
  match managedObject.objectClass with
  | .certificate _ certificateType => some certificateType
  | _ => none

def state? : Option State := CryptographicFields.state <$> cryptographic? managedObject

def cryptographicUsageMasks? : Option (List CryptographicUsageMask) :=
  CryptographicFields.cryptographicUsageMasks <$> cryptographic? managedObject

def mapCryptographic (change : CryptographicFields → CryptographicFields) :
    ManagedObject :=
  { managedObject with
    objectClass :=
      match managedObject.objectClass with
      | .key kind cryptographic fields => .key kind (change cryptographic) fields
      | .certificate cryptographic certificateType =>
          .certificate (change cryptographic) certificateType
      | .secretData cryptographic dataType =>
          .secretData (change cryptographic) dataType
      | .opaqueObject opaqueType => .opaqueObject opaqueType }

def mapKeyFields (change : KeyFields → KeyFields) : ManagedObject :=
  { managedObject with
    objectClass :=
      match managedObject.objectClass with
      | .key kind cryptographic fields => .key kind cryptographic (change fields)
      | other => other }

def withState (state : State) : ManagedObject :=
  managedObject.mapCryptographic fun fields => { fields with state := state }

/-- SQLite keeps an integer column in 64 bits; only the size of a prime field
can be larger when it is flushed. -/
def storable : Bool :=
  match managedObject.objectClass with
  | .key (.splitKey fields) _ _ =>
      fields.primeFieldSize.all fun size => -2 ^ 63 ≤ size && size < 2 ^ 63
  | _ => true

end ManagedObject

/-- Reading an attribute that the class of an object may lack. -/
def getattr (field : Option α) : Except PyError α :=
  match field with
  | some value => .ok value
  | none => .error (.python .attributeError)

end ManagedObjects

section Construction

variable (algorithm : CryptographicAlgorithm) (length : Int) (value : Bytes)

/-- `SymmetricKey(...)`: without wrapping data the length must fit the value. -/
def newSymmetricKey (wrapping : KeyWrappingColumns := {}) :
    Except PyError ManagedObject :=
  if wrapping.keyWrappingData.isNone && (value.length : Int) * 8 ≠ length then
    .error (.python .valueError)
  else
    .ok {
      value := value
      names := ["Symmetric Key"]
      objectClass := .key .symmetricKey {} {
        cryptographicAlgorithm := algorithm
        cryptographicLength := length
        keyFormatType := .raw
        wrapping := wrapping } }

def newPublicKey (formatType : KeyFormatType)
    (wrapping : KeyWrappingColumns := {}) : Except PyError ManagedObject :=
  if formatType ∈ [.raw, .x509, .pkcs1] then
    .ok {
      value := value
      names := ["Public Key"]
      objectClass := .key .publicKey {} {
        cryptographicAlgorithm := algorithm
        cryptographicLength := length
        keyFormatType := formatType
        wrapping := wrapping } }
  else .error (.python .valueError)

def newPrivateKey (formatType : KeyFormatType)
    (wrapping : KeyWrappingColumns := {}) : Except PyError ManagedObject :=
  if formatType ∈ [.raw, .pkcs1, .pkcs8] then
    .ok {
      value := value
      names := ["Private Key"]
      objectClass := .key .privateKey {} {
        cryptographicAlgorithm := algorithm
        cryptographicLength := length
        keyFormatType := formatType
        wrapping := wrapping } }
  else .error (.python .valueError)

def newSplitKey (formatType : KeyFormatType) (wrapping : KeyWrappingColumns)
    (fields : SplitKeyFields) : ManagedObject where
  value := value
  names := ["Split Key"]
  objectClass := .key (.splitKey fields) {} {
    cryptographicAlgorithm := algorithm
    cryptographicLength := length
    keyFormatType := formatType
    wrapping := wrapping }

def newX509Certificate : ManagedObject where
  value := value
  names := ["X.509 Certificate"]
  objectClass := .certificate {} .x509

def newSecretData (dataType : SecretDataType) : ManagedObject where
  value := value
  names := ["Secret Data"]
  objectClass := .secretData {} dataType

def newOpaqueObject (opaqueType : OpaqueDataType) : ManagedObject where
  value := value
  names := ["Opaque Object"]
  objectClass := .opaqueObject opaqueType

end Construction

section Secrets

structure KeyValue where
  keyMaterial : Bytes
  attributes : List Attribute := []
deriving DecidableEq

structure KeyBlock where
  keyFormatType : KeyFormatType
  keyCompressionType : Option KeyCompressionType := none
  keyValue : KeyValue
  cryptographicAlgorithm : Option CryptographicAlgorithm
  cryptographicLength : Option Int
  keyWrappingData : Option KeyWrappingData
deriving DecidableEq

inductive CoreSecret where
  | certificate (certificateType : CertificateType) (certificateValue : Bytes)
  | symmetricKey (keyBlock : KeyBlock)
  | publicKey (keyBlock : KeyBlock)
  | privateKey (keyBlock : KeyBlock)
  | splitKey (fields : SplitKeyFields) (keyBlock : KeyBlock)
  | template
  | secretData (secretDataType : SecretDataType) (keyBlock : KeyBlock)
  | opaqueObject (opaqueDataType : OpaqueDataType) (opaqueDataValue : Bytes)
deriving DecidableEq

/-- The fields of a key block that every key conversion reads first. -/
def keyBlockFields (keyBlock : KeyBlock) :
    Except PyError (CryptographicAlgorithm × Int × KeyWrappingColumns) := do
  let algorithm ← getattr keyBlock.cryptographicAlgorithm
  let length ← getattr keyBlock.cryptographicLength
  let wrapping ← buildKeyWrappingData keyBlock.keyWrappingData
  return (algorithm, length, wrapping)

/-- `ObjectFactory.convert` of a core secret. -/
def convert : CoreSecret → Except PyError ManagedObject
  | .symmetricKey keyBlock => do
      let (algorithm, length, wrapping) ← keyBlockFields keyBlock
      let key ← newSymmetricKey algorithm length keyBlock.keyValue.keyMaterial
        wrapping
      if keyBlock.keyFormatType = .raw then return key
      else throw (.python .typeError)
  | .publicKey keyBlock => do
      let (algorithm, length, wrapping) ← keyBlockFields keyBlock
      newPublicKey algorithm length keyBlock.keyValue.keyMaterial
        keyBlock.keyFormatType wrapping
  | .privateKey keyBlock => do
      let (algorithm, length, wrapping) ← keyBlockFields keyBlock
      newPrivateKey algorithm length keyBlock.keyValue.keyMaterial
        keyBlock.keyFormatType wrapping
  | .certificate certificateType certificateValue =>
      if certificateType = .x509 then .ok (newX509Certificate certificateValue)
      else .error (.python .typeError)
  | .secretData secretDataType keyBlock =>
      .ok (newSecretData keyBlock.keyValue.keyMaterial secretDataType)
  | .opaqueObject opaqueDataType opaqueDataValue =>
      .ok (newOpaqueObject opaqueDataValue opaqueDataType)
  | .splitKey fields keyBlock => do
      let (algorithm, length, wrapping) ← keyBlockFields keyBlock
      return newSplitKey algorithm length keyBlock.keyValue.keyMaterial
        keyBlock.keyFormatType wrapping fields
  | .template => .error (.python .typeError)

def KeyFields.keyBlock (fields : KeyFields) (value : Bytes) : KeyBlock where
  keyFormatType := fields.keyFormatType
  keyValue := { keyMaterial := value }
  cryptographicAlgorithm := some fields.cryptographicAlgorithm
  cryptographicLength := some fields.cryptographicLength
  keyWrappingData := fields.wrapping.keyWrappingData

/-- `KmipEngine._build_core_object`. -/
def buildCoreObject (managedObject : ManagedObject) : CoreSecret :=
  match managedObject.objectClass with
  | .certificate _ certificateType =>
      .certificate certificateType managedObject.value
  | .key .symmetricKey _ fields =>
      .symmetricKey (fields.keyBlock managedObject.value)
  | .key .publicKey _ fields => .publicKey (fields.keyBlock managedObject.value)
  | .key .privateKey _ fields =>
      .privateKey (fields.keyBlock managedObject.value)
  | .secretData _ dataType =>
      .secretData dataType {
        keyFormatType := .opaqueBytes
        keyValue := { keyMaterial := managedObject.value }
        cryptographicAlgorithm := none
        cryptographicLength := none
        keyWrappingData := none }
  | .opaqueObject opaqueType => .opaqueObject opaqueType managedObject.value
  | .key (.splitKey split) _ fields =>
      .splitKey split (fields.keyBlock managedObject.value)

/-- Replace the wrapping data in the key block of a secret that has one. -/
def CoreSecret.withKeyWrappingData (keyWrappingData : KeyWrappingData) :
    CoreSecret → Except PyError CoreSecret
  | .symmetricKey keyBlock => .ok (.symmetricKey (replace keyBlock))
  | .publicKey keyBlock => .ok (.publicKey (replace keyBlock))
  | .privateKey keyBlock => .ok (.privateKey (replace keyBlock))
  | .splitKey fields keyBlock => .ok (.splitKey fields (replace keyBlock))
  | .secretData dataType keyBlock => .ok (.secretData dataType (replace keyBlock))
  | .certificate _ _ => .error (.python .attributeError)
  | .template => .error (.python .attributeError)
  | .opaqueObject _ _ => .error (.python .attributeError)
where
  replace (keyBlock : KeyBlock) : KeyBlock :=
    { keyBlock with keyWrappingData := some keyWrappingData }

end Secrets

end PyKMIP
