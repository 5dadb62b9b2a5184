import PyKMIP.Engine.ManagedAttributes

/-!
# Operations that create objects

Create, CreateKeyPair, Register and DeriveKey build an object, set the
attributes of the template on it while it is still outside the session, add it,
commit, and leave its identifier in the placeholder.
-/

namespace PyKMIP

open StatefulExcept

section Templates

/-- The attributes that a key must be created with. -/
structure KeyAttributes where
  algorithm : CryptographicAlgorithm
  length : Int
deriving DecidableEq, Repr

/-- The checks of required attributes; `whose` tells the keys of a pair apart
in the messages. -/
def requiredKeyAttributes (attributes : ObjectAttributes) (whose : String) :
    Except PyError KeyAttributes := do
  let algorithm ← match attributes.get? .cryptographicAlgorithm with
    | some value => value.asSingle >>= AttributeValue.asAlgorithm
    | none => throw (invalidField
        ("The cryptographic algorithm must be specified as an attribute" ++
          whose ++ "."))
  let length ← match attributes.get? .cryptographicLength with
    | some value => value.asSingle >>= AttributeValue.asInteger
    | none => throw (invalidField
        ("The cryptographic length must be specified as an attribute" ++
          whose ++ "."))
  if (attributes.get? .cryptographicUsageMask).isNone then
    throw (invalidField
      ("The cryptographic usage mask must be specified as an attribute" ++
        whose ++ "."))
  else return { algorithm := algorithm, length := length }

/-- Common attributes are added to those of one key unless it overrides them. -/
def propagateCommon (own common : ObjectAttributes) : ObjectAttributes :=
  common.foldl
    (fun attributes entry =>
      if (attributes.get? entry.1).isSome then attributes
      else attributes.update entry.1 entry.2)
    own

/-- Run a computation on an object that the session does not hold. -/
def onNewObject (managedObject : ManagedObject) (body : ObjectM Unit) :
    Except PyError ManagedObject :=
  match body.run managedObject with
  | .ok _ changed => .ok changed
  | .error exception _ => .error exception

/-- The fields that every new object receives after its construction. -/
def completeObject (world : World) (clientIdentity : ClientIdentity)
    (attributes : ObjectAttributes) (managedObject : ManagedObject) :
    Except PyError ManagedObject := do
  let changed ← onNewObject { managedObject with names := [] }
    (setAttributesOnManagedObject attributes)
  return { changed with
    owner := clientIdentity.user
    initialDate := world.now }

end Templates

variable (world : World)

/-- With the back end enabled the value of a new key is stored in Barbican, and
the object keeps the reference to the secret. -/
def storeInBarbican (managedObject : ManagedObject) : EngineM ManagedObject :=
  if world.osRegionName then do
    let url ← createSecret world managedObject.value
    return { managedObject with value := encodeUtf8 url }
  else return managedObject

def processCreate (payload : CreateRequestPayload) : EngineM ResponsePayload := do
  kmipVersionSupported ⟨1, 0⟩ "Create"
  raiseIf (payload.objectType ≠ .symmetricKey)
    (invalidField ("Cannot create a " ++ capitalizedName payload.objectType.name ++
      " object with the Create operation."))
  let state ← get
  let objectAttributes ← fromExcept
    (processOptionalTemplate state.protocolVersion payload.templateAttribute)
  let required ← fromExcept (requiredKeyAttributes objectAttributes "")
  let value ← fromExcept
    (world.cryptographyEngine.createSymmetricKey required.algorithm
      required.length)
  let symmetricKey ← fromExcept
    (newSymmetricKey required.algorithm required.length value)
  let storedKey ← storeInBarbican world symmetricKey
  let managedObject ← fromExcept
    (completeObject world state.clientIdentity objectAttributes storedKey)
  let key ← addObject managedObject
  commitSession
  setIdPlaceholder (some (toString key))
  return .create payload.objectType (toString key)

def processCreateKeyPair (payload : CreateKeyPairRequestPayload) :
    EngineM ResponsePayload := do
  kmipVersionSupported ⟨1, 0⟩ "CreateKeyPair"
  let state ← get
  let version := state.protocolVersion
  let publicOwn ← fromExcept
    (processOptionalTemplate version payload.publicKeyTemplateAttribute)
  let privateOwn ← fromExcept
    (processOptionalTemplate version payload.privateKeyTemplateAttribute)
  let common ← fromExcept
    (processOptionalTemplate version payload.commonTemplateAttribute)
  let publicKeyAttributes := propagateCommon publicOwn common
  let privateKeyAttributes := propagateCommon privateOwn common
  let publicRequired ← fromExcept
    (requiredKeyAttributes publicKeyAttributes " for the public key")
  let privateRequired ← fromExcept
    (requiredKeyAttributes privateKeyAttributes " for the private key")
  raiseIf (publicRequired.algorithm ≠ privateRequired.algorithm)
    (invalidField "The public and private key algorithms must be the same.")
  raiseIf (publicRequired.length ≠ privateRequired.length)
    (invalidField "The public and private key lengths must be the same.")
  let (publicPart, privatePart) ← fromExcept
    (world.cryptographyEngine.createAsymmetricKeyPair publicRequired.algorithm
      publicRequired.length)
  let publicKey ← fromExcept
    (newPublicKey publicRequired.algorithm publicRequired.length
      publicPart.value publicPart.format)
  let privateKey ← fromExcept
    (newPrivateKey publicRequired.algorithm publicRequired.length
      privatePart.value privatePart.format)
  let publicObject ← fromExcept
    (completeObject world state.clientIdentity publicKeyAttributes publicKey)
  let privateObject ← fromExcept
    (completeObject world state.clientIdentity privateKeyAttributes privateKey)
  let publicUid ← addObject publicObject
  let privateUid ← addObject privateObject
  commitSession
  setIdPlaceholder (some (toString privateUid))
  return .createKeyPair (toString privateUid) (toString publicUid)

/-- The object types that `_object_map` maps to a class. -/
def registrableTypes : List ObjectType :=
  [.certificate, .symmetricKey, .publicKey, .privateKey, .splitKey, .secretData,
    .opaqueData]

def processRegister (payload : RegisterRequestPayload) :
    EngineM ResponsePayload := do
  kmipVersionSupported ⟨1, 0⟩ "Register"
  raiseIf (payload.objectType ∉ registrableTypes)
    (invalidField ("The " ++ capitalizedName payload.objectType.name ++
      " object type is not supported."))
  let secret ← fromExcept
    (match payload.managedObject with
    | some secret => .ok secret
    | none => .error (invalidField "Cannot register a secret in absentia."))
  let state ← get
  let objectAttributes ← fromExcept
    (processOptionalTemplate state.protocolVersion payload.templateAttribute)
  let converted ← fromExcept (convert secret)
  let managedObject ← fromExcept
    (completeObject world state.clientIdentity objectAttributes converted)
  let key ← addObject managedObject
  commitSession
  setIdPlaceholder (some (toString key))
  return .register (toString key)

section Derivation

/-- The object types whose values may be keying material. -/
def derivableTypes : List ObjectType :=
  [.secretData, .symmetricKey, .publicKey, .privateKey]

/-- The loop of `_process_derive_key` over the identifiers of the payload. -/
def derivationObjects : List String → EngineM (List StoredObject)
  | [] => return []
  | uniqueIdentifier :: rest => do
      let storedObject ←
        getObjectWithAccessControls world (some uniqueIdentifier) .get
      raiseIf (storedObject.managedObject.objectType ∉ derivableTypes)
        (invalidField ("Object " ++ uniqueIdentifier ++
          " is not a suitable type for key derivation. Please specify a key " ++
          "or secret data."))
      let masks ← fromExcept
        (getattr storedObject.managedObject.cryptographicUsageMasks?)
      raiseIf (CryptographicUsageMask.deriveKey ∉ masks)
        (invalidField ("The DeriveKey bit must be set in the cryptographic " ++
          "usage mask for object " ++ uniqueIdentifier ++
          " for it to be used in key derivation."))
      let others ← derivationObjects rest
      return storedObject :: others

/-- `values[:stop]`. -/
def takeTo (stop : Int) (values : List α) : List α :=
  if 0 ≤ stop then values.take stop.toNat
  else values.take (values.length + stop).toNat

/-- The length in bytes that the template asks for. -/
def derivationLength (attributes : ObjectAttributes) : Except PyError Int := do
  match attributes.get? .cryptographicLength with
  | none => throw (invalidField
      "The cryptographic length must be provided in the template attribute.")
  | some value =>
      let length ← value.asSingle >>= AttributeValue.asInteger
      if length % 8 = 0 then return length / 8
      else throw (invalidField
        ("The cryptographic length must correspond to a valid number of " ++
          "bytes; it must be a multiple of 8."))

/-- A symmetric key needs an algorithm; other results do not. -/
def derivationAlgorithm (objectType : ObjectType) (attributes : ObjectAttributes) :
    Except PyError (Option CryptographicAlgorithm) :=
  if objectType = .symmetricKey then
    match attributes.get? .cryptographicAlgorithm with
    | some value => some <$> (value.asSingle >>= AttributeValue.asAlgorithm)
    | none => .error (invalidField
        ("The cryptographic algorithm must be provided in the template " ++
          "attribute when deriving a symmetric key."))
  else .ok none

/-- The value of the first further object that is secret data. -/
def alternateData (others : List StoredObject) : Option Bytes :=
  (others.find? fun storedObject =>
    storedObject.managedObject.objectType = .secretData).map
      fun storedObject => storedObject.managedObject.value

/-- The derived bytes, cut to the requested length. -/
def derivedData (payload : DeriveKeyRequestPayload) (length : Int)
    (keyingObject : StoredObject) (others : List StoredObject) :
    Except PyError Bytes := do
  let parameters := payload.derivationParameters
  let data := parameters.derivationData <|> alternateData others
  let cryptographicParameters ← getattr parameters.cryptographicParameters
  let derived ← world.cryptographyEngine.deriveKey payload.derivationMethod
    length data keyingObject.managedObject.value cryptographicParameters
    parameters.salt parameters.iterationCount
    (parameters.initializationVector.getD [])
  if length > derived.length then
    throw (cryptographicFailure
      "The specified length exceeds the output of the derivation method.")
  else if derived.length > length then return takeTo length derived
  else return derived

/-- The derived object, and the attributes that remain to be set on it. -/
def derivedObject (objectType : ObjectType)
    (algorithm : Option CryptographicAlgorithm) (length : Int) (value : Bytes)
    (attributes : ObjectAttributes) :
    Except PyError (ManagedObject × ObjectAttributes) := do
  if objectType = .symmetricKey then
    let algorithm ← getattr algorithm
    let symmetricKey ← newSymmetricKey algorithm (length * 8) value
    return (symmetricKey, attributes)
  else
    return (newSecretData value .seed,
      attributes.filter fun entry => entry.1 ≠ .cryptographicLength)

def processDeriveKey (payload : DeriveKeyRequestPayload) :
    EngineM ResponsePayload := do
  kmipVersionSupported ⟨1, 0⟩ "DeriveKey"
  let state ← get
  let objectAttributes ← fromExcept
    (processOptionalTemplate state.protocolVersion payload.templateAttribute)
  raiseIf (payload.objectType ∉ [ObjectType.symmetricKey, .secretData])
    (invalidField
      "Key derivation can only generate a SymmetricKey or SecretData object.")
  -- the property of an empty list is None, which the loop cannot iterate over
  raiseIf (payload.uniqueIdentifiers = []) (.python .typeError)
  let existingObjects ← derivationObjects world payload.uniqueIdentifiers
  let keyingObject ← fromExcept
    (match existingObjects.head? with
    | some keyingObject => .ok keyingObject
    | none => .error (.python .indexError))
  let length ← fromExcept (derivationLength objectAttributes)
  let algorithm ← fromExcept
    (derivationAlgorithm payload.objectType objectAttributes)
  let value ← fromExcept
    (derivedData world payload length keyingObject existingObjects.tail)
  let (derived, attributes) ← fromExcept
    (derivedObject payload.objectType algorithm length value objectAttributes)
  let managedObject ← fromExcept
    (completeObject world state.clientIdentity attributes derived)
  let key ← addObject managedObject
  commitSession
  setIdPlaceholder (some (toString key))
  return .deriveKey (toString key)

end Derivation

end PyKMIP
