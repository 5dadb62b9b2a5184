import PyKMIP.Engine.State

/-!
# Cryptographic operations

The handlers load the key under the GET permission, check its type, state and
usage mask, and pass its value to the cryptographic back end.
-/

namespace PyKMIP

open StatefulExcept

variable (world : World)

/-- The refusals of an operation that uses a key, in the order of its checks. -/
structure KeyUse where
  objectType : ObjectType
  mask : CryptographicUsageMask
  wrongType : String
  notActive : String
  maskMissing : String
deriving DecidableEq, Repr

/-- The checks that Encrypt, Decrypt, SignatureVerify and Sign make before they
use a key: parameters, type, state and mask. -/
def checkKeyUse (use : KeyUse)
    (cryptographicParameters : Option CryptographicParameters)
    (managedObject : ManagedObject) : Except PyError CryptographicParameters := do
  match cryptographicParameters with
  | none => throw (invalidField "The cryptographic parameters must be specified.")
  | some parameters =>
      if managedObject.objectType ≠ use.objectType then
        throw (permissionDenied use.wrongType)
      let state ← getattr managedObject.state?
      if state ≠ .active then throw (permissionDenied use.notActive)
      let masks ← getattr managedObject.cryptographicUsageMasks?
      if use.mask ∉ masks then throw (permissionDenied use.maskMissing)
      return parameters

def encryptUse : KeyUse where
  objectType := .symmetricKey
  mask := .encrypt
  wrongType := "The requested encryption key is not a symmetric key. Only " ++
    "symmetric encryption is currently supported."
  notActive := "The encryption key must be in the Active state to be used for " ++
    "encryption."
  maskMissing := "The Encrypt bit must be set in the encryption key's " ++
    "cryptographic usage mask."

def decryptUse : KeyUse where
  objectType := .symmetricKey
  mask := .decrypt
  wrongType := "The requested decryption key is not a symmetric key. Only " ++
    "symmetric decryption is currently supported."
  notActive := "The decryption key must be in the Active state to be used for " ++
    "decryption."
  maskMissing := "The Decrypt bit must be set in the decryption key's " ++
    "cryptographic usage mask."

def signatureVerifyUse : KeyUse where
  objectType := .publicKey
  mask := .verify
  wrongType := "The requested signing key is not a public key. A public key " ++
    "must be specified."
  notActive := "The signing key must be in the Active state to be used for " ++
    "signature verification."
  maskMissing := "The Verify bit must be set in the signing key's " ++
    "cryptographic usage mask."

def signUse : KeyUse where
  objectType := .privateKey
  mask := .sign
  wrongType := "The requested signing key is not a private key. A private key " ++
    "must be specified."
  notActive := "The signing key must be in the Active state to be used for " ++
    "signing."
  maskMissing := "The Sign bit must be set in the signing key's " ++
    "cryptographic usage mask."

def processEncrypt (payload : EncryptRequestPayload) :
    EngineM ResponsePayload := do
  kmipVersionSupported ⟨1, 2⟩ "Encrypt"
  let uniqueIdentifier ← payloadOrPlaceholder payload.uniqueIdentifier
  let storedObject ← getObjectWithAccessControls world uniqueIdentifier .get
  let managedObject := storedObject.managedObject
  let parameters ← fromExcept
    (checkKeyUse encryptUse payload.cryptographicParameters managedObject)
  let result ← fromExcept
    (world.cryptographyEngine.encrypt parameters.cryptographicAlgorithm
      managedObject.value payload.data parameters.blockCipherMode
      parameters.paddingMethod payload.ivCounterNonce
      payload.authAdditionalData parameters.tagLength)
  return .encrypt uniqueIdentifier result.cipherText result.ivNonce
    result.authTag

def processDecrypt (payload : DecryptRequestPayload) :
    EngineM ResponsePayload := do
  kmipVersionSupported ⟨1, 2⟩ "Decrypt"
  let uniqueIdentifier ← payloadOrPlaceholder payload.uniqueIdentifier
  let storedObject ← getObjectWithAccessControls world uniqueIdentifier .get
  let managedObject := storedObject.managedObject
  let parameters ← fromExcept
    (checkKeyUse decryptUse payload.cryptographicParameters managedObject)
  let result ← fromExcept
    (world.cryptographyEngine.decrypt parameters.cryptographicAlgorithm
      managedObject.value payload.data parameters.blockCipherMode
      parameters.paddingMethod payload.ivCounterNonce
      payload.authAdditionalData payload.authTag)
  return .decrypt uniqueIdentifier result

def processSignatureVerify (payload : SignatureVerifyRequestPayload) :
    EngineM ResponsePayload := do
  kmipVersionSupported ⟨1, 2⟩ "SignatureVerify"
  let uniqueIdentifier ← payloadOrPlaceholder payload.uniqueIdentifier
  let storedObject ← getObjectWithAccessControls world uniqueIdentifier .get
  let managedObject := storedObject.managedObject
  let parameters ← fromExcept
    (checkKeyUse signatureVerifyUse payload.cryptographicParameters
      managedObject)
  let result ← fromExcept
    (world.cryptographyEngine.verifySignature managedObject.value payload.data
      payload.signatureData parameters.paddingMethod
      parameters.cryptographicAlgorithm parameters.hashingAlgorithm
      parameters.digitalSignatureAlgorithm)
  return .signatureVerify uniqueIdentifier (if result then .valid else .invalid)

/-- The checks of MAC, which differ in order and in what they require: the
algorithm may come from the key, any type with a value serves as the key. -/
def checkMacUse (payload : MACRequestPayload) (managedObject : ManagedObject) :
    Except PyError (CryptographicAlgorithm × Bytes) := do
  let requested := payload.cryptographicParameters.bind
    CryptographicParameters.cryptographicAlgorithm
  let stored := managedObject.keyFields?.map KeyFields.cryptographicAlgorithm
  match requested <|> stored with
  | none => throw (permissionDenied
      "The cryptographic algorithm must be specified for the MAC operation")
  | some algorithm =>
      if managedObject.value = [] then
        throw (permissionDenied
          "A secret key value must be specified for the MAC operation")
      match payload.data with
      | none => throw (permissionDenied "No data to be MACed")
      | some data =>
          let state ← getattr managedObject.state?
          if state ≠ .active then
            throw (permissionDenied
              "Object is not in a state that can be used for MACing.")
          let masks ← getattr managedObject.cryptographicUsageMasks?
          if CryptographicUsageMask.macGenerate ∉ masks then
            throw (permissionDenied
              ("MAC Generate must be set in the object's cryptographic usage " ++
                "mask"))
          return (algorithm, data)

def processMac (payload : MACRequestPayload) : EngineM ResponsePayload := do
  kmipVersionSupported ⟨1, 2⟩ "Mac"
  let uniqueIdentifier ← valueOrPlaceholder payload.uniqueIdentifier
  let storedObject ← getObjectWithAccessControls world uniqueIdentifier .get
  let managedObject := storedObject.managedObject
  let (algorithm, data) ← fromExcept (checkMacUse payload managedObject)
  let result ← fromExcept
    (world.cryptographyEngine.mac algorithm managedObject.value data)
  return .mac uniqueIdentifier result

def processSign (payload : SignRequestPayload) : EngineM ResponsePayload := do
  kmipVersionSupported ⟨1, 2⟩ "Sign"
  let uniqueIdentifier ← payloadOrPlaceholder payload.uniqueIdentifier
  let storedObject ← getObjectWithAccessControls world uniqueIdentifier .get
  let managedObject := storedObject.managedObject
  let parameters ← fromExcept
    (checkKeyUse signUse payload.cryptographicParameters managedObject)
  let result ← fromExcept
    (world.cryptographyEngine.sign parameters.digitalSignatureAlgorithm
      parameters.cryptographicAlgorithm parameters.hashingAlgorithm
      parameters.paddingMethod managedObject.value payload.data)
  return .sign uniqueIdentifier result

end PyKMIP
