import PyKMIP.Engine.CryptographicOperations
import PyKMIP.Engine.Discovery
import PyKMIP.Engine.Retrieval
import PyKMIP.Transactions.Following

/-!
# Plans of the operations that only read the store
-/

namespace PyKMIP

open StatefulExcept

variable (world : World) (context : ItemContext) {state : EngineState}

section Cryptography

def planEncrypt (payload : EncryptRequestPayload) : Plan context (.encrypt payload) :=
  let uniqueIdentifier := context.payloadOrPlaceholder payload.uniqueIdentifier
  .supportedSince ⟨1, 2⟩ "Encrypt" <|
  .lookup uniqueIdentifier none fun storedObject =>
  .ofExcept (checkKeyUse encryptUse payload.cryptographicParameters
    storedObject.managedObject) fun parameters =>
  .ofExcept (world.cryptographyEngine.encrypt parameters.cryptographicAlgorithm
    storedObject.managedObject.value payload.data parameters.blockCipherMode
    parameters.paddingMethod payload.ivCounterNonce payload.authAdditionalData
    parameters.tagLength) fun result =>
  .reply rfl (.encrypt uniqueIdentifier result.cipherText result.ivNonce
    result.authTag)

theorem processEncrypt_follows (payload : EncryptRequestPayload) :
    Follows world state (processEncrypt world payload)
      (planEncrypt world state.context payload) :=
  .kmipVersionSupported fun _ => .payloadOrPlaceholder <|
    .lookup fun _ => .fromExcept fun _ => .fromExcept fun _ => .reply _

def planDecrypt (payload : DecryptRequestPayload) : Plan context (.decrypt payload) :=
  let uniqueIdentifier := context.payloadOrPlaceholder payload.uniqueIdentifier
  .supportedSince ⟨1, 2⟩ "Decrypt" <|
  .lookup uniqueIdentifier none fun storedObject =>
  .ofExcept (checkKeyUse decryptUse payload.cryptographicParameters
    storedObject.managedObject) fun parameters =>
  .ofExcept (world.cryptographyEngine.decrypt parameters.cryptographicAlgorithm
    storedObject.managedObject.value payload.data parameters.blockCipherMode
    parameters.paddingMethod payload.ivCounterNonce payload.authAdditionalData
    payload.authTag) fun result =>
  .reply rfl (.decrypt uniqueIdentifier result)

theorem processDecrypt_follows (payload : DecryptRequestPayload) :
    Follows world state (processDecrypt world payload)
      (planDecrypt world state.context payload) :=
  .kmipVersionSupported fun _ => .payloadOrPlaceholder <|
    .lookup fun _ => .fromExcept fun _ => .fromExcept fun _ => .reply _

def planSignatureVerify (payload : SignatureVerifyRequestPayload) :
    Plan context (.signatureVerify payload) :=
  let uniqueIdentifier := context.payloadOrPlaceholder payload.uniqueIdentifier
  .supportedSince ⟨1, 2⟩ "SignatureVerify" <|
  .lookup uniqueIdentifier none fun storedObject =>
  .ofExcept (checkKeyUse signatureVerifyUse payload.cryptographicParameters
    storedObject.managedObject) fun parameters =>
  .ofExcept (world.cryptographyEngine.verifySignature
    storedObject.managedObject.value payload.data payload.signatureData
    parameters.paddingMethod parameters.cryptographicAlgorithm
    parameters.hashingAlgorithm parameters.digitalSignatureAlgorithm)
    fun result =>
  .reply rfl (.signatureVerify uniqueIdentifier
    (if result then .valid else .invalid))

theorem processSignatureVerify_follows
    (payload : SignatureVerifyRequestPayload) :
    Follows world state (processSignatureVerify world payload)
      (planSignatureVerify world state.context payload) :=
  .kmipVersionSupported fun _ => .payloadOrPlaceholder <|
    .lookup fun _ => .fromExcept fun _ => .fromExcept fun _ => .reply _

def planMac (payload : MACRequestPayload) : Plan context (.mac payload) :=
  let uniqueIdentifier := context.valueOrPlaceholder payload.uniqueIdentifier
  .supportedSince ⟨1, 2⟩ "Mac" <|
  .lookup uniqueIdentifier none fun storedObject =>
  .ofExcept (checkMacUse payload storedObject.managedObject) fun use =>
  .ofExcept (world.cryptographyEngine.mac use.1 storedObject.managedObject.value
    use.2) fun result =>
  .reply rfl (.mac uniqueIdentifier result)

theorem processMac_follows (payload : MACRequestPayload) :
    Follows world state (processMac world payload)
      (planMac world state.context payload) :=
  .kmipVersionSupported fun _ => .valueOrPlaceholder <|
    .lookup fun _ => .fromExcept fun _ => .fromExcept fun _ => .reply _

def planSign (payload : SignRequestPayload) : Plan context (.sign payload) :=
  let uniqueIdentifier := context.payloadOrPlaceholder payload.uniqueIdentifier
  .supportedSince ⟨1, 2⟩ "Sign" <|
  .lookup uniqueIdentifier none fun storedObject =>
  .ofExcept (checkKeyUse signUse payload.cryptographicParameters
    storedObject.managedObject) fun parameters =>
  .ofExcept (world.cryptographyEngine.sign parameters.digitalSignatureAlgorithm
    parameters.cryptographicAlgorithm parameters.hashingAlgorithm
    parameters.paddingMethod storedObject.managedObject.value payload.data)
    fun result =>
  .reply rfl (.sign uniqueIdentifier result)

theorem processSign_follows (payload : SignRequestPayload) :
    Follows world state (processSign world payload)
      (planSign world state.context payload) :=
  .kmipVersionSupported fun _ => .payloadOrPlaceholder <|
    .lookup fun _ => .fromExcept fun _ => .fromExcept fun _ => .reply _

end Cryptography

section Get

/-- The plan of a wrapped Get from the lookup of the wrapping key on. -/
def planWrapping {context : ItemContext} {payload : GetRequestPayload}
    (specification : KeyWrappingSpecification) (managedObject : ManagedObject)
    (reply : CoreSecret → ResponsePayload) : Plan context (.get payload) :=
  .refuseIf (specification.wrappingMethod ≠ some .encrypt)
    (operationNotSupported ("Wrapping method '" ++
      formatMember "WrappingMethod"
        (specification.wrappingMethod.map WrappingMethod.name) ++
      "' is not supported.")) <|
  match specification.encryptionKeyInformation with
  | some information =>
      .lookup information.uniqueIdentifier
        (some (itemNotFound "Wrapping key does not exist.")) fun key =>
      .ofExcept (checkWrappingKey specification information.uniqueIdentifier
        key.managedObject) fun _ =>
      .ofExcept (wrappedSecret world specification information managedObject
        key.managedObject) fun coreSecret =>
      .reply rfl (reply coreSecret)
  | none =>
      .refuse
        (if specification.macSignatureKeyInformation.isSome then
          permissionDenied
            "Key wrapping with MAC/signing key information is not supported."
        else
          permissionDenied
            ("Either the encryption key information or the MAC/signature key " ++
              "information must be specified for key wrapping to be " ++
              "performed."))

def planGet (payload : GetRequestPayload) : Plan context (.get payload) :=
  let uniqueIdentifier := context.payloadOrPlaceholder payload.uniqueIdentifier
  .supportedSince ⟨1, 0⟩ "Get" <|
  .refuseIf payload.keyCompressionType.isSome
    (keyCompressionTypeNotSupported "Key compression is not supported.") <|
  .lookup uniqueIdentifier none fun storedObject =>
  let managedObject := storedObject.managedObject
  .ofExcept (checkKeyFormat managedObject payload.keyFormatType) fun _ =>
  match payload.keyWrappingSpecification with
  | some specification =>
      planWrapping world specification managedObject fun coreSecret =>
        .get managedObject.objectType uniqueIdentifier coreSecret
  | none =>
      .reply rfl (.get managedObject.objectType uniqueIdentifier
        (buildCoreObject managedObject))

theorem wrapObject_follows
    {context : ItemContext} {payload : GetRequestPayload}
    (specification : KeyWrappingSpecification) (managedObject : ManagedObject)
    (reply : CoreSecret → ResponsePayload) :
    Follows world state
      (wrapObject world specification managedObject >>= fun coreSecret =>
        pure (reply coreSecret))
      (planWrapping world specification managedObject reply :
        Plan context (.get payload)) := by
  refine .assoc (.raiseIf fun _ => ?_)
  cases specification.encryptionKeyInformation with
  | some information =>
      exact .assoc (.disguisedLookup fun _ => .assoc (.fromExcept fun _ =>
        .fromExcept fun _ => .reply _))
  | none =>
      cases specification.macSignatureKeyInformation with
      | some information => exact .raise _
      | none => exact .raise _

theorem processGet_follows (payload : GetRequestPayload) :
    Follows world state (processGet world payload)
      (planGet world state.context payload) := by
  refine .kmipVersionSupported fun _ => .payloadOrPlaceholder <|
    .raiseIf fun _ => .lookup fun storedObject => .fromExcept fun _ => ?_
  cases payload.keyWrappingSpecification with
  | some specification => exact wrapObject_follows world specification _ _
  | none => exact .reply _

end Get

section Listings

def planLocate (payload : LocateRequestPayload) : Plan context (.locate payload) :=
  .supportedSince ⟨1, 0⟩ "Locate" <|
  .list fun managedObjects =>
  .ofExcept
    (if payload.attributes = [] then .ok managedObjects
      else filterObjects payload.attributes managedObjects) fun filtered =>
  .reply rfl (.locate
    ((pageOf payload (newestFirst filtered)).map fun storedObject =>
      toString storedObject.uniqueIdentifier))

theorem processLocate_follows (payload : LocateRequestPayload) :
    Follows world state (processLocate world payload)
      (planLocate state.context payload) :=
  .kmipVersionSupported fun _ => .list fun _ => .fromExcept fun _ => .reply _

def planGetAttributes (payload : GetAttributesRequestPayload) :
    Plan context (.getAttributes payload) :=
  let uniqueIdentifier := context.payloadOrPlaceholder payload.uniqueIdentifier
  .supportedSince ⟨1, 0⟩ "GetAttributes" <|
  .lookup uniqueIdentifier none fun storedObject =>
  .ofExcept (getAttributesFromManagedObject context.protocolVersion storedObject
    payload.attributeNames) fun attributes =>
  .reply rfl (.getAttributes uniqueIdentifier attributes)

theorem processGetAttributes_follows (payload : GetAttributesRequestPayload) :
    Follows world state (processGetAttributes world payload)
      (planGetAttributes state.context payload) :=
  .kmipVersionSupported fun _ => .payloadOrPlaceholder <|
    .lookup fun _ => .get <| .fromExcept fun _ => .reply _

def planGetAttributeList (payloadIdentifier : Option String) :
    Plan context (.getAttributeList payloadIdentifier) :=
  let uniqueIdentifier := context.payloadOrPlaceholder payloadIdentifier
  .supportedSince ⟨1, 0⟩ "GetAttributeList" <|
  .lookup uniqueIdentifier none fun storedObject =>
  .ofExcept (getAttributesFromManagedObject context.protocolVersion storedObject
    []) fun attributes =>
  .reply rfl (.getAttributeList uniqueIdentifier
    (attributes.map Attribute.attributeName).eraseDups)

theorem processGetAttributeList_follows (payloadIdentifier : Option String) :
    Follows world state (processGetAttributeList world payloadIdentifier)
      (planGetAttributeList state.context payloadIdentifier) :=
  .kmipVersionSupported fun _ => .payloadOrPlaceholder <|
    .lookup fun _ => .get <| .fromExcept fun _ => .reply _

end Listings

section Discovery

def planQuery (queryFunctions : List QueryFunction) :
    Plan context (.query queryFunctions) :=
  .supportedSince ⟨1, 0⟩ "Query" <|
  .refuseIf (queryFunctions = []) (.python .typeError) <|
  .reply rfl (.query
    (if QueryFunction.queryOperations ∈ queryFunctions then
      queriedOperations context.protocolVersion else [])
    (if QueryFunction.queryServerInformation ∈ queryFunctions then
      some ("PyKMIP " ++ serverVersion ++ " Software Server") else none))

theorem processQuery_follows (queryFunctions : List QueryFunction) :
    Follows world state (processQuery queryFunctions)
      (planQuery state.context queryFunctions) :=
  .kmipVersionSupported fun _ => .raiseIf fun _ => .get <| .reply _

def planDiscoverVersions (requested : List ProtocolVersion) :
    Plan context (.discoverVersions requested) :=
  .supportedSince ⟨1, 1⟩ "DiscoverVersions" <|
  .reply rfl (.discoverVersions
    (if requested = [] then protocolVersions
      else requested.filter fun version => version ∈ protocolVersions))

theorem processDiscoverVersions_follows (requested : List ProtocolVersion) :
    Follows world state (processDiscoverVersions requested)
      (planDiscoverVersions state.context requested) :=
  .kmipVersionSupported fun _ => .reply _

end Discovery

end PyKMIP
