import PyKMIP.Engine.Creation
import PyKMIP.Transactions.Following

/-!
# Plans of the operations that create objects
-/

namespace PyKMIP

open EStateM StatefulExcept

section Templates

/-! Setting attributes never reaches the value, the type, the state or the key
format of an object, whether it succeeds or not. -/

open ManagedObject (origin)

theorem setField_preserves_origin
    [DecidableEq τ] (attributeName : AttributeName)
    (existing : ManagedObject → Except PyError τ) (truthy : τ → Bool)
    {assign : τ → ManagedObject → ManagedObject} {value : τ}
    (assigned : ∀ managedObject,
      (assign value managedObject).origin = managedObject.origin) :
    Preserves origin (setField attributeName existing truthy assign value) := by
  intro managedObject
  show origin (finalState ((fromExcept (existing managedObject) >>=
    fun existingValue => _ : ObjectM Unit).run managedObject)) = _
  rw [run_bind, run_fromExcept]
  cases existing managedObject with
  | error exception => rfl
  | ok existingValue =>
      show origin (finalState ((ite _ _ _ : ObjectM Unit).run managedObject)) = _
      split
      · exact Preserves.raiseIf (existingValue ≠ value) _ managedObject
      · exact assigned managedObject

theorem setMultivaluedAttribute_preserves_origin
    (attributeName : AttributeName) (values : List AttributeValue) :
    Preserves origin (setMultivaluedAttribute attributeName values) := by
  unfold setMultivaluedAttribute
  split
  · exact .bind (.fromExcept _) fun names => .bind (.modify fun _ => rfl)
      fun _ => .bind .get fun _ => .raiseIf _ _
  · exact .bind (.fromExcept _) fun infos => .modify fun _ => rfl
  · exact .bind (.fromExcept _) fun groups => .modify fun _ => rfl
  · exact .raise _

theorem origin_mapKeyFields
    (managedObject : ManagedObject) (change : KeyFields → KeyFields)
    (format : ∀ fields,
      (change fields).keyFormatType = fields.keyFormatType) :
    (managedObject.mapKeyFields change).origin = managedObject.origin := by
  unfold origin ManagedObject.mapKeyFields ManagedObject.objectType
    ManagedObject.state? ManagedObject.cryptographic? ManagedObject.keyFields?
  rcases managedObject with ⟨_, _, _, _, _, _, _, _, ⟨kind, _, _⟩ | _ | _ | _⟩
  · cases kind <;> simp [format]
  all_goals rfl

theorem origin_setMasks
    (managedObject : ManagedObject) (masks : List CryptographicUsageMask) :
    (managedObject.mapCryptographic fun fields =>
      { fields with cryptographicUsageMasks := masks }).origin =
        managedObject.origin := by
  unfold origin ManagedObject.mapCryptographic ManagedObject.objectType
    ManagedObject.state? ManagedObject.cryptographic? ManagedObject.keyFields?
  rcases managedObject with ⟨_, _, _, _, _, _, _, _, ⟨kind, _, _⟩ | _ | _ | _⟩
  · cases kind <;> rfl
  all_goals rfl

theorem setSingleValuedAttribute_preserves_origin
    (attributeName : AttributeName) (attributeValue : AttributeValue) :
    Preserves origin
      (setSingleValuedAttribute attributeName attributeValue) := by
  unfold setSingleValuedAttribute
  split
  · exact .bind (.fromExcept _) fun algorithm =>
      setField_preserves_origin _ _ _ fun managedObject =>
        origin_mapKeyFields managedObject _ fun _ => rfl
  · exact .bind (.fromExcept _) fun length =>
      setField_preserves_origin _ _ _ fun managedObject =>
        origin_mapKeyFields managedObject _ fun _ => rfl
  · exact .bind (.fromExcept _) fun mask =>
      setField_preserves_origin _ _ _ fun managedObject =>
        origin_setMasks managedObject _
  · exact .bind (.fromExcept _) fun policyName =>
      setField_preserves_origin _ _ _ fun _ => rfl
  · exact .bind (.fromExcept _) fun sensitive =>
      setField_preserves_origin _ _ _ fun _ => rfl
  · exact .raise _

theorem setApplicableAttribute_preserves_origin
    (entry : AttributeName × TemplateValue) :
    Preserves origin (setApplicableAttribute entry) := by
  unfold setApplicableAttribute setAttributeOnManagedObject
  refine .bind .get fun managedObject => .bind (.fromExcept _) fun applicable =>
    .ite (fun _ => ?_) fun _ => .raise _
  refine .bind (.fromExcept _) fun multivalued => .ite (fun _ => ?_) fun _ => ?_
  · exact .bind (.fromExcept _) fun values =>
      setMultivaluedAttribute_preserves_origin _ values
  · exact .bind (.fromExcept _) fun value =>
      setSingleValuedAttribute_preserves_origin _ value

theorem setAttributesOnManagedObject_preserves_origin
    (attributes : ObjectAttributes) :
    Preserves origin (setAttributesOnManagedObject attributes) := by
  unfold setAttributesOnManagedObject
  induction attributes with
  | nil => exact .pure _
  | cons entry rest ih =>
      exact .bind (setApplicableAttribute_preserves_origin entry) fun _ => ih

theorem completeObject_origin
    {world : World} {clientIdentity : ClientIdentity}
    {attributes : ObjectAttributes} {managedObject completed : ManagedObject}
    (ran : completeObject world clientIdentity attributes managedObject =
      .ok completed) :
    completed.origin = managedObject.origin := by
  have kept := setAttributesOnManagedObject_preserves_origin attributes
    { managedObject with names := [] }
  unfold completeObject onNewObject at ran
  split at ran
  · rename_i changed setAll
    rw [setAll] at kept
    cases ran
    exact kept
  · cases ran

end Templates

section NewObjects

theorem newSymmetricKey_origin
    {algorithm : CryptographicAlgorithm} {length : Int} {value : Bytes}
    {wrapping : KeyWrappingColumns} {managedObject : ManagedObject}
    (built : newSymmetricKey algorithm length value wrapping =
      .ok managedObject) :
    managedObject.origin =
      ⟨value, .symmetricKey, some .preActive, some .raw⟩ := by
  unfold newSymmetricKey at built
  split at built
  · cases built
  · cases built
    rfl

theorem keyBlockFields_eq_ok
    {keyBlock : KeyBlock} {next : CryptographicAlgorithm × Int × KeyWrappingColumns →
      Except PyError ManagedObject}
    {managedObject : ManagedObject}
    (built : (keyBlockFields keyBlock >>= next) = .ok managedObject) :
    ∃ algorithm length wrapping,
      next (algorithm, length, wrapping) = .ok managedObject := by
  obtain ⟨⟨algorithm, length, wrapping⟩, _, rest⟩ := except_bind_ok_iff.mp built
  exact ⟨algorithm, length, wrapping, rest⟩

theorem convert_symmetricKey_origin
    {keyBlock : KeyBlock} {managedObject : ManagedObject}
    (built : convert (.symmetricKey keyBlock) = .ok managedObject) :
    managedObject.origin =
      ⟨keyBlock.keyValue.keyMaterial, .symmetricKey, some .preActive,
        some .raw⟩ := by
  obtain ⟨algorithm, length, wrapping, rest⟩ := keyBlockFields_eq_ok built
  obtain ⟨key, constructed, rest⟩ := except_bind_ok_iff.mp rest
  split at rest
  · cases rest
    exact newSymmetricKey_origin constructed
  · cases rest

theorem newPublicKey_isNew
    {algorithm : CryptographicAlgorithm} {length : Int} {value : Bytes}
    {formatType : KeyFormatType} {wrapping : KeyWrappingColumns}
    {managedObject : ManagedObject}
    (built : newPublicKey algorithm length value formatType wrapping =
      .ok managedObject) : managedObject.IsNew := by
  unfold newPublicKey at built
  split at built
  · cases built
    exact .of_preActive rfl
  · cases built

theorem newPrivateKey_isNew
    {algorithm : CryptographicAlgorithm} {length : Int} {value : Bytes}
    {formatType : KeyFormatType} {wrapping : KeyWrappingColumns}
    {managedObject : ManagedObject}
    (built : newPrivateKey algorithm length value formatType wrapping =
      .ok managedObject) : managedObject.IsNew := by
  unfold newPrivateKey at built
  split at built
  · cases built
    exact .of_preActive rfl
  · cases built

/-- Every conversion builds a new object. -/
theorem convert_isNew
    {secret : CoreSecret} {managedObject : ManagedObject}
    (built : convert secret = .ok managedObject) : managedObject.IsNew := by
  cases secret with
  | symmetricKey keyBlock =>
      exact .of_preActive (congrArg ManagedObject.Origin.state
        (convert_symmetricKey_origin built))
  | publicKey keyBlock =>
      obtain ⟨_, _, _, rest⟩ := keyBlockFields_eq_ok built
      exact newPublicKey_isNew rest
  | privateKey keyBlock =>
      obtain ⟨_, _, _, rest⟩ := keyBlockFields_eq_ok built
      exact newPrivateKey_isNew rest
  | splitKey fields keyBlock =>
      obtain ⟨_, _, _, rest⟩ := keyBlockFields_eq_ok built
      cases rest
      exact .of_preActive rfl
  | certificate certificateType certificateValue =>
      simp only [convert] at built
      split at built
      · cases built
        exact .of_preActive rfl
      · cases built
  | secretData secretDataType keyBlock =>
      cases built
      exact .of_preActive rfl
  | opaqueObject opaqueDataType opaqueDataValue =>
      cases built
      intro state found
      cases found
  | template => cases built

/-- A derived symmetric key holds the derived bytes. -/
theorem derivedObject_symmetricKey_origin
    {algorithm : Option CryptographicAlgorithm} {length : Int} {value : Bytes}
    {attributes remaining : ObjectAttributes} {derived : ManagedObject}
    (built : derivedObject .symmetricKey algorithm length value attributes =
      .ok (derived, remaining)) :
    derived.origin = ⟨value, .symmetricKey, some .preActive, some .raw⟩ := by
  obtain ⟨present, _, rest⟩ := except_bind_ok_iff.mp built
  obtain ⟨symmetricKey, constructed, returned⟩ := except_bind_ok_iff.mp rest
  cases returned
  exact newSymmetricKey_origin constructed

theorem derivedObject_isNew
    {objectType : ObjectType} {algorithm : Option CryptographicAlgorithm}
    {length : Int} {value : Bytes} {attributes remaining : ObjectAttributes}
    {derived : ManagedObject}
    (built : derivedObject objectType algorithm length value attributes =
      .ok (derived, remaining)) : derived.IsNew := by
  by_cases symmetric : objectType = .symmetricKey
  · subst symmetric
    exact .of_preActive (congrArg ManagedObject.Origin.state
      (derivedObject_symmetricKey_origin built))
  · unfold derivedObject at built
    rw [if_neg symmetric] at built
    cases built
    exact .of_preActive rfl

theorem completeObject_isNew
    {world : World} {clientIdentity : ClientIdentity}
    {attributes : ObjectAttributes} {managedObject completed : ManagedObject}
    (new : managedObject.IsNew)
    (ran : completeObject world clientIdentity attributes managedObject =
      .ok completed) :
    completed.IsNew :=
  new.of_state (congrArg ManagedObject.Origin.state (completeObject_origin ran))

end NewObjects

section Storing

variable {world : World} {state : EngineState} {context : ItemContext}
  {payload : RequestPayload}

theorem Follows.witnessed
    {outcome : Except PyError α} {next : α → EngineM ResponsePayload}
    {plan : { value // outcome = .ok value } → Plan context payload}
    (follows : ∀ value : { value // outcome = .ok value },
      Follows world state (next value) (plan value)) :
    Follows world state (StatefulExcept.fromExcept outcome >>= next)
      (.ofExcept (PyKMIP.witnessed outcome) plan) := by
  unfold Follows
  rw [run_bind, run_fromExcept]
  cases outcome with
  | ok value => exact follows ⟨value, rfl⟩
  | error exception => rfl

/-- Adding the last object, committing, and leaving its identifier behind. -/
theorem run_store
    (state : EngineState) (managedObject : ManagedObject)
    (reply : Nat → ResponsePayload) :
    (addObject managedObject >>= fun key => commitSession >>= fun _ =>
      setIdPlaceholder (some (toString key)) >>= fun _ =>
      pure (reply key)).run state =
      state.flush (state.dataStore.add managedObject)
        (some (toString state.dataStore.session.next))
        (reply state.dataStore.session.next) := by
  show (commitSession >>= fun _ => setIdPlaceholder _ >>= fun _ => _ :
    EngineM ResponsePayload).run { state with
      dataStore := state.dataStore.add managedObject } = _
  rw [run_bind, run_commitSession]
  unfold EngineState.flush
  rcases (state.dataStore.add managedObject).commit with ⟨outcome, flushed⟩
  cases outcome <;> rfl

/-- The creation of one object. -/
def Creation.single (producing : producingOperations.contains payload.operation)
    (managedObject : ManagedObject) (new : managedObject.IsNew)
    (reply : Nat → ResponsePayload)
    (identifies : ∀ key, (reply key).producedIdentifier = some (toString key)) :
    Creation payload where
  others := []
  last := managedObject
  reply := reply
  producing := producing
  new := by
    intro added member
    rw [List.mem_singleton.mp member]
    exact new
  identifies := identifies

theorem Follows.store
    {producing : producingOperations.contains payload.operation}
    {managedObject : ManagedObject} {new : managedObject.IsNew}
    {reply : Nat → ResponsePayload}
    {identifies : ∀ key,
      (reply key).producedIdentifier = some (toString key)} :
    Follows world state
      (addObject managedObject >>= fun key => commitSession >>= fun _ =>
        setIdPlaceholder (some (toString key)) >>= fun _ => pure (reply key))
      (.create (.single producing managedObject new reply identifies) :
        Plan context payload) :=
  run_store state managedObject reply

theorem run_createSecret (value : Bytes) :
    (createSecret world value).run state =
      match world.createdSecret with
      | none => .error (.python .runtimeError) state
      | some secretRef =>
          .ok secretRef { state with
            barbican := state.barbican.createSecret secretRef value } := by
  unfold createSecret
  rw [run_bind, run_get]
  cases world.createdSecret <;> rfl

theorem Follows.storeSecret
    (creation : SecretCreation payload) {refer : String → ManagedObject}
    {complete : ManagedObject → Except PyError ManagedObject}
    (builds : ∀ secretRef, creation.build secretRef = complete (refer secretRef)) :
    Follows world state
      ((createSecret world creation.value >>= fun url => pure (refer url)) >>=
        fun stored => StatefulExcept.fromExcept (complete stored) >>=
        fun managedObject => addObject managedObject >>= fun key =>
        commitSession >>= fun _ => setIdPlaceholder (some (toString key)) >>=
        fun _ => pure (creation.reply key))
      (.createSecret creation : Plan context payload) := by
  refine .assoc ?_
  unfold Follows Plan.run SecretCreation.run
  rw [run_bind, run_createSecret]
  cases world.createdSecret with
  | none => rfl
  | some secretRef =>
      simp only [run_bind, run_pure, run_fromExcept, builds]
      cases complete (refer secretRef) with
      | error exception => rfl
      | ok managedObject => exact run_store _ managedObject creation.reply

end Storing

section Plans

variable (world : World) (context : ItemContext) {state : EngineState}

theorem symmetricKey_isNew
    {algorithm : CryptographicAlgorithm} {length : Int} {value : Bytes}
    {managedObject : ManagedObject}
    (built : newSymmetricKey algorithm length value = .ok managedObject) :
    managedObject.IsNew :=
  .of_preActive (congrArg ManagedObject.Origin.state
    (newSymmetricKey_origin built))

/-- A new symmetric key that only keeps the reference to its secret. -/
def referringKey {payload : RequestPayload}
    (creating : payload.operation = .create) (clientIdentity : ClientIdentity)
    (attributes : ObjectAttributes) (algorithm : CryptographicAlgorithm)
    (length : Int) (value : Bytes)
    (symmetricKey : { managedObject //
      newSymmetricKey algorithm length value = .ok managedObject })
    (reply : Nat → ResponsePayload)
    (identifies : ∀ key, (reply key).producedIdentifier = some (toString key)) :
    SecretCreation payload where
  value := symmetricKey.1.value
  build := fun url =>
    completeObject world clientIdentity attributes
      { symmetricKey.1 with value := encodeUtf8 url }
  reply := reply
  creating := creating
  new := by
    intro url managedObject completed
    exact (symmetricKey_isNew symmetricKey.2).of_state
      (congrArg ManagedObject.Origin.state (completeObject_origin completed))
  refers := by
    intro url managedObject completed
    have kept := completeObject_origin completed
    have built := newSymmetricKey_origin symmetricKey.2
    exact ⟨(congrArg ManagedObject.Origin.objectType kept).trans
      (congrArg ManagedObject.Origin.objectType built),
      congrArg ManagedObject.Origin.value kept⟩
  identifies := identifies

def planCreate (payload : CreateRequestPayload) : Plan context (.create payload) :=
  .supportedSince ⟨1, 0⟩ "Create" <|
  .refuseIf (payload.objectType ≠ .symmetricKey)
    (invalidField ("Cannot create a " ++
      capitalizedName payload.objectType.name ++
      " object with the Create operation.")) <|
  .ofExcept (processOptionalTemplate context.protocolVersion
    payload.templateAttribute) fun objectAttributes =>
  .ofExcept (requiredKeyAttributes objectAttributes "") fun required =>
  .ofExcept (world.cryptographyEngine.createSymmetricKey required.algorithm
    required.length) fun value =>
  .ofExcept (witnessed (newSymmetricKey required.algorithm required.length
    value)) fun symmetricKey =>
  if world.osRegionName then
    .createSecret (referringKey world rfl context.clientIdentity
      objectAttributes _ _ _ symmetricKey
      (fun key => .create payload.objectType (toString key)) fun _ => rfl)
  else
    .ofExcept (witnessed (completeObject world context.clientIdentity
      objectAttributes symmetricKey.1)) fun managedObject =>
    .create (.single rfl managedObject.1
      (completeObject_isNew (symmetricKey_isNew symmetricKey.2) managedObject.2)
      (fun key => .create payload.objectType (toString key)) fun _ => rfl)

theorem processCreate_follows (payload : CreateRequestPayload) :
    Follows world state (processCreate world payload)
      (planCreate world state.context payload) := by
  refine .kmipVersionSupported fun _ => .raiseIf fun _ => .get <|
    .fromExcept fun objectAttributes => .fromExcept fun required =>
    .fromExcept fun value => .witnessed fun symmetricKey => ?_
  unfold storeInBarbican
  by_cases enabled : world.osRegionName
  · simp only [enabled, if_true]
    exact .storeSecret (referringKey world rfl state.context.clientIdentity
      objectAttributes _ _ _ symmetricKey
      (fun key => .create payload.objectType (toString key)) fun _ => rfl)
      fun _ => rfl
  · simp only [enabled]
    exact .witnessed fun managedObject => .store

/-- The public key comes first, the private key is the one that is named. -/
def keyPair {payload : RequestPayload}
    (producing : producingOperations.contains payload.operation)
    (publicKey privateKey : ManagedObject) (publicNew : publicKey.IsNew)
    (privateNew : privateKey.IsNew) : Creation payload where
  others := [publicKey]
  last := privateKey
  reply := fun key => .createKeyPair (toString (key + 1)) (toString key)
  producing := producing
  new := by
    intro added member
    rcases List.mem_cons.mp member with rfl | last
    · exact publicNew
    · rw [List.mem_singleton.mp last]
      exact privateNew
  identifies := fun _ => rfl

def planCreateKeyPair (payload : CreateKeyPairRequestPayload) :
    Plan context (.createKeyPair payload) :=
  let version := context.protocolVersion
  let complete := completeObject world context.clientIdentity
  .supportedSince ⟨1, 0⟩ "CreateKeyPair" <|
  .ofExcept (processOptionalTemplate version payload.publicKeyTemplateAttribute)
    fun publicOwn =>
  .ofExcept (processOptionalTemplate version
    payload.privateKeyTemplateAttribute) fun privateOwn =>
  .ofExcept (processOptionalTemplate version payload.commonTemplateAttribute)
    fun common =>
  .ofExcept (requiredKeyAttributes (propagateCommon publicOwn common)
    " for the public key") fun publicRequired =>
  .ofExcept (requiredKeyAttributes (propagateCommon privateOwn common)
    " for the private key") fun privateRequired =>
  .refuseIf (publicRequired.algorithm ≠ privateRequired.algorithm)
    (invalidField "The public and private key algorithms must be the same.") <|
  .refuseIf (publicRequired.length ≠ privateRequired.length)
    (invalidField "The public and private key lengths must be the same.") <|
  .ofExcept (world.cryptographyEngine.createAsymmetricKeyPair
    publicRequired.algorithm publicRequired.length) fun parts =>
  .ofExcept (witnessed (newPublicKey publicRequired.algorithm
    publicRequired.length parts.1.value parts.1.format)) fun publicKey =>
  .ofExcept (witnessed (newPrivateKey publicRequired.algorithm
    publicRequired.length parts.2.value parts.2.format)) fun privateKey =>
  .ofExcept (witnessed (complete (propagateCommon publicOwn common)
    publicKey.1)) fun publicObject =>
  .ofExcept (witnessed (complete (propagateCommon privateOwn common)
    privateKey.1)) fun privateObject =>
  .create (keyPair rfl publicObject.1 privateObject.1
    (completeObject_isNew (newPublicKey_isNew publicKey.2) publicObject.2)
    (completeObject_isNew (newPrivateKey_isNew privateKey.2) privateObject.2))

theorem processCreateKeyPair_follows (payload : CreateKeyPairRequestPayload) :
    Follows world state (processCreateKeyPair world payload)
      (planCreateKeyPair world state.context payload) := by
  refine .kmipVersionSupported fun _ => .get <| .fromExcept fun _ =>
    .fromExcept fun _ => .fromExcept fun _ => .fromExcept fun _ =>
    .fromExcept fun _ => .raiseIf fun _ => .raiseIf fun _ => .fromExcept fun _ =>
    .witnessed fun _ => .witnessed fun _ => .witnessed fun publicObject =>
    .witnessed fun privateObject => ?_
  have stored := run_store
    { state with dataStore := state.dataStore.add publicObject.1 }
    privateObject.1 fun key =>
      .createKeyPair (toString key) (toString state.dataStore.session.next)
  rw [EngineState.flush_dataStore] at stored
  exact stored

def planRegister (payload : RegisterRequestPayload) : Plan context (.register payload) :=
  .supportedSince ⟨1, 0⟩ "Register" <|
  .refuseIf (payload.objectType ∉ registrableTypes)
    (invalidField ("The " ++ capitalizedName payload.objectType.name ++
      " object type is not supported.")) <|
  .ofExcept (match payload.managedObject with
    | some secret => .ok secret
    | none => .error (invalidField "Cannot register a secret in absentia."))
    fun secret =>
  .ofExcept (processOptionalTemplate context.protocolVersion
    payload.templateAttribute) fun objectAttributes =>
  .ofExcept (witnessed (convert secret)) fun converted =>
  .ofExcept (witnessed (completeObject world context.clientIdentity
    objectAttributes converted.1)) fun managedObject =>
  .create (.single rfl managedObject.1
    (completeObject_isNew (convert_isNew converted.2) managedObject.2)
    (fun key => .register (toString key)) fun _ => rfl)

theorem processRegister_follows (payload : RegisterRequestPayload) :
    Follows world state (processRegister world payload)
      (planRegister world state.context payload) :=
  .kmipVersionSupported fun _ => .raiseIf fun _ => .fromExcept fun _ => .get <|
    .fromExcept fun _ => .witnessed fun _ => .witnessed fun _ => .store

/-- The objects that keying material is taken from, one lookup after the
other. -/
def planSources {context : ItemContext} {payload : DeriveKeyRequestPayload} :
    List String → (List StoredObject → Plan context (.deriveKey payload)) →
      Plan context (.deriveKey payload)
  | [], next => next []
  | uniqueIdentifier :: rest, next =>
      .lookup (some uniqueIdentifier) none fun storedObject =>
      .refuseIf (storedObject.managedObject.objectType ∉ derivableTypes)
        (invalidField ("Object " ++ uniqueIdentifier ++
          " is not a suitable type for key derivation. Please specify a key " ++
          "or secret data.")) <|
      .ofExcept (getattr storedObject.managedObject.cryptographicUsageMasks?)
        fun masks =>
      .refuseIf (CryptographicUsageMask.deriveKey ∉ masks)
        (invalidField ("The DeriveKey bit must be set in the cryptographic " ++
          "usage mask for object " ++ uniqueIdentifier ++
          " for it to be used in key derivation.")) <|
      planSources rest fun others => next (storedObject :: others)

theorem derivationObjects_follows
    {context : ItemContext} {payload : DeriveKeyRequestPayload}
    (uniqueIdentifiers : List String)
    {next : List StoredObject → EngineM ResponsePayload}
    {plan : List StoredObject → Plan context (.deriveKey payload)}
    (follows : ∀ storedObjects,
      Follows world state (next storedObjects) (plan storedObjects)) :
    Follows world state (derivationObjects world uniqueIdentifiers >>= next)
      (planSources uniqueIdentifiers plan) := by
  induction uniqueIdentifiers generalizing next plan with
  | nil => exact follows []
  | cons uniqueIdentifier rest ih =>
      exact .assoc <| .lookup fun storedObject => .assoc <| .raiseIf fun _ =>
        .assoc <| .fromExcept fun _ => .assoc <| .raiseIf fun _ =>
        .assoc <| ih fun others => follows (storedObject :: others)

def planDeriveKey (payload : DeriveKeyRequestPayload) :
    Plan context (.deriveKey payload) :=
  .supportedSince ⟨1, 0⟩ "DeriveKey" <|
  .ofExcept (processOptionalTemplate context.protocolVersion
    payload.templateAttribute) fun objectAttributes =>
  .refuseIf (payload.objectType ∉ [ObjectType.symmetricKey, .secretData])
    (invalidField
      "Key derivation can only generate a SymmetricKey or SecretData object.") <|
  .refuseIf (payload.uniqueIdentifiers = []) (.python .typeError) <|
  planSources payload.uniqueIdentifiers fun existingObjects =>
  .ofExcept (match existingObjects.head? with
    | some keyingObject => .ok keyingObject
    | none => .error (.python .indexError)) fun keyingObject =>
  .ofExcept (derivationLength objectAttributes) fun length =>
  .ofExcept (derivationAlgorithm payload.objectType objectAttributes)
    fun algorithm =>
  .ofExcept (derivedData world payload length keyingObject existingObjects.tail)
    fun value =>
  .ofExcept (witnessed (derivedObject payload.objectType algorithm length value
    objectAttributes)) fun derived =>
  .ofExcept (witnessed (completeObject world context.clientIdentity
    derived.1.2 derived.1.1)) fun managedObject =>
  .create (.single rfl managedObject.1
    (completeObject_isNew (derivedObject_isNew derived.2) managedObject.2)
    (fun key => .deriveKey (toString key)) fun _ => rfl)

theorem processDeriveKey_follows (payload : DeriveKeyRequestPayload) :
    Follows world state (processDeriveKey world payload)
      (planDeriveKey world state.context payload) :=
  .kmipVersionSupported fun _ => .get <| .fromExcept fun _ => .raiseIf fun _ =>
    .raiseIf fun _ => derivationObjects_follows world _ fun _ =>
    .fromExcept fun _ => .fromExcept fun _ => .fromExcept fun _ =>
    .fromExcept fun _ => .witnessed fun _ => .witnessed fun _ => .store

end Plans

end PyKMIP
