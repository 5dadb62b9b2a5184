import PyKMIP.Crypto.KeyWrapping
import PyKMIP.Rows

/-!
# Wrapped keys

A wrapped Get answers with the key block of an unwrapped one, with wrapped
material and with wrapping data of its own, and leaves the engine as it was.
The wrapping data that a key was registered with is not in the answer.
-/

namespace PyKMIP

open EStateM StatefulExcept

section Secrets

/-- The material in the key block of a secret that has one. -/
def CoreSecret.keyMaterial? : CoreSecret → Option Bytes
  | .symmetricKey keyBlock | .publicKey keyBlock | .privateKey keyBlock
  | .splitKey _ keyBlock | .secretData _ keyBlock =>
      some keyBlock.keyValue.keyMaterial
  | .certificate _ _ | .template | .opaqueObject _ _ => none

/-- What a client makes of a wrapped key block and the unwrapped material. -/
def KeyBlock.unwrapped (keyMaterial : Bytes) (keyBlock : KeyBlock) : KeyBlock :=
  { keyBlock with
    keyValue := { keyBlock.keyValue with keyMaterial := keyMaterial }
    keyWrappingData := none }

def CoreSecret.unwrapped (keyMaterial : Bytes) : CoreSecret → CoreSecret
  | .symmetricKey keyBlock => .symmetricKey (keyBlock.unwrapped keyMaterial)
  | .publicKey keyBlock => .publicKey (keyBlock.unwrapped keyMaterial)
  | .privateKey keyBlock => .privateKey (keyBlock.unwrapped keyMaterial)
  | .splitKey fields keyBlock =>
      .splitKey fields (keyBlock.unwrapped keyMaterial)
  | .secretData dataType keyBlock =>
      .secretData dataType (keyBlock.unwrapped keyMaterial)
  | secret => secret

/-- The wrapping data that a key was registered with. -/
def ManagedObject.keyWrappingData? (managedObject : ManagedObject) :
    Option KeyWrappingData :=
  managedObject.keyFields?.bind fun fields => fields.wrapping.keyWrappingData

theorem KeyFields.unwrapped_keyBlock_iff
    {fields : KeyFields} {value wrapped : Bytes} {data : KeyWrappingData} :
    (CoreSecret.withKeyWrappingData.replace data
        (fields.keyBlock wrapped)).unwrapped value = fields.keyBlock value ↔
      fields.wrapping.keyWrappingData = none := by
  simp [CoreSecret.withKeyWrappingData.replace, KeyBlock.unwrapped,
    KeyFields.keyBlock, eq_comm]

/-- The wrapped secret of an object, compared with the secret itself. -/
theorem unwrapped_iff
    {managedObject : ManagedObject} {wrapped : Bytes} {data : KeyWrappingData}
    {secret : CoreSecret}
    (built : (buildCoreObject
      { managedObject with value := wrapped }).withKeyWrappingData data =
        .ok secret) :
    secret.keyMaterial? = some wrapped ∧
      (buildCoreObject managedObject).keyMaterial? =
        some managedObject.value ∧
      (secret.unwrapped managedObject.value = buildCoreObject managedObject ↔
        managedObject.keyWrappingData? = none) := by
  obtain ⟨value, _, _, _, _, _, _, _, objectClass⟩ := managedObject
  cases objectClass with
  | certificate core certificateType => cases built
  | opaqueObject opaqueType => cases built
  | secretData core dataType =>
      cases built
      exact ⟨rfl, rfl, iff_of_true rfl rfl⟩
  | key kind core fields =>
      have rebuilds := @KeyFields.unwrapped_keyBlock_iff fields value wrapped data
      cases kind
      all_goals
        cases built
        refine ⟨rfl, rfl, Iff.trans ?_ rebuilds⟩
        simp [CoreSecret.unwrapped, buildCoreObject]

end Secrets

section Gets

/-- The item with an unwrapped Get in place of a wrapped one. -/
def Execution.withoutWrapping (execution : Execution)
    (payload : GetRequestPayload) : Execution :=
  { execution with
    item := { execution.item with
      requestPayload := .get
        { payload with keyWrappingSpecification := none } } }

/-- A wrapped answer beside the unwrapped one: unwrapping the material under
the named key gives the material of the other. -/
structure WrapsAnswer (package : Cryptography) (execution : Execution)
    (payload : GetRequestPayload) (specification : KeyWrappingSpecification)
    (response : ResponsePayload) (wrapped plain : CoreSecret)
    (keyMaterial : Bytes) : Prop where
  answers : ∃ objectType uniqueIdentifier,
    response = .get objectType uniqueIdentifier wrapped ∧
      (execution.withoutWrapping payload).outcome =
        .ok (.get objectType uniqueIdentifier plain)
  unwraps : ∃ information key wrappedKey,
    specification.encryptionKeyInformation = some information ∧
      access execution.world execution.before information.uniqueIdentifier
        .get = .ok key ∧
      wrapped.keyMaterial? = some wrappedKey ∧
      package.aesKeyUnwrap key.managedObject.value wrappedKey = .ok keyMaterial
  material : plain.keyMaterial? = some keyMaterial

theorem Plan.run_lookup_of_access
    {world : World} {context : ItemContext} {payload : RequestPayload}
    {before : EngineState} {uniqueIdentifier : Option String}
    {disguise : Option PyError} {next : StoredObject → Plan context payload}
    {storedObject : StoredObject}
    (accessed : access world before uniqueIdentifier payload.accessCode =
      .ok storedObject) :
    (Plan.lookup uniqueIdentifier disguise next).run world before =
      (next storedObject).run world before := by
  rw [Plan.run, accessed]

/-- A plan for a Get does not write. -/
theorem Plan.finalState_of_get
    {context : ItemContext} {payload : GetRequestPayload} (world : World)
    (plan : Plan context (.get payload)) (state : EngineState) :
    finalState (plan.run world state) = state := by
  induction plan with
  | refuse exception => rfl
  | reply reads reply => rfl
  | lookup uniqueIdentifier disguise next ih =>
      rw [Plan.run]
      split
      · exact ih _
      · rfl
  | list next ih =>
      rw [Plan.run]
      split
      · rfl
      · exact ih _
  | update writes => exact absurd writes Bool.false_ne_true
  | create creation => exact absurd creation.producing Bool.false_ne_true
  | createSecret creation =>
      have creating := creation.creating
      cases creating

variable {package : Cryptography} {execution : Execution}
  {payload : GetRequestPayload} {specification : KeyWrappingSpecification}
  {response : ResponsePayload}

/-- Get leaves the engine as it was, whether it succeeds or not. -/
theorem Execution.after_of_get (gets : execution.payload = .get payload) :
    execution.after = execution.before := by
  unfold Execution.after Execution.result
  rw [processOperation_follows, gets]
  exact Plan.finalState_of_get _ _ _

theorem wrappedSecret_ok
    {world : World} {information : KeyInformation}
    {managedObject key : ManagedObject} {secret : CoreSecret}
    (backed : world.cryptographyEngine.wrapKey = wrapKey package)
    (wraps : wrappedSecret world specification information managedObject key =
      .ok secret) :
    ∃ wrapped data, package.aesKeyWrap key.value managedObject.value =
        .ok wrapped ∧
      (buildCoreObject
        { managedObject with value := wrapped }).withKeyWrappingData data =
          .ok secret := by
  obtain ⟨parameters, _, wraps⟩ := except_bind_ok_iff.mp wraps
  obtain ⟨wrapped, encrypts, built⟩ := except_bind_ok_iff.mp wraps
  rw [backed] at encrypts
  exact ⟨wrapped, _, aesKeyWrap_of_wrapKey encrypts, built⟩

theorem wrapsAnswer_of_outcome
    (unwraps : package.Unwraps)
    (gets : execution.payload = .get payload)
    (specified : payload.keyWrappingSpecification = some specification)
    (backed : execution.world.cryptographyEngine.wrapKey = wrapKey package)
    (outcome : execution.outcome = .ok response) :
    ∃ target wrapped plain keyMaterial,
      access execution.world execution.before execution.target .get =
        .ok target ∧
      WrapsAnswer package execution payload specification response wrapped plain
        keyMaterial ∧
      (wrapped.unwrapped keyMaterial = plain ↔
        target.managedObject.keyWrappingData? = none) := by
  have ran := Execution.result_of_outcome_ok outcome
  unfold Execution.result at ran
  rw [processOperation_follows, gets] at ran
  obtain ⟨supported, ran⟩ := Plan.run_refuseIf_ok ran
  obtain ⟨uncompressed, ran⟩ := Plan.run_refuseIf_ok ran
  obtain ⟨target, accessed, ran⟩ := Plan.run_lookup_ok ran
  obtain ⟨_, formatted, ran⟩ := Plan.run_ofExcept_ok ran
  rw [specified] at ran
  obtain ⟨_, ran⟩ := Plan.run_refuseIf_ok ran
  split at ran
  · rename_i information given
    obtain ⟨key, keyAccessed, ran⟩ := Plan.run_lookup_ok ran
    obtain ⟨_, _, ran⟩ := Plan.run_ofExcept_ok ran
    obtain ⟨secret, wraps, ran⟩ := Plan.run_ofExcept_ok ran
    obtain ⟨wrappedKey, data, encrypts, built⟩ := wrappedSecret_ok backed wraps
    obtain ⟨isWrapped, isPlain, rebuilds⟩ := unwrapped_iff built
    have plain : (execution.withoutWrapping payload).result =
        .ok (.get target.managedObject.objectType
          (execution.before.context.payloadOrPlaceholder
            payload.uniqueIdentifier)
          (buildCoreObject target.managedObject)) execution.before := by
      unfold Execution.result
      rw [processOperation_follows]
      apply Plan.run_refuseIf_ok_iff.mpr
      refine ⟨supported, Plan.run_refuseIf_ok_iff.mpr ⟨uncompressed, ?_⟩⟩
      have reached : access execution.world execution.before
          (execution.before.context.payloadOrPlaceholder
            payload.uniqueIdentifier)
          (RequestPayload.get { payload with
            keyWrappingSpecification := none }).accessCode = .ok target :=
        accessed
      refine (Plan.run_lookup_of_access reached).trans ?_
      exact Plan.run_ofExcept_ok_iff.mpr ⟨(), formatted, rfl⟩
    have answer : (execution.withoutWrapping payload).outcome =
        .ok (.get target.managedObject.objectType
          (execution.before.context.payloadOrPlaceholder
            payload.uniqueIdentifier)
          (buildCoreObject target.managedObject)) := by
      unfold Execution.outcome
      rw [plain]
      rfl
    have named : execution.target = execution.before.context.payloadOrPlaceholder
        payload.uniqueIdentifier := by
      unfold Execution.target
      rw [gets]
      rfl
    refine ⟨target, secret, _, target.managedObject.value, ?_,
      ⟨⟨_, _, Plan.run_reply_ok ran, answer⟩, ?_, isPlain⟩, rebuilds⟩
    · rw [named]
      exact accessed
    · exact ⟨information, key, wrappedKey, given, keyAccessed, isWrapped,
        unwraps _ _ _ encrypts⟩
  · cases ran

end Gets

/-- For every store, object, key and parameters: the material of a wrapped Get
unwraps to that of an unwrapped one, the client has the unwrapped secret again
exactly if the object was not registered wrapped, and nothing is changed. -/
theorem wrapped_get_can_be_undone_iff
    {package : Cryptography} {execution : Execution}
    {payload : GetRequestPayload} {specification : KeyWrappingSpecification}
    (unwraps : package.Unwraps)
    (gets : execution.payload = .get payload)
    (specified : payload.keyWrappingSpecification = some specification)
    (backed : execution.world.cryptographyEngine.wrapKey = wrapKey package) :
    (∀ response, execution.outcome = .ok response →
      ∃ target wrapped plain keyMaterial,
        access execution.world execution.before execution.target .get =
          .ok target ∧
        WrapsAnswer package execution payload specification response wrapped
          plain keyMaterial ∧
        (wrapped.unwrapped keyMaterial = plain ↔
          target.managedObject.keyWrappingData? = none)) ∧
    execution.rowsAfter = execution.rowsBefore ∧
    ∀ (world : World) (later : RequestBatchItem),
      Execution.outcome ⟨world, later, execution.after⟩ =
        Execution.outcome ⟨world, later, execution.before⟩ := by
  have unchanged := Execution.after_of_get gets
  refine ⟨fun response outcome => wrapsAnswer_of_outcome unwraps gets specified
    backed outcome, ?_, ?_⟩
  · unfold Execution.rowsAfter Execution.rowsBefore
    rw [unchanged]
  · intro world later
    rw [unchanged]

section Samples

def encryptionKeyBytes : Bytes :=
  [0, 1, 2, 3, 4, 5, 6, 7, 8, 9, 10, 11, 12, 13, 14, 15]

def keyDataBytes : Bytes :=
  [0x00, 0x11, 0x22, 0x33, 0x44, 0x55, 0x66, 0x77, 0x88, 0x99, 0xaa, 0xbb,
    0xcc, 0xdd, 0xee, 0xff]

def wrappedBytes : Bytes :=
  [0x1f, 0xa6, 0x8b, 0x0a, 0x81, 0x12, 0xb4, 0x47, 0xae, 0xf3, 0x4b, 0xd8,
    0xfb, 0x5a, 0x7b, 0x82, 0x9d, 0x3e, 0x86, 0x23, 0x71, 0xd2, 0xcf, 0xe5]

/-- A package that wraps one key under another. -/
def wrappingPackage : Cryptography :=
  { Cryptography.refusing with
    aesKeyWrap := fun encryptionKey keyMaterial =>
      if encryptionKey = encryptionKeyBytes ∧ keyMaterial = keyDataBytes then
        .ok wrappedBytes
      else .error ""
    aesKeyUnwrap := fun encryptionKey wrappedKey =>
      if encryptionKey = encryptionKeyBytes ∧ wrappedKey = wrappedBytes then
        .ok keyDataBytes
      else .error "" }

theorem wrappingPackage_unwraps : wrappingPackage.Unwraps := by
  intro encryptionKey keyMaterial wrappedKey wrapped
  change (if _ then Except.ok wrappedBytes else Except.error "") = _ at wrapped
  split at wrapped
  · rename_i known
    cases wrapped
    obtain ⟨rfl, rfl⟩ := known
    rfl
  · cases wrapped

def wrappingWorld : World :=
  { sampleWorld with
    cryptographyEngine := { sampleCryptography with
      wrapKey := wrapKey wrappingPackage } }

/-- The registration of a key that may wrap others. -/
def keyRegistration (value : Bytes) (data : Option KeyWrappingData) :
    RequestPayload :=
  .register {
    objectType := .symmetricKey
    templateAttribute := some {
      attributes := [{ attributeName := .cryptographicUsageMask
                       attributeValue := .integer 16 }] }
    managedObject := some (.symmetricKey {
      keyFormatType := .raw
      keyValue := { keyMaterial := value }
      cryptographicAlgorithm := some .aes
      cryptographicLength := some 128
      keyWrappingData := data }) }

/-- An engine with an active wrapping key and a key that may have been
registered wrapped. -/
def wrappingEngine (data : Option KeyWrappingData) : EngineState :=
  run (newEngine .empty [])
    [sampleExchange wrappingWorld "alice"
      [{ requestPayload := keyRegistration encryptionKeyBytes none }],
    sampleExchange wrappingWorld "alice"
      [{ requestPayload := .activate (some "1") }],
    sampleExchange wrappingWorld "alice"
      [{ requestPayload := keyRegistration keyDataBytes data }]]

def wrapWithFirst : KeyWrappingSpecification where
  wrappingMethod := some .encrypt
  encryptionKeyInformation :=
    some ⟨some "1", some { blockCipherMode := some .nistKeyWrap }⟩
  encodingOption := some .noEncoding

def wrappedSecondKey : GetRequestPayload where
  uniqueIdentifier := some "2"
  keyWrappingSpecification := some wrapWithFirst

def wrappedGet (data : Option KeyWrappingData) : Execution :=
  ⟨wrappingWorld, { requestPayload := .get wrappedSecondKey },
    (sampleExchange wrappingWorld "alice" []).entering (wrappingEngine data)⟩

theorem wrapped_get_can_be_undone_iff_plain :
    (wrappedGet none).Succeeded ∧
    (∀ response, (wrappedGet none).outcome = .ok response →
      ∃ target wrapped plain keyMaterial,
        access wrappingWorld (wrappedGet none).before (wrappedGet none).target
          .get = .ok target ∧
        WrapsAnswer wrappingPackage (wrappedGet none) wrappedSecondKey
          wrapWithFirst response wrapped plain keyMaterial ∧
        (wrapped.unwrapped keyMaterial = plain ↔
          target.managedObject.keyWrappingData? = none)) ∧
    (wrappedGet none).rowsAfter = (wrappedGet none).rowsBefore ∧
    ∀ (world : World) (later : RequestBatchItem),
      Execution.outcome ⟨world, later, (wrappedGet none).after⟩ =
        Execution.outcome ⟨world, later, (wrappedGet none).before⟩ :=
  ⟨by decide,
    wrapped_get_can_be_undone_iff wrappingPackage_unwraps rfl rfl rfl⟩

/-- The data of a key that has been wrapped by somebody else. -/
def foreignWrapping : KeyWrappingData where
  wrappingMethod := some .encrypt
  encryptionKeyInformation :=
    some ⟨some "7", some { blockCipherMode := some .nistKeyWrap }⟩
  encodingOption := some .noEncoding

/-- A key that was registered wrapped is wrapped again, and the data of the
first wrapping is not in the answer. -/
theorem registered_wrapping_is_lost :
    ¬∀ (package : Cryptography) (execution : Execution)
        (payload : GetRequestPayload) (objectType : ObjectType)
        (uniqueIdentifier : Option String) (wrapped plain : CoreSecret)
        (keyMaterial : Bytes),
      package.Unwraps →
      execution.payload = .get payload →
      payload.keyWrappingSpecification.isSome →
      execution.world.cryptographyEngine.wrapKey = wrapKey package →
      execution.outcome = .ok (.get objectType uniqueIdentifier wrapped) →
      (execution.withoutWrapping payload).outcome =
        .ok (.get objectType uniqueIdentifier plain) →
      plain.keyMaterial? = some keyMaterial →
      wrapped.unwrapped keyMaterial = plain := by
  intro undone
  have same := undone wrappingPackage (wrappedGet (some foreignWrapping))
    wrappedSecondKey .symmetricKey (some "2")
    (.symmetricKey {
      keyFormatType := .raw
      keyValue := { keyMaterial := wrappedBytes }
      cryptographicAlgorithm := some .aes
      cryptographicLength := some 128
      keyWrappingData := some {
        wrappingMethod := some .encrypt
        encryptionKeyInformation := wrapWithFirst.encryptionKeyInformation
        encodingOption := some .noEncoding } })
    (.symmetricKey {
      keyFormatType := .raw
      keyValue := { keyMaterial := keyDataBytes }
      cryptographicAlgorithm := some .aes
      cryptographicLength := some 128
      keyWrappingData := some foreignWrapping })
    keyDataBytes wrappingPackage_unwraps rfl rfl rfl (by decide) (by decide) rfl
  revert same
  decide

end Samples

end PyKMIP
