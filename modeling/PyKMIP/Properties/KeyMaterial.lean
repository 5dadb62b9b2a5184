import PyKMIP.Properties.DerivationLength
import PyKMIP.Properties.RegisterGet
import PyKMIP.Properties.SecretCorrespondence
import PyKMIP.Properties.WrappedGet

/-!
# The bytes of stored keys

A lookup for GET hands the bytes of a symmetric key to Get and to every handler
that computes with the key.  With the back end enabled the lookup takes the
value column for the reference to a secret, which is what Create keeps there;
Register and DeriveKey keep the bytes themselves.
-/

namespace PyKMIP

open EStateM StatefulExcept History

section Secrets

namespace Barbican

variable {barbican larger : Barbican} {id : List Char} {secret : Secret}

/-- New secrets do not hide old ones. -/
theorem getSecret_of_isPrefix
    (grows : barbican <+: larger) (held : barbican.getSecret id = some secret) :
    larger.getSecret id = some secret := by
  obtain ⟨added, rfl⟩ := grows
  unfold getSecret at held ⊢
  rw [List.find?_append, held]
  rfl

theorem getSecret_createSecret
    {secretRef : String} (payload : Bytes)
    (fresh : ∀ secret ∈ barbican,
      secretId secret.secretRef ≠ secretId secretRef) :
    (barbican.createSecret secretRef payload).getSecret (secretId secretRef) =
      some ⟨secretRef, Base64.encode payload⟩ := by
  have unused : barbican.find? (fun secret =>
      secretId secret.secretRef = secretId secretRef) = none := by
    rw [List.find?_eq_none]
    intro secret member
    simpa using fresh secret member
  unfold getSecret createSecret
  rw [List.find?_append, unused]
  simp

/-- An empty payload cannot be told from a missing one. -/
theorem retriveSecret_encodeUtf8_iff
    {secretRef : String} {payload value : Bytes}
    (held : barbican.getSecret (secretId secretRef) =
      some ⟨secretRef, Base64.encode payload⟩) :
    barbican.retriveSecret (encodeUtf8 secretRef) = .ok value ↔
      payload ≠ [] ∧ value = payload := by
  unfold retriveSecret
  simp only [decodeUtf8_encodeUtf8, Option.bind_eq_bind, Option.bind_some, held,
    padded_encode, Base64.decode_encode]
  by_cases empty : payload = []
  · subst empty
    simp [Base64.encode]
  · have encoded : Base64.encode payload ≠ [] :=
      fun isEmpty => empty (Base64.encode_eq_nil_iff.mp isEmpty)
    simp [encoded, empty, guard, eq_comm]

end Barbican

namespace Execution

variable {execution : Execution}

/-- An item leaves the secrets alone, or has one created. -/
theorem barbican_after (clean : execution.before.Clean) :
    execution.after.barbican = execution.before.barbican ∨
      ∃ secretRef value, execution.after.barbican =
        execution.before.barbican.createSecret secretRef value := by
  cases outcome : execution.outcome with
  | ok response =>
      have transaction := transaction outcome
      generalize execution.after = after at transaction ⊢
      cases transaction with
      | read => exact .inl rfl
      | change _ _ _ _ _ _ _ barbican => exact .inl barbican
      | remove _ _ _ _ _ _ barbican => exact .inl barbican
      | create _ _ _ _ _ barbican => exact .inl barbican
      | createSecret value secretRef _ _ _ _ _ _ _ barbican =>
          exact .inr ⟨secretRef, value, barbican⟩
  | error exception =>
      rcases (untouched clean outcome).barbican with
        same | ⟨_, secretRef, value, _, created⟩
      · exact .inl same
      · exact .inr ⟨secretRef, value, created⟩

theorem barbican_isPrefix (clean : execution.before.Clean) :
    execution.before.barbican <+: execution.after.barbican := by
  rcases barbican_after clean with same | ⟨secretRef, value, created⟩
  · exact same ▸ List.prefix_refl _
  · exact created ▸ List.prefix_append _ _

end Execution

/-- The secrets that an item leaves are there for the rest of the run. -/
theorem barbican_of_later
    {start : EngineState} {exchanges : List Exchange}
    {prior later : List Execution} {execution : Execution}
    (divides : history start exchanges = prior ++ execution :: later) :
    ∀ next ∈ later, execution.after.barbican <+: next.before.barbican := by
  have linked := history_linked start exchanges
  rw [divides] at linked
  refine (linked.at.2.invariant
    (fun durable => execution.after.barbican <+: durable.barbican) ?_
    (List.prefix_refl _)).2
  intro next member grown
  have executed : next ∈ history start exchanges := by
    rw [divides]
    exact List.mem_append_right _ (.tail _ member)
  exact grown.trans (next.barbican_isPrefix (clean_of_mem_history executed))

end Secrets

section Making

/-- The item makes a symmetric key of these bytes: they are created, come with
the request, or are derived. -/
inductive Execution.Makes (execution : Execution) (bytes : Bytes) : Prop where
  | created {payload : CreateRequestPayload}
      {made : ObjectAttributes × ManagedObject}
      (creates : execution.payload = .create payload)
      (makes : createdKey execution.world execution.before payload = .ok made)
      (value : made.2.value = bytes)
  | registered {payload : RegisterRequestPayload} {keyBlock : KeyBlock}
      (registers : execution.payload = .register payload)
      (given : payload.managedObject = some (.symmetricKey keyBlock))
      (value : keyBlock.keyValue.keyMaterial = bytes)
  | derived {payload : DeriveKeyRequestPayload}
      (derives : execution.payload = .deriveKey payload)
      (symmetric : payload.objectType = .symmetricKey)
      (value : derivedValue execution.world execution.before payload = .ok bytes)

/-- What the value column of a new key holds. -/
inductive Execution.StoresKey (execution : Execution) (bytes : Bytes)
    (value : Bytes) : Prop where
  | bytes
      (direct : execution.world.osRegionName = false ∨
        execution.payload.operation ≠ .create)
      (same : value = bytes)
  | reference {secretRef : String}
      (enabled : execution.world.osRegionName = true)
      (creates : execution.payload.operation = .create)
      (created : execution.world.createdSecret = some secretRef)
      (refers : value = encodeUtf8 secretRef)
      (barbican : execution.after.barbican =
        execution.before.barbican.createSecret secretRef bytes)

/-- The origin of the row of a symmetric key. -/
def symmetricOrigin (value : Bytes) : ManagedObject.Origin :=
  ⟨value, .symmetricKey, some .preActive, some .raw⟩

/-- The item has added the row of a key of these bytes. -/
def Execution.AddsKey (execution : Execution) (bytes : Bytes) : Prop :=
  ∃ row value, execution.rowsAfter.lookup execution.rowsBefore.next = some row ∧
    row.origin = symmetricOrigin value ∧ execution.StoresKey bytes value

variable {execution : Execution} {bytes : Bytes} {response : ResponsePayload}

theorem addsKey_of_created
    {payload : CreateRequestPayload} {made : ObjectAttributes × ManagedObject}
    (clean : execution.before.Clean)
    (creates : execution.payload = .create payload)
    (makes : createdKey execution.world execution.before payload = .ok made)
    (outcome : execution.outcome = .ok response) :
    execution.AddsKey made.2.value := by
  have ran := Execution.result_of_outcome_ok outcome
  have creating : execution.payload.operation = .create := by
    rw [creates]
    rfl
  unfold Execution.result at ran
  rw [processOperation_follows, creates] at ran
  obtain ⟨_, ran⟩ := Plan.run_refuseIf_ok (Plan.run_supportedSince_ok ran)
  obtain ⟨attributes, processed, ran⟩ := Plan.run_ofExcept_ok ran
  obtain ⟨required, requires, ran⟩ := Plan.run_ofExcept_ok ran
  obtain ⟨value, created, ran⟩ := Plan.run_ofExcept_ok ran
  obtain ⟨⟨symmetricKey, built⟩, _, ran⟩ := Plan.run_ofExcept_ok ran
  have same : made = (attributes, symmetricKey) := by
    obtain ⟨_, alsoProcessed, makes⟩ := except_bind_ok_iff.mp makes
    obtain ⟨_, alsoRequires, makes⟩ := except_bind_ok_iff.mp makes
    obtain ⟨_, alsoCreated, makes⟩ := except_bind_ok_iff.mp makes
    obtain ⟨_, alsoBuilt, makes⟩ := except_bind_ok_iff.mp makes
    have sameAttributes := processed.symm.trans alsoProcessed
    cases sameAttributes
    have sameRequired := requires.symm.trans alsoRequires
    cases sameRequired
    have sameValue := created.symm.trans alsoCreated
    cases sameValue
    have sameKey := built.symm.trans alsoBuilt
    cases sameKey
    cases makes
    rfl
  subst same
  have origin : symmetricKey.origin = symmetricOrigin symmetricKey.value := by
    have known := newSymmetricKey_origin built
    have holds : symmetricKey.value = value :=
      congrArg ManagedObject.Origin.value known
    rw [known, holds]
    rfl
  by_cases enabled : execution.world.osRegionName = true
  · rw [if_pos enabled] at ran
    simp only [Plan.run, SecretCreation.run] at ran
    cases named : execution.world.createdSecret with
    | none =>
        rw [named] at ran
        cases ran
    | some secretRef =>
        rw [named] at ran
        simp only at ran
        split at ran
        · cases ran
        · rename_i managedObject completes
          obtain ⟨_, _, barbican, _⟩ := flush_eq_ok ran
          refine ⟨_, encodeUtf8 secretRef, lookup_of_flush clean ran, ?_,
            .reference enabled creating named rfl barbican⟩
          rw [origin_withColumnDefaults]
          refine (completeObject_origin completes).trans ?_
          exact congrArg (fun origin : ManagedObject.Origin =>
            { origin with value := encodeUtf8 secretRef }) origin
  · rw [if_neg enabled] at ran
    obtain ⟨⟨managedObject, completes⟩, _, ran⟩ := Plan.run_ofExcept_ok ran
    refine ⟨_, symmetricKey.value, lookup_of_flush clean ran, ?_,
      .bytes (.inl (by simpa using enabled)) rfl⟩
    rw [origin_withColumnDefaults]
    exact (completeObject_origin completes).trans origin

theorem addsKey_of_registered
    {payload : RegisterRequestPayload} {keyBlock : KeyBlock}
    (clean : execution.before.Clean)
    (registers : execution.payload = .register payload)
    (given : payload.managedObject = some (.symmetricKey keyBlock))
    (outcome : execution.outcome = .ok response) :
    execution.AddsKey keyBlock.keyValue.keyMaterial := by
  have ran := Execution.result_of_outcome_ok outcome
  unfold Execution.result at ran
  rw [processOperation_follows, registers] at ran
  obtain ⟨_, ran⟩ := Plan.run_refuseIf_ok (Plan.run_supportedSince_ok ran)
  obtain ⟨secret, isGiven, ran⟩ := Plan.run_ofExcept_ok ran
  obtain ⟨attributes, _, ran⟩ := Plan.run_ofExcept_ok ran
  obtain ⟨⟨converted, converts⟩, _, ran⟩ := Plan.run_ofExcept_ok ran
  obtain ⟨⟨completed, completes⟩, _, ran⟩ := Plan.run_ofExcept_ok ran
  rw [given] at isGiven
  cases isGiven
  have otherOperation : execution.payload.operation ≠ .create := by
    rw [registers]
    exact Operation.noConfusion
  refine ⟨_, keyBlock.keyValue.keyMaterial, lookup_of_flush clean ran, ?_,
    .bytes (.inr otherOperation) rfl⟩
  rw [origin_withColumnDefaults]
  exact (completeObject_origin completes).trans
    (convert_symmetricKey_origin converts)

theorem mapM_eq_ok_of_forall₂
    {read : α → Except ε β} {names : List α} {values : List β}
    (reads : List.Forall₂ (fun name value => read name = .ok value) names
      values) : names.mapM read = .ok values := by
  induction reads with
  | nil => rfl
  | cons first rest ih =>
      rw [List.mapM_cons]
      exact except_bind_ok_iff.mpr ⟨_, first,
        except_bind_ok_iff.mpr ⟨_, ih, rfl⟩⟩

theorem addsKey_of_derived
    {payload : DeriveKeyRequestPayload}
    (clean : execution.before.Clean)
    (derives : execution.payload = .deriveKey payload)
    (symmetric : payload.objectType = .symmetricKey)
    (value : derivedValue execution.world execution.before payload = .ok bytes)
    (outcome : execution.outcome = .ok response) :
    execution.AddsKey bytes := by
  obtain ⟨attributes, keyingObject, others, length, output, base, remaining, row,
    processed, accesses, given, derived, ⟨algorithm, built⟩, adds, origin, _⟩ :=
    derivation_of_outcome clean derives outcome
  have same : derivedValue execution.world execution.before payload =
      .ok output := by
    refine except_bind_ok_iff.mpr ⟨attributes, processed, ?_⟩
    refine except_bind_ok_iff.mpr ⟨_, mapM_eq_ok_of_forall₂ accesses, ?_⟩
    exact except_bind_ok_iff.mpr ⟨length, given, derived⟩
  rw [value] at same
  cases same
  rw [symmetric] at built
  have otherOperation : execution.payload.operation ≠ .create := by
    rw [derives]
    exact Operation.noConfusion
  refine ⟨row, bytes, ?_, origin.trans (derivedObject_symmetricKey_origin built),
    .bytes (.inr otherOperation) rfl⟩
  rw [adds]
  exact Table.lookup_insert_next _ _

/-- The row that an item adds for the key that it makes. -/
theorem addsKey_of_makes
    (clean : execution.before.Clean) (makes : execution.Makes bytes)
    (succeeded : execution.Succeeded) : execution.AddsKey bytes := by
  obtain ⟨response, outcome⟩ := Execution.outcome_of_succeeded succeeded
  cases makes with
  | created creates makes value =>
      exact value ▸ addsKey_of_created clean creates makes outcome
  | registered registers given value =>
      exact value ▸ addsKey_of_registered clean registers given outcome
  | derived derives symmetric value =>
      exact addsKey_of_derived clean derives symmetric value outcome

end Making

section Reading

/-- The row of a raw symmetric key. -/
structure KeyRow (value : Bytes) (managedObject : ManagedObject) : Prop where
  objectType : managedObject.objectType = .symmetricKey
  value : managedObject.value = value
  keyFormatType : managedObject.keyFields?.map KeyFields.keyFormatType =
    some .raw

theorem KeyRow.of_origin
    {value : Bytes} {managedObject : ManagedObject}
    (origin : managedObject.origin = symmetricOrigin value) :
    KeyRow value managedObject where
  objectType := congrArg ManagedObject.Origin.objectType origin
  value := congrArg ManagedObject.Origin.value origin
  keyFormatType := congrArg ManagedObject.Origin.keyFormatType origin

theorem KeyRow.of_immutable_eq
    {value : Bytes} {managedObject other : ManagedObject}
    (row : KeyRow value managedObject)
    (same : other.immutable = managedObject.immutable) :
    KeyRow value other where
  objectType :=
    (ManagedObject.eq_of_immutable_eq ManagedObject.objectType_immutable
      same).trans row.objectType
  value :=
    (ManagedObject.eq_of_immutable_eq (fun _ => rfl) same).trans row.value
  keyFormatType := by
    rw [ManagedObject.eq_of_immutable_eq ManagedObject.keyFields?_immutable
      same]
    exact row.keyFormatType

variable {start : EngineState} {exchanges : List Exchange}
  {prior later : List Execution} {execution next : Execution} {bytes : Bytes}

/-- What is found under the key of the row later in the run. -/
theorem keyRow_of_later
    (divides : history start exchanges = prior ++ execution :: later)
    (adds : execution.AddsKey bytes) :
    ∃ value, execution.StoresKey bytes value ∧
      ∀ next ∈ later, ∀ uniqueIdentifier managedObject,
        next.finds uniqueIdentifier =
            some ⟨execution.rowsBefore.next, managedObject⟩ →
          KeyRow value managedObject := by
  obtain ⟨row, value, stored, origin, stores⟩ := adds
  have confined : Confines (KeyRow value) execution.rowsBefore.next
      execution.rowsAfter := by
    refine ⟨Table.lookup_lt_next stored, fun other found => ?_⟩
    rw [stored] at found
    cases found
    exact .of_origin origin
  refine ⟨value, stores, ?_⟩
  intro next member uniqueIdentifier managedObject found
  have executed : next ∈ history start exchanges := by
    rw [divides]
    exact List.mem_append_right _ (.tail _ member)
  exact (confines_of_later divides
    (fun _ _ _ row evolves => row.of_immutable_eq evolves.immutable) confined
    next member).2 managedObject
      (next.lookup_of_finds (clean_of_mem_history executed) found)

/-- Whether the lookups of a later item can read the key that an item has
stored: the session is active, and with the back end enabled Create has stored
the key, or Barbican happens to hold the bytes under themselves. -/
def Execution.Readable (execution next : Execution) (bytes : Bytes) : Prop :=
  next.before.dataStore.active = true ∧
    (execution.world.osRegionName = true →
      if execution.payload.operation = .create then bytes ≠ []
      else next.before.barbican.retriveSecret bytes = .ok bytes)

/-- What the run has to do with Barbican: it is used by both items or by
neither, gives a new secret a new identifier, and answers the later item. -/
structure Execution.BarbicanAnswers (execution next : Execution) : Prop where
  configured : next.world.osRegionName = execution.world.osRegionName
  fresh : ∀ secretRef ∈ execution.world.createdSecret,
    ∀ secret ∈ execution.before.barbican,
      secretId secret.secretRef ≠ secretId secretRef
  available : next.world.secretsAvailable = true

theorem retrievedCopy_symmetricKey_iff
    {world : World} {state : EngineState} {key : Nat}
    {managedObject : ManagedObject}
    (enabled : world.osRegionName = true)
    (available : world.secretsAvailable = true)
    (symmetric : managedObject.objectType = .symmetricKey) :
    retrievedCopy world state ⟨key, managedObject⟩ =
        .ok ⟨key, { managedObject with value := bytes }⟩ ↔
      state.barbican.retriveSecret managedObject.value = .ok bytes := by
  unfold retrievedCopy
  rw [if_pos ⟨enabled, symmetric⟩, if_pos available]
  cases retrieved : state.barbican.retriveSecret managedObject.value with
  | error exception => simp [bind, Except.bind]
  | ok value =>
      constructor
      · intro copied
        have same := congrArg
          (fun stored : StoredObject => stored.managedObject.value)
          (Except.ok.inj copied)
        exact congrArg Except.ok same
      · intro same
        cases same
        rfl

/-- The copy of the row holds the bytes of the key exactly if it is readable. -/
theorem retrievedCopy_iff
    {value : Bytes} {key : Nat} {managedObject : ManagedObject}
    (stores : execution.StoresKey bytes value)
    (row : KeyRow value managedObject)
    (answers : execution.BarbicanAnswers next)
    (grown : execution.after.barbican <+: next.before.barbican) :
    retrievedCopy next.world next.before ⟨key, managedObject⟩ =
        .ok ⟨key, { managedObject with value := bytes }⟩ ↔
      (execution.world.osRegionName = true →
        if execution.payload.operation = .create then bytes ≠ []
        else next.before.barbican.retriveSecret bytes = .ok bytes) := by
  have holds := row.value
  cases enabled : execution.world.osRegionName with
  | false =>
      have off : next.world.osRegionName = false :=
        answers.configured.trans enabled
      cases stores with
      | bytes direct same =>
          subst same
          subst holds
          unfold retrievedCopy
          rw [off]
          simp
      | reference isEnabled =>
          rw [enabled] at isEnabled
          cases isEnabled
  | true =>
      have on : next.world.osRegionName = true :=
        answers.configured.trans enabled
      rw [retrievedCopy_symmetricKey_iff on answers.available row.objectType,
        holds]
      cases stores with
      | bytes direct same =>
          have other : execution.payload.operation ≠ .create := by
            rcases direct with off | other
            · rw [enabled] at off
              cases off
            · exact other
          rw [same, if_neg other]
          simp
      | @reference secretRef _ creates created refers barbican =>
          have held := Barbican.getSecret_of_isPrefix grown
            (barbican ▸ Barbican.getSecret_createSecret bytes
              (answers.fresh secretRef created))
          rw [refers, Barbican.retriveSecret_encodeUtf8_iff held, if_pos creates]
          simp

/-- A permitted lookup for GET returns the row with the bytes of the key exactly
if it is readable. -/
theorem access_iff
    {value : Bytes} {key : Nat} {managedObject : ManagedObject}
    {uniqueIdentifier : Option String}
    (stores : execution.StoresKey bytes value)
    (row : KeyRow value managedObject)
    (answers : execution.BarbicanAnswers next)
    (grown : execution.after.barbican <+: next.before.barbican)
    (found : next.finds uniqueIdentifier = some ⟨key, managedObject⟩)
    (permitted : isPermitted next.world next.before.clientIdentity .get
      managedObject = true) :
    access next.world next.before uniqueIdentifier .get =
        .ok ⟨key, { managedObject with value := bytes }⟩ ↔
      execution.Readable next bytes := by
  have located : findObject next.world next.before uniqueIdentifier =
    some ⟨key, managedObject⟩ := found
  rw [access_eq_ok_iff]
  unfold Execution.Readable
  rw [← retrievedCopy_iff stores row answers grown]
  refine and_congr_right fun _ => ?_
  constructor
  · rintro ⟨other, alsoLocated, copied, _⟩
    rw [located] at alsoLocated
    cases alsoLocated
    exact copied
  · intro copied
    exact ⟨_, located, copied, permitted⟩

end Reading

section Gets

/-- The request asks for the key in the form in which it is stored. -/
def GetRequestPayload.AsStored (request : GetRequestPayload) : Prop :=
  request.keyCompressionType = none ∧
    ∀ format, request.keyFormatType = some format → format = .raw

/-- The item answers with a symmetric key of these bytes. -/
def Execution.GetsBack (execution : Execution) (bytes : Bytes) : Prop :=
  ∃ keyBlock, execution.outcome =
      .ok (.get .symmetricKey execution.target (.symmetricKey keyBlock)) ∧
    keyBlock.keyValue.keyMaterial = bytes

theorem checkKeyFormat_raw_iff
    {managedObject : ManagedObject} {requested : Option KeyFormatType}
    (raw : managedObject.keyFields?.map KeyFields.keyFormatType = some .raw) :
    checkKeyFormat managedObject requested = .ok () ↔
      ∀ format, requested = some format → format = .raw := by
  unfold checkKeyFormat
  cases requested with
  | none => simp
  | some requested =>
      obtain ⟨fields, present, isRaw⟩ := Option.map_eq_some_iff.mp raw
      rw [present]
      by_cases same : requested = .raw
      · simp [same, isRaw]
      · simp [same, isRaw]

theorem buildCoreObject_symmetricKey
    {managedObject : ManagedObject}
    (symmetric : managedObject.objectType = .symmetricKey) :
    ∃ keyBlock, buildCoreObject managedObject = .symmetricKey keyBlock ∧
      keyBlock.keyValue.keyMaterial = managedObject.value := by
  rcases managedObject with ⟨_, _, _, _, _, _, _, _, ⟨kind, _, _⟩ | _ | _ | _⟩
  · cases kind <;> cases symmetric
    exact ⟨_, rfl, rfl⟩
  all_goals cases symmetric

variable {next : Execution} {bytes : Bytes}

/-- An unwrapped Get of a symmetric key answers with what its lookup returns. -/
theorem getsBack_iff
    {request : GetRequestPayload} {value : Bytes} {key : Nat}
    {managedObject : ManagedObject}
    (asks : next.payload = .get request)
    (listed : ⟨1, 0⟩ ≤ next.before.protocolVersion)
    (unwrapped : request.keyWrappingSpecification = none)
    (row : KeyRow value managedObject)
    (found : next.finds next.target = some ⟨key, managedObject⟩) :
    next.GetsBack bytes ↔
      request.AsStored ∧ access next.world next.before next.target .get =
        .ok ⟨key, { managedObject with value := bytes }⟩ := by
  have target : next.target = next.before.context.payloadOrPlaceholder
      request.uniqueIdentifier := by
    unfold Execution.target
    rw [asks]
    rfl
  have format : ∀ value : Bytes,
      checkKeyFormat { managedObject with value := value }
          request.keyFormatType = .ok () ↔
        ∀ format, request.keyFormatType = some format → format = .raw :=
    fun _ => checkKeyFormat_raw_iff row.keyFormatType
  constructor
  · rintro ⟨keyBlock, outcome, isMaterial⟩
    have ran := Execution.result_of_outcome_ok outcome
    unfold Execution.result at ran
    rw [processOperation_follows, asks] at ran
    obtain ⟨_, ran⟩ := Plan.run_refuseIf_ok ran
    obtain ⟨uncompressed, ran⟩ := Plan.run_refuseIf_ok ran
    obtain ⟨loaded, accessed, ran⟩ := Plan.run_lookup_ok ran
    obtain ⟨_, formatted, ran⟩ := Plan.run_ofExcept_ok ran
    rw [unwrapped] at ran
    obtain ⟨located, read, isLocated, rfl, _⟩ := access_eq_found accessed
    rw [← target] at isLocated accessed
    have same := isLocated.symm.trans found
    cases same
    have secret := (ResponsePayload.get.inj (Plan.run_reply_ok ran)).2.2
    have isRead : read = bytes :=
      (keyMaterial_of_buildCoreObject secret.symm).trans isMaterial
    subst isRead
    exact ⟨⟨by simpa using uncompressed, (format read).mp formatted⟩, accessed⟩
  · rintro ⟨⟨uncompressed, raw⟩, accessed⟩
    obtain ⟨keyBlock, built, isMaterial⟩ := buildCoreObject_symmetricKey
      (show ManagedObject.objectType { managedObject with value := bytes } =
        .symmetricKey from row.objectType)
    refine ⟨keyBlock, ?_, isMaterial⟩
    have answers : next.result =
        .ok (.get .symmetricKey next.target (.symmetricKey keyBlock))
          next.before := by
      unfold Execution.result
      rw [processOperation_follows, asks]
      apply Plan.run_refuseIf_ok_iff.mpr
      refine ⟨not_not.mpr listed, Plan.run_refuseIf_ok_iff.mpr ⟨?_, ?_⟩⟩
      · simp [uncompressed]
      · rw [target] at accessed ⊢
        refine (Plan.run_lookup_of_access accessed).trans ?_
        refine Plan.run_ofExcept_ok_iff.mpr ⟨(), (format bytes).mpr raw, ?_⟩
        rw [unwrapped, ← built, ← row.objectType]
        rfl
    unfold Execution.outcome
    rw [answers]
    rfl

end Gets

section Uses

/-- The identifier of the key that an item computes with. -/
def ItemContext.keyIdentifier (context : ItemContext) :
    RequestPayload → Option (Option String)
  | .encrypt payload => some (context.target (.encrypt payload))
  | .decrypt payload => some (context.target (.decrypt payload))
  | .mac payload => some (context.target (.mac payload))
  | .deriveKey payload => payload.uniqueIdentifiers.head?.map some
  | .get payload => payload.wrappingKey
  | _ => none

/-- The response, or the row, comes from a call of the cryptographic back end
with these bytes as the key. -/
inductive Execution.ComputesWith (execution : Execution) (bytes : Bytes) :
    RequestPayload → ResponsePayload → Prop where
  | encrypt {payload : EncryptRequestPayload}
      {parameters : CryptographicParameters} {result : EncryptionResult}
      (given : payload.cryptographicParameters = some parameters)
      (encrypts : execution.world.cryptographyEngine.encrypt
        parameters.cryptographicAlgorithm bytes payload.data
        parameters.blockCipherMode parameters.paddingMethod
        payload.ivCounterNonce payload.authAdditionalData
        parameters.tagLength = .ok result) :
      execution.ComputesWith bytes (.encrypt payload)
        (.encrypt execution.target result.cipherText result.ivNonce
          result.authTag)
  | decrypt {payload : DecryptRequestPayload}
      {parameters : CryptographicParameters} {plainText : Bytes}
      (given : payload.cryptographicParameters = some parameters)
      (decrypts : execution.world.cryptographyEngine.decrypt
        parameters.cryptographicAlgorithm bytes payload.data
        parameters.blockCipherMode parameters.paddingMethod
        payload.ivCounterNonce payload.authAdditionalData payload.authTag =
          .ok plainText) :
      execution.ComputesWith bytes (.decrypt payload)
        (.decrypt execution.target plainText)
  | mac {payload : MACRequestPayload} {algorithm : CryptographicAlgorithm}
      {data result : Bytes} (given : payload.data = some data)
      (computes : execution.world.cryptographyEngine.mac algorithm bytes data =
        .ok result) :
      execution.ComputesWith bytes (.mac payload) (.mac execution.target result)
  | deriveKey {payload : DeriveKeyRequestPayload}
      {parameters : CryptographicParameters} {length : Int}
      {data : Option Bytes} {output : Bytes} {managedObject : ManagedObject}
      (given : payload.derivationParameters.cryptographicParameters =
        some parameters)
      (derives : execution.world.cryptographyEngine.deriveKey
        payload.derivationMethod length data bytes parameters
        payload.derivationParameters.salt
        payload.derivationParameters.iterationCount
        (payload.derivationParameters.initializationVector.getD []) =
          .ok output)
      (adds : execution.rowsAfter = execution.rowsBefore.insert managedObject)
      (holds : managedObject.value =
        if output.length > length then takeTo length output else output) :
      execution.ComputesWith bytes (.deriveKey payload)
        (.deriveKey (toString execution.rowsBefore.next))
  | wrap {payload : GetRequestPayload} {specification : KeyWrappingSpecification}
      {information : KeyInformation} {parameters : CryptographicParameters}
      {target : StoredObject} {wrapped : Bytes} {secret : CoreSecret}
      (specified : payload.keyWrappingSpecification = some specification)
      (named : specification.encryptionKeyInformation = some information)
      (given : information.cryptographicParameters = some parameters)
      (accessed : access execution.world execution.before execution.target .get =
        .ok target)
      (wraps : execution.world.cryptographyEngine.wrapKey
        target.managedObject.value .encrypt parameters.blockCipherMode bytes =
          .ok wrapped)
      (holds : secret.keyMaterial? = some wrapped) :
      execution.ComputesWith bytes (.get payload)
        (.get target.managedObject.objectType execution.target secret)

variable {execution : Execution} {bytes : Bytes} {response : ResponsePayload}

/-- The handlers that check the object they look up and compute with it. -/
theorem Plan.run_computation_ok
    {world : World} {context : ItemContext} {payload : RequestPayload}
    {before after : EngineState} {supported : ProtocolVersion}
    {operation : String} {uniqueIdentifier : Option String}
    {check : StoredObject → Except PyError α}
    {compute : StoredObject → α → Except PyError β}
    {reply : β → ResponsePayload}
    {reads : readingOperations.contains payload.operation}
    (ran : (Plan.supportedSince supported operation <|
        .lookup uniqueIdentifier none fun storedObject =>
        .ofExcept (check storedObject) fun value =>
        .ofExcept (compute storedObject value) fun result =>
        .reply reads (reply result) : Plan context payload).run world before =
          .ok response after) :
    ∃ storedObject value result,
      access world before uniqueIdentifier payload.accessCode =
        .ok storedObject ∧
      check storedObject = .ok value ∧
      compute storedObject value = .ok result ∧ response = reply result := by
  obtain ⟨storedObject, accessed, ran⟩ :=
    Plan.run_lookup_ok (Plan.run_supportedSince_ok ran)
  obtain ⟨value, checked, ran⟩ := Plan.run_ofExcept_ok ran
  obtain ⟨result, computed, ran⟩ := Plan.run_ofExcept_ok ran
  exact ⟨storedObject, value, result, accessed, checked, computed,
    Plan.run_reply_ok ran⟩

theorem checkKeyUse_parameters
    {use : KeyUse} {cryptographicParameters : Option CryptographicParameters}
    {managedObject : ManagedObject} {parameters : CryptographicParameters}
    (checked : checkKeyUse use cryptographicParameters managedObject =
      .ok parameters) : cryptographicParameters = some parameters := by
  unfold checkKeyUse at checked
  cases cryptographicParameters with
  | none => cases checked
  | some given =>
      simp only at checked
      split at checked
      · cases checked
      · obtain ⟨_, _, checked⟩ := except_bind_ok_iff.mp checked
        split at checked
        · cases checked
        · obtain ⟨_, _, checked⟩ := except_bind_ok_iff.mp checked
          split at checked
          · cases checked
          · cases checked
            rfl

theorem checkMacUse_data
    {payload : MACRequestPayload} {managedObject : ManagedObject}
    {algorithm : CryptographicAlgorithm} {data : Bytes}
    (checked : checkMacUse payload managedObject = .ok (algorithm, data)) :
    payload.data = some data := by
  unfold checkMacUse at checked
  simp only at checked
  split at checked
  · cases checked
  · split at checked
    · cases checked
    · split at checked
      · cases checked
      · obtain ⟨_, _, checked⟩ := except_bind_ok_iff.mp checked
        split at checked
        · cases checked
        · obtain ⟨_, _, checked⟩ := except_bind_ok_iff.mp checked
          split at checked
          · cases checked
          · cases checked
            assumption

/-- The handlers that pass the value of the object they look up to the back
end. -/
theorem computesWith_of_outcome
    {uniqueIdentifier : Option String}
    (clean : execution.before.Clean)
    (named : execution.before.context.keyIdentifier execution.payload =
      some uniqueIdentifier)
    (reads : ∀ loaded, access execution.world execution.before uniqueIdentifier
      .get = .ok loaded → loaded.managedObject.value = bytes)
    (outcome : execution.outcome = .ok response) :
    execution.ComputesWith bytes execution.payload response := by
  have ran := Execution.result_of_outcome_ok outcome
  unfold Execution.result at ran
  rw [processOperation_follows] at ran
  cases asks : execution.payload with
  | encrypt payload =>
      rw [asks] at named ran
      cases named
      obtain ⟨loaded, parameters, result, accessed, checked, encrypts, rfl⟩ :=
        Plan.run_computation_ok ran
      rw [reads loaded accessed] at encrypts
      have encrypted := Execution.ComputesWith.encrypt
        (checkKeyUse_parameters checked) encrypts
      unfold Execution.target at encrypted
      rw [asks] at encrypted
      exact encrypted
  | decrypt payload =>
      rw [asks] at named ran
      cases named
      obtain ⟨loaded, parameters, plainText, accessed, checked, decrypts, rfl⟩ :=
        Plan.run_computation_ok ran
      rw [reads loaded accessed] at decrypts
      have decrypted := Execution.ComputesWith.decrypt
        (checkKeyUse_parameters checked) decrypts
      unfold Execution.target at decrypted
      rw [asks] at decrypted
      exact decrypted
  | mac payload =>
      rw [asks] at named ran
      cases named
      obtain ⟨loaded, ⟨algorithm, data⟩, result, accessed, checked, computes,
        rfl⟩ := Plan.run_computation_ok ran
      rw [reads loaded accessed] at computes
      have computed := Execution.ComputesWith.mac (checkMacUse_data checked)
        computes
      unfold Execution.target at computed
      rw [asks] at computed
      exact computed
  | deriveKey payload =>
      rw [asks] at named
      obtain ⟨attributes, keyingObject, others, length, value, base, remaining,
        row, _, accesses, _, derived, ⟨algorithm, built⟩, adds, origin, rfl⟩ :=
        derivation_of_outcome clean asks outcome
      obtain ⟨parameters, output, given, derives, _, isCut⟩ :=
        derivedData_ok derived
      have isKey : keyingObject.managedObject.value = bytes := by
        cases identifiers : payload.uniqueIdentifiers with
        | nil =>
            rw [identifiers] at accesses
            cases accesses
        | cons first rest =>
            rw [identifiers] at accesses
            simp only [ItemContext.keyIdentifier, identifiers, List.head?_cons,
              Option.map_some] at named
            cases named
            cases accesses with
            | cons accessed _ => exact reads _ accessed
      rw [isKey] at derives
      refine .deriveKey given derives adds ?_
      rw [← isCut]
      exact (congrArg ManagedObject.Origin.value origin).trans
        (derivedObject_ok built).1
  | get payload =>
      rw [asks] at named ran
      obtain ⟨_, ran⟩ := Plan.run_refuseIf_ok (Plan.run_supportedSince_ok ran)
      obtain ⟨object, reached, ran⟩ := Plan.run_lookup_ok ran
      have reached : access execution.world execution.before execution.target
          .get = .ok object := by
        unfold Execution.target
        rw [asks]
        exact reached
      obtain ⟨_, _, ran⟩ := Plan.run_ofExcept_ok ran
      simp only [ItemContext.keyIdentifier,
        GetRequestPayload.wrappingKey] at named
      cases specified : payload.keyWrappingSpecification with
      | none =>
          rw [specified] at named
          cases named
      | some specification =>
          rw [specified] at named ran
          obtain ⟨_, ran⟩ := Plan.run_refuseIf_ok ran
          split at ran
          · rename_i information given
            simp only [Option.bind_some, given, Option.map_some,
              Option.some.injEq] at named
            obtain ⟨loaded, accessed, ran⟩ := Plan.run_lookup_ok ran
            obtain ⟨_, _, ran⟩ := Plan.run_ofExcept_ok ran
            obtain ⟨secret, wraps, ran⟩ := Plan.run_ofExcept_ok ran
            obtain ⟨parameters, present, wraps⟩ := except_bind_ok_iff.mp wraps
            obtain ⟨wrapped, wraps, built⟩ := except_bind_ok_iff.mp wraps
            rw [named] at accessed
            rw [reads loaded accessed] at wraps
            rw [Plan.run_reply_ok ran]
            have wrapped := Execution.ComputesWith.wrap specified given
              (getattr_eq_ok present) reached wraps (unwrapped_iff built).1
            unfold Execution.target at wrapped
            rw [asks] at wrapped
            exact wrapped
          · cases ran
  | create | createKeyPair | deleteAttribute | register | locate
  | getAttributes | getAttributeList | activate | revoke | destroy | query
  | discoverVersions | signatureVerify | setAttribute | modifyAttribute | sign
  | unsupported =>
      rw [asks] at named
      cases named

end Uses

section Runs

/-- What a later item makes of the key that an item has stored: its lookups and
an unwrapped Get return the bytes exactly if they can be read, and if they can,
everything that is computed with the key is computed with them. -/
structure Execution.ServesKey (execution next : Execution) (bytes : Bytes) :
    Prop where
  looksUp : ∀ uniqueIdentifier managedObject,
    next.finds uniqueIdentifier =
        some ⟨execution.rowsBefore.next, managedObject⟩ →
      isPermitted next.world next.before.clientIdentity .get managedObject =
          true →
        (access next.world next.before uniqueIdentifier .get =
            .ok ⟨execution.rowsBefore.next,
              { managedObject with value := bytes }⟩ ↔
          execution.Readable next bytes)
  returns : ∀ request managedObject,
    next.payload = .get request → request.keyWrappingSpecification = none →
      next.finds next.target =
          some ⟨execution.rowsBefore.next, managedObject⟩ →
        next.Permits managedObject →
          (next.GetsBack bytes ↔
            request.AsStored ∧ execution.Readable next bytes)
  computes : execution.Readable next bytes →
    ∀ uniqueIdentifier managedObject response,
      next.before.context.keyIdentifier next.payload = some uniqueIdentifier →
        next.finds uniqueIdentifier =
            some ⟨execution.rowsBefore.next, managedObject⟩ →
          next.outcome = .ok response →
            next.ComputesWith bytes next.payload response

/-- The key of a Create, Register or DeriveKey that succeeds, at any later item
of the run. -/
theorem stored_keys_are_served
    {start : EngineState} {exchanges : List Exchange}
    {prior later : List Execution} {execution next : Execution} {bytes : Bytes}
    (divides : history start exchanges = prior ++ execution :: later)
    (makes : execution.Makes bytes) (succeeded : execution.Succeeded)
    (follows : next ∈ later) (answers : execution.BarbicanAnswers next) :
    execution.ServesKey next bytes := by
  have storing : execution ∈ history start exchanges := by
    rw [divides]
    exact List.mem_append_right _ (.head _)
  have serving : next ∈ history start exchanges := by
    rw [divides]
    exact List.mem_append_right _ (.tail _ follows)
  have adds := addsKey_of_makes (clean_of_mem_history storing) makes succeeded
  obtain ⟨value, stores, isRow⟩ := keyRow_of_later divides adds
  have grown := barbican_of_later divides next follows
  have looksUp : ∀ uniqueIdentifier managedObject,
      next.finds uniqueIdentifier =
          some ⟨execution.rowsBefore.next, managedObject⟩ →
        isPermitted next.world next.before.clientIdentity .get managedObject =
            true →
          (access next.world next.before uniqueIdentifier .get =
              .ok ⟨execution.rowsBefore.next,
                { managedObject with value := bytes }⟩ ↔
            execution.Readable next bytes) :=
    fun _ _ found permitted => access_iff stores
      (isRow next follows _ _ found) answers grown found permitted
  constructor
  · exact looksUp
  · intro request managedObject asks unwrapped found permitted
    rw [← looksUp _ _ found (by
      unfold Execution.Permits at permitted
      rwa [asks] at permitted)]
    exact getsBack_iff asks (oldest_le_of_mem_history serving) unwrapped
      (isRow next follows _ _ found) found
  · intro readable uniqueIdentifier managedObject response named found outcome
    refine computesWith_of_outcome (clean_of_mem_history serving) named ?_
      outcome
    intro loaded accessed
    obtain ⟨object, _, located, _, permitted⟩ := access_eq_found accessed
    have same := located.symm.trans found
    cases same
    have returned := (looksUp _ _ found permitted).mpr readable
    rw [accessed] at returned
    cases returned
    rfl

end Runs

section Samples

/-- A request of one item, with the back end enabled. -/
def storing (payload : RequestPayload) : Exchange :=
  sampleExchange barbicanWorld "alice" [{ requestPayload := payload }]

def storingItem (payload : RequestPayload) : Execution :=
  ⟨barbicanWorld, { requestPayload := payload },
    (storing payload).entering (newEngine .empty [])⟩

/-- The owner gets the key of the first request. -/
def gettingItem (payload : RequestPayload) : Execution :=
  ⟨barbicanWorld, { requestPayload := sampleGet },
    (storing sampleGet).entering
      ((storing payload).after (newEngine .empty []))⟩

theorem history_gettingItem (payload : RequestPayload) :
    history (newEngine .empty []) [storing payload, storing sampleGet] =
      [] ++ storingItem payload :: [gettingItem payload] := by
  have executed : ∀ payload state, (storing payload).executions state =
      [⟨barbicanWorld, { requestPayload := payload },
        (storing payload).entering state⟩] := by
    intro payload state
    exact Exchange.executions_singleton
      (show checkHeader (storing payload).world.received
        (storing payload).header = .ok .stop from rfl) rfl state
  rw [history, history, history, executed, executed]
  rfl

/-- A key that has been created with the back end enabled is got back. -/
theorem stored_keys_are_served_creation :
    (gettingItem sampleCreation).GetsBack (List.replicate 16 0) := by
  have makes : (storingItem sampleCreation).Makes (List.replicate 16 0) :=
    .created rfl rfl rfl
  have served := stored_keys_are_served (history_gettingItem sampleCreation)
    makes (by decide +kernel) (.head _)
    ⟨rfl, fun _ _ _ member => absurd member List.not_mem_nil, rfl⟩
  have found : ∃ managedObject,
      (gettingItem sampleCreation).finds (gettingItem sampleCreation).target =
          some ⟨(storingItem sampleCreation).rowsBefore.next, managedObject⟩ ∧
        (gettingItem sampleCreation).Permits managedObject :=
    ⟨_, rfl, by decide +kernel⟩
  obtain ⟨managedObject, found, permitted⟩ := found
  refine (served.returns _ managedObject rfl rfl found permitted).mpr ?_
  refine ⟨⟨rfl, nofun⟩, by decide +kernel, fun _ => ?_⟩
  exact List.cons_ne_nil _ _

/-- A key that has been registered with the back end enabled is looked for in
Barbican. -/
theorem registered_key_is_not_served :
    ¬∀ (start : EngineState) (exchanges : List Exchange)
        (prior later : List Execution) (execution next : Execution)
        (bytes : Bytes) (request : GetRequestPayload)
        (managedObject : ManagedObject),
      history start exchanges = prior ++ execution :: later →
      execution.Makes bytes → execution.Succeeded → next ∈ later →
      execution.BarbicanAnswers next → next.payload = .get request →
      request.keyWrappingSpecification = none → request.AsStored →
      next.finds next.target =
        some ⟨execution.rowsBefore.next, managedObject⟩ →
      next.Permits managedObject → next.GetsBack bytes := by
  intro served
  let payload := keyRegistration encryptionKeyBytes none
  have found : ∃ managedObject,
      (gettingItem payload).finds (gettingItem payload).target =
          some ⟨(storingItem payload).rowsBefore.next, managedObject⟩ ∧
        (gettingItem payload).Permits managedObject :=
    ⟨_, rfl, by decide +kernel⟩
  obtain ⟨managedObject, found, permitted⟩ := found
  obtain ⟨keyBlock, answered, _⟩ := served _ _ _ _ _ _ encryptionKeyBytes _
    managedObject (history_gettingItem payload) (.registered rfl rfl rfl)
    (by decide +kernel) (.head _)
    ⟨rfl, fun _ _ _ member => absurd member List.not_mem_nil, rfl⟩ rfl rfl
    ⟨rfl, nofun⟩ found permitted
  have fails : ¬(gettingItem payload).Succeeded := by decide +kernel
  exact fails (Execution.succeeded_of_outcome answered)

end Samples

end PyKMIP
