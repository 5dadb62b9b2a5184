import PyKMIP.Properties.SecretAccess
import PyKMIP.Transactions.Agreement

/-!
# Secrets in Barbican and the keys that refer to them

Create hands the value of a key to Barbican before it sets the attributes of
the key and commits it, and Destroy does not delete the secret.  The secrets of
a run correspond to symmetric keys as long as no Create fails after that point,
no key that refers to a secret is destroyed, and nobody stores the reference to
a secret as the bytes of a key.
-/

namespace PyKMIP

open EStateM StatefulExcept History

section Correspondence

/-- A symmetric key that keeps the reference to a secret as its value. -/
def ManagedObject.RefersTo (managedObject : ManagedObject) (secretRef : String) :
    Prop :=
  managedObject.objectType = .symmetricKey ∧
    managedObject.value = encodeUtf8 secretRef

instance (managedObject : ManagedObject) (secretRef : String) :
    Decidable (managedObject.RefersTo secretRef) :=
  inferInstanceAs (Decidable (_ ∧ _))

/-- The object refers to one of the secrets. -/
def Barbican.KeptBy (barbican : Barbican) (managedObject : ManagedObject) :
    Prop :=
  ∃ secret ∈ barbican, managedObject.RefersTo secret.secretRef

instance (barbican : Barbican) (managedObject : ManagedObject) :
    Decidable (barbican.KeptBy managedObject) :=
  inferInstanceAs (Decidable (∃ _ ∈ _, _))

/-- The row with the key refers to the secret. -/
def RefersAt (rows : Table ManagedObject) (key : Nat) (secretRef : String) :
    Prop :=
  ∃ managedObject, rows.lookup key = some managedObject ∧
    managedObject.RefersTo secretRef

/-- Every secret has one key that refers to it, and no key refers to two. -/
structure Correspond (rows : Table ManagedObject) (barbican : Barbican) :
    Prop where
  distinct : (barbican.map Secret.secretRef).Nodup
  unique : ∀ secret ∈ barbican, ∃! key, RefersAt rows key secret.secretRef
  single : ∀ first ∈ barbican, ∀ second ∈ barbican, ∀ key,
    RefersAt rows key first.secretRef → RefersAt rows key second.secretRef →
      first = second

variable {rows : Table ManagedObject} {barbican : Barbican}

theorem secretRef_of_refersAt
    {key : Nat} {first second : String}
    (refersFirst : RefersAt rows key first)
    (refersSecond : RefersAt rows key second) : first = second := by
  obtain ⟨managedObject, found, _, holdsFirst⟩ := refersFirst
  obtain ⟨other, foundOther, _, holdsSecond⟩ := refersSecond
  rw [found] at foundOther
  cases foundOther
  exact encodeUtf8_injective (holdsFirst.symm.trans holdsSecond)

theorem Correspond.intro
    (distinct : (barbican.map Secret.secretRef).Nodup)
    (unique : ∀ secret ∈ barbican, ∃! key, RefersAt rows key secret.secretRef) :
    Correspond rows barbican where
  distinct := distinct
  unique := unique
  single := by
    intro first firstMember second secondMember key refersFirst refersSecond
    have same := secretRef_of_refersAt refersFirst refersSecond
    exact List.inj_on_of_nodup_map distinct firstMember secondMember same

theorem Correspond.empty : Correspond Table.empty [] :=
  .intro List.nodup_nil fun _ member => absurd member List.not_mem_nil

/-- Other rows correspond to the same secrets as long as the same keys refer to
them. -/
theorem Correspond.congr
    (corresponds : Correspond rows barbican) {changed : Table ManagedObject}
    (same : ∀ secret ∈ barbican, ∀ key,
      RefersAt changed key secret.secretRef ↔
        RefersAt rows key secret.secretRef) :
    Correspond changed barbican := by
  apply Correspond.intro corresponds.distinct
  intro secret member
  obtain ⟨key, refers, only⟩ := corresponds.unique secret member
  refine ⟨key, (same secret member key).mpr refers, ?_⟩
  intro other otherRefers
  exact only other ((same secret member other).mp otherRefers)

theorem refersAt_update
    {key : Nat} {changed : ManagedObject} {secretRef : String}
    (keeps : ∀ old, rows.lookup key = some old →
      (changed.RefersTo secretRef ↔ old.RefersTo secretRef)) (other : Nat) :
    RefersAt (rows.update key fun _ => changed) other secretRef ↔
      RefersAt rows other secretRef := by
  unfold RefersAt
  rw [Table.lookup_update]
  split
  · rename_i same
    subst same
    cases found : rows.lookup other with
    | none => simp
    | some old => simpa using keeps old found
  · rfl

theorem refersAt_remove
    {key : Nat} {target : ManagedObject} {secretRef : String}
    (found : rows.lookup key = some target)
    (other : ¬target.RefersTo secretRef) (row : Nat) :
    RefersAt (rows.remove key) row secretRef ↔
      RefersAt rows row secretRef := by
  unfold RefersAt
  rw [Table.lookup_remove]
  split
  · rename_i same
    subst same
    simp [found, other]
  · rfl

theorem refersAt_insert
    {managedObject : ManagedObject} {secretRef : String} (key : Nat) :
    RefersAt (rows.insert managedObject) key secretRef ↔
      RefersAt rows key secretRef ∨
        key = rows.next ∧ managedObject.RefersTo secretRef := by
  unfold RefersAt
  rw [Table.lookup_insert]
  split
  · rename_i same
    subst same
    have unused : rows.lookup rows.next = none :=
      Table.lookup_eq_none_of_le (Nat.le_refl _)
    simp [unused]
  · rename_i different
    simp [different]

theorem refersAt_addRows
    {objects : List ManagedObject} {secretRef : String}
    (others : ∀ managedObject ∈ objects, ¬managedObject.RefersTo secretRef)
    (key : Nat) :
    RefersAt (addRows rows objects) key secretRef ↔
      RefersAt rows key secretRef := by
  induction objects generalizing rows with
  | nil => rfl
  | cons managedObject rest ih =>
      have inserted : RefersAt (addRows rows (managedObject :: rest)) key
            secretRef ↔
          RefersAt (rows.insert (DataStore.withColumnDefaults managedObject))
            key secretRef :=
        ih fun other member => others other (.tail _ member)
      rw [inserted, refersAt_insert]
      have unrelated : ¬(DataStore.withColumnDefaults managedObject).RefersTo
          secretRef := others managedObject (.head _)
      simp [unrelated]

/-- A new key for a new secret. -/
theorem Correspond.createSecret
    (corresponds : Correspond rows barbican) {managedObject : ManagedObject}
    {secretRef : String} {payload : Bytes}
    (fresh : secretRef ∉ barbican.map Secret.secretRef)
    (unreferred : rows.Forall fun old => ¬old.RefersTo secretRef)
    (refers : managedObject.RefersTo secretRef) :
    Correspond (rows.insert managedObject)
      (barbican.createSecret secretRef payload) := by
  apply Correspond.intro
  · unfold Barbican.createSecret
    rw [List.map_append]
    apply List.Nodup.append corresponds.distinct (List.nodup_singleton _)
    intro taken member isNew
    rw [List.mem_singleton] at isNew
    subst isNew
    exact fresh member
  · intro secret member
    rcases List.mem_append.mp member with old | new
    · have apart : ¬managedObject.RefersTo secret.secretRef := by
        intro alsoRefers
        have same := encodeUtf8_injective (refers.2.symm.trans alsoRefers.2)
        exact fresh (same ▸ List.mem_map_of_mem old)
      obtain ⟨key, atKey, only⟩ := corresponds.unique secret old
      refine ⟨key, (refersAt_insert key).mpr (.inl atKey), ?_⟩
      intro other atOther
      rcases (refersAt_insert other).mp atOther with before | ⟨_, added⟩
      · exact only other before
      · exact absurd added apart
    · rw [List.mem_singleton.mp new]
      refine ⟨rows.next, (refersAt_insert _).mpr (.inr ⟨rfl, refers⟩), ?_⟩
      intro other atOther
      rcases (refersAt_insert other).mp atOther with before | ⟨isNext, _⟩
      · obtain ⟨old, found, oldRefers⟩ := before
        exact absurd oldRefers (Table.forall_iff_lookup.mp unreferred _ _ found)
      · exact isNext

end Correspondence

section Sparing

variable {world : World} {context : ItemContext} {payload : RequestPayload}
  {before : EngineState}

def EngineState.SecretsCorrespond (state : EngineState) : Prop :=
  Correspond state.dataStore.committed state.barbican

/-- The plan adds no key that refers to a secret which exists already, and once
it has a secret created, it stores the key for it. -/
def Plan.Spares (world : World) (state : EngineState) :
    Plan context payload → Prop
  | .refuse _ => True
  | .reply _ _ => True
  | .lookup uniqueIdentifier _ next => ∀ storedObject,
      access world state uniqueIdentifier payload.accessCode =
          .ok storedObject →
        (next storedObject).Spares world state
  | .list next => ∀ storedObjects, (next storedObjects).Spares world state
  | .update _ _ => True
  | .create creation => ∀ managedObject ∈ creation.others ++ [creation.last],
      ¬state.barbican.KeptBy managedObject
  | .createSecret creation => ∀ secretRef ∈ world.createdSecret,
      secretRef ∉ state.barbican.map Secret.secretRef ∧
        state.dataStore.active = true ∧
        (creation.build secretRef).isOk ∧
        state.dataStore.committed.Forall fun old => ¬old.RefersTo secretRef

theorem Plan.Spares.ofExcept
    {outcome : Except PyError α} {next : α → Plan context payload}
    (spares : ∀ value, outcome = .ok value → (next value).Spares world before) :
    (Plan.ofExcept outcome next).Spares world before := by
  cases outcome with
  | ok value => exact spares value rfl
  | error exception => trivial

theorem Plan.Spares.refuseIf
    {condition : Prop} [Decidable condition] {exception : PyError}
    {plan : Plan context payload}
    (spares : ¬condition → plan.Spares world before) :
    (Plan.refuseIf condition exception plan).Spares world before := by
  unfold Plan.refuseIf
  split
  · trivial
  · exact spares ‹_›

theorem Plan.Spares.supportedSince
    {supported : ProtocolVersion} {operation : String}
    {plan : Plan context payload} (spares : plan.Spares world before) :
    (Plan.supportedSince supported operation plan).Spares world before :=
  .refuseIf fun _ => spares

/-- Only operations that produce objects can do harm. -/
theorem Plan.spares_of_not_producing
    (plan : Plan context payload)
    (other : ¬producingOperations.contains payload.operation) :
    plan.Spares world before := by
  induction plan with
  | refuse exception => trivial
  | reply reads reply => trivial
  | lookup uniqueIdentifier disguise next ih => exact fun found _ => ih found
  | list next ih => exact ih
  | update writes decide => trivial
  | create creation => exact absurd creation.producing other
  | createSecret creation =>
      rw [creation.creating] at other
      exact absurd rfl other

theorem refersTo_of_evolves
    {old changed : ManagedObject} (evolves : Evolves payload old changed)
    (secretRef : String) :
    changed.RefersTo secretRef ↔ old.RefersTo secretRef := by
  have sameType : changed.objectType = old.objectType :=
    ManagedObject.eq_of_immutable_eq ManagedObject.objectType_immutable
      evolves.immutable
  have sameValue : changed.immutable.value = old.immutable.value :=
    congrArg ManagedObject.value evolves.immutable
  change changed.value = old.value at sameValue
  unfold ManagedObject.RefersTo
  rw [sameType, sameValue]

theorem flush_correspond
    {dataStore : DataStore} {idPlaceholder : Option String}
    {reply : ResponsePayload}
    (corresponds : before.SecretsCorrespond)
    (kept : dataStore.committed = before.dataStore.committed)
    (flushed : Correspond dataStore.session before.barbican) :
    (finalState
      (before.flush dataStore idPlaceholder reply)).SecretsCorrespond := by
  unfold EngineState.SecretsCorrespond
  cases flushes : before.flush dataStore idPlaceholder reply with
  | ok response after =>
      obtain ⟨_, commits, barbican, _⟩ := flush_eq_ok flushes
      rw [finalState_ok, commits.committed, barbican]
      exact flushed
  | error exception after =>
      obtain ⟨store, rfl, committed, _⟩ := flush_eq_error flushes
      rw [finalState_error]
      change Correspond store.committed before.barbican
      rw [committed, kept]
      exact corresponds

theorem SecretCreation.correspond
    {creation : SecretCreation payload} (clean : before.Clean)
    (spares : (Plan.createSecret creation : Plan context payload).Spares world
      before)
    (corresponds : before.SecretsCorrespond) :
    (finalState (creation.run world before)).SecretsCorrespond := by
  unfold SecretCreation.run
  split
  · exact corresponds
  · rename_i secretRef created
    obtain ⟨fresh, active, builds, unreferred⟩ := spares secretRef created
    cases built : creation.build secretRef with
    | error exception =>
        rw [built] at builds
        cases builds
    | ok managedObject =>
        have refers := creation.refers _ _ built
        have flushed : (before.dataStore.add managedObject).session.Forall
            fun stored => stored.storable :=
          clean.storable.insert (storable_of_symmetricKey refers.1)
        simp only
        rw [flush_of_storable (before.dataStore.add managedObject) active flushed]
        have session : before.dataStore.session = before.dataStore.committed :=
          clean
        change Correspond (before.dataStore.session.insert _) _
        rw [session]
        exact corresponds.createSecret fresh unreferred refers

/-- What a plan that spares secrets leaves, whether it succeeds or fails. -/
theorem Plan.Spares.correspond
    {plan : Plan context payload} (spares : plan.Spares world before)
    (clean : before.Clean)
    (keeps : payload.operation = .destroy → ∀ target,
      findObject world before (context.target payload) = some target →
      isPermitted world before.clientIdentity payload.accessCode
        target.managedObject = true →
      target.managedObject.state? ≠ some .active →
      ¬before.barbican.KeptBy target.managedObject)
    (corresponds : before.SecretsCorrespond) :
    (finalState (plan.run world before)).SecretsCorrespond := by
  have session : before.dataStore.session = before.dataStore.committed := clean
  induction plan with
  | refuse exception => exact corresponds
  | reply reads reply => exact corresponds
  | lookup uniqueIdentifier disguise next ih =>
      rw [Plan.run]
      split
      · exact ih _ (spares _ ‹_›)
      · exact corresponds
  | list next ih =>
      rw [Plan.run]
      split
      · exact corresponds
      · exact ih _ (spares _)
  | update writes decide =>
      rw [Plan.run]
      split
      · exact corresponds
      · rename_i target accessed
        obtain ⟨found, located, loaded, permitted⟩ := access_eq_ok accessed
        rw [loadedCopy, if_neg (accessCode_ne_get writes)] at loaded
        cases loaded
        have stored := findObject_eq_some located
        rw [session] at stored
        split
        · exact corresponds
        · rename_i written decided
          cases written with
          | change changed evolves reply =>
              refine flush_correspond corresponds rfl (corresponds.congr ?_)
              intro secret member key
              change RefersAt (before.dataStore.session.update _ _) _ _ ↔ _
              rw [session]
              apply refersAt_update
              intro old isOld
              rw [stored] at isOld
              cases isOld
              exact refersTo_of_evolves evolves _
          | remove destroys inactive reply =>
              refine flush_correspond corresponds rfl (corresponds.congr ?_)
              intro secret member key
              change RefersAt (before.dataStore.session.remove _) _ _ ↔ _
              rw [session]
              apply refersAt_remove stored
              intro refers
              exact keeps destroys target located permitted inactive
                ⟨secret, member, refers⟩
  | create creation =>
      have unrelated : ∀ secret ∈ before.barbican,
          ∀ managedObject ∈ creation.others ++ [creation.last],
            ¬managedObject.RefersTo secret.secretRef :=
        fun secret member managedObject added refers =>
          spares managedObject added ⟨secret, member, refers⟩
      refine flush_correspond corresponds
        (committed_addAll before.dataStore creation.others) ?_
      have added : ((creation.others.foldl DataStore.add before.dataStore).add
            creation.last).session =
          addRows before.dataStore.committed
            (creation.others ++ [creation.last]) := by
        rw [← session, ← session_addAll, List.foldl_append]
        rfl
      rw [added]
      apply corresponds.congr
      intro secret member
      exact refersAt_addRows (unrelated secret member)
  | createSecret creation => exact creation.correspond clean spares corresponds

end Sparing

section Conditions

variable {world : World} {before : EngineState}

/-- What Create makes before it has a secret created. -/
def createdKey (world : World) (state : EngineState)
    (payload : CreateRequestPayload) :
    Except PyError (ObjectAttributes × ManagedObject) := do
  let objectAttributes ← processOptionalTemplate state.protocolVersion
    payload.templateAttribute
  let required ← requiredKeyAttributes objectAttributes ""
  let value ← world.cryptographyEngine.createSymmetricKey required.algorithm
    required.length
  let symmetricKey ← newSymmetricKey required.algorithm required.length value
  return (objectAttributes, symmetricKey)

/-- The bytes that DeriveKey derives from the objects it looks up. -/
def derivedValue (world : World) (state : EngineState)
    (payload : DeriveKeyRequestPayload) : Except PyError Bytes := do
  let objectAttributes ← processOptionalTemplate state.protocolVersion
    payload.templateAttribute
  let existingObjects ← payload.uniqueIdentifiers.mapM fun uniqueIdentifier =>
    access world state (some uniqueIdentifier) .get
  match existingObjects with
  | [] => .error (.python .indexError)
  | keyingObject :: others => do
      let length ← derivationLength objectAttributes
      derivedData world payload length keyingObject others

/-- The attributes of the key can all be set, and nobody has stored the
reference before it exists. -/
def CreateCompletes (world : World) (state : EngineState)
    (payload : CreateRequestPayload) : Prop :=
  payload.objectType = .symmetricKey →
    ∀ created, createdKey world state payload = .ok created →
    ∀ secretRef ∈ world.createdSecret,
      state.dataStore.active = true ∧
        (completeObject world state.clientIdentity created.1
          { created.2 with value := encodeUtf8 secretRef }).isOk ∧
        state.dataStore.committed.Forall fun old => ¬old.RefersTo secretRef

/-- The request does not part a secret from its key, and does not make another
key refer to it. -/
def KeepsSecrets (world : World) (state : EngineState) :
    RequestPayload → Prop
  | .create payload => CreateCompletes world state payload
  | .register payload => ∀ secret ∈ payload.managedObject,
      ∀ managedObject, convert secret = .ok managedObject →
        ¬state.barbican.KeptBy managedObject
  | .deriveKey payload => payload.objectType = .symmetricKey →
      ∀ value, derivedValue world state payload = .ok value →
        ∀ secret ∈ state.barbican, value ≠ encodeUtf8 secret.secretRef
  | .destroy uniqueIdentifier => ∀ target ∈ findObject world state
        (state.context.valueOrPlaceholder uniqueIdentifier),
      isPermitted world state.clientIdentity .destroy target.managedObject =
          true →
        target.managedObject.state? ≠ some .active →
        ¬state.barbican.KeptBy target.managedObject
  | _ => True

theorem keptBy_of_origin
    {barbican : Barbican} {completed managedObject : ManagedObject}
    (same : completed.origin = managedObject.origin)
    (kept : barbican.KeptBy completed) : barbican.KeptBy managedObject := by
  obtain ⟨secret, member, symmetric, value⟩ := kept
  have sameType : completed.objectType = managedObject.objectType :=
    congrArg ManagedObject.Origin.objectType same
  have sameValue : completed.value = managedObject.value :=
    congrArg ManagedObject.Origin.value same
  rw [sameType] at symmetric
  rw [sameValue] at value
  exact ⟨secret, member, symmetric, value⟩

theorem newPublicKey_objectType
    {algorithm : CryptographicAlgorithm} {length : Int} {value : Bytes}
    {format : KeyFormatType} {wrapping : KeyWrappingColumns}
    {managedObject : ManagedObject}
    (built : newPublicKey algorithm length value format wrapping =
      .ok managedObject) : managedObject.objectType = .publicKey := by
  unfold newPublicKey at built
  split at built
  · cases built
    rfl
  · cases built

theorem newPrivateKey_objectType
    {algorithm : CryptographicAlgorithm} {length : Int} {value : Bytes}
    {format : KeyFormatType} {wrapping : KeyWrappingColumns}
    {managedObject : ManagedObject}
    (built : newPrivateKey algorithm length value format wrapping =
      .ok managedObject) : managedObject.objectType = .privateKey := by
  unfold newPrivateKey at built
  split at built
  · cases built
    rfl
  · cases built

/-- A key of another type refers to nothing. -/
theorem not_keptBy_of_completed
    {clientIdentity : ClientIdentity} {attributes : ObjectAttributes}
    {managedObject completed : ManagedObject} {barbican : Barbican}
    (other : managedObject.objectType ≠ .symmetricKey)
    (completes : completeObject world clientIdentity attributes managedObject =
      .ok completed) : ¬barbican.KeptBy completed := by
  intro kept
  obtain ⟨secret, _, symmetric, _⟩ :=
    keptBy_of_origin (completeObject_origin completes) kept
  exact other symmetric

theorem planCreate_spares
    (payload : CreateRequestPayload) (enabled : world.osRegionName = true)
    (fresh : ∀ secretRef ∈ world.createdSecret,
      secretRef ∉ before.barbican.map Secret.secretRef)
    (completes : CreateCompletes world before payload) :
    (planCreate world before.context payload).Spares world before := by
  refine .supportedSince <| .refuseIf fun symmetric =>
    .ofExcept fun objectAttributes processed =>
    .ofExcept fun required requires => .ofExcept fun value created =>
    .ofExcept fun symmetricKey _ => ?_
  rw [if_pos enabled]
  intro secretRef named
  have made : createdKey world before payload =
      .ok (objectAttributes, symmetricKey.1) := by
    refine except_bind_ok_iff.mpr ⟨_, processed, ?_⟩
    refine except_bind_ok_iff.mpr ⟨_, requires, ?_⟩
    refine except_bind_ok_iff.mpr ⟨_, created, ?_⟩
    exact except_bind_ok_iff.mpr ⟨_, symmetricKey.2, rfl⟩
  obtain ⟨active, completed, unreferred⟩ :=
    completes (not_not.mp symmetric) _ made secretRef named
  exact ⟨fresh secretRef named, active, completed, unreferred⟩

theorem planCreateKeyPair_spares (payload : CreateKeyPairRequestPayload) :
    (planCreateKeyPair world before.context payload).Spares world before := by
  refine .supportedSince <| .ofExcept fun _ _ => .ofExcept fun _ _ =>
    .ofExcept fun _ _ => .ofExcept fun _ _ => .ofExcept fun _ _ =>
    .refuseIf fun _ => .refuseIf fun _ => .ofExcept fun _ _ =>
    .ofExcept fun publicKey _ => .ofExcept fun privateKey _ =>
    .ofExcept fun publicObject _ => .ofExcept fun privateObject _ => ?_
  intro added member
  rcases List.mem_cons.mp member with rfl | last
  · apply not_keptBy_of_completed _ publicObject.2
    rw [newPublicKey_objectType publicKey.2]
    exact ObjectType.noConfusion
  · rw [List.mem_singleton.mp last]
    apply not_keptBy_of_completed _ privateObject.2
    rw [newPrivateKey_objectType privateKey.2]
    exact ObjectType.noConfusion

theorem planRegister_spares
    (payload : RegisterRequestPayload)
    (keeps : KeepsSecrets world before (.register payload)) :
    (planRegister world before.context payload).Spares world before := by
  refine .supportedSince <| .refuseIf fun _ => .ofExcept fun secret given =>
    .ofExcept fun _ _ => .ofExcept fun converted _ =>
    .ofExcept fun managedObject _ => ?_
  intro added member kept
  rw [List.mem_singleton.mp member] at kept
  apply keeps secret _ converted.1 converted.2
    (keptBy_of_origin (completeObject_origin managedObject.2) kept)
  split at given
  · cases given
    assumption
  · cases given

theorem planSources_spares
    {payload : DeriveKeyRequestPayload} (uniqueIdentifiers : List String)
    {next : List StoredObject → Plan before.context (.deriveKey payload)}
    (spares : ∀ storedObjects,
      uniqueIdentifiers.mapM (fun uniqueIdentifier =>
        access world before (some uniqueIdentifier) .get) = .ok storedObjects →
      (next storedObjects).Spares world before) :
    (planSources uniqueIdentifiers next).Spares world before := by
  induction uniqueIdentifiers generalizing next with
  | nil => exact spares [] rfl
  | cons uniqueIdentifier rest ih =>
      intro storedObject accessed
      refine .refuseIf fun _ => .ofExcept fun _ _ => .refuseIf fun _ => ?_
      apply ih
      intro others located
      apply spares
      change access world before (some uniqueIdentifier) .get = _ at accessed
      rw [List.mapM_cons]
      refine except_bind_ok_iff.mpr ⟨storedObject, accessed, ?_⟩
      exact except_bind_ok_iff.mpr ⟨others, located, rfl⟩

theorem derivedObject_symmetric
    {objectType : ObjectType} {algorithm : Option CryptographicAlgorithm}
    {length : Int} {value : Bytes} {attributes : ObjectAttributes}
    {derived : ManagedObject × ObjectAttributes}
    (built : derivedObject objectType algorithm length value attributes =
      .ok derived)
    (symmetric : derived.1.objectType = .symmetricKey) :
    objectType = .symmetricKey ∧ derived.1.value = value := by
  unfold derivedObject at built
  split at built
  · obtain ⟨given, _, built⟩ := except_bind_ok_iff.mp built
    obtain ⟨symmetricKey, constructed, built⟩ := except_bind_ok_iff.mp built
    cases built
    have origin := newSymmetricKey_origin constructed
    exact ⟨‹_›, congrArg ManagedObject.Origin.value origin⟩
  · cases built
    cases symmetric

theorem planDeriveKey_spares
    (payload : DeriveKeyRequestPayload)
    (keeps : KeepsSecrets world before (.deriveKey payload)) :
    (planDeriveKey world before.context payload).Spares world before := by
  refine .supportedSince <| .ofExcept fun objectAttributes processed =>
    .refuseIf fun _ => .refuseIf fun _ =>
    planSources_spares _ fun existingObjects located =>
    .ofExcept fun keyingObject isFirst => .ofExcept fun length lengthened =>
    .ofExcept fun algorithm _ => .ofExcept fun value derives =>
    .ofExcept fun derived _ => .ofExcept fun managedObject _ => ?_
  intro added member kept
  rw [List.mem_singleton.mp member] at kept
  obtain ⟨secret, held, symmetric, refers⟩ :=
    keptBy_of_origin (completeObject_origin managedObject.2) kept
  obtain ⟨symmetricType, isValue⟩ := derivedObject_symmetric derived.2 symmetric
  rw [isValue] at refers
  apply keeps symmetricType value _ secret held refers
  cases existingObjects with
  | nil => cases isFirst
  | cons first others =>
      cases isFirst
      refine except_bind_ok_iff.mpr ⟨objectAttributes, processed, ?_⟩
      refine except_bind_ok_iff.mpr ⟨_, located, ?_⟩
      exact except_bind_ok_iff.mpr ⟨length, lengthened, derives⟩

theorem plan_spares
    (payload : RequestPayload) (enabled : world.osRegionName = true)
    (fresh : payload.operation = .create →
      ∀ secretRef ∈ world.createdSecret,
        secretRef ∉ before.barbican.map Secret.secretRef)
    (keeps : KeepsSecrets world before payload) :
    (plan world before.context payload).Spares world before := by
  by_cases producing : producingOperations.contains payload.operation
  · cases payload with
    | create payload =>
        exact planCreate_spares payload enabled (fresh rfl) keeps
    | createKeyPair payload => exact planCreateKeyPair_spares payload
    | register payload => exact planRegister_spares payload keeps
    | deriveKey payload => exact planDeriveKey_spares payload keeps
    | unsupported operation undispatched => trivial
    | _ => simp [RequestPayload.operation, producingOperations] at producing
  · exact Plan.spares_of_not_producing _ producing

end Conditions

section Runs

namespace Execution

/-- The back end is enabled, and gives every new secret a new reference. -/
def BarbicanServes (execution : Execution) : Prop :=
  execution.world.osRegionName = true ∧
    (execution.payload.operation = .create →
      ∀ secretRef ∈ execution.world.createdSecret,
        secretRef ∉ execution.before.barbican.map Secret.secretRef)

def KeepsSecrets (execution : Execution) : Prop :=
  PyKMIP.KeepsSecrets execution.world execution.before execution.payload

variable {execution : Execution}

/-- One item keeps the correspondence, whether it succeeds or fails. -/
theorem correspond
    (clean : execution.before.Clean) (serves : execution.BarbicanServes)
    (keeps : execution.KeepsSecrets)
    (corresponds : execution.before.SecretsCorrespond) :
    execution.after.SecretsCorrespond := by
  have planned : execution.after = finalState
      ((PyKMIP.plan execution.world execution.before.context
        execution.payload).run execution.world execution.before) :=
    congrArg finalState (processOperation_follows _ _ _)
  rw [planned]
  apply (plan_spares execution.payload serves.1 serves.2 keeps).correspond clean
    _ corresponds
  intro destroys target located permitted inactive
  unfold KeepsSecrets at keeps
  generalize execution.payload = payload at *
  cases payload with
  | destroy uniqueIdentifier => exact keeps target located permitted inactive
  | unsupported operation undispatched =>
      change operation = .destroy at destroys
      subst destroys
      exact absurd undispatched (by decide)
  | _ => cases destroys

end Execution

/-- The states of engines that have only served items of a kind, over a database
and a Barbican that were empty once. -/
inductive ServedBy (allowed : Execution → Prop) : EngineState → Prop where
  | start : ServedBy allowed (newEngine .empty [])
  | restart : ServedBy allowed state →
      ServedBy allowed (newEngine state.dataStore state.barbican)
  | request (exchange : Exchange) :
      ServedBy allowed state →
      (∀ execution ∈ exchange.executions state, allowed execution) →
      ServedBy allowed (exchange.after state)

theorem Exchange.correspond
    {exchange : Exchange} {state : EngineState}
    (served : ∀ execution ∈ exchange.executions state,
      execution.BarbicanServes ∧ execution.KeepsSecrets)
    (corresponds : state.SecretsCorrespond) :
    (exchange.after state).SecretsCorrespond ∧
      ∀ execution ∈ exchange.executions state,
        execution.before.SecretsCorrespond := by
  refine (exchange.linked state).invariant
    (fun durable : Durable => Correspond durable.rows durable.barbican) ?_
    corresponds
  intro execution member
  obtain ⟨serves, keeps⟩ := served execution member
  exact execution.correspond (exchange.serves_of_mem state member).clean serves
    keeps

/-- Between any two items, the secrets in Barbican correspond to symmetric keys
of the store. -/
theorem secrets_correspond
    {state : EngineState}
    (reached : ServedBy (fun execution =>
      execution.BarbicanServes ∧ execution.KeepsSecrets) state) :
    state.SecretsCorrespond ∧
      ∀ exchange : Exchange,
        (∀ execution ∈ exchange.executions state,
          execution.BarbicanServes ∧ execution.KeepsSecrets) →
        ∀ execution ∈ exchange.executions state,
          execution.before.SecretsCorrespond ∧
            execution.after.SecretsCorrespond := by
  have corresponds : state.SecretsCorrespond := by
    induction reached with
    | start => exact .empty
    | restart _ ih => exact ih
    | request exchange _ served ih => exact (exchange.correspond served ih).1
  refine ⟨corresponds, fun exchange served execution member => ?_⟩
  have entered := (exchange.correspond served corresponds).2 execution member
  obtain ⟨serves, keeps⟩ := served execution member
  exact ⟨entered, execution.correspond
    (exchange.serves_of_mem state member).clean serves keeps entered⟩

end Runs

section Samples

instance Except.decidableForallOk
    (outcome : Except ε α) (property : α → Prop) [DecidablePred property] :
    Decidable (∀ value, outcome = .ok value → property value) :=
  match outcome with
  | .ok value => decidable_of_iff (property value)
      ⟨fun holds _ same => Except.ok.inj same ▸ holds, fun all => all value rfl⟩
  | .error _ => .isTrue fun _ differs => by cases differs

instance (world : World) (state : EngineState)
    (payload : CreateRequestPayload) :
    Decidable (CreateCompletes world state payload) := by
  unfold CreateCompletes
  infer_instance

instance (world : World) (state : EngineState) :
    (payload : RequestPayload) → Decidable (KeepsSecrets world state payload)
  | .create payload =>
      inferInstanceAs (Decidable (CreateCompletes world state payload))
  | .register payload => inferInstanceAs
      (Decidable (∀ secret ∈ payload.managedObject, _))
  | .deriveKey payload => inferInstanceAs
      (Decidable (payload.objectType = .symmetricKey → _))
  | .destroy _ => inferInstanceAs (Decidable (∀ target ∈ findObject _ _ _, _))
  | .createKeyPair _ | .deleteAttribute _ | .locate _ | .get _
  | .getAttributes _ | .getAttributeList _ | .activate _ | .revoke _ | .query _
  | .discoverVersions _ | .encrypt _ | .decrypt _ | .signatureVerify _
  | .setAttribute _ | .modifyAttribute _ | .mac _ | .sign _
  | .unsupported _ _ => .isTrue trivial

instance (execution : Execution) :
    Decidable (execution.BarbicanServes ∧ execution.KeepsSecrets) :=
  inferInstanceAs (Decidable ((_ ∧ (_ → ∀ _ ∈ _, _)) ∧
    PyKMIP.KeepsSecrets _ _ _))

instance (execution : Execution) : Decidable execution.BarbicanServes :=
  inferInstanceAs (Decidable (_ ∧ (_ → ∀ _ ∈ _, _)))

/-- A key whose secret is created, and stays the only one. -/
theorem secrets_correspond_creation :
    ((sampleExchange barbicanWorld "alice"
      [{ requestPayload := sampleCreation }]).after
        (newEngine .empty [])).SecretsCorrespond := by
  apply And.left
  apply secrets_correspond
  apply ServedBy.request _ .start
  decide +kernel

/-- A key with one name twice, which only fails once its secret exists. -/
def sameNames : RequestPayload :=
  .create {
    objectType := .symmetricKey
    templateAttribute := some {
      attributes := [
        { attributeName := .cryptographicAlgorithm
          attributeValue := .cryptographicAlgorithm .aes },
        { attributeName := .cryptographicLength
          attributeValue := .integer 128 },
        { attributeName := .cryptographicUsageMask
          attributeValue := .integer 12 },
        { attributeName := .name
          attributeIndex := some 0
          attributeValue := .name ⟨"key", .uninterpretedTextString⟩ },
        { attributeName := .name
          attributeIndex := some 1
          attributeValue := .name ⟨"key", .uninterpretedTextString⟩ }] } }

theorem secrets_do_not_correspond :
    ¬∀ state, ServedBy Execution.BarbicanServes state →
      state.SecretsCorrespond := by
  intro correspond
  let exchange := sampleExchange barbicanWorld "alice"
    [{ requestPayload := sameNames }]
  have served : ServedBy Execution.BarbicanServes
      (exchange.after (newEngine .empty [])) := by
    apply ServedBy.request _ .start
    decide +kernel
  have corresponds := correspond _ served
  have unstored :
      (exchange.after (newEngine .empty [])).dataStore.committed = .empty := by
    decide +kernel
  have created : (exchange.after (newEngine .empty [])).barbican ≠ [] := by
    decide +kernel
  obtain ⟨secret, held⟩ := List.exists_mem_of_ne_nil _ created
  obtain ⟨key, ⟨managedObject, found, _⟩, _⟩ := corresponds.unique secret held
  rw [unstored] at found
  cases found

end Samples

end PyKMIP
