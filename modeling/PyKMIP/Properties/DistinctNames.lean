import PyKMIP.Rows
import PyKMIP.Transactions.Upholding

/-!
# Names of an object stay distinct

Templates cannot give an object one name twice, and deleting a name leaves
distinct names.  ModifyAttribute does not compare the new name with the other
names of the object, so a run keeps names distinct as long as no such request
asks for a name that the object already has elsewhere.
-/

namespace PyKMIP

open EStateM StatefulExcept
open AttributePolicy

namespace ManagedObject

def NamesDistinct (managedObject : ManagedObject) : Prop :=
  managedObject.names.Nodup

instance (managedObject : ManagedObject) :
    Decidable managedObject.NamesDistinct :=
  inferInstanceAs (Decidable (List.Nodup _))

end ManagedObject

open ManagedObject

section Templates

theorem setField_names
    [DecidableEq τ] (attributeName : AttributeName)
    (existing : ManagedObject → Except PyError τ) (truthy : τ → Bool)
    {assign : τ → ManagedObject → ManagedObject} {value : τ}
    {managedObject : ManagedObject}
    (assigned : (assign value managedObject).names = managedObject.names) :
    ReturnsIn (fun changed => changed.names = managedObject.names)
      managedObject
      (setField attributeName existing truthy assign value) := by
  unfold setField
  apply ReturnsIn.get
  apply ReturnsIn.fromExcept
  intro existingValue _
  apply ReturnsIn.ite
  · intro _
    exact .raiseIfLast fun _ => rfl
  · intro _
    exact .set assigned

theorem setSingleValuedAttribute_names
    (attributeName : AttributeName) (attributeValue : AttributeValue)
    (managedObject : ManagedObject) :
    ReturnsIn (fun changed => changed.names = managedObject.names)
      managedObject
      (setSingleValuedAttribute attributeName attributeValue) := by
  unfold setSingleValuedAttribute
  split
  · exact .fromExcept fun algorithm _ => setField_names _ _ _ rfl
  · exact .fromExcept fun length _ => setField_names _ _ _ rfl
  · exact .fromExcept fun mask _ => setField_names _ _ _ rfl
  · exact .fromExcept fun policyName _ => setField_names _ _ _ rfl
  · exact .fromExcept fun sensitive _ => setField_names _ _ _ rfl
  · exact .raise _

theorem setMultivaluedAttribute_distinct
    (attributeName : AttributeName) (values : List AttributeValue)
    {managedObject : ManagedObject} (distinct : managedObject.NamesDistinct) :
    ReturnsIn NamesDistinct managedObject
      (setMultivaluedAttribute attributeName values) := by
  unfold setMultivaluedAttribute
  split
  · -- only the check decides, whatever the names were extended to
    refine .fromExcept fun names _ => .bind (.any _ _) fun _ extended _ => .get (.raiseIfLast not_not.mp)
  · exact .fromExcept fun infos _ => .modify distinct
  · exact .fromExcept fun groups _ => .modify distinct
  · exact .raise _

theorem setAttributeOnManagedObject_distinct
    (attributeName : AttributeName) (attributeValue : TemplateValue)
    {managedObject : ManagedObject} (distinct : managedObject.NamesDistinct) :
    ReturnsIn NamesDistinct managedObject
      (setAttributeOnManagedObject attributeName attributeValue) := by
  unfold setAttributeOnManagedObject
  apply ReturnsIn.fromExcept
  intro multivalued _
  apply ReturnsIn.ite
  · intro _
    apply ReturnsIn.fromExcept
    intro values _
    exact setMultivaluedAttribute_distinct attributeName values distinct
  · intro _
    apply ReturnsIn.fromExcept
    intro value _ result changed ran
    have same := setSingleValuedAttribute_names attributeName value
      managedObject result changed ran
    unfold NamesDistinct
    rw [same]
    exact distinct

theorem setAttributesOnManagedObject_distinct
    (attributes : ObjectAttributes) (managedObject : ManagedObject)
    (distinct : managedObject.NamesDistinct) :
    ReturnsIn NamesDistinct managedObject
      (setAttributesOnManagedObject attributes) := by
  apply ReturnsIn.forM
  · intro entry current distinct
    unfold setApplicableAttribute
    apply ReturnsIn.get
    apply ReturnsIn.fromExcept
    intro applicable _
    apply ReturnsIn.ite
    · intro _
      exact setAttributeOnManagedObject_distinct entry.1 entry.2 distinct
    · intro _
      exact .raise _
  · exact distinct

/-- A new object has the names of its template, which must be distinct. -/
theorem completeObject_distinct
    {world : World} {clientIdentity : ClientIdentity}
    {attributes : ObjectAttributes} {managedObject completed : ManagedObject}
    (ran : completeObject world clientIdentity attributes managedObject =
      .ok completed) :
    completed.NamesDistinct := by
  have kept := setAttributesOnManagedObject_distinct attributes
    { managedObject with names := [] } List.nodup_nil
  unfold completeObject onNewObject at ran
  split at ran
  · rename_i changed setAll
    have distinct := kept _ _ setAll
    cases ran
    exact distinct
  · cases ran

end Templates

section Deletion

theorem deleteInstances_sublist
    [DecidableEq α] {instances remaining : List α} {value : Option α}
    {shown : α → String} {attributeIndex : Option Int}
    (deleted : deleteInstances instances value shown attributeIndex =
      .ok remaining) :
    remaining.Sublist instances := by
  unfold deleteInstances at deleted
  split at deleted
  · split at deleted
    · cases deleted
      exact List.erase_sublist
    · cases deleted
  · split at deleted
    · split at deleted
      · cases deleted
        exact List.eraseIdx_sublist _ _
      · cases deleted
    · cases deleted
  · cases deleted
    exact List.nil_sublist _

theorem deleteAttributeFromManagedObject_distinct
    (attributeName : AttributeName) (attributeIndex : Option Int)
    (attributeValue : Option AttributeValue) {managedObject : ManagedObject}
    (distinct : managedObject.NamesDistinct) :
    ReturnsIn NamesDistinct managedObject
      (deleteAttributeFromManagedObject attributeName attributeIndex
        attributeValue) := by
  unfold deleteAttributeFromManagedObject
  refine .get (.fromExcept fun applicable _ => .raiseIf fun _ =>
    .fromExcept fun deletable _ => .raiseIf fun _ =>
    .fromExcept fun multivalued _ => .ite (fun _ => ?_) fun _ => .raise _)
  unfold deleteMultivaluedAttribute
  split
  · refine .get (.raiseIf fun _ => .fromExcept fun names deleted => .set ?_)
    exact distinct.sublist (deleteInstances_sublist deleted)
  · exact .get (.fromExcept fun value _ => .fromExcept fun infos _ =>
      .set distinct)
  · exact .get (.fromExcept fun value _ => .fromExcept fun groups _ =>
      .set distinct)
  · exact .raise _

end Deletion

section Modification

/-- The position of the name that a ModifyAttribute request replaces, and the
name that it puts there. -/
def renamed (version : ProtocolVersion) (names : List String)
    (payload : ModifyAttributeRequestPayload) : Option (Nat × String) := do
  if version20 ≤ version then
    let newAttribute ← payload.newAttribute
    let current ← payload.currentAttribute
    match newAttribute.attributeName, newAttribute.attributeValue,
        current.attributeValue with
    | .name, .name value, .name old =>
        some (names.idxOf old.nameValue, value.nameValue)
    | _, _, _ => none
  else
    let modification ← payload.attributeField
    let index := modification.attributeIndex.getD 0
    match modification.attributeName, modification.attributeValue with
    | .name, .name value =>
        if 0 ≤ index then some (index.toNat, value.nameValue) else none
    | _, _ => none

/-- The request does not put a name next to an equal one. -/
def NamesApart (version : ProtocolVersion) (names : List String) :
    RequestPayload → Prop
  | .modifyAttribute payload => ∀ position name,
      renamed version names payload = some (position, name) →
      position < names.length → name ∉ names.eraseIdx position
  | _ => True

theorem nodup_set
    {names : List String} {position : Nat} {name : String}
    (distinct : names.Nodup) (apart : name ∉ names.eraseIdx position) :
    (names.set position name).Nodup := by
  induction names generalizing position with
  | nil => exact distinct
  | cons first rest ih =>
      obtain ⟨fresh, distinctRest⟩ := List.nodup_cons.mp distinct
      cases position with
      | zero => exact List.nodup_cons.mpr ⟨apart, distinctRest⟩
      | succ position =>
          rw [List.eraseIdx_cons_succ, List.mem_cons, not_or] at apart
          refine List.nodup_cons.mpr ⟨?_, ih distinctRest apart.2⟩
          intro member
          rcases List.mem_or_eq_of_mem_set member with old | new
          · exact fresh old
          · exact apart.1 new.symm

theorem assignAt_eq_ok
    {values assigned : List α} {index : Nat} {value : α}
    (assigns : assignAt values index value = .ok assigned) :
    index < values.length ∧ assigned = values.set index value := by
  unfold assignAt at assigns
  split at assigns
  · cases assigns
    exact ⟨‹_›, rfl⟩
  · cases assigns

theorem setAttributeOnManagedObjectByIndex_distinct
    (attributeName : AttributeName) (attributeValue : AttributeValue)
    (attributeIndex : Nat) {managedObject : ManagedObject}
    (distinct : managedObject.NamesDistinct)
    (apart : ∀ value, attributeName = .name → attributeValue = .name value →
      attributeIndex < managedObject.names.length →
      value.nameValue ∉ managedObject.names.eraseIdx attributeIndex) :
    ReturnsIn NamesDistinct managedObject
      (setAttributeOnManagedObjectByIndex attributeName attributeValue
        attributeIndex) := by
  unfold setAttributeOnManagedObjectByIndex
  split
  · exact .get (.fromExcept fun info _ => .fromExcept fun infos _ =>
      .set distinct)
  · refine .get (.fromExcept fun value named =>
      .fromExcept fun names assigns => .set ?_)
    obtain ⟨inside, rfl⟩ := assignAt_eq_ok assigns
    apply nodup_set distinct
    apply apart value rfl _ inside
    cases attributeValue <;> cases named
    rfl
  · exact .get (.fromExcept fun group _ => .fromExcept fun groups _ =>
      .set distinct)
  · exact .pure distinct

/-- The instance that a current attribute of version 2.0 is found at. -/
theorem getAttributeIndex_name
    {storedObject : StoredObject} {attributeValue : AttributeValue}
    {index : Nat}
    (found : getAttributeIndexFromManagedObject storedObject .name
      attributeValue = .ok (some index)) :
    ∃ old, attributeValue = .name old ∧
      index = storedObject.managedObject.names.idxOf old.nameValue := by
  change findInstance storedObject.managedObject.names
    (Name.nameValue <$> attributeValue.asName) = .ok (some index) at found
  unfold findInstance at found
  split at found
  · cases found
  · cases attributeValue <;> try cases found
    rename_i old
    refine ⟨old, rfl, ?_⟩
    change (Except.ok _ : Except PyError (Option Nat)) = .ok (some index) at found
    have position := Except.ok.inj found
    rw [List.findIdx?_eq_some_iff_findIdx_eq] at position
    rw [List.idxOf, ← position.2]
    rfl

theorem modifyByValue_distinct
    {storedObject : StoredObject} {payload : ModifyAttributeRequestPayload}
    {version : ProtocolVersion} (recent : version20 ≤ version)
    (distinct : storedObject.managedObject.NamesDistinct)
    (apart : NamesApart version storedObject.managedObject.names
      (.modifyAttribute payload)) :
    ReturnsIn NamesDistinct storedObject.managedObject
      (modifyByValue storedObject payload) := by
  unfold modifyByValue
  apply ReturnsIn.fromExcept
  intro newAttribute requested
  refine .fromExcept fun checked _ => .fromExcept fun multivalued _ => ?_
  have single := setAttributeOnManagedObject_distinct newAttribute.attributeName
    (.single newAttribute.attributeValue) distinct
  apply ReturnsIn.ite
  · intro _
    split
    · exact .raise _
    · rename_i current specified
      apply ReturnsIn.fromExcept
      intro index found
      split
      · exact .raise _
      · rename_i position
        apply setAttributeOnManagedObjectByIndex_distinct _ _ _ distinct
        intro value named valued inside
        rw [named] at found
        obtain ⟨old, isName, rfl⟩ := getAttributeIndex_name found
        apply apart _ value.nameValue _ inside
        cases given : payload.newAttribute with
        | none =>
            rw [given] at requested
            cases requested
        | some added =>
            rw [given] at requested
            cases requested
            simp [renamed, recent, given, specified, named, valued, isName]
  · intro _
    split
    · exact .fromExcept fun existing _ => .raiseIf fun _ => single
    · exact .fromExcept fun index _ => .raiseIf fun _ => single

theorem modifyByIndex_distinct
    {storedObject : StoredObject} {payload : ModifyAttributeRequestPayload}
    {modification : Attribute} {version : ProtocolVersion}
    (early : ¬version20 ≤ version)
    (requested : payload.attributeField = some modification)
    (distinct : storedObject.managedObject.NamesDistinct)
    (apart : NamesApart version storedObject.managedObject.names
      (.modifyAttribute payload)) :
    ReturnsIn NamesDistinct storedObject.managedObject
      (modifyByIndex version storedObject modification) := by
  unfold modifyByIndex
  refine .fromExcept fun checked _ => .fromExcept fun multivalued _ =>
    .ite (fun _ => ?_) fun _ => ?_
  · refine .raiseIf fun nonnegative => .fromExcept fun count _ =>
      .raiseIf fun _ => .map _ ?_
    apply setAttributeOnManagedObjectByIndex_distinct _ _ _ distinct
    intro value named valued inside
    apply apart _ value.nameValue _ inside
    simp [renamed, early, requested, named, valued, not_lt.mp nonnegative]
  · exact .raiseIf fun _ => .fromExcept fun existing _ => .raiseIf fun _ =>
      .map _ (setAttributeOnManagedObject_distinct _ _ distinct)

end Modification

section Plans

variable {world : World} {context : ItemContext}

/-- The targets whose names a request leaves distinct. -/
def Renamable (context : ItemContext) (payload : RequestPayload)
    (target : StoredObject) : Prop :=
  NamesApart context.protocolVersion target.managedObject.names payload

theorem planCreate_distinct (payload : CreateRequestPayload) :
    (planCreate world context payload).Upholds NamesDistinct
      (Renamable context (.create payload)) := by
  refine .supportedSince <| .refuseIf <| .ofExcept fun objectAttributes _ =>
    .ofExcept fun required _ => .ofExcept fun value _ =>
    .ofExcept fun symmetricKey _ => ?_
  split
  · exact fun secretRef managedObject built => completeObject_distinct built
  · refine .ofExcept fun managedObject _ => ?_
    intro added member
    rw [List.mem_singleton.mp member]
    exact completeObject_distinct managedObject.2

theorem planCreateKeyPair_distinct (payload : CreateKeyPairRequestPayload) :
    (planCreateKeyPair world context payload).Upholds NamesDistinct
      (Renamable context (.createKeyPair payload)) := by
  refine .supportedSince <| .ofExcept fun _ _ => .ofExcept fun _ _ =>
    .ofExcept fun _ _ => .ofExcept fun _ _ => .ofExcept fun _ _ =>
    .refuseIf <| .refuseIf <| .ofExcept fun _ _ => .ofExcept fun _ _ =>
    .ofExcept fun _ _ => .ofExcept fun publicObject _ =>
    .ofExcept fun privateObject _ => ?_
  intro added member
  rcases List.mem_cons.mp member with rfl | last
  · exact completeObject_distinct publicObject.2
  · rw [List.mem_singleton.mp last]
    exact completeObject_distinct privateObject.2

theorem planRegister_distinct (payload : RegisterRequestPayload) :
    (planRegister world context payload).Upholds NamesDistinct
      (Renamable context (.register payload)) := by
  refine .supportedSince <| .refuseIf <| .ofExcept fun _ _ =>
    .ofExcept fun _ _ => .ofExcept fun _ _ =>
    .ofExcept fun managedObject _ => ?_
  intro added member
  rw [List.mem_singleton.mp member]
  exact completeObject_distinct managedObject.2

theorem planSources_upholds
    {payload : DeriveKeyRequestPayload} {property : ManagedObject → Prop}
    {relevant : StoredObject → Prop} (uniqueIdentifiers : List String)
    {next : List StoredObject → Plan context (.deriveKey payload)}
    (upholds : ∀ storedObjects,
      (next storedObjects).Upholds property relevant) :
    (planSources uniqueIdentifiers next).Upholds property relevant := by
  induction uniqueIdentifiers generalizing next with
  | nil => exact upholds []
  | cons uniqueIdentifier rest ih =>
      intro storedObject
      refine .refuseIf <| .ofExcept fun _ _ => .refuseIf ?_
      exact ih fun others => upholds (storedObject :: others)

theorem planDeriveKey_distinct (payload : DeriveKeyRequestPayload) :
    (planDeriveKey world context payload).Upholds NamesDistinct
      (Renamable context (.deriveKey payload)) := by
  refine .supportedSince <| .ofExcept fun _ _ => .refuseIf <| .refuseIf <|
    planSources_upholds _ fun _ => .ofExcept fun _ _ => .ofExcept fun _ _ =>
    .ofExcept fun _ _ => .ofExcept fun _ _ => .ofExcept fun _ _ =>
    .ofExcept fun managedObject _ => ?_
  intro added member
  rw [List.mem_singleton.mp member]
  exact completeObject_distinct managedObject.2

theorem planActivate_distinct (payloadIdentifier : Option String) :
    (planActivate context payloadIdentifier).Upholds NamesDistinct
      (Renamable context (.activate payloadIdentifier)) := by
  apply Plan.Upholds.supportedSince
  intro target changed evolves reply _ distinct decided
  apply changing_upholds _ decided
  unfold activateObject
  apply ReturnsIn.get
  split
  · exact .raise _
  · exact .raiseIf fun _ => .set distinct

theorem planRevoke_distinct (payload : RevokeRequestPayload) :
    (planRevoke context payload).Upholds NamesDistinct
      (Renamable context (.revoke payload)) := by
  apply Plan.Upholds.supportedSince
  split
  · exact .refuse
  · intro target changed evolves reply _ distinct decided
    apply changing_upholds _ decided
    unfold revokeObject
    apply ReturnsIn.get
    split
    · exact .raise _
    · refine .ite (fun _ => .ite (fun _ => .set distinct) fun _ => .set distinct)
        fun _ => .raiseIf fun _ => .set distinct

theorem planDestroy_distinct (payloadIdentifier : Option String) :
    (planDestroy context payloadIdentifier).Upholds NamesDistinct
      (Renamable context (.destroy payloadIdentifier)) := by
  apply Plan.Upholds.supportedSince
  intro target changed evolves reply _ _ decided
  change removing target rfl _ = _ at decided
  unfold removing at decided
  split at decided
  · cases decided
  · cases decided

theorem planDeleteAttribute_distinct (payload : DeleteAttributeRequestPayload) :
    (planDeleteAttribute context payload).Upholds NamesDistinct
      (Renamable context (.deleteAttribute payload)) := by
  apply Plan.Upholds.supportedSince
  intro target changed evolves reply _ distinct decided
  obtain ⟨answer, _, decided⟩ := except_bind_ok_iff.mp decided
  exact changing_upholds
    (deleteAttributeFromManagedObject_distinct _ _ _ distinct) decided

theorem planSetAttribute_distinct (payload : SetAttributeRequestPayload) :
    (planSetAttribute context payload).Upholds NamesDistinct
      (Renamable context (.setAttribute payload)) := by
  apply Plan.Upholds.supportedSince
  intro target changed evolves reply _ distinct decided
  obtain ⟨newAttribute, _, decided⟩ := except_bind_ok_iff.mp decided
  obtain ⟨settable, _, decided⟩ := except_bind_ok_iff.mp decided
  exact changing_upholds
    (setAttributesOnManagedObject_distinct _ _ distinct) decided

theorem planModifyAttribute_distinct (payload : ModifyAttributeRequestPayload) :
    (planModifyAttribute context payload).Upholds NamesDistinct
      (Renamable context (.modifyAttribute payload)) := by
  apply Plan.Upholds.supportedSince
  intro target changed evolves reply apart distinct decided
  split at decided
  · rename_i recent
    exact changing_upholds (modifyByValue_distinct recent distinct apart) decided
  · rename_i early
    obtain ⟨modification, requested, decided⟩ :=
      except_bind_ok_iff.mp decided
    apply changing_upholds _ decided
    apply ReturnsIn.read
    apply modifyByIndex_distinct early _ distinct apart
    cases given : payload.attributeField with
    | none =>
        rw [given] at requested
        cases requested
    | some field =>
        rw [given] at requested
        cases requested
        rfl

/-- No request that leaves names apart makes names of an object equal. -/
theorem plan_distinct
    (payload : RequestPayload)
    (writes : writingOperations.contains payload.operation ∨
      producingOperations.contains payload.operation) :
    (plan world context payload).Upholds NamesDistinct
      (Renamable context payload) := by
  cases payload with
  | create payload => exact planCreate_distinct payload
  | createKeyPair payload => exact planCreateKeyPair_distinct payload
  | register payload => exact planRegister_distinct payload
  | deriveKey payload => exact planDeriveKey_distinct payload
  | activate payload => exact planActivate_distinct payload
  | revoke payload => exact planRevoke_distinct payload
  | destroy payload => exact planDestroy_distinct payload
  | deleteAttribute payload => exact planDeleteAttribute_distinct payload
  | setAttribute payload => exact planSetAttribute_distinct payload
  | modifyAttribute payload => exact planModifyAttribute_distinct payload
  | unsupported operation undispatched => exact .refuse
  | _ => simp [RequestPayload.operation, writingOperations,
      producingOperations] at writes

end Plans

section Runs

/-- The item does not rename the object it finds to a name that the object
already has elsewhere. -/
def Execution.KeepsNamesApart (execution : Execution) : Prop :=
  ∀ target, execution.finds execution.target = some target →
    execution.Permits target.managedObject →
    NamesApart execution.before.protocolVersion target.managedObject.names
      execution.payload

/-- The states of engines that have only served items of a kind, over a
database that was empty once. -/
inductive ReachableBy (allowed : Execution → Prop) : EngineState → Prop where
  | start (barbican : Barbican) :
      ReachableBy allowed (newEngine .empty barbican)
  | restart : ReachableBy allowed state →
      ReachableBy allowed (newEngine state.dataStore state.barbican)
  | request (exchange : Exchange) :
      ReachableBy allowed state →
      (∀ execution ∈ exchange.executions state, allowed execution) →
      ReachableBy allowed (exchange.after state)

theorem ReachableBy.rows_invariant
    {allowed : Execution → Prop} {state : EngineState}
    (property : Table ManagedObject → Prop) (initially : property .empty)
    (keeps : ∀ execution : Execution, execution.before.Clean →
      allowed execution → property execution.rowsBefore →
      property execution.rowsAfter)
    (reachable : ReachableBy allowed state) :
    property state.dataStore.committed := by
  induction reachable with
  | start barbican => exact initially
  | restart _ ih => exact ih
  | @request state exchange _ served ih =>
      have lifted := (exchange.linked state).map Durable.rows
      exact (lifted.invariant property
        (fun execution member =>
          keeps execution (exchange.serves_of_mem state member).clean
            (served execution member)) ih).1

theorem rows_distinct_step
    {execution : Execution} (clean : execution.before.Clean)
    (apart : execution.KeepsNamesApart)
    (holds : execution.rowsBefore.Forall NamesDistinct) :
    execution.rowsAfter.Forall NamesDistinct := by
  by_cases succeeded : execution.Succeeded
  · obtain ⟨response, outcome⟩ := Execution.outcome_of_succeeded succeeded
    have ran := Execution.result_of_outcome_ok outcome
    have transaction := Execution.transaction outcome
    by_cases writes : writingOperations.contains execution.payload.operation ∨
        producingOperations.contains execution.payload.operation
    · have followed : (plan execution.world execution.before.context
          execution.payload).run execution.world execution.before =
          .ok response execution.after := by
        rw [← processOperation_follows]
        exact ran
      exact (plan_distinct execution.payload writes).committed
        (fun _ distinct => distinct) clean apart holds followed
    · have session : execution.before.dataStore.session =
          execution.rowsBefore := clean
      unfold Execution.rowsAfter
      generalize execution.after = after at transaction ⊢
      cases transaction with
      | read => exact holds
      | change _ _ changes => exact absurd (.inl changes) writes
      | remove _ destroys =>
          rw [destroys] at writes
          exact absurd (.inl rfl) writes
      | create _ _ producing => exact absurd (.inr producing) writes
      | createSecret _ _ _ creating =>
          rw [creating] at writes
          exact absurd (.inr rfl) writes
  · rw [Execution.rowsAfter_of_failed clean succeeded]
    exact holds

/-- Names stay distinct as long as no object is renamed to one of its names. -/
theorem names_stay_distinct
    {state : EngineState} (reachable : ReachableBy Execution.KeepsNamesApart state) :
    state.dataStore.committed.Forall NamesDistinct :=
  reachable.rows_invariant (fun rows => rows.Forall NamesDistinct)
    (fun _ member => absurd member List.not_mem_nil)
    fun _ clean apart holds => rows_distinct_step clean apart holds

end Runs

section Samples

instance (version : ProtocolVersion) (names : List String) :
    (payload : RequestPayload) → Decidable (NamesApart version names payload)
  | .modifyAttribute payload =>
      match renames : renamed version names payload with
      | none => .isTrue (by
          intro position name found
          rw [renames] at found
          cases found)
      | some (position, name) =>
          decidable_of_iff
            (position < names.length → name ∉ names.eraseIdx position) (by
              constructor
              · intro apart position name found
                rw [renames] at found
                cases found
                exact apart
              · exact fun apart => apart position name renames)
  | .create _ | .createKeyPair _ | .deleteAttribute _ | .register _
  | .deriveKey _ | .locate _ | .get _ | .getAttributes _ | .getAttributeList _
  | .activate _ | .revoke _ | .destroy _ | .query _ | .discoverVersions _
  | .encrypt _ | .decrypt _ | .signatureVerify _ | .setAttribute _ | .mac _
  | .sign _ | .unsupported _ _ => .isTrue trivial

instance (execution : Execution) : Decidable execution.KeepsNamesApart :=
  match found : execution.finds execution.target with
  | none => .isTrue (by
      intro target finds
      rw [found] at finds
      cases finds)
  | some target =>
      decidable_of_iff (execution.Permits target.managedObject →
        NamesApart execution.before.protocolVersion target.managedObject.names
          execution.payload) (by
        constructor
        · intro apart target finds
          rw [found] at finds
          cases finds
          exact apart
        · exact fun apart => apart target found)

/-- The creation of a key with two names. -/
def twoNames : RequestPayload :=
  .create {
    objectType := .symmetricKey
    templateAttribute := some {
      attributes := [
        { attributeName := .cryptographicAlgorithm
          attributeValue := .cryptographicAlgorithm .aes },
        { attributeName := .cryptographicLength
          attributeValue := .integer 128 },
        { attributeName := .cryptographicUsageMask
          attributeValue := .integer 12 },
        { attributeName := .name
          attributeIndex := some 0
          attributeValue := .name ⟨"first", .uninterpretedTextString⟩ },
        { attributeName := .name
          attributeIndex := some 1
          attributeValue := .name ⟨"second", .uninterpretedTextString⟩ }] } }

/-- The second name of the new key is replaced. -/
def renameSecond (name : String) : Exchange :=
  sampleExchange sampleWorld "alice"
    [{ uniqueBatchItemId := some [1], requestPayload := twoNames },
      { uniqueBatchItemId := some [2]
        requestPayload := .modifyAttribute {
          uniqueIdentifier := none
          attributeField := some {
            attributeName := .name
            attributeIndex := some 1
            attributeValue := .name ⟨name, .uninterpretedTextString⟩ } } }]

theorem names_stay_distinct_renamed :
    ((renameSecond "third").after
      (newEngine .empty [])).dataStore.committed.Forall NamesDistinct := by
  apply names_stay_distinct
  apply ReachableBy.request _ (.start [])
  decide

theorem names_do_not_stay_distinct :
    ¬∀ state, Reachable state →
      state.dataStore.committed.Forall NamesDistinct := by
  intro distinct
  have equal : ¬((renameSecond "first").after
      (newEngine .empty [])).dataStore.committed.Forall NamesDistinct := by
    decide
  exact equal (distinct _ (.request _ (.start [])))

end Samples

end PyKMIP

