import PyKMIP.Rows
import PyKMIP.Transactions.Agreement

/-!
# Authorization

Every object that an item reads, uses, changes or removes is one whose policy
gives the client the permission for the operation of the item.
-/

namespace PyKMIP

open List (lookup)

section Policies

/-- The groups for which the permissions of a client are evaluated. -/
def ClientIdentity.sessionGroups (client : ClientIdentity) :
    List (Option String) :=
  client.groups.elim [none] (List.map some)

/-- One of the groups of the client has the permission by the policy that the
object names, for its type and its owner. -/
def Authorizes (world : World) (client : ClientIdentity) (operation : Operation)
    (managedObject : ManagedObject) : Prop :=
  ∃ group ∈ client.sessionGroups, ∃ policySection permissions,
    getRelevantPolicySection world.operationPolicies
        managedObject.operationPolicyName group = some policySection ∧
    lookup managedObject.objectType policySection = some permissions ∧
    (lookup operation permissions = some .allowAll ∨
      lookup operation permissions = some .allowOwner ∧
        matchOwner client.user managedObject.owner)

theorem isAllowed_iff
    {operationPolicies : OperationPolicies}
    {policyName sessionUser sessionGroup objectOwner : Option String}
    {objectType : ObjectType} {operation : Operation} :
    isAllowed operationPolicies policyName sessionUser sessionGroup objectOwner
        objectType operation = true ↔
      ∃ policySection permissions,
        getRelevantPolicySection operationPolicies policyName sessionGroup =
            some policySection ∧
        lookup objectType policySection = some permissions ∧
        (lookup operation permissions = some .allowAll ∨
          lookup operation permissions = some .allowOwner ∧
            matchOwner sessionUser objectOwner) := by
  unfold isAllowed
  cases getRelevantPolicySection operationPolicies policyName sessionGroup with
  | none => simp
  | some policySection =>
      cases typed : lookup objectType policySection with
      | none => simp [typed]
      | some permissions =>
          cases granted : lookup operation permissions with
          | none => simp [typed, granted]
          | some policy => cases policy <;> simp [typed, granted]

theorem isPermitted_iff
    {world : World} {client : ClientIdentity} {operation : Operation}
    {managedObject : ManagedObject} :
    isPermitted world client operation managedObject = true ↔
      Authorizes world client operation managedObject := by
  unfold isPermitted isAllowedByOperationPolicy Authorizes
    ClientIdentity.sessionGroups
  simp only [List.any_eq_true, isAllowed_iff]
  cases client.groups <;> rfl

end Policies

/-- What an execution for a client does with existing objects. -/
structure Authorized (execution : Execution) (client : ClientIdentity) :
    Prop where
  /-- Objects are changed and removed by items that succeed. -/
  written : ∀ key old, execution.rowsBefore.lookup key = some old →
    execution.rowsAfter.lookup key ≠ some old →
    execution.Succeeded ∧
      Authorizes execution.world client execution.payload.accessCode old
  /-- What an item needs it may touch. -/
  used : execution.Succeeded →
    ∀ uniqueIdentifier ∈ execution.before.context.needs execution.payload,
      ∃ needed, execution.finds uniqueIdentifier = some needed ∧
        Authorizes execution.world client execution.payload.accessCode
          needed.managedObject
  located : ∀ payload uniqueIdentifiers,
    execution.payload = .locate payload →
    execution.outcome = .ok (.locate uniqueIdentifiers) →
    ∀ uniqueIdentifier ∈ uniqueIdentifiers, ∃ key managedObject,
      uniqueIdentifier = toString key ∧
      execution.rowsBefore.lookup key = some managedObject ∧
      Authorizes execution.world client .locate managedObject
  /-- Neither the response nor the written rows depend on other objects. -/
  read : ∀ other : EngineState, other.Clean →
    Agree execution.world execution.payload.accessCode execution.before other →
    other.dataStore.session.next = execution.rowsBefore.next →
    ∀ response, execution.outcome = .ok response →
      (⟨execution.world, execution.item, other⟩ : Execution).outcome =
          .ok response ∧
        SameWrites execution.before execution.after other
          (⟨execution.world, execution.item, other⟩ : Execution).after
  /-- An item without a permission that it needs fails and changes nothing. -/
  refused : ∀ uniqueIdentifier ∈
      execution.before.context.needs execution.payload,
    ∀ found, execution.finds uniqueIdentifier = some found →
    ¬Authorizes execution.world client execution.payload.accessCode
      found.managedObject →
    ¬execution.Succeeded ∧ execution.rowsAfter = execution.rowsBefore

namespace Execution

variable {execution : Execution}

theorem outcome_of_result
    {response : ResponsePayload} {after : EngineState}
    (ran : execution.result = .ok response after) :
    execution.outcome = .ok response ∧ execution.after = after := by
  unfold outcome Execution.after
  rw [ran]
  exact ⟨rfl, rfl⟩

theorem written_authorized
    (clean : execution.before.Clean) {key : Nat} {old : ManagedObject}
    (stored : execution.rowsBefore.lookup key = some old)
    (written : execution.rowsAfter.lookup key ≠ some old) :
    execution.Succeeded ∧ Authorizes execution.world
      execution.before.clientIdentity execution.payload.accessCode old := by
  have step := execution.rowStep clean key
  rw [stored] at step
  generalize execution.rowsAfter.lookup key = after at step written
  cases step with
  | keep => exact absurd rfl written
  | change succeeded writes found permitted =>
      exact ⟨succeeded, isPermitted_iff.mp permitted⟩
  | remove succeeded destroys found permitted =>
      exact ⟨succeeded, isPermitted_iff.mp permitted⟩

theorem located_authorized
    (clean : execution.before.Clean) {payload : LocateRequestPayload}
    {uniqueIdentifiers : List String}
    (locates : execution.payload = .locate payload)
    (outcome : execution.outcome = .ok (.locate uniqueIdentifiers)) :
    ∀ uniqueIdentifier ∈ uniqueIdentifiers, ∃ key managedObject,
      uniqueIdentifier = toString key ∧
      execution.rowsBefore.lookup key = some managedObject ∧
      Authorizes execution.world execution.before.clientIdentity .locate
        managedObject := by
  have ran := result_of_outcome_ok outcome
  unfold result at ran
  rw [locates] at ran
  intro uniqueIdentifier member
  obtain ⟨storedObject, permitted, rfl⟩ :=
    processOperation_located ran uniqueIdentifier member
  unfold permittedObjects at permitted
  obtain ⟨listed, isPermitted⟩ := List.mem_filter.mp permitted
  obtain ⟨⟨key, managedObject⟩, row, rfl⟩ := List.mem_map.mp listed
  rw [show execution.before.dataStore.session = execution.rowsBefore from
    clean] at row
  exact ⟨key, managedObject, rfl, Table.lookup_eq_some_iff.mpr row,
    isPermitted_iff.mp isPermitted⟩

theorem read_agrees
    (clean : execution.before.Clean) {other : EngineState}
    (otherClean : other.Clean)
    (agree : Agree execution.world execution.payload.accessCode
      execution.before other)
    (sameNext : other.dataStore.session.next = execution.rowsBefore.next)
    {response : ResponsePayload} (outcome : execution.outcome = .ok response) :
    (⟨execution.world, execution.item, other⟩ : Execution).outcome =
        .ok response ∧
      SameWrites execution.before execution.after other
        (⟨execution.world, execution.item, other⟩ : Execution).after := by
  have ran := result_of_outcome_ok outcome
  unfold result at ran
  rw [processOperation_follows execution.world execution.payload
    execution.before, ← agree.context] at ran
  rw [show execution.rowsBefore = execution.before.dataStore.session from
    clean.symm] at sameNext
  obtain ⟨after, alsoRan, writes⟩ := (plan execution.world other.context
    execution.payload).run_agree clean otherClean agree sameNext ran
  rw [← processOperation_follows execution.world execution.payload other]
    at alsoRan
  have second : (⟨execution.world, execution.item, other⟩ : Execution).result =
      .ok response after := alsoRan
  obtain ⟨same, ends⟩ := outcome_of_result second
  exact ⟨same, ends ▸ writes⟩

end Execution

theorem run_is_authorized
    (start : EngineState) (earlier : List Exchange) (exchange : Exchange) :
    ∀ execution ∈ exchange.executions (run start earlier),
      Authorized execution exchange.credential := by
  intro execution member
  have serves := exchange.serves_of_mem _ member
  have clean := serves.clean
  rw [← serves.clientIdentity]
  have used : execution.Succeeded →
      ∀ uniqueIdentifier ∈ execution.before.context.needs execution.payload,
        ∃ needed, execution.finds uniqueIdentifier = some needed ∧
          Authorizes execution.world execution.before.clientIdentity
            execution.payload.accessCode needed.managedObject := by
    intro succeeded uniqueIdentifier needs
    obtain ⟨needed, found, permitted⟩ :=
      execution.needs_of_succeeded succeeded uniqueIdentifier needs
    exact ⟨needed, found, isPermitted_iff.mp permitted⟩
  refine {
    written := fun _ _ => execution.written_authorized clean
    used := used
    located := fun _ _ => execution.located_authorized clean
    read := fun _ otherClean agree sameNext _ =>
      execution.read_agrees clean otherClean agree sameNext
    refused := ?_ }
  intro uniqueIdentifier needs found finds denied
  have failed : ¬execution.Succeeded := by
    intro succeeded
    obtain ⟨needed, alsoFinds, authorized⟩ :=
      used succeeded uniqueIdentifier needs
    rw [finds] at alsoFinds
    cases alsoFinds
    exact denied authorized
  exact ⟨failed, execution.rowsAfter_of_failed clean failed⟩

/-- Another user asks for the key that its owner has just created. -/
theorem run_is_authorized_denial :
    ∃ execution ∈ (sampleExchange sampleWorld "bob"
        [{ requestPayload := .get { uniqueIdentifier := some "1" } }]).executions
        (run (newEngine .empty [])
          [sampleExchange sampleWorld "alice"
            [{ requestPayload := sampleCreation }]]),
      Authorized execution { user := some "bob" } := by
  have inside : 0 < ((sampleExchange sampleWorld "bob"
      [{ requestPayload := .get { uniqueIdentifier := some "1" } }]).executions
      (run (newEngine .empty [])
        [sampleExchange sampleWorld "alice"
          [{ requestPayload := sampleCreation }]])).length := by decide
  exact ⟨_, List.getElem_mem inside,
    run_is_authorized _ _ _ _ (List.getElem_mem inside)⟩

end PyKMIP
