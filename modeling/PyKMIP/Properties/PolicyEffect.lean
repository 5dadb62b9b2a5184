import PyKMIP.Properties.Authorization
import PyKMIP.Properties.LocateExactness

/-!
# The effect of policy entries

A handler looks objects up under the one operation that it asks the policy
about.  Entries for other operations are never read: those for operations that
the server does not implement, and those for DeriveKey, which asks about Get.
-/

namespace PyKMIP

open EStateM StatefulExcept

section Entries

/-- Where a policy table has an entry: in the preset section of a policy or in
the section of a group, for an object type and an operation. -/
structure PolicyAddress where
  policyName : String
  sectionName : Option String
  objectType : ObjectType
  operation : Operation
deriving DecidableEq

def PolicyBundle.sectionAt (bundle : PolicyBundle) :
    Option String → Option PolicySection
  | none => bundle.preset
  | some group => List.lookup group bundle.groups

def PolicyAddress.entryOf (address : PolicyAddress)
    (operationPolicies : OperationPolicies) : Option Policy := do
  let bundle ← List.lookup address.policyName operationPolicies
  let policySection ← bundle.sectionAt address.sectionName
  let permissions ← List.lookup address.objectType policySection
  List.lookup address.operation permissions

/-- The section that is evaluated for a group of a session. -/
def sectionOf (sessionGroup : Option String) : Option String :=
  sessionGroup.filter (· ≠ "")

/-- What an entry permits. -/
def Policy.permits (sessionUser objectOwner : Option String) : Policy → Bool
  | .allowAll => true
  | .allowOwner => matchOwner sessionUser objectOwner
  | .disallowAll => false

variable {operationPolicies : OperationPolicies}
  {policyName sessionUser objectOwner : Option String}
  {objectType : ObjectType} {operation : Operation}

/-- An empty section of a group has no entries, like a missing one. -/
theorem relevant_bind
    {bundle : PolicyBundle} {name : String} (sessionGroup : Option String)
    (named : List.lookup name operationPolicies = some bundle)
    {entry : PolicySection → Option Policy} (silent : entry [] = none) :
    (getRelevantPolicySection operationPolicies (some name) sessionGroup).bind
        entry =
      (bundle.sectionAt (sectionOf sessionGroup)).bind entry := by
  unfold getRelevantPolicySection
  rw [Option.bind_some, named]
  cases sessionGroup with
  | none => rfl
  | some group =>
      by_cases empty : group = ""
      · subst empty
        rfl
      · have isGroup : sectionOf (some group) = some group := by
          simp [sectionOf, Option.filter, empty]
        rw [isGroup]
        simp only [truthyText, Option.any_some, decide_eq_true empty,
          Option.bind_some, PolicyBundle.sectionAt]
        cases List.lookup group bundle.groups with
        | none => rfl
        | some policySection =>
            cases policySection with
            | nil => exact silent.symm
            | cons first rest => rfl

/-- The engine reads one entry for each group. -/
theorem isAllowed_eq (sessionGroup : Option String) :
    isAllowed operationPolicies policyName sessionUser sessionGroup objectOwner
        objectType operation =
      (policyName.bind fun name => PolicyAddress.entryOf
        ⟨name, sectionOf sessionGroup, objectType, operation⟩
        operationPolicies).any (Policy.permits sessionUser objectOwner) := by
  have decided : isAllowed operationPolicies policyName sessionUser sessionGroup
        objectOwner objectType operation =
      ((getRelevantPolicySection operationPolicies policyName
        sessionGroup).bind fun policySection =>
          (List.lookup objectType policySection).bind
            (List.lookup operation ·)).any
        (Policy.permits sessionUser objectOwner) := by
    unfold isAllowed
    cases getRelevantPolicySection operationPolicies policyName sessionGroup with
    | none => rfl
    | some policySection =>
        rw [Option.bind_some]
        dsimp only
        cases (List.lookup objectType policySection).bind
            (List.lookup operation ·) with
        | none => rfl
        | some policy => cases policy <;> rfl
  rw [decided]
  cases policyName with
  | none => rfl
  | some name =>
      cases named : List.lookup name operationPolicies with
      | none =>
          simp [getRelevantPolicySection, PolicyAddress.entryOf, named]
      | some bundle =>
          rw [relevant_bind sessionGroup named rfl]
          simp [PolicyAddress.entryOf, named]

end Entries

section Denials

variable {world : World} {client : ClientIdentity} {operation : Operation}
  {managedObject : ManagedObject} {address : PolicyAddress}

/-- The entry is about the object: it is in the policy that the object names,
for the type of the object. -/
def PolicyAddress.Governs (address : PolicyAddress)
    (managedObject : ManagedObject) : Prop :=
  managedObject.operationPolicyName = some address.policyName ∧
    managedObject.objectType = address.objectType

instance (address : PolicyAddress) (managedObject : ManagedObject) :
    Decidable (address.Governs managedObject) :=
  inferInstanceAs (Decidable (_ ∧ _))

/-- No other section than that of the entry applies to the client. -/
def PolicyAddress.IsOnlySection (address : PolicyAddress)
    (client : ClientIdentity) : Prop :=
  ∀ sessionGroup ∈ client.sessionGroups,
    sectionOf sessionGroup = address.sectionName

theorem isPermitted_eq
    (world : World) (client : ClientIdentity) (operation : Operation)
    (managedObject : ManagedObject) :
    isPermitted world client operation managedObject =
      client.sessionGroups.any fun sessionGroup =>
        (managedObject.operationPolicyName.bind fun name =>
          PolicyAddress.entryOf ⟨name, sectionOf sessionGroup,
            managedObject.objectType, operation⟩ world.operationPolicies).any
          (Policy.permits client.user managedObject.owner) := by
  unfold isPermitted isAllowedByOperationPolicy ClientIdentity.sessionGroups
  simp only [isAllowed_eq]
  cases client.groups <;> rfl

/-- For such a client the entry alone decides. -/
theorem isPermitted_of_onlySection
    (only : address.IsOnlySection client) (governs : address.Governs managedObject)
    (isEntry : address.operation = operation) :
    isPermitted world client operation managedObject =
      (client.sessionGroups ≠ [] &&
        (address.entryOf world.operationPolicies).any
          (Policy.permits client.user managedObject.owner)) := by
  obtain ⟨named, typed⟩ := governs
  have same : ∀ sessionGroup ∈ client.sessionGroups,
      (managedObject.operationPolicyName.bind fun name =>
          PolicyAddress.entryOf ⟨name, sectionOf sessionGroup,
            managedObject.objectType, operation⟩ world.operationPolicies) =
        address.entryOf world.operationPolicies := by
    intro sessionGroup member
    rw [named, Option.bind_some, only sessionGroup member, typed, ← isEntry]
  rw [isPermitted_eq, Bool.eq_iff_iff, List.any_eq_true]
  constructor
  · rintro ⟨sessionGroup, member, permitted⟩
    rw [same sessionGroup member] at permitted
    simp [List.ne_nil_of_mem member, permitted]
  · intro permitted
    obtain ⟨some, granted⟩ := Bool.and_eq_true_iff.mp permitted
    obtain ⟨sessionGroup, member⟩ :=
      List.exists_mem_of_ne_nil _ (of_decide_eq_true some)
    exact ⟨sessionGroup, member, by rw [same sessionGroup member, granted]⟩

theorem not_authorizes_of_disallowed
    (only : address.IsOnlySection client) (governs : address.Governs managedObject)
    (isEntry : address.operation = operation)
    (disallowed : address.entryOf world.operationPolicies =
      some .disallowAll) :
    ¬Authorizes world client operation managedObject := by
  rw [← isPermitted_iff, isPermitted_of_onlySection only governs isEntry,
    disallowed]
  simp [Policy.permits]

end Denials

section Silence

/-- The tables have the same entries everywhere else. -/
def PolicyAddress.IsOnlyDifference (address : PolicyAddress)
    (first second : OperationPolicies) : Prop :=
  ∀ other : PolicyAddress, other ≠ address →
    other.entryOf first = other.entryOf second

/-- The world with another policy table. -/
def World.under (world : World) (operationPolicies : OperationPolicies) :
    World :=
  { world with operationPolicies := operationPolicies }

def RequestWorld.under (world : RequestWorld)
    (operationPolicies : OperationPolicies) : RequestWorld :=
  { world with items := fun index => (world.items index).under operationPolicies }

variable {first second : OperationPolicies} {address : PolicyAddress}
  {operation : Operation} {context : ItemContext} {payload : RequestPayload}

/-- The tables decide alike about every operation but that of the entry. -/
theorem isPermitted_under
    (differ : address.IsOnlyDifference first second)
    (other : operation ≠ address.operation)
    (world : World) (client : ClientIdentity) (managedObject : ManagedObject) :
    isPermitted (world.under first) client operation managedObject =
      isPermitted (world.under second) client operation managedObject := by
  have same : ∀ name sessionGroup,
      PolicyAddress.entryOf ⟨name, sectionOf sessionGroup,
          managedObject.objectType, operation⟩ first =
        PolicyAddress.entryOf ⟨name, sectionOf sessionGroup,
          managedObject.objectType, operation⟩ second := by
    intro name sessionGroup
    apply differ
    intro isAddress
    exact other (congrArg PolicyAddress.operation isAddress)
  simp only [isPermitted_eq, World.under, same]

theorem access_under
    (differ : address.IsOnlyDifference first second)
    (other : operation ≠ address.operation)
    (world : World) (state : EngineState) (uniqueIdentifier : Option String) :
    access (world.under first) state uniqueIdentifier operation =
      access (world.under second) state uniqueIdentifier operation := by
  have found : findObject (world.under first) state uniqueIdentifier =
      findObject (world.under second) state uniqueIdentifier := rfl
  have loaded : loadedCopy (world.under first) state operation =
      loadedCopy (world.under second) state operation := rfl
  unfold access
  rw [found, loaded]
  simp only [isPermitted_under differ other]

theorem permittedObjects_under
    (differ : address.IsOnlyDifference first second)
    (other : operation ≠ address.operation)
    (world : World) (state : EngineState) :
    permittedObjects (world.under first) state operation =
      permittedObjects (world.under second) state operation := by
  simp only [permittedObjects, isPermitted_under differ other]

/-- A plan asks about one operation only. -/
theorem Plan.run_under
    (differ : address.IsOnlyDifference first second)
    (other : payload.accessCode ≠ address.operation)
    (world : World) (state : EngineState) (plan : Plan context payload) :
    plan.run (world.under first) state = plan.run (world.under second) state := by
  induction plan with
  | refuse exception => rfl
  | reply reads response => rfl
  | lookup uniqueIdentifier disguise next ih =>
      unfold Plan.run
      rw [access_under differ other]
      cases access (world.under second) state uniqueIdentifier
          payload.accessCode with
      | ok storedObject => exact ih storedObject
      | error exception => rfl
  | list next ih =>
      unfold Plan.run
      rw [permittedObjects_under differ other]
      simp only [ih]
  | update writes decide =>
      unfold Plan.run
      rw [access_under differ other]
  | create creation => rfl
  | createSecret creation => rfl

/-- An operation that is not implemented is refused before any lookup. -/
theorem processOperation_under
    (differ : address.IsOnlyDifference first second)
    (unimplemented : address.operation ∉ dispatchedOperations)
    (world : World) (payload : RequestPayload) (state : EngineState) :
    (processOperation (world.under first) payload).run state =
      (processOperation (world.under second) payload).run state := by
  have planned : plan (world.under first) state.context payload =
      plan (world.under second) state.context payload := by
    cases payload <;> rfl
  rw [processOperation_follows (world.under first) payload state,
    processOperation_follows (world.under second) payload state, planned]
  by_cases dispatched : payload.accessCode ∈ dispatchedOperations
  · apply Plan.run_under differ
    intro same
    exact unimplemented (same ▸ dispatched)
  · cases payload
    case unsupported operation undispatched => rfl
    all_goals
      simp [RequestPayload.accessCode, RequestPayload.operation,
        dispatchedOperations] at dispatched

theorem processItems_under
    (differ : address.IsOnlyDifference first second)
    (unimplemented : address.operation ∉ dispatchedOperations)
    (worlds : Nat → World) (several : Bool)
    (handling : BatchErrorContinuationOption) (items : List RequestBatchItem) :
    ∀ index, processItems (fun item => (worlds item).under first) several
        handling index items =
      processItems (fun item => (worlds item).under second) several handling
        index items := by
  induction items with
  | nil => exact fun index => rfl
  | cons item rest ih =>
      intro index
      have same : processOperation ((worlds index).under first)
          item.requestPayload =
          processOperation ((worlds index).under second)
            item.requestPayload :=
        funext (processOperation_under differ unimplemented _ _)
      simp only [processItems, same, ih]

theorem processRequest_under
    (differ : address.IsOnlyDifference first second)
    (unimplemented : address.operation ∉ dispatchedOperations)
    (world : RequestWorld) (request : RequestMessage)
    (credential : ClientIdentity) :
    processRequest (world.under first) request credential =
      processRequest (world.under second) request credential := by
  unfold processRequest processBatch RequestWorld.under
  simp only [processItems_under differ unimplemented]

end Silence

section Effects

variable {address : PolicyAddress} {operationPolicies : OperationPolicies}
  {execution : Execution}

/-- Whatever the entry is meant to deny is denied: to a client for whom no other
section applies, an item with the operation neither succeeds with an object that
the entry is about nor lists it. -/
def PolicyAddress.IsEffective (address : PolicyAddress)
    (operationPolicies : OperationPolicies) : Prop :=
  ∀ execution : Execution,
    execution.world.operationPolicies = operationPolicies →
    execution.before.Clean →
    address.IsOnlySection execution.before.clientIdentity →
    execution.payload.operation = address.operation →
    (∀ uniqueIdentifier ∈ execution.before.context.needs execution.payload,
      ∀ needed, execution.finds uniqueIdentifier = some needed →
      address.Governs needed.managedObject → ¬execution.Succeeded) ∧
    ∀ payload uniqueIdentifiers, execution.payload = .locate payload →
      execution.outcome = .ok (.locate uniqueIdentifiers) →
      ∀ key managedObject,
        execution.rowsBefore.lookup key = some managedObject →
        address.Governs managedObject → toString key ∉ uniqueIdentifiers

/-- Entries for operations that the server does not implement change nothing. -/
def UnimplementedEntriesAreSilent : Prop :=
  ∀ address : PolicyAddress, address.operation ∉ dispatchedOperations →
    ∀ first second, address.IsOnlyDifference first second →
    ∀ (world : RequestWorld) request credential,
      processRequest (world.under first) request credential =
        processRequest (world.under second) request credential

/-- The operations that the server implements and that policy files name. -/
def controlledOperations : List Operation :=
  [.locate, .get, .getAttributes, .getAttributeList, .activate, .revoke,
    .destroy, .deriveKey, .deleteAttribute, .setAttribute, .modifyAttribute]

/-- The entry of the same section and object type for Get. -/
def PolicyAddress.forGet (address : PolicyAddress) : PolicyAddress :=
  { address with operation := .get }

/-- The entry is for DeriveKey on objects that keys can be derived from, and Get
is granted in its place. -/
def PolicyAddress.IsBypassed (address : PolicyAddress)
    (operationPolicies : OperationPolicies) : Prop :=
  address.operation = .deriveKey ∧ address.sectionName ≠ some "" ∧
    address.objectType ∈ derivableTypes ∧
    ∃ policy, policy ≠ .disallowAll ∧
      address.forGet.entryOf operationPolicies = some policy

theorem accessCode_eq_operation
    {payload : RequestPayload}
    (controlled : payload.operation ∈ controlledOperations)
    (other : payload.operation ≠ .deriveKey) :
    payload.accessCode = payload.operation := by
  cases payload
  all_goals first | rfl | simp_all [RequestPayload.operation, controlledOperations]

theorem not_succeeded_of_disallowed
    (disallowed : address.entryOf execution.world.operationPolicies =
      some .disallowAll)
    (asks : address.operation = execution.payload.accessCode)
    (only : address.IsOnlySection execution.before.clientIdentity)
    {uniqueIdentifier : Option String}
    (needs : uniqueIdentifier ∈
      execution.before.context.needs execution.payload)
    {needed : StoredObject}
    (finds : execution.finds uniqueIdentifier = some needed)
    (governs : address.Governs needed.managedObject) :
    ¬execution.Succeeded := by
  intro succeeded
  obtain ⟨found, alsoFinds, permitted⟩ :=
    execution.needs_of_succeeded succeeded uniqueIdentifier needs
  rw [finds] at alsoFinds
  cases alsoFinds
  exact not_authorizes_of_disallowed only governs asks disallowed
    (isPermitted_iff.mp permitted)

theorem not_located_of_disallowed
    (clean : execution.before.Clean)
    (disallowed : address.entryOf execution.world.operationPolicies =
      some .disallowAll)
    (only : address.IsOnlySection execution.before.clientIdentity)
    (asks : execution.payload.operation = address.operation)
    {payload : LocateRequestPayload} {uniqueIdentifiers : List String}
    (locates : execution.payload = .locate payload)
    (outcome : execution.outcome = .ok (.locate uniqueIdentifiers))
    {key : Nat} {managedObject : ManagedObject}
    (stored : execution.rowsBefore.lookup key = some managedObject)
    (governs : address.Governs managedObject) :
    toString key ∉ uniqueIdentifiers := by
  intro listed
  obtain ⟨row, located, same, found, authorized⟩ :=
    execution.located_authorized clean locates outcome _ listed
  have sameKey := toString_uniqueIdentifier_injective
    execution.world.identifierColumn same
  subst sameKey
  rw [stored] at found
  cases found
  rw [locates] at asks
  exact not_authorizes_of_disallowed only governs asks.symm disallowed
    authorized

theorem derives_of_succeeded
    {payload : DeriveKeyRequestPayload}
    (derives : execution.payload = .deriveKey payload)
    (succeeded : execution.Succeeded) {uniqueIdentifier : String}
    (source : uniqueIdentifier ∈ payload.uniqueIdentifiers)
    {needed : StoredObject}
    (finds : execution.finds (some uniqueIdentifier) = some needed) :
    needed.managedObject.objectType ∈ derivableTypes ∧
      isPermitted execution.world execution.before.clientIdentity .get
        needed.managedObject = true := by
  obtain ⟨response, outcome⟩ := Execution.outcome_of_succeeded succeeded
  have ran := Execution.result_of_outcome_ok outcome
  unfold Execution.result at ran
  rw [derives, processOperation_follows] at ran
  obtain ⟨storedObjects, accesses⟩ := planDeriveKey_ok ran
  obtain ⟨position, inside, rfl⟩ := List.getElem_of_mem source
  obtain ⟨accessed, suitable⟩ :=
    accesses.get inside (accesses.length_eq ▸ inside)
  obtain ⟨found, value, located, loaded, permitted⟩ := access_eq_found accessed
  have same : found = needed := by
    have alsoFinds : execution.finds (some payload.uniqueIdentifiers[position]) =
        some found := located
    rw [finds] at alsoFinds
    exact (Option.some.inj alsoFinds).symm
  subst same
  rw [loaded] at suitable
  exact ⟨suitable, permitted⟩

theorem PolicyAddress.IsOnlySection.sectionName_ne
    {client : ClientIdentity} (only : address.IsOnlySection client)
    (some : client.sessionGroups ≠ []) :
    address.sectionName ≠ Option.some "" := by
  obtain ⟨sessionGroup, member⟩ := List.exists_mem_of_ne_nil _ some
  rw [← only sessionGroup member]
  intro isEmpty
  have kept := Option.filter_eq_some_iff.mp isEmpty
  simp at kept

/-- DeriveKey only succeeds on an object for which Get is granted. -/
theorem isBypassed_of_succeeded
    (isDeriveKey : address.operation = .deriveKey)
    (only : address.IsOnlySection execution.before.clientIdentity)
    {payload : DeriveKeyRequestPayload}
    (derives : execution.payload = .deriveKey payload)
    (succeeded : execution.Succeeded) {uniqueIdentifier : String}
    (source : uniqueIdentifier ∈ payload.uniqueIdentifiers)
    {needed : StoredObject}
    (finds : execution.finds (some uniqueIdentifier) = some needed)
    (governs : address.Governs needed.managedObject) :
    address.IsBypassed execution.world.operationPolicies := by
  obtain ⟨suitable, permitted⟩ :=
    derives_of_succeeded derives succeeded source finds
  have forGet : address.forGet.Governs needed.managedObject := governs
  have alsoOnly : address.forGet.IsOnlySection
      execution.before.clientIdentity := only
  rw [isPermitted_of_onlySection alsoOnly forGet (show _ = Operation.get from rfl),
    Bool.and_eq_true, decide_eq_true_eq, Option.any_eq_true] at permitted
  obtain ⟨some, policy, isEntry, permits⟩ := permitted
  refine ⟨isDeriveKey, only.sectionName_ne some, governs.2 ▸ suitable, policy,
    ?_, isEntry⟩
  rintro rfl
  cases permits

theorem isEffective_of_not_bypassed
    (controlled : address.operation ∈ controlledOperations)
    (disallowed : address.entryOf operationPolicies = some .disallowAll)
    (notBypassed : ¬address.IsBypassed operationPolicies) :
    address.IsEffective operationPolicies := by
  rintro execution rfl clean only asks
  constructor
  · intro uniqueIdentifier needs needed finds governs
    by_cases isDeriveKey : address.operation = .deriveKey
    · intro succeeded
      rw [isDeriveKey] at asks
      cases derives : execution.payload with
      | deriveKey payload =>
          rw [derives] at needs
          obtain ⟨source, listed, rfl⟩ := List.mem_map.mp needs
          exact notBypassed (isBypassed_of_succeeded isDeriveKey only derives
            succeeded listed finds governs)
      | unsupported operation undispatched =>
          rw [derives] at needs
          cases needs
      | _ =>
          rw [derives] at asks
          cases asks
    · rw [← asks] at controlled isDeriveKey
      exact not_succeeded_of_disallowed disallowed
        (asks.symm.trans (accessCode_eq_operation controlled isDeriveKey).symm)
        only needs finds governs
  · intro payload uniqueIdentifiers locates outcome key managedObject stored
      governs
    exact not_located_of_disallowed clean disallowed only asks locates outcome
      stored governs

end Effects

section Bypassing

variable {world : World} {state : EngineState} {context : ItemContext}
  {payload : RequestPayload}

/-- The plan ends with a response. -/
def Plan.Accepted (plan : Plan context payload) (world : World)
    (state : EngineState) : Prop :=
  ∃ response after, plan.run world state = .ok response after

theorem Plan.Accepted.refuseIf
    {condition : Prop} [Decidable condition] {exception : PyError}
    {plan : Plan context payload} (passes : ¬condition)
    (accepted : plan.Accepted world state) :
    (Plan.refuseIf condition exception plan).Accepted world state := by
  unfold Plan.refuseIf
  rwa [if_neg passes]

theorem Plan.Accepted.ofExcept
    {outcome : Except PyError α} {next : α → Plan context payload} {value : α}
    (returned : outcome = .ok value) (accepted : (next value).Accepted world state) :
    (Plan.ofExcept outcome next).Accepted world state := by
  rwa [returned]

theorem Plan.Accepted.lookup
    {uniqueIdentifier : Option String} {disguise : Option PyError}
    {next : StoredObject → Plan context payload} {storedObject : StoredObject}
    (accessed : access world state uniqueIdentifier payload.accessCode =
      .ok storedObject)
    (accepted : (next storedObject).Accepted world state) :
    (Plan.lookup uniqueIdentifier disguise next).Accepted world state := by
  unfold Plan.Accepted Plan.run
  rwa [accessed]

theorem succeeded_of_accepted
    {execution : Execution}
    (accepted : (plan execution.world execution.before.context
      execution.payload).Accepted execution.world execution.before) :
    execution.Succeeded := by
  obtain ⟨response, after, ran⟩ := accepted
  rw [← processOperation_follows] at ran
  exact Execution.succeeded_of_outcome (Execution.outcome_of_result ran).1

/-- An object of a derivable type for which keys may be derived. -/
def derivableClass : ObjectType → ObjectClass
  | .publicKey => .key .publicKey { cryptographicUsageMasks := [.deriveKey] }
      ⟨.aes, 128, .raw, {}⟩
  | .privateKey => .key .privateKey { cryptographicUsageMasks := [.deriveKey] }
      ⟨.aes, 128, .raw, {}⟩
  | .secretData => .secretData { cryptographicUsageMasks := [.deriveKey] } .seed
  | _ => .key .symmetricKey { cryptographicUsageMasks := [.deriveKey] }
      ⟨.aes, 128, .raw, {}⟩

/-- A source of sixteen bytes that the entry is about. -/
def PolicyAddress.source (address : PolicyAddress) : ManagedObject where
  value := List.replicate 16 0
  names := []
  operationPolicyName := some address.policyName
  owner := some "alice"
  objectClass := derivableClass address.objectType

/-- The owner of the source, in the group of the section. -/
def PolicyAddress.member (address : PolicyAddress) : ClientIdentity where
  user := some "alice"
  groups := address.sectionName.map fun group => [group]

/-- Secret data of eight bytes from the first object. -/
def firstDerivation : DeriveKeyRequestPayload where
  objectType := .secretData
  uniqueIdentifiers := [toString 1]
  derivationMethod := .hash
  derivationParameters := { cryptographicParameters := some {} }
  templateAttribute := some {
    attributes := [{ attributeName := .cryptographicLength
                     attributeValue := .integer 64 }] }

theorem PolicyAddress.source_storable (address : PolicyAddress) :
    address.source.storable := by
  unfold source
  cases address.objectType <;> rfl

def PolicyAddress.store (address : PolicyAddress) : DataStore where
  committed := Table.empty.insert address.source
  session := Table.empty.insert address.source
  active := true
  stored := DataStore.empty.stored.insert address.source_storable

/-- The member derives secret data from the source. -/
def PolicyAddress.bypassing (address : PolicyAddress)
    (operationPolicies : OperationPolicies) : Execution where
  world := sampleWorld.under operationPolicies
  item := { requestPayload := .deriveKey firstDerivation }
  before := {
    dataStore := address.store
    barbican := []
    idPlaceholder := none
    protocolVersion := ⟨1, 2⟩
    clientIdentity := address.member }

theorem PolicyAddress.isOnlySection_member
    {address : PolicyAddress} (named : address.sectionName ≠ some "") :
    address.IsOnlySection address.member := by
  intro sessionGroup member
  unfold PolicyAddress.member ClientIdentity.sessionGroups at member
  cases isSection : address.sectionName with
  | none =>
      rw [isSection] at member
      rw [List.mem_singleton.mp member]
      rfl
  | some group =>
      rw [isSection] at member named
      rw [List.mem_singleton.mp member]
      have nonempty : group ≠ "" := fun empty => named (congrArg some empty)
      simp [sectionOf, Option.filter, nonempty]

theorem PolicyAddress.permits_member
    {address : PolicyAddress} {operationPolicies : OperationPolicies}
    (bypassed : address.IsBypassed operationPolicies)
    (typed : address.source.objectType = address.objectType) :
    isPermitted (sampleWorld.under operationPolicies) address.member .get
      address.source = true := by
  obtain ⟨_, named, _, policy, granted, isEntry⟩ := bypassed
  have only : address.forGet.IsOnlySection address.member :=
    isOnlySection_member named
  have some : address.member.sessionGroups ≠ [] := by
    unfold PolicyAddress.member ClientIdentity.sessionGroups
    cases address.sectionName <;> exact nofun
  have permits : policy.permits address.member.user address.source.owner := by
    cases policy with
    | allowAll => rfl
    | allowOwner =>
        unfold Policy.permits matchOwner
        exact decide_eq_true rfl
    | disallowAll => exact absurd rfl granted
  rw [isPermitted_of_onlySection only ⟨rfl, typed⟩
    (show _ = Operation.get from rfl)]
  change (decide _ && (address.forGet.entryOf operationPolicies).any _) = true
  rw [isEntry]
  simp [some, permits]

theorem PolicyAddress.objectType_source
    (address : PolicyAddress) (derivable : address.objectType ∈ derivableTypes) :
    address.source.objectType = address.objectType := by
  unfold source
  generalize address.objectType = objectType at derivable
  cases objectType <;> first | rfl | exact absurd derivable (by decide)

theorem PolicyAddress.findObject_source
    (address : PolicyAddress) (operationPolicies : OperationPolicies) :
    findObject (sampleWorld.under operationPolicies)
        (address.bypassing operationPolicies).before (some (toString 1)) =
      some ⟨1, address.source⟩ := by
  unfold findObject
  rw [Option.bind_eq_bind, Option.bind_some, IdentifierColumn.rowOf_toString]
  rfl

theorem PolicyAddress.bypassing_succeeded
    {address : PolicyAddress} {operationPolicies : OperationPolicies}
    (bypassed : address.IsBypassed operationPolicies) :
    (address.bypassing operationPolicies).Succeeded := by
  have typed := address.objectType_source bypassed.2.2.1
  have accessed : access (sampleWorld.under operationPolicies)
      (address.bypassing operationPolicies).before (some (toString 1)) .get =
        .ok ⟨1, address.source⟩ := by
    apply access_eq_ok_iff.mpr
    exact ⟨rfl, _, address.findObject_source operationPolicies, rfl,
      address.permits_member bypassed typed⟩
  have derivable : address.source.objectType ∈ derivableTypes :=
    typed ▸ bypassed.2.2.1
  have masks : getattr address.source.cryptographicUsageMasks? =
      .ok [.deriveKey] := by
    unfold source
    cases address.objectType <;> rfl
  have listed : (⟨1, 0⟩ : ProtocolVersion) ≤
      (address.bypassing operationPolicies).before.context.protocolVersion :=
    show (⟨1, 0⟩ : ProtocolVersion) ≤ ⟨1, 2⟩ by decide
  apply succeeded_of_accepted
  change (planDeriveKey _ _ firstDerivation).Accepted _ _
  unfold planDeriveKey Plan.supportedSince
  apply Plan.Accepted.refuseIf (not_not.mpr listed)
  apply Plan.Accepted.ofExcept (Eq.refl _)
  apply Plan.Accepted.refuseIf (by decide)
  apply Plan.Accepted.refuseIf (by decide)
  apply Plan.Accepted.lookup accessed
  apply Plan.Accepted.refuseIf (not_not.mpr derivable)
  apply Plan.Accepted.ofExcept masks
  apply Plan.Accepted.refuseIf (by decide)
  rw [planSources]
  beta_reduce
  apply Plan.Accepted.ofExcept
  · rfl
  apply Plan.Accepted.ofExcept
  · rfl
  apply Plan.Accepted.ofExcept
  · rfl
  apply Plan.Accepted.ofExcept
  · rfl
  apply Plan.Accepted.ofExcept
  · rfl
  apply Plan.Accepted.ofExcept
  · rfl
  refine ⟨_, _, flush_of_storable _ rfl ?_⟩
  exact (DataStore.empty.stored.insert address.source_storable).insert
    (by rfl)

theorem not_isEffective_of_bypassed
    {address : PolicyAddress} {operationPolicies : OperationPolicies}
    (bypassed : address.IsBypassed operationPolicies) :
    ¬address.IsEffective operationPolicies := by
  intro effective
  obtain ⟨isDeriveKey, named, derivable, _⟩ := id bypassed
  obtain ⟨denied, _⟩ := effective (address.bypassing operationPolicies) rfl rfl
    (address.isOnlySection_member named) isDeriveKey.symm
  have finds : (address.bypassing operationPolicies).finds (some (toString 1)) =
      some ⟨1, address.source⟩ := address.findObject_source operationPolicies
  exact denied (some (toString 1)) List.mem_cons_self _ finds
    ⟨rfl, address.objectType_source derivable⟩
    (address.bypassing_succeeded bypassed)

end Bypassing

/-- The entries that deny an operation deny it and those for other operations
are silent, exactly if the entry is not one for DeriveKey beside a granted
Get. -/
theorem policy_entries_are_effective_iff
    {address : PolicyAddress} {operationPolicies : OperationPolicies}
    (controlled : address.operation ∈ controlledOperations)
    (disallowed : address.entryOf operationPolicies = some .disallowAll) :
    (address.IsEffective operationPolicies ∧ UnimplementedEntriesAreSilent) ↔
      ¬address.IsBypassed operationPolicies := by
  constructor
  · rintro ⟨effective, _⟩ bypassed
    exact not_isEffective_of_bypassed bypassed effective
  · intro notBypassed
    refine ⟨isEffective_of_not_bypassed controlled disallowed notBypassed, ?_⟩
    intro address unimplemented first second differ world request credential
    exact processRequest_under differ unimplemented world request credential

section Samples

/-- Owners may get their keys; nobody may destroy keys or derive from them. -/
def guardedPolicies : OperationPolicies :=
  [("default", { preset := some [(.symmetricKey,
    [(.get, .allowOwner), (.destroy, .disallowAll),
      (.deriveKey, .disallowAll)])] })]

/-- The entry for an operation on symmetric keys. -/
def presetEntry (operation : Operation) : PolicyAddress :=
  ⟨"default", none, .symmetricKey, operation⟩

theorem policy_entries_are_effective_destroy :
    (presetEntry .destroy).IsEffective guardedPolicies ∧
      UnimplementedEntriesAreSilent :=
  (policy_entries_are_effective_iff (by decide) (by decide)).mpr
    fun bypassed => absurd bypassed.1 (by decide)

/-- A request for a new key from which keys may be derived. -/
def derivableCreation : RequestPayload :=
  .create {
    objectType := .symmetricKey
    templateAttribute := some {
      attributes := [
        { attributeName := .cryptographicAlgorithm
          attributeValue := .cryptographicAlgorithm .aes },
        { attributeName := .cryptographicLength
          attributeValue := .integer 128 },
        { attributeName := .cryptographicUsageMask
          attributeValue := .integer 0x200 }] } }

/-- The request of the user to derive from the key that they created. -/
def guardedDerivation : Execution where
  world := sampleWorld.under guardedPolicies
  item := { requestPayload := .deriveKey firstDerivation }
  before :=
    (sampleExchange (sampleWorld.under guardedPolicies) "alice"
      [{ requestPayload := .deriveKey firstDerivation }]).entering
        (run (newEngine .empty [])
          [sampleExchange (sampleWorld.under guardedPolicies) "alice"
            [{ requestPayload := derivableCreation }]])

/-- The entry for DeriveKey denies it to everybody, and the owner derives. -/
theorem derive_key_ignores_its_entry :
    (presetEntry .deriveKey).operation ∈ controlledOperations ∧
      (presetEntry .deriveKey).entryOf guardedPolicies = some .disallowAll ∧
      guardedDerivation.outcome = .ok (.deriveKey "2") ∧
      ¬(presetEntry .deriveKey).IsEffective guardedPolicies := by
  refine ⟨by decide, by decide, by decide, ?_⟩
  intro effective
  have only : (presetEntry .deriveKey).IsOnlySection
      guardedDerivation.before.clientIdentity := by
    intro sessionGroup member
    rw [List.mem_singleton.mp member]
    rfl
  obtain ⟨denied, _⟩ := effective guardedDerivation rfl rfl only rfl
  have governed : (guardedDerivation.finds (some (toString 1))).any
      fun needed => (presetEntry .deriveKey).Governs needed.managedObject := by
    decide
  obtain ⟨needed, finds, governs⟩ := (Option.any_eq_true _ _).mp governed
  exact denied (some (toString 1)) List.mem_cons_self needed finds
    (of_decide_eq_true governs) (by decide)

end Samples

end PyKMIP
