import PyKMIP.Rows

/-!
# Fetching secrets

A GET lookup fetches the secret of a symmetric key before it looks at the
permission.  An item fetches what it may fetch as long as its lookups do not
come across an object without the permission, or across a symmetric key before
that.
-/

namespace PyKMIP

open EStateM StatefulExcept

section Traces

variable (world : World)

/-- The object that a single-object lookup finds, before any check of it. -/
def located (state : EngineState) (uniqueIdentifier : Option String) :
    Option StoredObject :=
  if state.dataStore.active = false then none
  else findObject world state uniqueIdentifier

/-- Whether the lookup that finds an object asks Barbican for its secret. -/
def fetches (operation : Operation) (storedObject : StoredObject) : Bool :=
  operation = .get ∧ world.osRegionName ∧
    storedObject.managedObject.objectType = .symmetricKey

variable {context : ItemContext} {payload : RequestPayload}

/-- The objects that the single-object lookups of a plan find; the last one may
be an object that the lookup fails on. -/
def Plan.lookedUp : Plan context payload → EngineState → List StoredObject
  | .refuse _, _ | .reply _ _, _ | .create _, _ | .createSecret _, _ => []
  | .lookup uniqueIdentifier _ next, state =>
      (located world state uniqueIdentifier).toList ++
        match access world state uniqueIdentifier payload.accessCode with
        | .ok storedObject => (next storedObject).lookedUp state
        | .error _ => []
  | .list next, state =>
      if state.dataStore.active = false then []
      else
        (next (permittedObjects world state payload.accessCode)).lookedUp state
  | .update _ _, state => (located world state (context.target payload)).toList

/-- The objects whose secrets a plan asks Barbican for. -/
def Plan.fetched (plan : Plan context payload) (state : EngineState) :
    List StoredObject :=
  (plan.lookedUp world state).filter (fetches world payload.accessCode)

end Traces

section Service

/-- The same environment while Barbican answers requests for secrets or not. -/
def World.serving (world : World) (available : Bool) : World :=
  { world with secretsAvailable := available }

/-- The same state with other secrets in Barbican. -/
def EngineState.holding (state : EngineState) (barbican : Barbican) :
    EngineState :=
  { state with barbican := barbican }

variable {world : World} {context : ItemContext} {payload : RequestPayload}
  {state : EngineState}

theorem retrievedCopy_of_not_fetches
    {storedObject : StoredObject}
    (quiet : fetches world .get storedObject = false) :
    retrievedCopy world state storedObject = .ok storedObject := by
  apply if_neg
  intro fetching
  simp [fetches, fetching] at quiet

theorem loadedCopy_of_not_fetches
    {operation : Operation} {storedObject : StoredObject}
    (quiet : fetches world operation storedObject = false) :
    loadedCopy world state operation storedObject = .ok storedObject := by
  unfold loadedCopy
  split
  · rename_i isGet
    subst isGet
    exact retrievedCopy_of_not_fetches quiet
  · rfl

/-- A lookup that does not ask Barbican does not depend on it. -/
theorem access_of_not_fetches
    {uniqueIdentifier : Option String} {operation : Operation}
    (quiet : ∀ found ∈ located world state uniqueIdentifier,
      fetches world operation found = false)
    (available : Bool) (barbican : Barbican) :
    access (world.serving available) (state.holding barbican) uniqueIdentifier
        operation =
      access world state uniqueIdentifier operation := by
  have sameObject : findObject (world.serving available)
      (state.holding barbican) uniqueIdentifier =
      findObject world state uniqueIdentifier := rfl
  unfold access
  rw [sameObject]
  by_cases isActive : state.dataStore.active = false
  · rw [if_pos isActive]
    exact if_pos isActive
  · rw [if_neg isActive]
    refine (if_neg isActive).trans ?_
    cases finds : findObject world state uniqueIdentifier with
    | none => rfl
    | some found =>
        have unfetched : fetches world operation found = false := by
          apply quiet
          unfold located
          rw [if_neg isActive, finds]
          rfl
        simp only
        rw [loadedCopy_of_not_fetches unfetched]
        rw [loadedCopy_of_not_fetches
          (show fetches (world.serving available) operation found = false from
            unfetched)]
        rfl

theorem outcome_flush
    {first second : EngineState} {dataStore : DataStore}
    {firstPlaceholder secondPlaceholder : Option String}
    {reply : ResponsePayload} :
    outcomeOf (first.flush dataStore firstPlaceholder reply) =
      outcomeOf (second.flush dataStore secondPlaceholder reply) := by
  unfold EngineState.flush
  rcases dataStore.commit with ⟨outcome, flushed⟩
  cases outcome <;> rfl

/-- A plan that fetches nothing replies the same whatever Barbican can serve. -/
theorem Plan.outcome_of_fetched_nil
    (plan : Plan context payload) (quiet : plan.fetched world state = [])
    (available : Bool) (barbican : Barbican) :
    outcomeOf (plan.run (world.serving available) (state.holding barbican)) =
      outcomeOf (plan.run world state) := by
  induction plan with
  | refuse exception => rfl
  | reply reads response => rfl
  | lookup uniqueIdentifier disguise next ih =>
      unfold Plan.fetched at quiet ih
      rw [Plan.lookedUp, List.filter_append, List.append_eq_nil_iff] at quiet
      obtain ⟨here, rest⟩ := quiet
      have unfetched : ∀ found ∈ located world state uniqueIdentifier,
          fetches world payload.accessCode found = false := by
        intro found finds
        have passed := List.filter_eq_nil_iff.mp here found
          (Option.mem_toList.mpr finds)
        simpa using passed
      rw [Plan.run, Plan.run, access_of_not_fetches unfetched]
      cases accessed : access world state uniqueIdentifier
          payload.accessCode with
      | error exception => rfl
      | ok storedObject =>
          rw [accessed] at rest
          exact ih storedObject rest
  | list next ih =>
      unfold Plan.fetched at quiet ih
      rw [Plan.lookedUp] at quiet
      rw [Plan.run, Plan.run]
      change outcomeOf (if state.dataStore.active = false then _ else _) = _
      split
      · rfl
      · rename_i isActive
        rw [if_neg isActive] at quiet
        exact ih _ quiet
  | update writes decide =>
      have otherwise := accessCode_ne_get writes
      have unfetched : ∀ found ∈ located world state (context.target payload),
          fetches world payload.accessCode found = false := by
        intro found finds
        simp [fetches, otherwise]
      rw [Plan.run, Plan.run, access_of_not_fetches unfetched]
      cases accessed : access world state (context.target payload)
          payload.accessCode with
      | error exception => rfl
      | ok target =>
          simp only
          cases decide target with
          | error exception => rfl
          | ok written => cases written <;> exact outcome_flush
  | create creation => exact outcome_flush
  | createSecret creation =>
      rw [Plan.run, Plan.run]
      unfold SecretCreation.run
      rw [show (world.serving available).createdSecret = world.createdSecret
        from rfl]
      cases world.createdSecret with
      | none => rfl
      | some secretRef =>
          simp only
          cases creation.build secretRef with
          | error exception => rfl
          | ok managedObject => exact outcome_flush

/-- While Barbican does not answer, a lookup that asks it fails. -/
theorem access_of_fetches
    {uniqueIdentifier : Option String} {operation : Operation}
    {found : StoredObject}
    (finds : located world state uniqueIdentifier = some found)
    (fetching : fetches world operation found = true)
    (unavailable : world.secretsAvailable = false) :
    access world state uniqueIdentifier operation =
      .error (.python .runtimeError) := by
  have asks : operation = .get ∧ world.osRegionName = true ∧
      found.managedObject.objectType = .symmetricKey := by
    simpa [fetches] using fetching
  unfold located at finds
  split at finds
  · cases finds
  · rename_i isActive
    have fails : loadedCopy world state operation found =
        .error (.python .runtimeError) := by
      unfold loadedCopy retrievedCopy
      rw [if_pos asks.1, if_pos asks.2, unavailable]
      rfl
    unfold access
    rw [if_neg isActive, finds]
    simp only
    rw [fails]
    rfl

/-- A plan that fetches a secret fails while Barbican does not answer. -/
theorem Plan.fails_of_fetched
    (plan : Plan context payload) (asks : plan.fetched world state ≠ [])
    (unavailable : world.secretsAvailable = false) :
    ∃ exception, outcomeOf (plan.run world state) = .error exception := by
  induction plan with
  | refuse exception => exact ⟨exception, rfl⟩
  | lookup uniqueIdentifier disguise next ih =>
      rw [Plan.run]
      cases accessed : access world state uniqueIdentifier
          payload.accessCode with
      | error exception => exact ⟨_, rfl⟩
      | ok storedObject =>
          unfold Plan.fetched at asks ih
          rw [Plan.lookedUp, List.filter_append, accessed] at asks
          have unfetched : (located world state uniqueIdentifier).toList.filter
              (fetches world payload.accessCode) = [] := by
            rw [List.filter_eq_nil_iff]
            intro found finds fetching
            have fails := access_of_fetches (Option.mem_toList.mp finds)
              fetching unavailable
            rw [accessed] at fails
            cases fails
          rw [unfetched, List.nil_append] at asks
          exact ih storedObject asks
  | list next ih =>
      unfold Plan.fetched at asks ih
      rw [Plan.lookedUp] at asks
      rw [Plan.run]
      split
      · exact ⟨_, rfl⟩
      · rename_i isActive
        rw [if_neg isActive] at asks
        exact ih _ asks
  | update writes decide =>
      apply absurd _ asks
      apply List.filter_eq_nil_iff.mpr
      simp [fetches, accessCode_ne_get writes]
  | reply | create | createSecret => exact absurd rfl asks

end Service

section Order

variable {world : World} {context : ItemContext} {payload : RequestPayload}

/-- The lookups of a plan are for identifiers of a list, in its order. -/
def Plan.LooksAlong : List (Option String) → Plan context payload → Prop
  | identifiers, .lookup uniqueIdentifier _ next =>
      ∃ rest, identifiers = uniqueIdentifier :: rest ∧
        ∀ storedObject, (next storedObject).LooksAlong rest
  | _, .list _ | _, .update _ _ => False
  | _, .refuse _ | _, .reply _ _ | _, .create _ | _, .createSecret _ => True

variable {identifiers : List (Option String)}

theorem Plan.LooksAlong.ofExcept
    {outcome : Except PyError α} {next : α → Plan context payload}
    (along : ∀ value, (next value).LooksAlong identifiers) :
    (Plan.ofExcept outcome next).LooksAlong identifiers := by
  cases outcome with
  | ok value => exact along value
  | error exception => trivial

theorem Plan.LooksAlong.refuseIf
    {condition : Prop} [Decidable condition] {exception : PyError}
    {plan : Plan context payload} (along : plan.LooksAlong identifiers) :
    (Plan.refuseIf condition exception plan).LooksAlong identifiers := by
  unfold Plan.refuseIf
  split
  · trivial
  · exact along

theorem Plan.LooksAlong.supportedSince
    {supported : ProtocolVersion} {operation : String}
    {plan : Plan context payload} (along : plan.LooksAlong identifiers) :
    (Plan.supportedSince supported operation plan).LooksAlong identifiers :=
  along.refuseIf

theorem Plan.LooksAlong.lookup
    {uniqueIdentifier : Option String} {disguise : Option PyError}
    {next : StoredObject → Plan context payload}
    (along : ∀ storedObject, (next storedObject).LooksAlong identifiers) :
    (Plan.lookup uniqueIdentifier disguise next).LooksAlong
      (uniqueIdentifier :: identifiers) :=
  ⟨identifiers, rfl, along⟩

theorem planWrapping_looksAlong
    {payload : GetRequestPayload} {specification : KeyWrappingSpecification}
    {managedObject : ManagedObject} {reply : CoreSecret → ResponsePayload}
    (specified : payload.keyWrappingSpecification = some specification) :
    (planWrapping world specification managedObject reply :
      Plan context (.get payload)).LooksAlong payload.wrappingKey.toList := by
  unfold GetRequestPayload.wrappingKey
  rw [specified]
  refine .refuseIf ?_
  cases given : specification.encryptionKeyInformation with
  | none => trivial
  | some information =>
      rw [Option.bind_some, given]
      exact .lookup fun _ => .ofExcept fun _ => .ofExcept fun _ => trivial

theorem planGet_looksAlong (payload : GetRequestPayload) :
    (planGet world context payload).LooksAlong (context.needs (.get payload)) := by
  refine .supportedSince <| .refuseIf <| .lookup fun storedObject =>
    .ofExcept fun _ => ?_
  cases specified : payload.keyWrappingSpecification with
  | none => trivial
  | some specification => exact planWrapping_looksAlong specified

theorem planSources_looksAlong
    {payload : DeriveKeyRequestPayload} (uniqueIdentifiers : List String)
    {next : List StoredObject → Plan context (.deriveKey payload)}
    (along : ∀ storedObjects, (next storedObjects).LooksAlong []) :
    (planSources uniqueIdentifiers next).LooksAlong
      (uniqueIdentifiers.map some) := by
  induction uniqueIdentifiers generalizing next with
  | nil => exact along []
  | cons uniqueIdentifier rest ih =>
      exact .lookup fun storedObject => .refuseIf <| .ofExcept fun _ =>
        .refuseIf <| ih fun others => along (storedObject :: others)

theorem planDeriveKey_looksAlong (payload : DeriveKeyRequestPayload) :
    (planDeriveKey world context payload).LooksAlong
      (context.needs (.deriveKey payload)) :=
  .supportedSince <| .ofExcept fun _ => .refuseIf <| .refuseIf <|
    planSources_looksAlong _ fun _ => .ofExcept fun _ => .ofExcept fun _ =>
    .ofExcept fun _ => .ofExcept fun _ => .ofExcept fun _ => .ofExcept fun _ =>
    trivial

/-- An item that needs the permission to get objects looks up those that it
needs, in their order. -/
theorem plan_looksAlong
    (payload : RequestPayload) (gets : payload.accessCode = .get) :
    (plan world context payload).LooksAlong (context.needs payload) := by
  cases payload with
  | get payload => exact planGet_looksAlong payload
  | deriveKey payload => exact planDeriveKey_looksAlong payload
  | encrypt payload =>
      exact .supportedSince <| .lookup fun _ => .ofExcept fun _ =>
        .ofExcept fun _ => trivial
  | decrypt payload =>
      exact .supportedSince <| .lookup fun _ => .ofExcept fun _ =>
        .ofExcept fun _ => trivial
  | sign payload =>
      exact .supportedSince <| .lookup fun _ => .ofExcept fun _ =>
        .ofExcept fun _ => trivial
  | signatureVerify payload =>
      exact .supportedSince <| .lookup fun _ => .ofExcept fun _ =>
        .ofExcept fun _ => trivial
  | mac payload =>
      exact .supportedSince <| .lookup fun _ => .ofExcept fun _ =>
        .ofExcept fun _ => trivial
  | unsupported operation undispatched => trivial
  | _ => cases gets

/-- The objects that the lookups under a list of identifiers come across, up to
the first one on which the client does not have the permission. -/
def examined (world : World) (state : EngineState) (operation : Operation) :
    List (Option String) → List StoredObject
  | [] => []
  | uniqueIdentifier :: rest =>
      match located world state uniqueIdentifier with
      | none => []
      | some storedObject =>
          if isPermitted world state.clientIdentity operation
              storedObject.managedObject then
            storedObject :: examined world state operation rest
          else [storedObject]

variable {state : EngineState}

theorem located_of_access
    {uniqueIdentifier : Option String} {operation : Operation}
    {loaded : StoredObject}
    (accessed : access world state uniqueIdentifier operation = .ok loaded) :
    ∃ found, located world state uniqueIdentifier = some found ∧
      isPermitted world state.clientIdentity operation
        found.managedObject = true := by
  obtain ⟨found, value, finds, _, permitted⟩ := access_eq_found accessed
  refine ⟨found, ?_, permitted⟩
  unfold access at accessed
  unfold located
  split at accessed
  · cases accessed
  · rename_i isActive
    rw [if_neg isActive, finds]

theorem Plan.LooksAlong.examined
    {plan : Plan context payload} (along : plan.LooksAlong identifiers) :
    ∀ storedObject ∈ plan.lookedUp world state,
      storedObject ∈ examined world state payload.accessCode identifiers := by
  induction plan generalizing identifiers with
  | lookup uniqueIdentifier disguise next ih =>
      obtain ⟨rest, rfl, following⟩ := along
      intro storedObject member
      rw [Plan.lookedUp] at member
      rw [PyKMIP.examined]
      rcases List.mem_append.mp member with here | later
      · rw [Option.mem_toList] at here
        rw [here]
        simp only
        split
        · exact List.mem_cons_self
        · exact List.mem_cons_self
      · cases accessed : access world state uniqueIdentifier
            payload.accessCode with
        | error exception =>
            rw [accessed] at later
            cases later
        | ok loaded =>
            rw [accessed] at later
            obtain ⟨found, finds, permitted⟩ := located_of_access accessed
            rw [finds]
            simp only
            rw [if_pos permitted]
            exact .tail _ (ih loaded (following loaded) storedObject later)
  | list | update => exact along.elim
  | refuse | reply | create | createSecret =>
      exact fun _ member => absurd member List.not_mem_nil

end Order

section Authorization

/-- A plan that fails before it looks anything up. -/
def Plan.Refuses {context : ItemContext} {payload : RequestPayload} :
    Plan context payload → Prop
  | .refuse _ => True
  | _ => False

namespace Execution

variable (execution : Execution)

def plan : Plan execution.before.context execution.payload :=
  PyKMIP.plan execution.world execution.before.context execution.payload

/-- The objects that the lookups of the item come across. -/
def lookedUp : List StoredObject :=
  execution.plan.lookedUp execution.world execution.before

/-- The objects whose secrets the item asks Barbican for. -/
def fetched : List StoredObject :=
  execution.plan.fetched execution.world execution.before

/-- The item comes across an object on which the client does not have the
permission. -/
def Refused : Prop :=
  ∃ storedObject ∈ execution.lookedUp,
    ¬execution.Permits storedObject.managedObject

/-- The same item while Barbican holds other secrets and answers or not. -/
def serving (available : Bool) (barbican : Barbican) : Execution :=
  { execution with
    world := execution.world.serving available
    before := execution.before.holding barbican }

/-- The objects that the item comes across if it only checks the permission. -/
def examined : List StoredObject :=
  PyKMIP.examined execution.world execution.before execution.payload.accessCode
    (execution.before.context.needs execution.payload)

/-- Unless the item fails by its version and payload alone, it may get every
object that it comes across, or comes across no symmetric key up to the first
one that it may not get. -/
def FetchesWithPermission : Prop :=
  execution.world.osRegionName = false ∨ execution.payload.accessCode ≠ .get ∨
    execution.plan.Refuses ∨
    (∀ storedObject ∈ execution.examined,
      execution.Permits storedObject.managedObject) ∨
    ∀ storedObject ∈ execution.examined,
      storedObject.managedObject.objectType ≠ .symmetricKey

/-- Secrets are asked for with permission only, and a refused item neither asks
nor depends on what Barbican can serve. -/
structure FetchesAuthorized : Prop where
  permitted : ∀ storedObject ∈ execution.fetched,
    execution.Permits storedObject.managedObject
  refused : execution.Refused → execution.fetched = []
  response : execution.Refused → ∀ available barbican,
    (execution.serving available barbican).response = execution.response

variable {execution}

theorem plan_serving (available : Bool) (barbican : Barbican) :
    (execution.serving available barbican).plan = execution.plan := by
  unfold plan serving payload
  cases execution.item.requestPayload <;> rfl

theorem result_eq_plan_run :
    execution.result = execution.plan.run execution.world execution.before :=
  processOperation_follows execution.world execution.payload execution.before

/-- An item that fetches no secret does not depend on Barbican. -/
theorem response_of_fetched_nil
    (quiet : execution.fetched = []) (available : Bool) (barbican : Barbican) :
    (execution.serving available barbican).response = execution.response := by
  have same : (execution.serving available barbican).outcome =
      execution.outcome := by
    unfold outcome
    rw [result_eq_plan_run, result_eq_plan_run, plan_serving]
    exact execution.plan.outcome_of_fetched_nil quiet available barbican
  unfold response
  rw [same]
  rfl

theorem fetchesAuthorized_of_fetched_nil (quiet : execution.fetched = []) :
    execution.FetchesAuthorized where
  permitted := by
    rw [quiet]
    exact fun _ member => absurd member List.not_mem_nil
  refused _ := quiet
  response _ := response_of_fetched_nil quiet

theorem fetched_nil_iff :
    execution.fetched = [] ↔ ∀ storedObject ∈ execution.lookedUp,
      fetches execution.world execution.payload.accessCode storedObject =
        false := by
  unfold fetched Plan.fetched
  rw [List.filter_eq_nil_iff]
  simp only [Bool.not_eq_true]
  rfl

theorem lookedUp_examined
    (gets : execution.payload.accessCode = .get) :
    ∀ storedObject ∈ execution.lookedUp, storedObject ∈ execution.examined :=
  (plan_looksAlong execution.payload gets).examined

theorem fetchesAuthorized
    (careful : execution.FetchesWithPermission) :
    execution.FetchesAuthorized := by
  by_cases gets : execution.payload.accessCode = .get
  · rcases careful with off | other | refuses | permits | opaqueObjects
    · apply fetchesAuthorized_of_fetched_nil
      rw [fetched_nil_iff]
      simp [fetches, off]
    · exact absurd gets other
    · apply fetchesAuthorized_of_fetched_nil
      unfold fetched
      generalize execution.plan = plan at refuses ⊢
      cases plan with
      | refuse exception => rfl
      | _ => exact refuses.elim
    · have granted : ¬execution.Refused := by
        rintro ⟨storedObject, member, denied⟩
        exact denied (permits _ (lookedUp_examined gets _ member))
      constructor
      · intro storedObject member
        exact permits _ (lookedUp_examined gets _ (List.mem_filter.mp member).1)
      · exact fun refused => absurd refused granted
      · exact fun refused => absurd refused granted
    · apply fetchesAuthorized_of_fetched_nil
      rw [fetched_nil_iff]
      intro storedObject member
      have otherType := opaqueObjects _ (lookedUp_examined gets _ member)
      simp [fetches, otherType]
  · apply fetchesAuthorized_of_fetched_nil
    rw [fetched_nil_iff]
    simp [fetches, gets]

end Execution

/-- Items that may get the objects that they come across fetch secrets with
permission only. -/
theorem secrets_are_fetched_with_permission
    (start : EngineState) (exchanges : List Exchange)
    (careful : ∀ execution ∈ history start exchanges,
      execution.FetchesWithPermission) :
    ∀ execution ∈ history start exchanges, execution.FetchesAuthorized :=
  fun execution member => Execution.fetchesAuthorized (careful execution member)

end Authorization

section Samples

instance {context : ItemContext} {payload : RequestPayload} :
    (plan : Plan context payload) → Decidable plan.Refuses
  | .refuse _ => .isTrue trivial
  | .reply _ _ | .lookup _ _ _ | .list _ | .update _ _ | .create _
  | .createSecret _ => .isFalse id

instance (execution : Execution) : Decidable execution.FetchesWithPermission :=
  inferInstanceAs (Decidable (_ ∨ _ ∨ _ ∨ (∀ _ ∈ _, _) ∨ ∀ _ ∈ _, _))

/-- The back end is enabled and names the next secret. -/
def barbicanWorld : World :=
  { sampleWorld with
    osRegionName := true
    createdSecret := some "secrets/1" }

def sampleGet : RequestPayload := .get { uniqueIdentifier := some "1" }

/-- A user gets the key whose secret has just been created. -/
def ownerGets : List Exchange :=
  [sampleExchange barbicanWorld "alice" [{ requestPayload := sampleCreation }],
    sampleExchange barbicanWorld "alice" [{ requestPayload := sampleGet }]]

theorem secrets_are_fetched_with_permission_owner :
    ∃ execution ∈ history (newEngine .empty []) ownerGets,
      execution.fetched ≠ [] ∧ execution.FetchesAuthorized := by
  have inside : 1 < (history (newEngine .empty []) ownerGets).length := by
    decide +kernel
  have careful : ∀ execution ∈ history (newEngine .empty []) ownerGets,
      execution.FetchesWithPermission := by
    decide +kernel
  exact ⟨_, List.getElem_mem inside, by decide +kernel +revert,
    secrets_are_fetched_with_permission _ _ careful _ (List.getElem_mem inside)⟩

/-- Another user asks for the key: its secret is fetched all the same. -/
theorem secrets_are_fetched_without_permission :
    ¬∀ (start : EngineState) (exchanges : List Exchange),
      ∀ execution ∈ history start exchanges, execution.FetchesAuthorized := by
  intro authorized
  have bobs := authorized (newEngine .empty [])
    [sampleExchange barbicanWorld "alice" [{ requestPayload := sampleCreation }],
      sampleExchange barbicanWorld "bob" [{ requestPayload := sampleGet }]]
  have granted : ∀ execution ∈ history (newEngine .empty [])
      [sampleExchange barbicanWorld "alice"
          [{ requestPayload := sampleCreation }],
        sampleExchange barbicanWorld "bob" [{ requestPayload := sampleGet }]],
      ∀ storedObject ∈ execution.fetched,
        execution.Permits storedObject.managedObject :=
    fun execution member => (bobs execution member).permitted
  exact absurd granted (by decide +kernel)

end Samples

end PyKMIP
