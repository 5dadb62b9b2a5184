import PyKMIP.Runs
import PyKMIP.Transactions.Agreement

/-!
# Denied and absent objects

A refusal reports a denied object with another reason than an absent one, so a
client without a permission still learns whether an identifier is in use.  The
responses over two stores that agree on the permitted objects are the same
exactly when the identifier is in use in both stores or in neither, or when the
lookup is never reached.
-/

namespace PyKMIP

open EStateM StatefulExcept

section Requests

/-- The operations on one object. -/
def singleObjectOperations : List Operation :=
  [.deleteAttribute, .get, .getAttributes, .getAttributeList, .activate, .revoke,
    .destroy, .encrypt, .decrypt, .signatureVerify, .setAttribute,
    .modifyAttribute, .mac, .sign]

/-- The version that introduced an operation on one object. -/
def RequestPayload.introduced : RequestPayload → ProtocolVersion
  | .encrypt _ | .decrypt _ | .signatureVerify _ | .mac _ | .sign _ => ⟨1, 2⟩
  | .setAttribute _ => version20
  | _ => ⟨1, 0⟩

/-- What the handlers check of a payload before they look its object up. -/
def RequestPayload.passesFirstChecks : RequestPayload → Bool
  | .get payload => payload.keyCompressionType.isNone
  | .revoke payload => payload.revocationCode.isSome
  | _ => true

/-- Whether an item gets as far as the lookup of its object. -/
def RequestPayload.ReachesLookup (payload : RequestPayload)
    (version : ProtocolVersion) : Prop :=
  payload.introduced ≤ version ∧ payload.passesFirstChecks = true

end Requests

section Plans

variable {world : World} {context : ItemContext} {payload : RequestPayload}
  {first second : EngineState}

/-- All failed lookups of the plan look alike, and it has no effect. -/
def Plan.Disguised : Plan context payload → Prop
  | .refuse _ => True
  | .reply _ _ => True
  | .lookup _ disguise next =>
      disguise.isSome = true ∧ ∀ storedObject, (next storedObject).Disguised
  | .list _ => False
  | .update _ _ => False
  | .create _ => False
  | .createSecret _ => False

/-- Plans that begin with the lookup of the object they are about. -/
inductive Plan.LooksUp : Plan context payload → Prop where
  | lookup (next : StoredObject → Plan context payload)
      (disguised : ∀ storedObject, (next storedObject).Disguised) :
      LooksUp (.lookup (context.target payload) none next)
  | update (writes : writingOperations.contains payload.operation)
      (decide : (target : StoredObject) →
        Except PyError (Update payload target)) :
      LooksUp (.update writes decide)

theorem Plan.Disguised.ofExcept
    {outcome : Except PyError α} {next : α → Plan context payload}
    (disguised : ∀ value, (next value).Disguised) :
    (Plan.ofExcept outcome next).Disguised := by
  cases outcome with
  | ok value => exact disguised value
  | error exception => exact True.intro

theorem Plan.Disguised.refuseIf
    {condition : Prop} [Decidable condition] {exception : PyError}
    {plan : Plan context payload} (disguised : plan.Disguised) :
    (Plan.refuseIf condition exception plan).Disguised := by
  unfold Plan.refuseIf
  split
  · exact True.intro
  · exact disguised

/-- A disguised plan answers alike over all stores that agree. -/
theorem Plan.Disguised.run_eq
    {plan : Plan context payload} (disguised : plan.Disguised)
    (agree : Agree world payload.accessCode first second) :
    outcomeOf (plan.run world second) = outcomeOf (plan.run world first) := by
  induction plan with
  | refuse exception => rfl
  | reply reads reply => rfl
  | lookup uniqueIdentifier disguise next ih =>
      obtain ⟨isDisguised, rest⟩ := disguised
      obtain ⟨error, rfl⟩ := Option.isSome_iff_exists.mp isDisguised
      rw [Plan.run, Plan.run]
      cases accessed : access world first uniqueIdentifier
          payload.accessCode with
      | ok storedObject =>
          rw [access_of_agree agree accessed]
          exact ih storedObject (rest storedObject)
      | error exception =>
          cases alsoAccessed : access world second uniqueIdentifier
              payload.accessCode with
          | ok storedObject =>
              have back := access_of_agree agree.symm alsoAccessed
              rw [accessed] at back
              cases back
          | error other => rfl
  | list next => exact disguised.elim
  | update writes decide => exact disguised.elim
  | create creation => exact disguised.elim
  | createSecret creation => exact disguised.elim

end Plans

section Handlers

variable (world : World) (context : ItemContext)

theorem planWrapping_disguised
    {payload : GetRequestPayload} (specification : KeyWrappingSpecification)
    (managedObject : ManagedObject) (reply : CoreSecret → ResponsePayload) :
    (planWrapping world specification managedObject reply :
      Plan context (.get payload)).Disguised := by
  apply Plan.Disguised.refuseIf
  split
  · constructor
    · rfl
    · intro key
      exact .ofExcept fun _ => .ofExcept fun _ => True.intro
  · exact True.intro

/-- Refused by its version or by its first checks, or led by the lookup. -/
def Plan.Guarded {payload : RequestPayload} (plan : Plan context payload) :
    Prop :=
  (payload.ReachesLookup context.protocolVersion ∧ plan.LooksUp) ∨
    (¬payload.ReachesLookup context.protocolVersion ∧
      ∃ exception, plan = .refuse exception)

theorem Plan.Guarded.supportedSince
    {payload : RequestPayload} {operation : String}
    {plan : Plan context payload} (unchecked : payload.passesFirstChecks = true)
    (looksUp : plan.LooksUp) :
    (Plan.supportedSince payload.introduced operation plan).Guarded := by
  unfold Plan.supportedSince Plan.refuseIf
  by_cases supported : payload.introduced ≤ context.protocolVersion
  · left
    rw [if_neg (not_not.mpr supported)]
    exact ⟨⟨supported, unchecked⟩, looksUp⟩
  · right
    rw [if_pos supported]
    exact ⟨fun reaches => supported reaches.1, _, rfl⟩

theorem planGet_looksUp (payload : GetRequestPayload)
    (check : StoredObject → Except PyError Unit) :
    Plan.LooksUp (.lookup (context.target (.get payload)) none
      fun storedObject => .ofExcept (check storedObject) fun _ =>
        match payload.keyWrappingSpecification with
        | some specification =>
            planWrapping world specification storedObject.managedObject
              fun coreSecret => .get storedObject.managedObject.objectType
                (context.target (.get payload)) coreSecret
        | none => .reply rfl (.get storedObject.managedObject.objectType
            (context.target (.get payload))
            (buildCoreObject storedObject.managedObject)) :
      Plan context (.get payload)) := by
  apply Plan.LooksUp.lookup
  intro storedObject
  apply Plan.Disguised.ofExcept
  intro _
  cases payload.keyWrappingSpecification with
  | some specification => exact planWrapping_disguised ..
  | none => exact True.intro

theorem planGet_guarded (payload : GetRequestPayload) :
    (planGet world context payload).Guarded := by
  unfold planGet Plan.supportedSince Plan.refuseIf
  by_cases supported : (⟨1, 0⟩ : ProtocolVersion) ≤ context.protocolVersion
  · rw [if_neg (not_not.mpr supported)]
    by_cases compressed : payload.keyCompressionType.isSome
    · right
      rw [if_pos compressed]
      refine ⟨fun reaches => ?_, _, rfl⟩
      have uncompressed : payload.keyCompressionType.isNone = true := reaches.2
      simp [Option.isNone_iff_eq_none.mp uncompressed] at compressed
    · left
      rw [if_neg compressed]
      refine ⟨⟨supported, ?_⟩, planGet_looksUp _ _ payload _⟩
      show payload.keyCompressionType.isNone = true
      simpa using compressed
  · right
    rw [if_pos supported]
    exact ⟨fun reaches => supported reaches.1, _, rfl⟩

theorem planRevoke_guarded (payload : RevokeRequestPayload) :
    (planRevoke context payload).Guarded := by
  unfold planRevoke Plan.supportedSince Plan.refuseIf
  by_cases supported : (⟨1, 0⟩ : ProtocolVersion) ≤ context.protocolVersion
  · rw [if_neg (not_not.mpr supported)]
    split
    · rename_i missing
      right
      refine ⟨fun reaches => ?_, _, rfl⟩
      have given : payload.revocationCode.isSome = true := reaches.2
      simp [missing] at given
    · rename_i revocationCode given
      left
      refine ⟨⟨supported, ?_⟩, .update _ _⟩
      show payload.revocationCode.isSome = true
      simp [given]
  · right
    rw [if_pos supported]
    exact ⟨fun reaches => supported reaches.1, _, rfl⟩

/-- Every plan for one object is guarded in this way. -/
theorem plan_guarded
    {payload : RequestPayload}
    (single : singleObjectOperations.contains payload.operation) :
    (plan world context payload).Guarded := by
  cases payload
  case get payload => exact planGet_guarded world context payload
  case revoke payload => exact planRevoke_guarded context payload
  case activate | destroy | deleteAttribute | setAttribute | modifyAttribute =>
    exact .supportedSince context rfl (.update _ _)
  case encrypt | decrypt | signatureVerify | mac | sign =>
    exact .supportedSince context rfl (.lookup _ fun _ =>
      .ofExcept fun _ => .ofExcept fun _ => True.intro)
  case getAttributes | getAttributeList =>
    exact .supportedSince context rfl (.lookup _ fun _ =>
      .ofExcept fun _ => True.intro)
  case unsupported operation undispatched =>
    exfalso
    have listed : singleObjectOperations.contains operation = true := single
    clear single
    revert undispatched listed
    cases operation <;> decide
  all_goals cases single

end Handlers

section Visibility

variable {world : World} {operation : Operation}
  {first second : EngineState}

/-- Whether an identifier finds an object, and whether that can be loaded. -/
def visibility (world : World) (operation : Operation) (state : EngineState)
    (uniqueIdentifier : Option String) : Option Bool :=
  (findObject world state uniqueIdentifier).map fun found =>
    (loadedCopy world state operation found).isOk

/-- The exception of a lookup that fails over a session in use. -/
def refusal (uniqueIdentifier : Option String) : Option Bool → PyError
  | none => itemNotFound (couldNotLocate uniqueIdentifier)
  | some false => .python .runtimeError
  | some true => permissionDenied (couldNotLocate uniqueIdentifier)

theorem retriveSecret_error
    {barbican : Barbican} {url : Bytes} {exception : PyError}
    (failed : barbican.retriveSecret url = .error exception) :
    exception = .python .runtimeError := by
  unfold Barbican.retriveSecret at failed
  simp only at failed
  split at failed
  · cases failed
  · cases failed
    rfl

theorem loadedCopy_error
    {state : EngineState} {found : StoredObject} {exception : PyError}
    (failed : loadedCopy world state operation found = .error exception) :
    exception = .python .runtimeError := by
  unfold loadedCopy retrievedCopy at failed
  split at failed
  · split at failed
    · split at failed
      · cases retrieved : state.barbican.retriveSecret
            found.managedObject.value with
        | ok value =>
            rw [retrieved] at failed
            cases failed
        | error raised =>
            rw [retrieved] at failed
            cases failed
            exact retriveSecret_error retrieved
      · cases failed
        rfl
    · cases failed
  · cases failed

theorem access_eq_error
    {state : EngineState} {uniqueIdentifier : Option String}
    {exception : PyError} (active : state.dataStore.active = true)
    (refused : access world state uniqueIdentifier operation =
      .error exception) :
    exception = refusal uniqueIdentifier
      (visibility world operation state uniqueIdentifier) := by
  unfold access at refused
  unfold visibility
  rw [active] at refused
  simp only [Bool.true_eq_false, if_false] at refused
  cases located : findObject world state uniqueIdentifier with
  | none =>
      rw [located] at refused
      cases refused
      rfl
  | some found =>
      rw [located] at refused
      simp only at refused
      cases copied : loadedCopy world state operation found with
      | error raised =>
          rw [copied] at refused
          cases refused
          rw [loadedCopy_error copied, Option.map_some, copied]
          rfl
      | ok loaded =>
          rw [copied] at refused
          simp only [bind, Except.bind] at refused
          split at refused
          · cases refused
          · cases refused
            rw [Option.map_some, copied]
            rfl

/-- The three refusals are reported with three reasons. -/
theorem reportedError_refusal_injective
    {uniqueIdentifier : Option String} {seen other : Option Bool}
    (same : reportedError (refusal uniqueIdentifier seen) =
      reportedError (refusal uniqueIdentifier other)) :
    seen = other := by
  have reasons := congrArg (fun report => report.2.1) same
  cases seen with
  | none =>
      cases other with
      | none => rfl
      | some loaded => cases loaded <;> cases reasons
  | some known =>
      cases other with
      | none => cases known <;> cases reasons
      | some loaded =>
          cases known <;> cases loaded <;> first | rfl | cases reasons

theorem visibility_of_access
    (agree : Agree world operation first second)
    {uniqueIdentifier : Option String} {storedObject : StoredObject}
    (accessed : access world first uniqueIdentifier operation =
      .ok storedObject) :
    visibility world operation second uniqueIdentifier =
      visibility world operation first uniqueIdentifier := by
  obtain ⟨_, found, located, copied, permitted⟩ := access_eq_ok_iff.mp accessed
  have alsoLocated := findObject_of_agree agree located permitted
  unfold visibility
  rw [located, alsoLocated, Option.map_some, Option.map_some,
    loadedCopy_of_barbican agree.barbican]

end Visibility

section Items

variable {world : World} {payload : RequestPayload}
  {first second : EngineState}

theorem composeItem_refusal_iff
    {item : RequestBatchItem} {uniqueIdentifier : Option String}
    {seen other : Option Bool} :
    composeItem item (.error (refusal uniqueIdentifier seen)) =
        composeItem item (.error (refusal uniqueIdentifier other)) ↔
      seen = other := by
  constructor
  · intro same
    apply reportedError_refusal_injective
    have status := congrArg ResponseBatchItem.resultStatus same
    have reason := congrArg ResponseBatchItem.resultReason same
    have message := congrArg ResponseBatchItem.resultMessage same
    exact Prod.ext status
      (Prod.ext (Option.some.inj reason) (Option.some.inj message))
  · intro same
    rw [same]

/-- Over stores that agree, a plan for one object answers alike exactly when it
sees the object alike. -/
theorem Plan.LooksUp.composed_iff
    {plan : Plan first.context payload} (looksUp : plan.LooksUp)
    (item : RequestBatchItem)
    (agree : Agree world payload.accessCode first second)
    (active : first.dataStore.active = true)
    (cleanFirst : first.Clean) (cleanSecond : second.Clean) :
    composeItem item (outcomeOf (plan.run world second)) =
        composeItem item (outcomeOf (plan.run world first)) ↔
      visibility world payload.accessCode second
          (first.context.target payload) =
        visibility world payload.accessCode first
          (first.context.target payload) := by
  have alsoActive : second.dataStore.active = true :=
    agree.active.trans active
  cases accessed : access world first (first.context.target payload)
      payload.accessCode with
  | ok storedObject =>
      have alsoAccessed := access_of_agree agree accessed
      have sees := visibility_of_access agree accessed
      apply iff_of_true _ sees
      apply congrArg (composeItem item)
      cases looksUp with
      | lookup next disguised =>
          rw [Plan.run, Plan.run, accessed, alsoAccessed]
          exact (disguised storedObject).run_eq agree
      | update writes decide =>
          rw [Plan.run, Plan.run, accessed, alsoAccessed]
          simp only
          cases decide storedObject with
          | error exception => rfl
          | ok written =>
              obtain ⟨_, here, _⟩ := written.run_of_clean cleanFirst active
                (lookup_of_access writes accessed)
              obtain ⟨_, there, _⟩ := written.run_of_clean cleanSecond
                alsoActive (lookup_of_access writes alsoAccessed)
              simp only [here, there]
              rfl
  | error exception =>
      cases alsoAccessed : access world second (first.context.target payload)
          payload.accessCode with
      | ok storedObject =>
          have back := access_of_agree agree.symm alsoAccessed
          rw [accessed] at back
          cases back
      | error other =>
          have refused : outcomeOf (plan.run world first) =
              .error exception := by
            cases looksUp with
            | lookup next disguised => rw [Plan.run, accessed]; rfl
            | update writes decide => rw [Plan.run, accessed]; rfl
          have alsoRefused : outcomeOf (plan.run world second) =
              .error other := by
            cases looksUp with
            | lookup next disguised => rw [Plan.run, alsoAccessed]; rfl
            | update writes decide => rw [Plan.run, alsoAccessed]; rfl
          rw [refused, alsoRefused, access_eq_error active accessed,
            access_eq_error alsoActive alsoAccessed]
          exact composeItem_refusal_iff

theorem processOperation_composed_iff
    (item : RequestBatchItem)
    (single : singleObjectOperations.contains payload.operation)
    (agree : Agree world payload.accessCode first second)
    (active : first.dataStore.active = true)
    (cleanFirst : first.Clean) (cleanSecond : second.Clean) :
    composeItem item (outcomeOf ((processOperation world payload).run second)) =
        composeItem item
          (outcomeOf ((processOperation world payload).run first)) ↔
      ¬payload.ReachesLookup first.protocolVersion ∨
        visibility world payload.accessCode second
            (first.context.target payload) =
          visibility world payload.accessCode first
            (first.context.target payload) := by
  rw [processOperation_follows world payload first,
    processOperation_follows world payload second, agree.context]
  rcases plan_guarded world first.context single with
    ⟨reaches, looksUp⟩ | ⟨stops, exception, refuses⟩
  · rw [looksUp.composed_iff item agree active cleanFirst cleanSecond]
    constructor
    · exact .inr
    · rintro (stops | same)
      · exact absurd reaches stops
      · exact same
  · rw [refuses]
    exact iff_of_true rfl (.inl stops)

end Items

section Requests

variable (exchange : Exchange) (state : EngineState) (other : DataStore)

/-- The client gets the same answer over two stores. -/
def Indistinguishable : Prop :=
  exchange.reply { state with dataStore := other } = exchange.reply state

/-- A request for one object, over two stores that agree on the objects on which
the client has the permission. -/
structure SingleObjectRequest (item : RequestBatchItem) : Prop where
  items : exchange.items = [item]
  single : singleObjectOperations.contains item.requestPayload.operation = true
  agree : AgreeOnPermitted (exchange.world.items 0) exchange.credential
    item.requestPayload.accessCode state.dataStore.committed other.committed

/-- Whether the object of an item is seen alike in the two stores. -/
def SeenAlike (item : RequestBatchItem) : Prop :=
  visibility (exchange.world.items 0) item.requestPayload.accessCode
      (exchange.entering { state with dataStore := other })
      ((exchange.entering state).context.target item.requestPayload) =
    visibility (exchange.world.items 0) item.requestPayload.accessCode
      (exchange.entering state)
      ((exchange.entering state).context.target item.requestPayload)

/-- When a request cannot tell a denied object from an absent one. -/
def Ignorant (item : RequestBatchItem) : Prop :=
  (∃ exception, checkHeader exchange.world.received exchange.header =
      .error exception) ∨
    ¬item.requestPayload.ReachesLookup exchange.header.protocolVersion ∨
    SeenAlike exchange state other item

variable {exchange state other} {item : RequestBatchItem}

theorem reply_of_single
    (items : exchange.items = [item]) (state : EngineState)
    {handling : BatchErrorContinuationOption}
    (accepts : checkHeader exchange.world.received exchange.header =
      .ok handling) :
    exchange.reply state = .ok
      (buildResponse exchange.header.protocolVersion exchange.world.answered
        [composeItem item (outcomeOf ((processOperation
          (exchange.world.items 0) item.requestPayload).run
            (exchange.entering state)))],
        exchange.header.maximumResponseSize,
        exchange.header.protocolVersion) := by
  have lonely : exchange.several = false := by
    unfold Exchange.several
    rw [items]
    rfl
  have executed : exchange.executions state =
      [⟨exchange.world.items 0, item, exchange.entering state⟩] := by
    unfold Exchange.executions
    rw [accepts, items, lonely]
    simp [executions]
  obtain ⟨final, _, ran⟩ := exchange.result_of_accepted state accepts
  rcases ran with ⟨returned, _⟩ | ⟨_, interrupted⟩
  · unfold Exchange.reply
    rw [returned]
    unfold Exchange.answer
    rw [executed]
    rfl
  · have several := interrupted.several
    rw [lonely] at several
    cases several

theorem agree_entering (request : SingleObjectRequest exchange state other item) :
    Agree (exchange.world.items 0) item.requestPayload.accessCode
      (exchange.entering state)
      (exchange.entering { state with dataStore := other }) where
  context := rfl
  barbican := rfl
  active := rfl
  rows := request.agree

/-- The request hides denied objects exactly when it is ignorant. -/
theorem single_object_request_hides_iff
    (request : SingleObjectRequest exchange state other item) :
    Indistinguishable exchange state other ↔
      Ignorant exchange state other item := by
  unfold Indistinguishable Ignorant
  cases header : checkHeader exchange.world.received exchange.header with
  | error exception =>
      obtain ⟨_, refused, _⟩ := exchange.result_of_refused state header
      obtain ⟨_, alsoRefused, _⟩ := exchange.result_of_refused
        { state with dataStore := other } header
      apply iff_of_true
      · unfold Exchange.reply
        rw [refused, alsoRefused]
        rfl
      · exact .inl ⟨exception, rfl⟩
  | ok handling =>
      rw [reply_of_single request.items state header,
        reply_of_single request.items { state with dataStore := other } header]
      have composed := processOperation_composed_iff item request.single
        (agree_entering request) rfl rfl rfl
      constructor
      · intro same
        right
        apply composed.mp
        have answers := congrArg (fun reply => reply.1.batchItems)
          (Except.ok.inj same)
        exact List.head_eq_of_cons_eq answers
      · rintro (⟨exception, impossible⟩ | hidden)
        · cases impossible
        · rw [composed.mpr hidden]

end Requests

section Samples

/-- A user asks for a key that another user may have created. -/
def sampleInspection : Exchange :=
  sampleExchange sampleWorld "bob"
    [{ requestPayload := .get { uniqueIdentifier := some "1" } }]

/-- The engine after the creation of a key that only its owner may get. -/
def sampleDenial : EngineState :=
  (sampleExchange sampleWorld "alice"
    [{ requestPayload := sampleCreation }]).after (newEngine .empty [])

theorem sampleInspection_isSingle :
    SingleObjectRequest sampleInspection sampleDenial .empty
      { requestPayload := .get { uniqueIdentifier := some "1" } } where
  items := rfl
  single := rfl
  agree := by
    intro key managedObject permitted
    have stored : sampleDenial.dataStore.committed.Forall fun managedObject =>
        isPermitted sampleWorld { user := some "bob" } .get managedObject =
          false := by decide
    constructor
    · intro found
      have denied := Table.forall_iff_lookup.mp stored key managedObject found
      change isPermitted sampleWorld { user := some "bob" } .get
        managedObject = true at permitted
      rw [denied] at permitted
      cases permitted
    · intro found
      cases found

theorem single_object_request_hides_iff_inspection :
    Indistinguishable sampleInspection sampleDenial .empty ↔
      Ignorant sampleInspection sampleDenial .empty
        { requestPayload := .get { uniqueIdentifier := some "1" } } :=
  single_object_request_hides_iff sampleInspection_isSingle

/-- A denied Get is refused with another reason than one of an absent key. -/
theorem denied_get_is_distinguishable :
    ¬∀ (exchange : Exchange) (state : EngineState) (other : DataStore)
        (item : RequestBatchItem),
      SingleObjectRequest exchange state other item →
      Indistinguishable exchange state other := by
  intro hidden
  have same := hidden _ _ _ _ sampleInspection_isSingle
  have different : ¬Indistinguishable sampleInspection sampleDenial .empty := by
    unfold Indistinguishable
    decide
  exact different same

end Samples

end PyKMIP
