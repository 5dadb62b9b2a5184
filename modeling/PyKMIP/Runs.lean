import PyKMIP.Lib.History
import PyKMIP.Transactions.Refinement

/-!
# Runs of requests

A request executes its batch items one after the other, each in the state that
the one before it left.  What survives from one request to the next are the
committed rows, the secrets in Barbican and the placeholder.
-/

namespace PyKMIP

open EStateM StatefulExcept History

section Executions

/-- One execution of a batch item. -/
structure Execution where
  world : World
  item : RequestBatchItem
  before : EngineState

namespace Execution

variable (execution : Execution)

def payload : RequestPayload := execution.item.requestPayload

def result : Result PyError EngineState ResponsePayload :=
  (processOperation execution.world execution.payload).run execution.before

def outcome : Except PyError ResponsePayload := outcomeOf execution.result

def after : EngineState := finalState execution.result

def response : ResponseBatchItem :=
  composeItem execution.item execution.outcome

def Succeeded : Prop := execution.outcome.isOk = true

instance : Decidable execution.Succeeded :=
  inferInstanceAs (Decidable (_ = true))

variable {execution}

theorem outcome_of_succeeded (succeeded : execution.Succeeded) :
    ∃ response, execution.outcome = .ok response := by
  unfold Succeeded at succeeded
  cases outcome : execution.outcome with
  | ok response => exact ⟨response, rfl⟩
  | error exception =>
      rw [outcome] at succeeded
      cases succeeded

theorem succeeded_of_outcome {response : ResponsePayload}
    (outcome : execution.outcome = .ok response) : execution.Succeeded := by
  unfold Succeeded
  rw [outcome]
  rfl

theorem failed_of_not_succeeded (failed : ¬execution.Succeeded) :
    ∃ exception, execution.outcome = .error exception := by
  cases outcome : execution.outcome with
  | ok response => exact absurd (succeeded_of_outcome outcome) failed
  | error exception => exact ⟨exception, rfl⟩

theorem result_of_outcome_ok
    {response : ResponsePayload}
    (succeeded : execution.outcome = .ok response) :
    execution.result = .ok response execution.after := by
  unfold outcome after at *
  cases ran : execution.result with
  | ok value state =>
      rw [ran] at succeeded
      cases succeeded
      rfl
  | error exception state =>
      rw [ran] at succeeded
      cases succeeded

theorem result_of_outcome_error
    {exception : PyError}
    (failed : execution.outcome = .error exception) :
    execution.result = .error exception execution.after := by
  unfold outcome after at *
  cases ran : execution.result with
  | ok value state =>
      rw [ran] at failed
      cases failed
  | error raised state =>
      rw [ran] at failed
      cases failed
      rfl

theorem run_attempt (execution : Execution) :
    (attempt (processOperation execution.world execution.payload)).run
      execution.before = .ok execution.outcome execution.after := by
  show attempt _ execution.before = _
  unfold attempt outcome after result
  cases (processOperation execution.world execution.payload).run
    execution.before <;> rfl

theorem transaction
    {response : ResponsePayload}
    (succeeded : execution.outcome = .ok response) :
    Transaction execution.world execution.before.context execution.payload
      execution.before response execution.after :=
  processOperation_transaction (result_of_outcome_ok succeeded)

theorem untouched
    {exception : PyError}
    (clean : execution.before.Clean)
    (failed : execution.outcome = .error exception) :
    Untouched execution.world execution.payload execution.before
      execution.after :=
  processOperation_untouched clean (result_of_outcome_error failed)

end Execution

/-- The executions of the items of a batch from an index on. -/
def executions (worlds : Nat → World) (several : Bool)
    (handling : BatchErrorContinuationOption) :
    Nat → List RequestBatchItem → EngineState → List Execution
  | _, [], _ => []
  | index, item :: rest, state =>
      if several = true ∧ item.uniqueBatchItemId = none then []
      else
        let execution := ⟨worlds index, item, state⟩
        if execution.outcome.isOk = false ∧ handling = .stop then [execution]
        else
          execution ::
            executions worlds several handling (index + 1) rest execution.after

variable {worlds : Nat → World} {several : Bool}
  {handling : BatchErrorContinuationOption}

/-- A batch is complete when every item has been executed, or when an item has
failed under STOP. -/
inductive Complete (handling : BatchErrorContinuationOption)
    (items : List RequestBatchItem) (executions : List Execution) : Prop where
  | exhausted : executions.map Execution.item = items →
      Complete handling items executions
  | stopped (prior : List Execution) (last : Execution)
      (rest : List RequestBatchItem) :
      handling = .stop → executions = prior ++ [last] → ¬last.Succeeded →
      items = executions.map Execution.item ++ rest →
      Complete handling items executions

/-- A batch of several items is interrupted before an item without an
identifier, unless an item has failed under STOP. -/
structure Interrupted (handling : BatchErrorContinuationOption) (several : Bool)
    (items : List RequestBatchItem) (executions : List Execution) : Prop where
  several : several = true
  succeeded : handling = .stop → ∀ execution ∈ executions, execution.Succeeded
  unidentified : ∃ item rest, item.uniqueBatchItemId = none ∧
    items = executions.map Execution.item ++ item :: rest

theorem Complete.cons
    {items : List RequestBatchItem} {tail : List Execution}
    (execution : Execution) (complete : Complete handling items tail) :
    Complete handling (execution.item :: items) (execution :: tail) := by
  cases complete with
  | exhausted items_eq => exact .exhausted (by rw [List.map_cons, items_eq])
  | stopped prior last rest stop tail_eq failed items_eq =>
      exact .stopped (execution :: prior) last rest stop
        (by rw [tail_eq, List.cons_append]) failed
        (by rw [items_eq, List.map_cons, List.cons_append])

theorem Interrupted.cons
    {items : List RequestBatchItem} {tail : List Execution}
    (execution : Execution) (goesOn : handling = .stop → execution.Succeeded)
    (interrupted : Interrupted handling several items tail) :
    Interrupted handling several (execution.item :: items)
      (execution :: tail) := by
  obtain ⟨manyItems, succeeded, item, rest, missing, items_eq⟩ := interrupted
  refine ⟨manyItems, fun stop => ?_, item, rest, missing, ?_⟩
  · exact List.forall_mem_cons.mpr ⟨goesOn stop, succeeded stop⟩
  · rw [items_eq, List.map_cons, List.cons_append]

/-- Under STOP only the last execution can have failed. -/
theorem succeeded_of_stop
    (stop : handling = .stop) (index : Nat) (items : List RequestBatchItem)
    (state : EngineState) :
    ∀ execution ∈ (executions worlds several handling index items
      state).dropLast, execution.Succeeded := by
  induction items generalizing index state with
  | nil => exact fun _ member => absurd member List.not_mem_nil
  | cons item rest ih =>
      rw [executions]
      split
      · exact fun _ member => absurd member List.not_mem_nil
      · simp only
        split
        · exact fun _ member => absurd member List.not_mem_nil
        · rename_i goesOn
          have following := ih (index + 1)
            (Execution.after ⟨worlds index, item, state⟩)
          cases tail : executions worlds several handling (index + 1) rest
              (Execution.after ⟨worlds index, item, state⟩) with
          | nil => exact fun _ member => absurd member List.not_mem_nil
          | cons next later =>
              rw [tail] at following
              intro execution member
              rcases List.mem_cons.mp member with rfl | member
              · simpa [Execution.Succeeded, stop] using goesOn
              · exact following execution member

/-- The loop ends in the state that the last execution left; it answers with
the responses to the executions of a complete batch and raises for one that is
interrupted. -/
theorem run_processItems
    (index : Nat) (items : List RequestBatchItem) (state : EngineState) :
    ∃ final,
      Linked Execution.before Execution.after state
        (executions worlds several handling index items state) final ∧
      ((processItems worlds several handling index items).run state =
          .ok ((executions worlds several handling index items state).map
            Execution.response) final ∧
          Complete handling items
            (executions worlds several handling index items state) ∨
        (processItems worlds several handling index items).run state =
          .error batchItemIdUndefined final ∧
          Interrupted handling several items
            (executions worlds several handling index items state)) := by
  induction items generalizing index state with
  | nil => exact ⟨state, rfl, .inl ⟨rfl, .exhausted rfl⟩⟩
  | cons item rest ih =>
      rw [processItems, executions, run_bind, run_raiseIf]
      by_cases undefined : several = true ∧ item.uniqueBatchItemId = none
      · rw [if_pos undefined, if_pos undefined]
        exact ⟨state, rfl,
          .inr ⟨rfl, undefined.1, fun _ _ member => absurd member
            List.not_mem_nil, item, rest, undefined.2, rfl⟩⟩
      · rw [if_neg undefined, if_neg undefined]
        simp only
        have attempted :=
          Execution.run_attempt ⟨worlds index, item, state⟩
        simp only [Execution.payload] at attempted
        rw [run_bind, attempted]
        simp only
        split
        · rename_i stops
          refine ⟨_, ⟨rfl, rfl⟩, .inl ⟨rfl,
            .stopped [] ⟨worlds index, item, state⟩ rest stops.2 rfl ?_ rfl⟩⟩
          simp [Execution.Succeeded, stops.1]
        · rename_i goesOn
          have succeeded : handling = .stop →
              Execution.Succeeded ⟨worlds index, item, state⟩ := by
            intro stop
            simpa [Execution.Succeeded, stop] using goesOn
          obtain ⟨final, linked, ran⟩ := ih (index + 1)
            (Execution.after ⟨worlds index, item, state⟩)
          refine ⟨final, ⟨rfl, linked⟩, ?_⟩
          rcases ran with ⟨returned, complete⟩ | ⟨raised, interrupted⟩
          · refine .inl ⟨?_, complete.cons ⟨worlds index, item, state⟩⟩
            rw [run_bind, returned]
            rfl
          · refine .inr ⟨?_, interrupted.cons ⟨worlds index, item, state⟩
              succeeded⟩
            rw [run_bind, raised]

end Executions

section Requests

/-- A request as the engine receives it. -/
structure Exchange where
  world : RequestWorld
  request : RequestMessage
  credential : ClientIdentity

/-- The batch error option of a header that passes every check. -/
def checkHeader (received : Int) (header : RequestHeader) :
    Except PyError BatchErrorContinuationOption :=
  if header.protocolVersion ∉ protocolVersions then
    .error (invalidMessage ("KMIP " ++ header.protocolVersion.text ++
      " is not supported by the server."))
  else do
    checkTimeStamp received header.timeStamp
    if header.asynchronousIndicator = some true then
      .error (invalidMessage "Asynchronous operations are not supported.")
    else if header.batchErrorContOption.getD .stop = .undo then
      .error
        (invalidMessage "Undo option for batch handling is not supported.")
    else return header.batchErrorContOption.getD .stop

theorem checkHeader_eq_ok
    {received : Int} {header : RequestHeader}
    {handling : BatchErrorContinuationOption}
    (accepts : checkHeader received header = .ok handling) :
    handling = header.batchErrorContOption.getD .stop := by
  unfold checkHeader at accepts
  split at accepts
  · cases accepts
  · obtain ⟨_, _, rest⟩ := except_bind_ok_iff.mp accepts
    split at rest
    · cases rest
    · split at rest
      · cases rest
      · cases rest
        rfl

/-- What survives from one request to the next. -/
structure Durable where
  rows : Table ManagedObject
  barbican : Barbican
  idPlaceholder : Option String
deriving DecidableEq

def EngineState.durable (state : EngineState) : Durable where
  rows := state.dataStore.committed
  barbican := state.barbican
  idPlaceholder := state.idPlaceholder

/-- The state in which the first item of an accepted message runs. -/
def EngineState.entering (state : EngineState) (version : ProtocolVersion)
    (credential : ClientIdentity) : EngineState :=
  { state with
    dataStore := state.dataStore.openSession
    protocolVersion := version
    clientIdentity := credential }

namespace Exchange

variable (exchange : Exchange) (state : EngineState)

def header : RequestHeader := exchange.request.requestHeader

def items : List RequestBatchItem := exchange.request.batchItems

def result : Result PyError EngineState
    (ResponseMessage × Option Int × ProtocolVersion) :=
  (processRequest exchange.world exchange.request exchange.credential).run state

def after : EngineState := finalState (exchange.result state)

/-- What the client gets back from the engine. -/
def reply : Except PyError (ResponseMessage × Option Int × ProtocolVersion) :=
  outcomeOf (exchange.result state)

def several : Bool := 1 < exchange.items.length

def entering : EngineState :=
  state.entering exchange.header.protocolVersion exchange.credential

/-- The executions of the items of a message; a refused one has none. -/
def executions : List Execution :=
  match checkHeader exchange.world.received exchange.header with
  | .ok handling =>
      PyKMIP.executions exchange.world.items exchange.several handling 0
        exchange.items (exchange.entering state)
  | .error _ => []

theorem run_processHeader :
    match checkHeader exchange.world.received exchange.header with
    | .ok handling =>
        (processHeader exchange.world.received exchange.header
          exchange.credential).run state =
          .ok handling { state with
            protocolVersion := exchange.header.protocolVersion
            clientIdentity := exchange.credential }
    | .error exception =>
        ∃ refused : EngineState,
          (processHeader exchange.world.received exchange.header
            exchange.credential).run state = .error exception refused ∧
          refused.dataStore = state.dataStore ∧
          refused.durable = state.durable := by
  have identified : ∀ identity (state : EngineState),
      (setClientIdentity identity).run state =
        .ok () { state with clientIdentity := identity } := fun _ _ => rfl
  unfold processHeader checkHeader
  rw [run_bind, identified]
  simp only [run_bind]
  unfold setProtocolVersion
  by_cases listed : exchange.header.protocolVersion ∈ protocolVersions
  · simp only [listed, if_true, not_true, if_false, run_modify]
    rw [run_fromExcept]
    cases checkTimeStamp exchange.world.received exchange.header.timeStamp with
    | error exception => exact ⟨_, rfl, rfl, rfl⟩
    | ok checked =>
        simp only [run_raiseIf]
        by_cases asynchronous :
            exchange.header.asynchronousIndicator = some true
        · simp only [asynchronous, if_true]
          exact ⟨_, rfl, rfl, rfl⟩
        · simp only [asynchronous, if_false, identified]
          by_cases undo :
              exchange.header.batchErrorContOption.getD .stop = .undo
          · simp only [undo, if_true]
            exact ⟨_, rfl, rfl, rfl⟩
          · simp only [undo, if_false]
            rfl
  · simp only [listed, if_false, not_false_eq_true, if_true]
    exact ⟨_, rfl, rfl, rfl⟩

/-- The response to a message whose items have all been executed. -/
def answer : ResponseMessage × Option Int × ProtocolVersion :=
  (buildResponse exchange.header.protocolVersion exchange.world.answered
    ((exchange.executions state).map Execution.response),
    exchange.header.maximumResponseSize, exchange.header.protocolVersion)

/-- A refused message changes nothing that survives it. -/
theorem result_of_refused {exception : PyError}
    (refuses : checkHeader exchange.world.received exchange.header =
      .error exception) :
    ∃ refused, exchange.result state = .error exception refused ∧
      refused.dataStore = state.dataStore ∧
      refused.durable = state.durable := by
  have header := exchange.run_processHeader state
  rw [refuses] at header
  obtain ⟨refused, ran, dataStore, durable⟩ := header
  refine ⟨refused, ?_, dataStore, durable⟩
  unfold result processRequest
  rw [run_bind]
  unfold Exchange.header at ran
  rw [ran]

theorem result_of_accepted {handling : BatchErrorContinuationOption}
    (accepts : checkHeader exchange.world.received exchange.header =
      .ok handling) :
    ∃ final, Linked Execution.before Execution.after
        (exchange.entering state) (exchange.executions state) final ∧
      (exchange.result state = .ok (exchange.answer state)
          (final.mapDataStore DataStore.closeSession) ∧
          Complete handling exchange.items (exchange.executions state) ∨
        exchange.result state = .error batchItemIdUndefined
          (final.mapDataStore DataStore.closeSession) ∧
          Interrupted handling exchange.several exchange.items
            (exchange.executions state)) := by
  have header := exchange.run_processHeader state
  have executed : exchange.executions state =
      PyKMIP.executions exchange.world.items exchange.several handling 0
        exchange.items (exchange.entering state) := by
    unfold executions
    rw [accepts]
  rw [accepts] at header
  obtain ⟨final, linked, ran⟩ := run_processItems 0 exchange.items
    (exchange.entering state)
  refine ⟨final, executed ▸ linked, ?_⟩
  have batch : (processBatch exchange.world.items exchange.items handling).run
      { state with
        protocolVersion := exchange.header.protocolVersion
        clientIdentity := exchange.credential } =
      match (processItems exchange.world.items exchange.several handling 0
        exchange.items).run (exchange.entering state) with
      | .ok responses after =>
          .ok responses (after.mapDataStore DataStore.closeSession)
      | .error exception after =>
          .error exception (after.mapDataStore DataStore.closeSession) := by
    have enters : exchange.entering state = EngineState.mapDataStore
        DataStore.openSession { state with
          protocolVersion := exchange.header.protocolVersion
          clientIdentity := exchange.credential } := rfl
    unfold processBatch several
    rw [run_bracket, ← enters]
    cases (processItems exchange.world.items (1 < exchange.items.length)
      handling 0 exchange.items).run (exchange.entering state) <;> rfl
  have request : exchange.result state =
      (processBatch exchange.world.items exchange.items handling >>= fun items =>
        pure (buildResponse exchange.header.protocolVersion
          exchange.world.answered items, exchange.header.maximumResponseSize,
          exchange.header.protocolVersion)).run
        { state with
          protocolVersion := exchange.header.protocolVersion
          clientIdentity := exchange.credential } := by
    unfold result processRequest
    rw [run_bind]
    unfold Exchange.header at header
    rw [header]
    rfl
  rw [request, run_bind, batch]
  rw [← executed] at ran
  rcases ran with ⟨returned, complete⟩ | ⟨raised, interrupted⟩
  · refine .inl ⟨?_, complete⟩
    rw [returned]
    rfl
  · refine .inr ⟨?_, interrupted⟩
    rw [raised]

/-- The executions of a message lead from what survives before it to what
survives after it. -/
theorem linked :
    Linked (EngineState.durable ∘ Execution.before)
      (EngineState.durable ∘ Execution.after)
      state.durable (exchange.executions state)
      (exchange.after state).durable := by
  cases header : checkHeader exchange.world.received exchange.header with
  | error exception =>
      obtain ⟨refused, ran, _, durable⟩ :=
        exchange.result_of_refused state header
      unfold executions after
      rw [header, ran]
      exact durable.symm
  | ok handling =>
      obtain ⟨final, linked, ran⟩ := exchange.result_of_accepted state header
      have ends : (exchange.after state).durable = final.durable := by
        unfold after
        rcases ran with ⟨returned, _⟩ | ⟨raised, _⟩
        · rw [returned]
          rfl
        · rw [raised]
          rfl
      rw [ends]
      exact linked.map EngineState.durable

/-- What holds of the state in which every execution of a message starts. -/
structure Serves (state : EngineState) : Prop where
  clean : state.Clean
  clientIdentity : state.clientIdentity = exchange.credential
  protocolVersion : state.protocolVersion = exchange.header.protocolVersion

theorem Serves.after
    {execution : Execution} (serves : exchange.Serves execution.before) :
    exchange.Serves execution.after := by
  cases outcome : execution.outcome with
  | ok response =>
      have transaction := Execution.transaction outcome
      obtain ⟨client, version⟩ := transaction.client
      exact ⟨transaction.clean serves.clean,
        client.trans serves.clientIdentity,
        version.trans serves.protocolVersion⟩
  | error exception =>
      have untouched := Execution.untouched serves.clean outcome
      exact ⟨untouched.session.trans untouched.committed.symm,
        untouched.clientIdentity.trans serves.clientIdentity,
        untouched.protocolVersion.trans serves.protocolVersion⟩

theorem serves_of_mem
    {execution : Execution} (member : execution ∈ exchange.executions state) :
    exchange.Serves execution.before := by
  cases header : checkHeader exchange.world.received exchange.header with
  | error exception =>
      unfold executions at member
      rw [header] at member
      cases member
  | ok handling =>
      obtain ⟨final, linked, _⟩ := exchange.result_of_accepted state header
      exact (linked.invariant exchange.Serves
        (fun _ _ serves => Serves.after exchange serves)
        ⟨rfl, rfl, rfl⟩).2 execution member

end Exchange

/-- The state after a list of requests. -/
def run (state : EngineState) : List Exchange → EngineState
  | [] => state
  | exchange :: rest => run (exchange.after state) rest

/-- All executions of the items of a list of requests, in order. -/
def history (state : EngineState) : List Exchange → List Execution
  | [] => []
  | exchange :: rest =>
      exchange.executions state ++ history (exchange.after state) rest

theorem history_linked (state : EngineState) (exchanges : List Exchange) :
    Linked (EngineState.durable ∘ Execution.before)
      (EngineState.durable ∘ Execution.after)
      state.durable (history state exchanges) (run state exchanges).durable := by
  induction exchanges generalizing state with
  | nil => exact .nil _
  | cons exchange rest ih =>
      exact (exchange.linked state).append (ih (exchange.after state))

theorem clean_of_mem_history
    {state : EngineState} {exchanges : List Exchange} {execution : Execution}
    (member : execution ∈ history state exchanges) :
    execution.before.Clean := by
  induction exchanges generalizing state with
  | nil => cases member
  | cons exchange rest ih =>
      rcases List.mem_append.mp member with now | later
      · exact (exchange.serves_of_mem state now).clean
      · exact ih later

/-- An engine over a data store, as its constructor leaves it. -/
def newEngine (dataStore : DataStore) (barbican : Barbican) : EngineState where
  dataStore := dataStore.closeSession
  barbican := barbican
  idPlaceholder := none
  protocolVersion := ⟨1, 2⟩
  clientIdentity := {}

/-- The states of engines that have served any requests, over a database that
was empty once. -/
inductive Reachable : EngineState → Prop where
  | start (barbican : Barbican) : Reachable (newEngine .empty barbican)
  | restart : Reachable state →
      Reachable (newEngine state.dataStore state.barbican)
  | request (exchange : Exchange) :
      Reachable state → Reachable (exchange.after state)

theorem Reachable.run
    (reachable : Reachable state) (exchanges : List Exchange) :
    Reachable (run state exchanges) := by
  induction exchanges generalizing state with
  | nil => exact reachable
  | cons exchange rest ih => exact ih (reachable.request exchange)

/-- What holds of an empty database and is kept by every execution holds of all
the rows that are ever stored. -/
theorem Reachable.rows_invariant
    (property : Table ManagedObject → Prop) (initially : property .empty)
    (keeps : ∀ execution : Execution, execution.before.Clean →
      property execution.before.dataStore.committed →
      property execution.after.dataStore.committed)
    (reachable : Reachable state) :
    property state.dataStore.committed := by
  induction reachable with
  | start barbican => exact initially
  | restart _ ih => exact ih
  | @request state exchange _ ih =>
      have lifted := (exchange.linked state).map Durable.rows
      exact (lifted.invariant property
        (fun execution member =>
          keeps execution (exchange.serves_of_mem state member).clean) ih).1

end Requests

section Samples

/-- A column in which a text matches a key only as a decimal numeral. -/
def decimalColumn : IdentifierColumn where
  rowOf text :=
    if text.toList.all Char.isDigit then
      some (Nat.ofDigitChars 10 text.toList 0)
    else none
  rowOf_toString key := by
    have digits : (toString key).toList = Nat.toDigits 10 key :=
      Nat.toList_repr
    rw [digits, if_pos]
    · rw [Nat.ofDigitChars_toDigits]
      all_goals decide
    · exact List.all_eq_true.mpr fun _ member =>
        Nat.isDigit_of_mem_toDigits (by decide) (by decide) member

/-- A back end whose new keys are filled with zeros. -/
def sampleCryptography : CryptographyEngine where
  createSymmetricKey _ length := .ok (List.replicate (length / 8).toNat 0)
  createAsymmetricKeyPair _ _ := .error (.python .runtimeError)
  mac _ key data := .ok (key ++ data)
  encrypt _ _ plainText _ _ _ _ _ := .ok { cipherText := plainText.getD [] }
  decrypt _ _ cipherText _ _ _ _ _ := .ok (cipherText.getD [])
  verifySignature _ _ _ _ _ _ _ := .ok true
  sign _ _ _ _ _ data := .ok (data.getD [])
  deriveKey _ length _ keyMaterial _ _ _ _ :=
    .ok (keyMaterial.take length.toNat)
  wrapKey value _ _ key := .ok (value ++ key)

/-- Every operation on a symmetric key is left to its owner. -/
def samplePolicies : OperationPolicies :=
  [("default", { preset := some [(.symmetricKey,
    [.locate, .get, .getAttributes, .getAttributeList, .activate, .revoke,
      .destroy, .setAttribute, .modifyAttribute, .deleteAttribute].map
      (·, .allowOwner))] })]

def sampleWorld : World where
  operationPolicies := samplePolicies
  identifierColumn := decimalColumn
  cryptographyEngine := sampleCryptography
  now := 0

/-- A request for a new key that may encrypt and decrypt. -/
def sampleCreation : RequestPayload :=
  .create {
    objectType := .symmetricKey
    templateAttribute := some {
      attributes := [
        { attributeName := .cryptographicAlgorithm
          attributeValue := .cryptographicAlgorithm .aes },
        { attributeName := .cryptographicLength
          attributeValue := .integer 128 },
        { attributeName := .cryptographicUsageMask
          attributeValue := .integer 12 }] } }

/-- A message of version 1.2 from a user, all of whose items see one world. -/
def sampleExchange (world : World) (user : String)
    (items : List RequestBatchItem) : Exchange where
  world := { received := 0, items := fun _ => world, answered := 0 }
  request := {
    requestHeader := { protocolVersion := ⟨1, 2⟩ }
    batchItems := items }
  credential := { user := some user }

end Samples

end PyKMIP
