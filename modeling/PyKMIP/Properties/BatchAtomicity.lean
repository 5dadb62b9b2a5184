import PyKMIP.Runs

/-!
# Atomicity of batch items

All items of a batch share one session, and nothing rolls it back when an item
fails.  A failed item still leaves no trace in the rows, now or at a later
commit, because every handler raises before it changes a loaded object.
-/

namespace PyKMIP

open EStateM StatefulExcept History

/-- What the responses of a batch say about its items, and what the items that
are reported as failed have done. -/
structure AtomicBatch (exchange : Exchange) (state : EngineState)
    (response : ResponseMessage) (final : EngineState) : Prop where
  /-- Every response item belongs to one execution. -/
  executed : response.batchItems =
    (exchange.executions state).map Execution.response
  /-- Response items carry the operations and identifiers of request items. -/
  aligned :
    response.batchItems.map (fun item =>
        (item.operation, item.uniqueBatchItemId)) =
      (exchange.items.take response.batchItems.length).map fun item =>
        (some item.requestPayload.operation, item.uniqueBatchItemId)
  count : response.responseHeader.batchCount = response.batchItems.length
  /-- Under CONTINUE every item is answered. -/
  continued :
    exchange.header.batchErrorContOption = some .continue →
      response.batchItems.length = exchange.items.length
  /-- Under STOP only the last answered item can have failed, and it has unless
  every item is answered. -/
  stopped :
    exchange.header.batchErrorContOption.getD .stop = .stop →
      (∀ execution ∈ (exchange.executions state).dropLast,
        execution.Succeeded) ∧
      (response.batchItems.length = exchange.items.length ∨
        ∃ last, (exchange.executions state).getLast? = some last ∧
          ¬last.Succeeded)
  /-- A failed item changes neither the rows nor the working copy. -/
  unchanged :
    ∀ execution ∈ exchange.executions state,
      execution.response.resultStatus ≠ .success →
      execution.after.dataStore.committed =
          execution.before.dataStore.committed ∧
        execution.after.dataStore.session =
          execution.before.dataStore.session
  /-- The rows at the end are those that the successful items alone lead to. -/
  effective :
    Linked (fun execution => execution.before.dataStore.committed)
      (fun execution => execution.after.dataStore.committed)
      state.dataStore.committed
      ((exchange.executions state).filter fun execution => execution.Succeeded)
      final.dataStore.committed

theorem Execution.response_operation (execution : Execution) :
    (execution.response.operation, execution.response.uniqueBatchItemId) =
      (some execution.item.requestPayload.operation,
        execution.item.uniqueBatchItemId) := by
  unfold response composeItem
  split <;> rfl

/-- Only an item that raises is reported with another status than success. -/
theorem Execution.failed_of_status {execution : Execution}
    (reported : execution.response.resultStatus ≠ .success) :
    ∃ exception, execution.outcome = .error exception := by
  unfold response composeItem at reported
  split at reported
  · exact absurd rfl reported
  · exact ⟨_, ‹_›⟩

theorem Complete.items_eq
    {handling : BatchErrorContinuationOption} {items : List RequestBatchItem}
    {executions : List Execution}
    (complete : Complete handling items executions) :
    items.take executions.length = executions.map Execution.item := by
  cases complete with
  | exhausted all =>
      rw [← all, ← List.length_map Execution.item, List.take_length]
  | stopped prior last rest stop executions_eq failed items_eq =>
      rw [items_eq, ← List.length_map Execution.item, List.take_left]

theorem exchange_of_answered
    {exchange : Exchange} {state final : EngineState}
    {response : ResponseMessage} {maximum : Option Int}
    {version : ProtocolVersion}
    (answered : exchange.result state =
      .ok (response, maximum, version) final) :
    ∃ handling, handling = exchange.header.batchErrorContOption.getD .stop ∧
      exchange.executions state =
        executions exchange.world.items exchange.several handling 0
          exchange.items (exchange.entering state) ∧
      Complete handling exchange.items (exchange.executions state) ∧
      response = (exchange.answer state).1 := by
  cases header : checkHeader exchange.world.received exchange.header with
  | error exception =>
      obtain ⟨refused, ran, _⟩ := exchange.result_of_refused state header
      rw [ran] at answered
      cases answered
  | ok handling =>
      obtain ⟨_, _, ran⟩ := exchange.result_of_accepted state header
      rcases ran with ⟨returned, complete⟩ | ⟨raised, _⟩
      · rw [returned] at answered
        cases answered
        refine ⟨handling, checkHeader_eq_ok header, ?_, complete, rfl⟩
        unfold Exchange.executions
        rw [header]
      · rw [raised] at answered
        cases answered

theorem answered_batch_is_atomic
    {exchange : Exchange} {state final : EngineState}
    {response : ResponseMessage} {maximum : Option Int}
    {version : ProtocolVersion}
    (answered : exchange.result state =
      .ok (response, maximum, version) final) :
    AtomicBatch exchange state response final := by
  obtain ⟨handling, handling_eq, executions_eq, complete, rfl⟩ :=
    exchange_of_answered answered
  have lengths : (exchange.answer state).1.batchItems.length =
      (exchange.executions state).length := List.length_map _
  have unchanged : ∀ execution ∈ exchange.executions state,
      ∀ exception, execution.outcome = .error exception →
      execution.after.dataStore.committed =
          execution.before.dataStore.committed ∧
        execution.after.dataStore.session =
          execution.before.dataStore.session := by
    intro execution member exception failed
    have clean := (exchange.serves_of_mem state member).clean
    have untouched := Execution.untouched clean failed
    exact ⟨untouched.committed, untouched.session.trans clean.symm⟩
  refine {
    executed := rfl
    count := rfl
    aligned := ?_
    continued := ?_
    stopped := ?_
    unchanged := ?_
    effective := ?_ }
  · rw [lengths, complete.items_eq, List.map_map]
    show ((exchange.executions state).map Execution.response).map _ = _
    rw [List.map_map]
    exact List.map_congr_left fun execution _ => execution.response_operation
  · intro continues
    rw [lengths]
    cases complete with
    | exhausted all => rw [← all, List.length_map]
    | stopped prior last rest stop =>
        rw [continues] at handling_eq
        rw [stop] at handling_eq
        cases handling_eq
  · intro stops
    have stop : handling = .stop := handling_eq.trans stops
    refine ⟨executions_eq ▸ succeeded_of_stop stop 0 exchange.items _, ?_⟩
    rw [lengths]
    cases complete with
    | exhausted all =>
        left
        rw [← all, List.length_map]
    | stopped prior last rest _ prior_eq failed =>
        right
        exact ⟨last, by rw [prior_eq, List.getLast?_concat], failed⟩
  · intro execution member reported
    obtain ⟨exception, failed⟩ := Execution.failed_of_status reported
    exact unchanged execution member exception failed
  · have rows := (exchange.linked state).map Durable.rows
    have ends : (exchange.after state).durable.rows =
        final.dataStore.committed := by
      unfold Exchange.after
      rw [answered]
      rfl
    rw [ends] at rows
    refine rows.filter _ fun execution member failed => ?_
    obtain ⟨exception, raised⟩ :=
      Execution.failed_of_not_succeeded (of_decide_eq_false failed)
    exact (unchanged execution member exception raised).1

/-- A creation and a failing revocation of the new key. -/
theorem answered_batch_is_atomic_revocation :
    ∃ response final, AtomicBatch
      (sampleExchange sampleWorld "alice"
        [{ uniqueBatchItemId := some [1], requestPayload := sampleCreation },
          { uniqueBatchItemId := some [2]
            requestPayload := .revoke {
              uniqueIdentifier := none
              revocationCode := some .cessationOfOperation } }])
      (newEngine .empty []) response final := by
  have answered : ∃ response maximum version final, Exchange.result
      (sampleExchange sampleWorld "alice"
        [{ uniqueBatchItemId := some [1], requestPayload := sampleCreation },
          { uniqueBatchItemId := some [2]
            requestPayload := .revoke {
              uniqueIdentifier := none
              revocationCode := some .cessationOfOperation } }])
      (newEngine .empty []) = .ok (response, maximum, version) final :=
    ⟨_, _, _, _, rfl⟩
  obtain ⟨response, maximum, version, final, returned⟩ := answered
  exact ⟨response, final, answered_batch_is_atomic returned⟩

end PyKMIP
