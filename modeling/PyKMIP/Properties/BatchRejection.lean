import PyKMIP.Turns

/-!
# Rejected messages

The batch item identifiers are checked in the loop that executes the items.  A
message that is rejected for a missing identifier has therefore executed, and
committed, the items before it.
-/

namespace PyKMIP

open History

section Loops

/-- The items before the first one without an identifier. -/
def identifiedItems (items : List RequestBatchItem) : List RequestBatchItem :=
  items.takeWhile fun item => item.uniqueBatchItemId.isSome

variable {worlds : Nat → World} {several : Bool}
  {handling : BatchErrorContinuationOption}

theorem identifiedItems_append
    {identified rest : List RequestBatchItem} {item : RequestBatchItem}
    (all : ∀ earlier ∈ identified, earlier.uniqueBatchItemId ≠ none)
    (missing : item.uniqueBatchItemId = none) :
    identifiedItems (identified ++ item :: rest) = identified := by
  have present : ∀ earlier ∈ identified,
      earlier.uniqueBatchItemId.isSome = true := by
    intro earlier member
    exact Option.isSome_iff_ne_none.mpr (all earlier member)
  rw [identifiedItems, List.takeWhile_append_of_pos present,
    List.takeWhile_cons_of_neg (by simp [missing]), List.append_nil]

/-- No item of a larger batch is executed without an identifier. -/
theorem identified_of_mem_executions
    (manyItems : several = true) (index : Nat) (items : List RequestBatchItem)
    (state : EngineState) :
    ∀ execution ∈ executions worlds several handling index items state,
      execution.item.uniqueBatchItemId ≠ none := by
  induction items generalizing index state with
  | nil =>
      intro execution member
      cases member
  | cons item rest ih =>
      intro execution member
      rw [executions] at member
      split at member
      · cases member
      · rename_i checked
        have identified : item.uniqueBatchItemId ≠ none := by
          intro missing
          exact checked ⟨manyItems, missing⟩
        simp only at member
        split at member
        · rw [List.mem_singleton.mp member]
          exact identified
        · rcases List.mem_cons.mp member with rfl | later
          · exact identified
          · exact ih _ _ execution later

/-- A batch executes its items in their turns, up to the one that stops it. -/
theorem executions_isPrefix_turns
    (manyItems : several = true) (index : Nat) (items : List RequestBatchItem)
    (state : EngineState) :
    executions worlds several handling index items state <+:
      turns worlds index (identifiedItems items) state := by
  induction items generalizing index state with
  | nil => exact List.nil_prefix
  | cons item rest ih =>
      rw [executions]
      split
      · exact List.nil_prefix
      · rename_i checked
        have present : item.uniqueBatchItemId.isSome = true :=
          Option.isSome_iff_ne_none.mpr fun missing =>
            checked ⟨manyItems, missing⟩
        rw [identifiedItems, List.takeWhile_cons, if_pos present, turns]
        simp only
        split
        · exact (List.prefix_cons_inj _).mpr List.nil_prefix
        · exact (List.prefix_cons_inj _).mpr (ih _ _)

end Loops

section Rejection

/-- If the message is rejected, none of its items has taken effect. -/
def RejectionIsAtomic (exchange : Exchange) (state : EngineState) : Prop :=
  ∀ exception final, exchange.result state = .error exception final →
    final.dataStore.committed = state.dataStore.committed ∧
      ∀ execution ∈ exchange.executions state,
        execution.rowsAfter = execution.rowsBefore

/-- The items before the first one without an identifier, each with the state
in which its turn comes. -/
def Exchange.turns (exchange : Exchange) (state : EngineState) :
    List Execution :=
  PyKMIP.turns exchange.world.items 0 (identifiedItems exchange.items)
    (exchange.entering state)

/-- The header is refused, no identifier is missing where one is needed, or of
the items before the first one without an identifier one is turned down and
stops the batch, or none has anything to change. -/
inductive RejectsInTime (exchange : Exchange) (state : EngineState) : Prop where
  | header (exception : PyError) :
      checkHeader exchange.world.received exchange.header = .error exception →
      RejectsInTime exchange state
  | lonely : exchange.items.length ≤ 1 → RejectsInTime exchange state
  | identified :
      (∀ item ∈ exchange.items, item.uniqueBatchItemId ≠ none) →
      RejectsInTime exchange state
  | stopped (turn : Execution) :
      exchange.header.batchErrorContOption.getD .stop = .stop →
      turn ∈ exchange.turns state → turn.Declined →
      RejectsInTime exchange state
  | idle : (∀ turn ∈ exchange.turns state, turn.Idle) →
      RejectsInTime exchange state

variable {exchange : Exchange} {state final : EngineState}
  {handling : BatchErrorContinuationOption}

theorem executions_of_accepted
    (accepts : checkHeader exchange.world.received exchange.header =
      .ok handling) :
    exchange.executions state =
      executions exchange.world.items exchange.several handling 0
        exchange.items (exchange.entering state) := by
  unfold Exchange.executions
  rw [accepts]

/-- An accepted message is only rejected for a missing identifier. -/
theorem interrupted_of_raised
    {exception : PyError}
    (accepts : checkHeader exchange.world.received exchange.header =
      .ok handling)
    (raised : exchange.result state = .error exception final) :
    Interrupted handling exchange.several exchange.items
      (exchange.executions state) := by
  obtain ⟨_, _, ran⟩ := exchange.result_of_accepted state accepts
  rcases ran with ⟨returned, _⟩ | ⟨_, interrupted⟩
  · rw [returned] at raised
    cases raised
  · exact interrupted

theorem identified_of_accepted
    (accepts : checkHeader exchange.world.received exchange.header =
      .ok handling)
    (several : exchange.several = true) :
    ∀ item ∈ (exchange.executions state).map Execution.item,
      item.uniqueBatchItemId ≠ none := by
  intro item member
  obtain ⟨execution, executed, rfl⟩ := List.mem_map.mp member
  rw [executions_of_accepted accepts] at executed
  exact identified_of_mem_executions several _ _ _ execution executed

theorem executions_isPrefix
    (accepts : checkHeader exchange.world.received exchange.header =
      .ok handling)
    (several : exchange.several = true) :
    exchange.executions state <+: exchange.turns state := by
  rw [executions_of_accepted accepts]
  exact executions_isPrefix_turns several _ _ _

/-- All items before the first missing identifier have had their turns when the
message is rejected for it. -/
theorem executions_eq_turns
    (accepts : checkHeader exchange.world.received exchange.header =
      .ok handling)
    (interrupted : Interrupted handling exchange.several exchange.items
      (exchange.executions state)) :
    exchange.executions state = exchange.turns state := by
  obtain ⟨item, rest, missing, items_eq⟩ := interrupted.unidentified
  have identified : ∀ earlier ∈ (exchange.executions state).map Execution.item,
      earlier.uniqueBatchItemId ≠ none :=
    identified_of_accepted accepts interrupted.several
  have items : (exchange.executions state).map Execution.item =
      (exchange.turns state).map Execution.item := by
    rw [Exchange.turns, map_item_turns, items_eq,
      identifiedItems_append identified missing]
  have length := congrArg List.length items
  simp only [List.length_map] at length
  exact (executions_isPrefix accepts interrupted.several).eq_of_length length

/-- Executions that change nothing leave the store as it was. -/
theorem committed_of_idle
    {exception : PyError}
    (raised : exchange.result state = .error exception final)
    (idle : ∀ execution ∈ exchange.executions state,
      execution.rowsAfter = execution.rowsBefore) :
    final.dataStore.committed = state.dataStore.committed := by
  have linked : Linked Execution.rowsBefore Execution.rowsAfter
      state.dataStore.committed (exchange.executions state)
      (exchange.after state).dataStore.committed :=
    (exchange.linked state).map Durable.rows
  have same : (exchange.after state).dataStore.committed =
      state.dataStore.committed := by
    apply linked.relation fun before after => after = before
    · intro rows
      rfl
    · intro first second third later earlier
      exact earlier.trans later
    · exact idle
  have ends : exchange.after state = final := by
    unfold Exchange.after
    rw [raised]
    rfl
  rwa [ends] at same

theorem atomic_of_rejectsInTime
    (inTime : RejectsInTime exchange state) :
    RejectionIsAtomic exchange state := by
  intro exception final raised
  have idle : ∀ execution ∈ exchange.executions state,
      execution.rowsAfter = execution.rowsBefore := by
    cases header : checkHeader exchange.world.received exchange.header with
    | error refused =>
        intro execution member
        unfold Exchange.executions at member
        rw [header] at member
        cases member
    | ok handling =>
        have interrupted := interrupted_of_raised header raised
        obtain ⟨item, rest, missing, items_eq⟩ := interrupted.unidentified
        have turned := executions_eq_turns header interrupted
        have clean : ∀ execution ∈ exchange.executions state,
            execution.before.Clean :=
          fun _ member => (exchange.serves_of_mem state member).clean
        cases inTime with
        | header refused refuses =>
            rw [header] at refuses
            cases refuses
        | lonely few =>
            have many := interrupted.several
            simp only [Exchange.several, decide_eq_true_eq] at many
            omega
        | identified all =>
            exact absurd missing (all item (by simp [items_eq]))
        | stopped turn stop member declined =>
            rw [← turned] at member
            have stops := (checkHeader_eq_ok header).trans stop
            have succeeded := interrupted.succeeded stops turn member
            exact absurd declined
              ((Execution.succeeded_iff (clean turn member)).mp succeeded)
        | idle unchanged =>
            intro execution member
            exact (Execution.keeps_rows_iff (clean execution member)).mpr
              (unchanged execution (turned ▸ member))
  exact ⟨committed_of_idle raised idle, idle⟩

theorem rejectsInTime_of_atomic
    (atomic : RejectionIsAtomic exchange state) :
    RejectsInTime exchange state := by
  cases header : checkHeader exchange.world.received exchange.header with
  | error refused => exact .header refused header
  | ok handling =>
      by_cases few : exchange.items.length ≤ 1
      · exact .lonely few
      have several : exchange.several = true := by
        simp only [Exchange.several, decide_eq_true_eq]
        omega
      have clean : ∀ execution ∈ exchange.executions state,
          execution.before.Clean :=
        fun _ member => (exchange.serves_of_mem state member).clean
      obtain ⟨final, _, ran⟩ := exchange.result_of_accepted state header
      rcases ran with ⟨_, complete⟩ | ⟨raised, interrupted⟩
      · cases complete with
        | exhausted all =>
            apply RejectsInTime.identified
            rw [← all]
            exact identified_of_accepted header several
        | stopped prior last rest stop executions_eq failed _ =>
            have member : last ∈ exchange.executions state := by
              simp [executions_eq]
            apply RejectsInTime.stopped last
            · exact (checkHeader_eq_ok header).symm.trans stop
            · exact (executions_isPrefix header several).subset member
            · by_contra accepted
              exact failed
                ((Execution.succeeded_iff (clean last member)).mpr accepted)
      · apply RejectsInTime.idle
        intro turn member
        rw [← executions_eq_turns header interrupted] at member
        exact (Execution.keeps_rows_iff (clean turn member)).mp
          ((atomic _ _ raised).2 turn member)

theorem rejection_is_atomic_iff (exchange : Exchange) (state : EngineState) :
    RejectionIsAtomic exchange state ↔ RejectsInTime exchange state :=
  ⟨rejectsInTime_of_atomic, atomic_of_rejectsInTime⟩

end Rejection

/-- A creation that is committed before its message is rejected. -/
theorem rejection_is_not_atomic :
    ¬∀ (exchange : Exchange) (state : EngineState),
      RejectionIsAtomic exchange state := by
  intro atomic
  have rejected : ∃ final, Exchange.result
      (sampleExchange sampleWorld "alice"
        [{ uniqueBatchItemId := some [1], requestPayload := sampleCreation },
          { requestPayload := sampleCreation }])
      (newEngine .empty []) = .error batchItemIdUndefined final ∧
      final.dataStore.committed.rows ≠ [] := ⟨_, rfl, by decide⟩
  obtain ⟨final, raised, stored⟩ := rejected
  have unchanged := (atomic _ _ _ _ raised).1
  rw [unchanged] at stored
  exact stored rfl

end PyKMIP
