import PyKMIP.Rows
import PyKMIP.Transactions.Placeholder

/-!
# Isolation of the placeholder

The placeholder of the engine outlives the request that has set it.  A request
is isolated from the earlier ones as long as each of its items names its object
or comes after an item of the same request that has produced one, or no request
has set the placeholder yet.
-/

namespace PyKMIP

open EStateM StatefulExcept History

section Placeholders

namespace Execution

variable (execution : Execution)

/-- The identifier of the object that a successful item has produced. -/
def produced : Option String :=
  if producingOperations.contains execution.payload.operation then
    match execution.outcome with
    | .ok response => response.producedIdentifier
    | .error _ => none
  else none

/-- The same item with another placeholder. -/
def withPlaceholder (idPlaceholder : Option String) : Execution :=
  { execution with before := execution.before.withPlaceholder idPlaceholder }

variable {execution}

theorem produced_of_outcome_error
    {exception : PyError} (failed : execution.outcome = .error exception) :
    execution.produced = none := by
  unfold produced
  rw [failed]
  split <;> rfl

theorem produced_of_not_producing
    (other : ¬producingOperations.contains execution.payload.operation) :
    execution.produced = none :=
  if_neg other

/-- An item leaves the identifier of what it has produced. -/
theorem idPlaceholder_after (clean : execution.before.Clean) :
    execution.after.idPlaceholder =
      execution.produced.or execution.before.idPlaceholder := by
  cases outcome : execution.outcome with
  | error exception =>
      rw [produced_of_outcome_error outcome]
      exact (untouched clean outcome).idPlaceholder
  | ok response =>
      have transaction := transaction outcome
      have leaves : producingOperations.contains execution.payload.operation →
          (∃ identifier, execution.after.idPlaceholder = some identifier) →
          response.producedIdentifier = execution.after.idPlaceholder →
          execution.after.idPlaceholder =
            execution.produced.or execution.before.idPlaceholder := by
        rintro producing ⟨identifier, set⟩ identifies
        have made : execution.produced = response.producedIdentifier := by
          unfold produced
          rw [if_pos producing, outcome]
        rw [made, identifies, set]
        rfl
      have keeps : ¬producingOperations.contains execution.payload.operation →
          execution.after.idPlaceholder = execution.before.idPlaceholder →
          execution.after.idPlaceholder =
            execution.produced.or execution.before.idPlaceholder := by
        intro other kept
        rw [produced_of_not_producing other]
        exact kept
      generalize execution.after = after at transaction leaves keeps ⊢
      cases transaction with
      | read reads => exact keeps (not_producing_of_reading reads) rfl
      | change _ _ writes _ _ _ _ _ kept =>
          exact keeps (not_producing_of_writing writes) kept
      | remove _ destroys _ _ _ _ _ kept =>
          rw [destroys] at keeps
          exact keeps (by decide) kept
      | create _ _ producing _ _ _ set identifies =>
          exact leaves producing ⟨_, set⟩ identifies
      | createSecret _ _ _ creating _ _ _ _ _ _ set identifies =>
          refine leaves ?_ ⟨_, set⟩ identifies
          rw [creating]
          rfl

end Execution

/-- The object that the last successful producing item has left. -/
def latestProduced (executions : List Execution) : Option String :=
  executions.foldl (fun latest execution => execution.produced.or latest) none

theorem foldl_produced (executions : List Execution) (entry : Option String) :
    executions.foldl (fun latest execution => execution.produced.or latest)
        entry =
      (latestProduced executions).or entry := by
  unfold latestProduced
  induction executions generalizing entry with
  | nil => rfl
  | cons execution rest ih =>
      rw [List.foldl_cons, List.foldl_cons, ih, ih (execution.produced.or none)]
      rw [Option.or_none, Option.or_assoc]

/-- The placeholder is the latest product, or what it was on entry. -/
theorem idPlaceholder_of_linked
    {start final : Durable} {executions : List Execution}
    (linked : Linked (EngineState.durable ∘ Execution.before)
      (EngineState.durable ∘ Execution.after) start executions final)
    (clean : ∀ execution ∈ executions, execution.before.Clean) :
    final.idPlaceholder =
      (latestProduced executions).or start.idPlaceholder := by
  rw [← foldl_produced]
  induction executions generalizing start with
  | nil =>
      cases linked
      rfl
  | cons execution rest ih =>
      obtain ⟨entered, restLinked⟩ := linked
      have left := ih restLinked fun other member => clean other (.tail _ member)
      have set := Execution.idPlaceholder_after (clean execution (.head _))
      rw [left, List.foldl_cons, ← entered]
      exact congrArg
        (fun entry => rest.foldl
          (fun latest execution => execution.produced.or latest) entry) set

end Placeholders

section Conditions

instance : (payload : RequestPayload) → Decidable payload.Unnamed
  | .deleteAttribute _ | .get _ | .getAttributes _ | .getAttributeList _
  | .encrypt _ | .decrypt _ | .signatureVerify _ | .setAttribute _
  | .modifyAttribute _ | .sign _ => inferInstanceAs (Decidable (_ = false))
  | .activate _ | .revoke _ | .destroy _ | .mac _ =>
      inferInstanceAs (Decidable (_ = none))
  | .create _ | .createKeyPair _ | .register _ | .deriveKey _ | .locate _
  | .query _ | .discoverVersions _ | .unsupported _ _ => .isFalse id

/-- No item of the list needs the placeholder of an earlier request. -/
def Placed (entry : Option String) : Option String → List Execution → Prop
  | _, [] => True
  | latest, execution :: rest =>
      (execution.payload.Unnamed → latest = none → entry = none) ∧
        Placed entry (execution.produced.or latest) rest

instance instDecidablePlaced (entry : Option String) :
    (latest : Option String) → (executions : List Execution) →
      Decidable (Placed entry latest executions)
  | _, [] => .isTrue trivial
  | latest, execution :: rest =>
      have := instDecidablePlaced entry (execution.produced.or latest) rest
      inferInstanceAs (Decidable (_ ∧ _))

end Conditions

section Items

theorem Alike.refl_of_eq
    {action : EngineM α} {first second : EngineState} (same : second = first) :
    Alike SameButPlaceholder Eq Eq (action.run first) (action.run second) := by
  rw [same]
  cases action.run first with
  | ok value after => exact .ok rfl rfl
  | error exception after => exact .error rfl rfl

theorem eq_of_sameButPlaceholder
    {first second : EngineState} (same : SameButPlaceholder first second)
    (placeholder : second.idPlaceholder = first.idPlaceholder) :
    second = first := by
  unfold SameButPlaceholder at same
  rw [same, placeholder]
  rfl

/-- An item that is placed ends as with the placeholder of its own request. -/
theorem Execution.alike_of_placed
    {execution : Execution} {latest entry : Option String}
    (placed : execution.payload.Unnamed → latest = none → entry = none)
    (holds : execution.before.idPlaceholder = latest.or entry) :
    Alike SameButPlaceholder Eq Eq execution.result
      (execution.withPlaceholder latest).result := by
  by_cases unnamed : execution.payload.Unnamed
  · apply Alike.refl_of_eq
    apply eq_of_sameButPlaceholder
      (sameButPlaceholder_withPlaceholder execution.before latest)
    show latest = execution.before.idPlaceholder
    rw [holds]
    cases latest with
    | some identifier => rfl
    | none => rw [placed unnamed rfl, Option.or_none]
  · exact processOperation_blind execution.world execution.payload unnamed _ _ rfl

theorem Alike.outcome
    {first second : Result PyError EngineState α}
    (alike : Alike SameButPlaceholder Eq Eq first second) :
    outcomeOf second = outcomeOf first ∧
      SameButPlaceholder (finalState first) (finalState second) := by
  cases alike with
  | ok values states =>
      cases values
      exact ⟨rfl, states⟩
  | error exceptions states =>
      cases exceptions
      exact ⟨rfl, states⟩

theorem Alike.bindPure
    {first second : EngineM α} {firstState secondState : EngineState}
    {result : α → β}
    (alike : Alike SameButPlaceholder Eq Eq (first.run firstState)
      (second.run secondState)) :
    Alike SameButPlaceholder Eq Eq
      ((first >>= fun value => pure (result value)).run firstState)
      ((second >>= fun value => pure (result value)).run secondState) := by
  rw [run_bind, run_bind]
  generalize first.run firstState = left at alike
  generalize second.run secondState = right at alike
  cases alike with
  | ok values states =>
      cases values
      exact .ok rfl states
  | error exceptions states => exact .error exceptions states

theorem Alike.bracket
    {enter leave : EngineState → EngineState} {action : EngineM α}
    {firstState secondState : EngineState}
    (alike : Alike SameButPlaceholder Eq Eq (action.run (enter firstState))
      (action.run (enter secondState)))
    (commutes : ∀ state idPlaceholder,
      leave (state.withPlaceholder idPlaceholder) =
        (leave state).withPlaceholder idPlaceholder) :
    Alike SameButPlaceholder Eq Eq
      ((bracket enter leave action).run firstState)
      ((bracket enter leave action).run secondState) := by
  rw [run_bracket, run_bracket]
  generalize action.run (enter firstState) = left at alike
  generalize action.run (enter secondState) = right at alike
  cases alike with
  | ok values states => exact .ok values (states.change commutes)
  | error exceptions states => exact .error exceptions (states.change commutes)

theorem Execution.clean_after
    {execution : Execution} (clean : execution.before.Clean) :
    execution.after.Clean := by
  cases outcome : execution.outcome with
  | ok response => exact (transaction outcome).clean clean
  | error exception =>
      have left := untouched clean outcome
      exact left.session.trans left.committed.symm

/-- What an item leaves when it runs with the placeholder of its request. -/
theorem Execution.after_withPlaceholder
    {execution : Execution} {latest : Option String}
    (clean : execution.before.Clean)
    (alike : Alike SameButPlaceholder Eq Eq execution.result
      (execution.withPlaceholder latest).result) :
    (execution.withPlaceholder latest).outcome = execution.outcome ∧
      (execution.withPlaceholder latest).after =
        execution.after.withPlaceholder (execution.produced.or latest) := by
  obtain ⟨outcome, same⟩ := Alike.outcome alike
  have produced : (execution.withPlaceholder latest).produced =
      execution.produced := by
    unfold Execution.produced
    rw [show (execution.withPlaceholder latest).outcome = execution.outcome from
      outcome]
    rfl
  have left : (execution.withPlaceholder latest).after.idPlaceholder =
      execution.produced.or latest := by
    have set : (execution.withPlaceholder latest).after.idPlaceholder = _ :=
      idPlaceholder_after clean
    rw [set, produced]
    rfl
  refine ⟨outcome, ?_⟩
  unfold SameButPlaceholder at same
  change (execution.withPlaceholder latest).after = _ at same
  rw [same]
  exact congrArg _ left

/-- Until an item of the request has produced an object, placed items do not
read the placeholder; from then on it is the same in both runs. -/
theorem processItems_alike
    {worlds : Nat → World} {several : Bool}
    {handling : BatchErrorContinuationOption} {entry latest : Option String}
    (items : List RequestBatchItem) {index : Nat} {state : EngineState}
    (clean : state.Clean) (holds : state.idPlaceholder = latest.or entry)
    (placed : Placed entry latest
      (executions worlds several handling index items state)) :
    Alike SameButPlaceholder Eq Eq
      ((processItems worlds several handling index items).run state)
      ((processItems worlds several handling index items).run
        (state.withPlaceholder latest)) := by
  induction items generalizing index state latest with
  | nil => exact .ok rfl rfl
  | cons item rest ih =>
      rw [processItems, run_bind, run_bind, run_raiseIf, run_raiseIf]
      by_cases undefined : several = true ∧ item.uniqueBatchItemId = none
      · rw [if_pos undefined, if_pos undefined]
        exact .error rfl rfl
      · rw [if_neg undefined, if_neg undefined]
        simp only
        rw [executions, if_neg undefined] at placed
        have now : item.requestPayload.Unnamed → latest = none →
            entry = none := by
          simp only at placed
          split at placed
          · exact placed.1
          · exact placed.1
        have alike : Alike SameButPlaceholder Eq Eq
            (Execution.result ⟨worlds index, item, state⟩) _ :=
          Execution.alike_of_placed now holds
        obtain ⟨sameOutcome, sameAfter⟩ :=
          Execution.after_withPlaceholder clean alike
        have ran := Execution.run_attempt ⟨worlds index, item, state⟩
        have ranAlike := Execution.run_attempt
          (Execution.withPlaceholder ⟨worlds index, item, state⟩ latest)
        rw [sameOutcome, sameAfter] at ranAlike
        simp only [Execution.payload, Execution.withPlaceholder] at ran ranAlike
        rw [run_bind, run_bind, ran, ranAlike]
        simp only
        split
        · exact .ok rfl rfl
        · rename_i goesOn
          simp only at placed
          rw [if_neg goesOn] at placed
          have left : (Execution.after ⟨worlds index, item, state⟩).idPlaceholder
              = _ := Execution.idPlaceholder_after clean
          have following := ih (Execution.clean_after clean)
            (by rw [left, holds, Option.or_assoc]) placed.2
          exact Alike.bindPure following

end Items

section Requests

/-- An item of a request reads no placeholder that an earlier request has
left. -/
def Exchange.Placed (exchange : Exchange) (state : EngineState) : Prop :=
  PyKMIP.Placed state.idPlaceholder none (exchange.executions state)

/-- A request is isolated from what earlier requests have produced. -/
structure Isolated (exchange : Exchange) (state : EngineState) : Prop where
  /-- Every item acts as if the placeholder were the latest product of its own
  request. -/
  acts : ∀ prior execution later,
    exchange.executions state = prior ++ execution :: later →
    Alike SameButPlaceholder Eq Eq execution.result
      (execution.withPlaceholder (latestProduced prior)).result
  /-- Without one, an item that does not name its object does not find it, or
  fails alike whatever the placeholder is. -/
  unknown : ∀ prior execution later,
    exchange.executions state = prior ++ execution :: later →
    execution.payload.Unnamed → latestProduced prior = none →
    execution.outcome = .error (itemNotFound (couldNotLocate none)) ∨
      ∃ exception, ∀ idPlaceholder,
        (execution.withPlaceholder idPlaceholder).outcome = .error exception
  /-- The reply and the effects do not depend on the placeholder. -/
  reply : exchange.reply (state.withPlaceholder none) = exchange.reply state
  rows : (exchange.after (state.withPlaceholder none)).dataStore =
    (exchange.after state).dataStore
  barbican : (exchange.after (state.withPlaceholder none)).barbican =
    (exchange.after state).barbican

theorem placed_at
    {entry latest : Option String} {prior later : List Execution}
    {execution : Execution}
    (placed : Placed entry latest (prior ++ execution :: later)) :
    execution.payload.Unnamed →
      prior.foldl (fun latest execution => execution.produced.or latest)
        latest = none → entry = none := by
  induction prior generalizing latest with
  | nil => exact placed.1
  | cons first rest ih => exact ih placed.2

variable {exchange : Exchange} {state : EngineState}

/-- The placeholder of an item is the latest product of its request, or what
the earlier requests have left. -/
theorem Exchange.idPlaceholder_at
    {prior later : List Execution} {execution : Execution}
    (divides : exchange.executions state = prior ++ execution :: later) :
    execution.before.idPlaceholder =
      (latestProduced prior).or state.idPlaceholder := by
  have linked := exchange.linked state
  rw [divides] at linked
  apply idPlaceholder_of_linked linked.at.1
  intro other member
  have executed : other ∈ exchange.executions state := by
    rw [divides]
    exact List.mem_append_left _ member
  exact (exchange.serves_of_mem state executed).clean

theorem Blind.processHeader
    (received : Int) (header : RequestHeader) (credential : ClientIdentity) :
    Blind (processHeader received header credential) := by
  refine .bind (.modify fun _ _ => rfl) fun _ => .bind ?_ fun _ =>
    .bind (.fromExcept _) fun _ => .bind .raiseIf fun _ =>
    .bind (.modify fun _ _ => rfl) fun _ => .bind .raiseIf fun _ => .pure _
  exact .ite (fun _ => .modify fun _ _ => rfl) fun _ => .raise _

/-- The batches of a placed request end alike. -/
theorem Exchange.batch_alike
    {handling : BatchErrorContinuationOption}
    (accepts : checkHeader exchange.world.received exchange.header =
      .ok handling)
    (placed : exchange.Placed state) :
    Alike SameButPlaceholder Eq Eq
      ((processBatch exchange.world.items exchange.items handling).run
        { state with
          protocolVersion := exchange.header.protocolVersion
          clientIdentity := exchange.credential })
      ((processBatch exchange.world.items exchange.items handling).run
        { state with
          idPlaceholder := none
          protocolVersion := exchange.header.protocolVersion
          clientIdentity := exchange.credential }) := by
  unfold Exchange.Placed Exchange.executions at placed
  rw [accepts] at placed
  have items := processItems_alike exchange.items
    (show (exchange.entering state).Clean from rfl)
    (show _ = none.or state.idPlaceholder from rfl) placed
  exact Alike.bracket items fun _ _ => rfl

theorem Exchange.alike_of_placed (placed : exchange.Placed state) :
    Alike SameButPlaceholder Eq Eq (exchange.result state)
      (exchange.result (state.withPlaceholder none)) := by
  have shape := exchange.run_processHeader state
  have other := exchange.run_processHeader (state.withPlaceholder none)
  have header := Blind.processHeader exchange.world.received
    exchange.request.requestHeader exchange.credential state
    (state.withPlaceholder none) rfl
  unfold Exchange.result processRequest
  rw [run_bind, run_bind]
  cases accepts : checkHeader exchange.world.received exchange.header with
  | error exception =>
      rw [accepts] at shape other
      obtain ⟨refused, ran, _⟩ := shape
      obtain ⟨otherRefused, otherRan, _⟩ := other
      change (processHeader exchange.world.received
        exchange.request.requestHeader exchange.credential).run _ = _ at ran otherRan
      rw [ran, otherRan] at header
      rw [ran, otherRan]
      cases header with
      | error exceptions states => exact .error exceptions states
  | ok handling =>
      rw [accepts] at shape other
      change (processHeader exchange.world.received
        exchange.request.requestHeader exchange.credential).run _ = _ at shape other
      rw [shape, other]
      exact Alike.bindPure (exchange.batch_alike accepts placed)

theorem isolated_of_placed (placed : exchange.Placed state) :
    Isolated exchange state := by
  have alike := exchange.alike_of_placed placed
  obtain ⟨reply, same⟩ := Alike.outcome alike
  have left : exchange.after (state.withPlaceholder none) =
      (exchange.after state).withPlaceholder _ := same
  have acts : ∀ prior execution later,
      exchange.executions state = prior ++ execution :: later →
      Alike SameButPlaceholder Eq Eq execution.result
        (execution.withPlaceholder (latestProduced prior)).result := by
    intro prior execution later divides
    unfold Exchange.Placed at placed
    rw [divides] at placed
    exact Execution.alike_of_placed (placed_at placed)
      (Exchange.idPlaceholder_at divides)
  constructor
  · exact acts
  · intro prior execution later divides unnamed absent
    have outcome := (Alike.outcome (acts prior execution later divides)).1
    rw [absent] at outcome
    rcases processOperation_searches execution.world execution.payload unnamed
      execution.before with missing | fails
    · exact .inl (outcome.symm.trans missing)
    · exact .inr fails
  · exact reply
  · rw [left]
    rfl
  · rw [left]
    rfl

/-- Whether a property holds of every request in the state that serves it. -/
def Along (property : Exchange → EngineState → Prop) :
    EngineState → List Exchange → Prop
  | _, [] => True
  | state, exchange :: rest =>
      property exchange state ∧ Along property (exchange.after state) rest

/-- Requests whose items name their objects or follow a producing item are
isolated from all earlier ones. -/
theorem requests_are_isolated
    (state : EngineState) (exchanges : List Exchange)
    (placed : Along Exchange.Placed state exchanges) :
    Along Isolated state exchanges := by
  induction exchanges generalizing state with
  | nil => trivial
  | cons exchange rest ih =>
      exact ⟨isolated_of_placed placed.1, ih (exchange.after state) placed.2⟩

end Requests

section Samples

instance (exchange : Exchange) (state : EngineState) :
    Decidable (exchange.Placed state) :=
  inferInstanceAs (Decidable (Placed _ _ _))

/-- A key is created and its attributes are listed in one request, and it is
revoked by name in the next one. -/
theorem requests_are_isolated_revocation :
    Along Isolated (newEngine .empty [])
      [sampleExchange sampleWorld "alice"
          [{ uniqueBatchItemId := some [1], requestPayload := sampleCreation },
            { uniqueBatchItemId := some [2]
              requestPayload := .getAttributeList none }],
        sampleExchange sampleWorld "alice"
          [{ requestPayload := .revoke {
              uniqueIdentifier := some "1"
              revocationCode := some .keyCompromise } }]] :=
  requests_are_isolated _ _ ⟨by decide, by decide, trivial⟩

theorem Exchange.executions_singleton
    {exchange : Exchange} {handling : BatchErrorContinuationOption}
    {item : RequestBatchItem}
    (accepts : checkHeader exchange.world.received exchange.header =
      .ok handling)
    (single : exchange.items = [item]) (state : EngineState) :
    exchange.executions state =
      [⟨exchange.world.items 0, item, exchange.entering state⟩] := by
  have alone : exchange.several = false := by
    unfold several
    rw [single]
    rfl
  unfold executions
  rw [accepts, single, alone]
  simp [PyKMIP.executions]

/-- A request of one item destroys the key of an earlier request. -/
def lateDestruction : Exchange :=
  sampleExchange sampleWorld "alice" [{ requestPayload := .destroy none }]

theorem requests_are_not_isolated :
    ¬∀ (state : EngineState) (exchanges : List Exchange),
      Along Isolated state exchanges := by
  intro isolated
  obtain ⟨_, second, _⟩ := isolated (newEngine .empty [])
    [sampleExchange sampleWorld "alice" [{ requestPayload := sampleCreation }],
      lateDestruction]
  have executed := Exchange.executions_singleton
    (show checkHeader lateDestruction.world.received lateDestruction.header =
      .ok .stop from rfl) rfl
    ((sampleExchange sampleWorld "alice"
      [{ requestPayload := sampleCreation }]).after (newEngine .empty []))
  have outcome : Execution.outcome ⟨sampleWorld,
      { requestPayload := .destroy none },
      lateDestruction.entering ((sampleExchange sampleWorld "alice"
        [{ requestPayload := sampleCreation }]).after (newEngine .empty []))⟩ =
      .ok (.destroy (some "1")) := by decide
  rcases second.unknown [] _ [] executed rfl rfl with missing | ⟨_, fails⟩
  · exact absurd (outcome.symm.trans missing) nofun
  · exact absurd (outcome.symm.trans (fails (some "1"))) nofun

end Samples

end PyKMIP
