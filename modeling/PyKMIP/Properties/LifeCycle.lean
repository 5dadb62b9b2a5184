import PyKMIP.Rows

/-!
# The life cycle of stored objects

Only Activate and Revoke change the state of an object, Destroy removes it
without ever storing a destroyed state, and an object that has left the active
state never becomes usable again.
-/

namespace PyKMIP

open History

/-- The states in which objects are stored. -/
def State.Live (state : State) : Prop :=
  state ≠ .destroyed ∧ state ≠ .destroyedCompromised

def ManagedObject.Alive (managedObject : ManagedObject) : Prop :=
  ∀ state, managedObject.state? = some state → state.Live

/-- The transitions of the life cycle, and the requests that make them. -/
inductive LifeCycleStep : RequestPayload → State → State → Prop where
  | activate : LifeCycleStep (.activate uniqueIdentifier) .preActive .active
  | deactivate :
      payload.revocationCode ≠ some .keyCompromise →
      LifeCycleStep (.revoke payload) .active .deactivated
  | compromise :
      payload.revocationCode = some .keyCompromise → state.Live →
      LifeCycleStep (.revoke payload) state .compromised

/-- What becomes of a stored object in one execution. -/
inductive LifeCycleMove (execution : Execution) (old : ManagedObject) :
    Option ManagedObject → Prop where
  | stay : new.state? = old.state? → LifeCycleMove execution old (some new)
  | step (oldState newState : State) :
      execution.Succeeded →
      LifeCycleStep execution.payload oldState newState →
      old.state? = some oldState → new.state? = some newState →
      LifeCycleMove execution old (some new)
  | destroy :
      execution.Succeeded → execution.payload.operation = .destroy →
      old.state? ≠ some .active → LifeCycleMove execution old none

/-- The life cycle along a run of requests. -/
structure LifeCycle (start : EngineState) (exchanges : List Exchange) :
    Prop where
  /-- The executions lead from the first committed rows to the last ones. -/
  linked : Linked Execution.rowsBefore Execution.rowsAfter
    start.dataStore.committed (history start exchanges)
    (run start exchanges).dataStore.committed
  /-- Stored objects only move along the life cycle. -/
  moves : ∀ execution ∈ history start exchanges, ∀ key old,
    execution.rowsBefore.lookup key = some old →
    LifeCycleMove execution old (execution.rowsAfter.lookup key)
  /-- Objects enter it pre-active. -/
  enters : ∀ execution ∈ history start exchanges, ∀ key new,
    execution.rowsBefore.lookup key = none →
    execution.rowsAfter.lookup key = some new → new.IsNew
  /-- No destroyed object is ever stored. -/
  alive : (∀ execution ∈ history start exchanges,
      execution.rowsBefore.Forall ManagedObject.Alive ∧
      execution.rowsAfter.Forall ManagedObject.Alive) ∧
    (run start exchanges).dataStore.committed.Forall ManagedObject.Alive
  /-- The identifier of a removed object is never found again. -/
  gone : ∀ prior execution later,
    history start exchanges = prior ++ execution :: later →
    ∀ key old, execution.rowsBefore.lookup key = some old →
    execution.rowsAfter.lookup key = none →
    ∀ next ∈ later, ∀ uniqueIdentifier found,
      next.finds uniqueIdentifier = some found → found.uniqueIdentifier ≠ key
  /-- Keys are used while they are active and their mask permits it. -/
  usable : ∀ execution ∈ history start exchanges, execution.Succeeded →
    ∀ use ∈ execution.before.context.keyUses execution.payload,
      ∃ key, execution.finds use.1 = some key ∧
        key.managedObject.Usable use.2
  /-- No key is used once it has left the active state. -/
  retired : ∀ prior execution later,
    history start exchanges = prior ++ execution :: later →
    ∀ key old new, execution.rowsBefore.lookup key = some old →
    old.state? = some .active →
    execution.rowsAfter.lookup key = some new →
    new.state? ≠ some .active →
    ∀ next ∈ later,
    ∀ use ∈ next.before.context.keyUses next.payload, ∀ used,
      next.finds use.1 = some used → used.uniqueIdentifier = key →
      ¬next.Succeeded

section Steps

theorem alive_of_evolves
    {payload : RequestPayload} {old new : ManagedObject}
    (alive : old.Alive) (evolves : Evolves payload old new) : new.Alive := by
  intro state stateful
  rcases evolves.state with same | ⟨oldState, newState, transition, before, after⟩
  · exact alive state (same ▸ stateful)
  · rw [after] at stateful
    cases stateful
    cases transition with
    | activate => exact ⟨nofun, nofun⟩
    | deactivate => exact ⟨nofun, nofun⟩
    | compromise => exact ⟨nofun, nofun⟩
    | compromiseDestroyed => exact absurd rfl (alive _ before).1

theorem alive_of_isNew
    {managedObject : ManagedObject} (new : managedObject.IsNew) :
    managedObject.Alive := by
  intro state stateful
  rw [new state stateful]
  exact ⟨nofun, nofun⟩

theorem Reachable.alive {state : EngineState} (reachable : Reachable state) :
    state.dataStore.committed.Forall ManagedObject.Alive := by
  refine reachable.rows_invariant (·.Forall ManagedObject.Alive)
    (fun row member => absurd member List.not_mem_nil) ?_
  intro execution clean
  exact execution.forall_step clean (fun _ _ => alive_of_evolves)
    fun _ => alive_of_isNew

theorem lifeCycleStep_of_transition
    {payload : RequestPayload} {old new : State} (live : old.Live)
    (transition : Transition payload old new) :
    LifeCycleStep payload old new := by
  cases transition with
  | activate => exact .activate
  | deactivate other => exact .deactivate other
  | compromise code => exact .compromise code live
  | compromiseDestroyed => exact absurd rfl live.1

theorem Execution.lifeCycleMove
    {execution : Execution} (clean : execution.before.Clean) {key : Nat}
    {old : ManagedObject} (alive : old.Alive)
    (stored : execution.rowsBefore.lookup key = some old) :
    LifeCycleMove execution old (execution.rowsAfter.lookup key) := by
  have step := execution.rowStep clean key
  rw [stored] at step
  generalize execution.rowsAfter.lookup key = after at step
  cases step with
  | keep => exact .stay rfl
  | change succeeded writes found permitted evolves =>
      rcases evolves.state with same | ⟨oldState, newState, transition, was, is⟩
      · exact .stay same
      · exact .step oldState newState succeeded
          (lifeCycleStep_of_transition (alive oldState was) transition) was is
  | remove succeeded destroys found permitted inactive =>
      exact .destroy succeeded destroys inactive

/-- The states after the active one. -/
def ManagedObject.Retired (managedObject : ManagedObject) : Prop :=
  managedObject.state? = some .deactivated ∨
    managedObject.state? = some .compromised

theorem ManagedObject.Retired.not_active
    {managedObject : ManagedObject} (retired : managedObject.Retired) :
    managedObject.state? ≠ some .active := by
  intro active
  rcases retired with deactivated | compromised
  · rw [deactivated] at active
    cases active
  · rw [compromised] at active
    cases active

theorem retired_of_evolves
    {payload : RequestPayload} {old new : ManagedObject}
    (retired : old.Retired) (evolves : Evolves payload old new) :
    new.Retired := by
  rcases evolves.state with same | ⟨oldState, newState, transition, before, after⟩
  · unfold ManagedObject.Retired
    rwa [same]
  · unfold ManagedObject.Retired at *
    rw [before] at retired
    rw [after]
    cases transition with
    | activate => simp at retired
    | deactivate => simp at retired
    | compromise => exact .inr rfl
    | compromiseDestroyed => simp at retired

theorem retired_of_left
    {execution : Execution} {old new : ManagedObject}
    (move : LifeCycleMove execution old (some new))
    (active : old.state? = some .active) (left : new.state? ≠ some .active) :
    new.Retired := by
  cases move with
  | stay same => exact absurd (same.trans active) left
  | step oldState newState succeeded step was is =>
      rw [active] at was
      cases was
      generalize execution.payload = payload at step
      cases step with
      | deactivate => exact .inl is
      | compromise => exact .inr is

end Steps

theorem reachable_life_cycle
    {start : EngineState} (reachable : Reachable start)
    (exchanges : List Exchange) : LifeCycle start exchanges := by
  have linked := history_rows start exchanges
  have clean : ∀ execution ∈ history start exchanges,
      execution.before.Clean := fun _ => clean_of_mem_history
  have keepsAlive : ∀ execution ∈ history start exchanges,
      execution.rowsBefore.Forall ManagedObject.Alive →
      execution.rowsAfter.Forall ManagedObject.Alive :=
    fun execution member => execution.forall_step (clean execution member)
      (fun _ _ => alive_of_evolves) fun _ => alive_of_isNew
  obtain ⟨aliveAtEnd, aliveBefore⟩ :=
    linked.invariant (·.Forall ManagedObject.Alive) keepsAlive reachable.alive
  have moves : ∀ execution ∈ history start exchanges, ∀ key old,
      execution.rowsBefore.lookup key = some old →
      LifeCycleMove execution old (execution.rowsAfter.lookup key) :=
    fun execution member key old stored =>
      execution.lifeCycleMove (clean execution member)
        (Table.forall_iff_lookup.mp (aliveBefore execution member) key old
          stored) stored
  refine {
    linked := linked
    moves := moves
    enters := ?_
    alive := ?_
    gone := ?_
    usable := ?_
    retired := ?_ }
  · intro execution member key new missing stored
    have step := execution.rowStep (clean execution member) key
    rw [missing, stored] at step
    cases step with
    | add succeeded producing unused isNew => exact isNew
  · exact ⟨fun execution member => ⟨aliveBefore execution member,
      keepsAlive execution member (aliveBefore execution member)⟩, aliveAtEnd⟩
  · intro prior execution later divides key old stored removed
    have executed : execution ∈ history start exchanges := by
      rw [divides]
      exact List.mem_append_right _ (.head _)
    have confined : Confines (fun _ => False) key execution.rowsAfter := by
      refine ⟨Nat.lt_of_lt_of_le (Table.lookup_lt_next stored)
        (execution.next_le (clean execution executed)), ?_⟩
      intro managedObject found
      rw [removed] at found
      cases found
    intro next member uniqueIdentifier found finds same
    have laterClean : next.before.Clean := by
      refine clean next ?_
      rw [divides]
      exact List.mem_append_right _ (.tail _ member)
    have located := next.lookup_of_finds laterClean finds
    rw [same] at located
    exact (confines_of_later divides (fun _ _ _ impossible _ => impossible)
      confined next member).2 _ located
  · intro execution member succeeded
    exact execution.keyUses_of_succeeded succeeded
  · intro prior execution later divides key old new stored active kept left
    have executed : execution ∈ history start exchanges := by
      rw [divides]
      exact List.mem_append_right _ (.head _)
    have move := moves execution executed key old stored
    rw [kept] at move
    have retired := retired_of_left move active left
    have confined : Confines ManagedObject.Retired key execution.rowsAfter := by
      refine ⟨Table.lookup_lt_next kept, ?_⟩
      intro managedObject found
      rw [kept] at found
      cases found
      exact retired
    intro next member use uses used finds same succeeded
    have laterClean : next.before.Clean := by
      refine clean next ?_
      rw [divides]
      exact List.mem_append_right _ (.tail _ member)
    obtain ⟨usedKey, findsKey, usable⟩ :=
      next.keyUses_of_succeeded succeeded use uses
    rw [finds] at findsKey
    cases findsKey
    have located := next.lookup_of_finds laterClean finds
    rw [same] at located
    have stillRetired : used.managedObject.Retired := (confines_of_later divides
      (fun _ _ _ => retired_of_evolves) confined next member).2 _ located
    exact stillRetired.not_active usable.1

/-- A key is created, activated and revoked. -/
theorem reachable_life_cycle_revocation :
    LifeCycle (newEngine .empty [])
      [sampleExchange sampleWorld "alice"
          [{ uniqueBatchItemId := some [1], requestPayload := sampleCreation },
            { uniqueBatchItemId := some [2]
              requestPayload := .activate (some "1") }],
        sampleExchange sampleWorld "alice"
          [{ requestPayload := .revoke {
              uniqueIdentifier := some "1"
              revocationCode := some .keyCompromise } }]] :=
  reachable_life_cycle (.start []) _

end PyKMIP
