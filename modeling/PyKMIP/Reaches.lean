import PyKMIP.Rows
import PyKMIP.Transactions.Agreement

/-!
# Requests that reach their object

Once the lookup of an object succeeds, the outcome of a request is decided by
the object alone, and so is what it writes.
-/

namespace PyKMIP

open EStateM StatefulExcept

theorem except_bind_of_ok
    {first : Except ε α} {next : α → Except ε β} {value : α}
    (returned : first = .ok value) : first >>= next = next value := by
  rw [returned]
  rfl

theorem except_bind_of_error
    {first : Except ε α} (next : α → Except ε β) {exception : ε}
    (raised : first = .error exception) : first >>= next = .error exception := by
  rw [raised]
  rfl

/-- The execution is about the object, under the version, for a client that may
do to it what the item asks for. -/
structure Execution.Reaches (execution : Execution) (stored : StoredObject)
    (version : ProtocolVersion) : Prop where
  sameVersion : execution.before.protocolVersion = version
  listed : ⟨1, 0⟩ ≤ version
  active : execution.before.dataStore.active = true
  found : execution.finds execution.target = some stored
  permitted : execution.Permits stored.managedObject

instance (execution : Execution) (stored : StoredObject)
    (version : ProtocolVersion) : Decidable (execution.Reaches stored version) :=
  decidable_of_iff
    (execution.before.protocolVersion = version ∧ ⟨1, 0⟩ ≤ version ∧
      execution.before.dataStore.active = true ∧
      execution.finds execution.target = some stored ∧
      execution.Permits stored.managedObject)
    ⟨fun ⟨sameVersion, listed, active, found, permitted⟩ =>
      ⟨sameVersion, listed, active, found, permitted⟩,
      fun ⟨sameVersion, listed, active, found, permitted⟩ =>
        ⟨sameVersion, listed, active, found, permitted⟩⟩

namespace Execution.Reaches

variable {execution : Execution} {stored : StoredObject}
  {version : ProtocolVersion}

theorem access
    (reaches : execution.Reaches stored version)
    (other : execution.payload.accessCode ≠ .get) :
    PyKMIP.access execution.world execution.before execution.target
      execution.payload.accessCode = .ok stored := by
  have located : findObject execution.world execution.before execution.target =
      some stored := reaches.found
  have permits : isPermitted execution.world execution.before.clientIdentity
      execution.payload.accessCode stored.managedObject = true :=
    reaches.permitted
  unfold PyKMIP.access
  rw [if_neg (by simp [reaches.active]), located]
  simp [loadedCopy, other, bind, Except.bind, permits, pure, Except.pure]

section Updates

variable {operation : String} {supported : ProtocolVersion}
  {writes : writingOperations.contains execution.payload.operation}
  {decide : (target : StoredObject) →
    Except PyError (Update execution.payload target)}

theorem run_update
    (reaches : execution.Reaches stored version) (since : supported ≤ version)
    (planned :
      PyKMIP.plan execution.world execution.before.context execution.payload =
        Plan.supportedSince supported operation (.update writes decide)) :
    execution.result = match decide stored with
      | .error exception => .error exception execution.before
      | .ok written => written.run execution.before := by
  have loads := reaches.access (accessCode_ne_get writes)
  have same : execution.before.context.protocolVersion = version :=
    reaches.sameVersion
  unfold Execution.result
  rw [processOperation_follows, planned]
  unfold Plan.supportedSince Plan.refuseIf
  rw [if_neg (by rw [same]; exact not_not.mpr since), Plan.run]
  rw [show PyKMIP.access execution.world execution.before
    (execution.before.context.target execution.payload)
    execution.payload.accessCode = .ok stored from loads]
  cases decided : decide stored with
  | ok written => simp only [decided]
  | error exception => simp only [decided]

/-- A decision to change the object succeeds and changes its row only. -/
theorem outcome_of_change
    (reaches : execution.Reaches stored version) (since : supported ≤ version)
    (clean : execution.before.Clean)
    (planned :
      PyKMIP.plan execution.world execution.before.context execution.payload =
        Plan.supportedSince supported operation (.update writes decide))
    {changed : ManagedObject}
    {evolves : Evolves execution.payload stored.managedObject changed}
    {reply : ResponsePayload}
    (decided : decide stored = .ok (.change changed evolves reply)) :
    execution.outcome = .ok reply ∧
      execution.rowsAfter = execution.rowsBefore.update stored.uniqueIdentifier
        fun _ => changed := by
  have ran := reaches.run_update since planned
  have found := findObject_eq_some reaches.found
  have session : execution.before.dataStore.session = execution.rowsBefore :=
    clean
  have flushed : (execution.before.dataStore.change stored.uniqueIdentifier
      changed).session.Forall fun managedObject => managedObject.storable := by
    apply clean.storable.update
    intro value isValue
    rw [evolves.storable]
    exact Table.forall_iff_lookup.mp clean.storable _ _ found
  rw [decided] at ran
  simp only [Update.run] at ran
  rw [flush_of_storable (execution.before.dataStore.change _ changed)
    reaches.active flushed] at ran
  unfold Execution.outcome Execution.rowsAfter Execution.after
  rw [ran, ← session]
  exact ⟨rfl, rfl⟩

/-- A refusal leaves the rows as they are. -/
theorem outcome_of_refusal
    (reaches : execution.Reaches stored version) (since : supported ≤ version)
    (planned :
      PyKMIP.plan execution.world execution.before.context execution.payload =
        Plan.supportedSince supported operation (.update writes decide))
    {exception : PyError} (decided : decide stored = .error exception) :
    execution.outcome = .error exception ∧
      execution.rowsAfter = execution.rowsBefore := by
  have ran := reaches.run_update since planned
  rw [decided] at ran
  unfold Execution.outcome Execution.rowsAfter Execution.after
  rw [ran]
  exact ⟨rfl, rfl⟩

variable {body : ObjectM α} {value : α} {changed : ManagedObject}
  {atomic : AtomicAt (Evolves execution.payload stored.managedObject)
    stored.managedObject body}
  {reply : α → Except PyError ResponsePayload}

theorem outcome_of_changing
    (reaches : execution.Reaches stored version) (since : supported ≤ version)
    (clean : execution.before.Clean)
    (planned :
      PyKMIP.plan execution.world execution.before.context execution.payload =
        Plan.supportedSince supported operation (.update writes decide))
    (decides : decide stored = changing stored body atomic reply)
    (ran : body.run stored.managedObject = .ok value changed)
    {answer : ResponsePayload} (replied : reply value = .ok answer) :
    execution.outcome = .ok answer ∧
      execution.rowsAfter = execution.rowsBefore.update stored.uniqueIdentifier
        fun _ => changed := by
  have evolves : Evolves execution.payload stored.managedObject changed := by
    unfold AtomicAt at atomic
    rwa [ran] at atomic
  exact reaches.outcome_of_change since clean planned
    (decides.trans (changing_of_ok ran evolves atomic replied))

theorem outcome_of_changing_error
    (reaches : execution.Reaches stored version) (since : supported ≤ version)
    (planned :
      PyKMIP.plan execution.world execution.before.context execution.payload =
        Plan.supportedSince supported operation (.update writes decide))
    (decides : decide stored = changing stored body atomic reply)
    {exception : PyError}
    (ran : body.run stored.managedObject = .error exception changed) :
    execution.outcome = .error exception ∧
      execution.rowsAfter = execution.rowsBefore :=
  reaches.outcome_of_refusal since planned
    (decides.trans (changing_of_error ran atomic reply))

end Updates

end Execution.Reaches

end PyKMIP
