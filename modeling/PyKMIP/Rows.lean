import PyKMIP.Runs
import PyKMIP.Transactions.Lookups

/-!
# What executions do to the stored rows

Seen from one key, an item keeps the row, changes it, removes it or adds it.
-/

namespace PyKMIP

open History

section Steps

namespace Execution

variable (execution : Execution)

/-- The committed rows before and after an execution. -/
def rowsBefore : Table ManagedObject := execution.before.dataStore.committed

def rowsAfter : Table ManagedObject := execution.after.dataStore.committed

/-- The object that an identifier finds before an execution. -/
def finds (uniqueIdentifier : Option String) : Option StoredObject :=
  findObject execution.world execution.before uniqueIdentifier

/-- The identifier of the object that the item is about. -/
def target : Option String := execution.before.context.target execution.payload

/-- Whether the client has the permission that the item needs. -/
def Permits (managedObject : ManagedObject) : Prop :=
  isPermitted execution.world execution.before.clientIdentity
    execution.payload.accessCode managedObject = true

instance (managedObject : ManagedObject) :
    Decidable (execution.Permits managedObject) :=
  inferInstanceAs (Decidable (_ = true))

end Execution

/-- What an execution makes of the row under a key. -/
inductive RowStep (execution : Execution) (key : Nat) :
    Option ManagedObject → Option ManagedObject → Prop where
  | keep : RowStep execution key row row
  | change (succeeded : execution.Succeeded)
      (writes : writingOperations.contains execution.payload.operation)
      (found : execution.finds execution.target = some ⟨key, old⟩)
      (permitted : execution.Permits old)
      (evolves : Evolves execution.payload old new) :
      RowStep execution key (some old) (some new)
  | remove (succeeded : execution.Succeeded)
      (destroys : execution.payload.operation = .destroy)
      (found : execution.finds execution.target = some ⟨key, old⟩)
      (permitted : execution.Permits old)
      (inactive : old.state? ≠ some .active) :
      RowStep execution key (some old) none
  | add (succeeded : execution.Succeeded)
      (producing : producingOperations.contains execution.payload.operation)
      (unused : execution.rowsBefore.next ≤ key) (isNew : new.IsNew) :
      RowStep execution key none (some new)

theorem lookup_addRows
    (rows : Table ManagedObject) {objects : List ManagedObject} (key : Nat)
    (new : ∀ managedObject ∈ objects, managedObject.IsNew) :
    (addRows rows objects).lookup key = rows.lookup key ∨
      rows.next ≤ key ∧ ∃ added : ManagedObject,
        (addRows rows objects).lookup key = some added ∧ added.IsNew := by
  induction objects generalizing rows with
  | nil => exact .inl rfl
  | cons first rest ih =>
      have inserted : (rows.insert (DataStore.withColumnDefaults first)).lookup
          key = _ := Table.lookup_insert _ _ _
      rcases ih (rows.insert (DataStore.withColumnDefaults first))
        fun other member => new other (.tail _ member) with kept | added
      · by_cases isNext : key = rows.next
        · rw [if_pos isNext] at inserted
          exact .inr ⟨Nat.le_of_eq isNext.symm, _, kept.trans inserted,
            (new first (.head _)).of_state rfl⟩
        · rw [if_neg isNext] at inserted
          exact .inl (kept.trans inserted)
      · exact .inr ⟨Nat.le_of_succ_le added.1, added.2⟩

theorem next_addRows (rows : Table ManagedObject) (objects : List ManagedObject) :
    (addRows rows objects).next = rows.next + objects.length := by
  induction objects generalizing rows with
  | nil => rfl
  | cons first rest ih =>
      refine (ih (rows.insert (DataStore.withColumnDefaults first))).trans ?_
      rw [Table.next_insert, List.length_cons]
      omega

namespace Execution

variable {execution : Execution}

/-- A row step of a successful item for every key. -/
theorem rowStep_of_transaction {response : ResponsePayload}
    (clean : execution.before.Clean)
    (succeeded : execution.outcome = .ok response) (key : Nat) :
    RowStep execution key (execution.rowsBefore.lookup key)
      (execution.rowsAfter.lookup key) := by
  have success := succeeded_of_outcome succeeded
  have session : execution.before.dataStore.session = execution.rowsBefore :=
    clean
  have transaction := transaction succeeded
  unfold rowsAfter
  generalize execution.after = after at transaction ⊢
  cases transaction with
  | read =>
      unfold rowsBefore
      exact .keep
  | change target changed writes found permitted evolves commits =>
      have rows := commits.committed
      rw [session] at rows
      rw [rows, Table.lookup_update]
      have located := findObject_eq_some found
      rw [session] at located
      by_cases same : key = target.uniqueIdentifier
      · subst same
        rw [if_pos rfl, located]
        exact .change success writes found permitted evolves
      · rw [if_neg same]
        exact .keep
  | remove target destroys found permitted inactive commits =>
      have rows := commits.committed
      rw [session] at rows
      rw [rows, Table.lookup_remove]
      have located := findObject_eq_some found
      rw [session] at located
      by_cases same : key = target.uniqueIdentifier
      · subst same
        rw [if_pos rfl, located]
        exact .remove success destroys found permitted inactive
      · rw [if_neg same]
        exact .keep
  | create others last producing new commits =>
      have rows := commits.committed
      rw [session] at rows
      rw [rows]
      rcases lookup_addRows execution.rowsBefore key new with
        kept | ⟨unused, added, stored, isNew⟩
      · rw [kept]
        exact .keep
      · rw [stored, Table.lookup_eq_none_of_le unused]
        exact .add success producing unused isNew
  | createSecret value secretRef managedObject creating new _ _ _ commits =>
      have rows := commits.committed
      rw [session] at rows
      rw [rows]
      have producing :
          producingOperations.contains execution.payload.operation := by
        rw [creating]
        rfl
      have allNew : ∀ added ∈ [managedObject], added.IsNew := by
        simpa using new
      rcases lookup_addRows execution.rowsBefore key allNew with
        kept | ⟨unused, added, stored, isNew⟩
      · rw [kept]
        exact .keep
      · rw [stored, Table.lookup_eq_none_of_le unused]
        exact .add success producing unused isNew

theorem rowsAfter_of_failed
    (clean : execution.before.Clean) (failed : ¬execution.Succeeded) :
    execution.rowsAfter = execution.rowsBefore := by
  obtain ⟨exception, raised⟩ := failed_of_not_succeeded failed
  exact (untouched clean raised).committed

theorem rowStep (clean : execution.before.Clean) (key : Nat) :
    RowStep execution key (execution.rowsBefore.lookup key)
      (execution.rowsAfter.lookup key) := by
  by_cases succeeded : execution.Succeeded
  · obtain ⟨response, outcome⟩ := outcome_of_succeeded succeeded
    exact rowStep_of_transaction clean outcome key
  · rw [rowsAfter_of_failed clean succeeded]
    exact .keep

/-- Keys are never handed out again. -/
theorem next_le (clean : execution.before.Clean) :
    execution.rowsBefore.next ≤ execution.rowsAfter.next := by
  have session : execution.before.dataStore.session = execution.rowsBefore :=
    clean
  by_cases succeeded : execution.Succeeded
  · obtain ⟨response, outcome⟩ := outcome_of_succeeded succeeded
    have transaction := transaction outcome
    unfold rowsAfter
    generalize execution.after = after at transaction ⊢
    cases transaction with
    | read => exact Nat.le_refl _
    | change _ _ _ _ _ _ commits =>
        rw [commits.committed, session]
        exact Nat.le_refl _
    | remove _ _ _ _ _ commits =>
        rw [commits.committed, session]
        exact Nat.le_refl _
    | create _ _ _ _ commits =>
        rw [commits.committed, session, next_addRows]
        omega
    | createSecret _ _ _ _ _ _ _ _ commits =>
        rw [commits.committed, session, next_addRows]
        omega
  · rw [rowsAfter_of_failed clean succeeded]

theorem keyUses_of_succeeded
    (succeeded : execution.Succeeded) :
    ∀ use ∈ execution.before.context.keyUses execution.payload,
      ∃ key, execution.finds use.1 = some key ∧
        key.managedObject.Usable use.2 := by
  obtain ⟨response, outcome⟩ := outcome_of_succeeded succeeded
  intro use member
  obtain ⟨loaded, accessed, usable⟩ :=
    processOperation_keyUses (result_of_outcome_ok outcome) use member
  obtain ⟨key, value, found, rfl, _⟩ := access_eq_found accessed
  exact ⟨key, found, usable⟩

theorem needs_of_succeeded
    (succeeded : execution.Succeeded) :
    ∀ uniqueIdentifier ∈ execution.before.context.needs execution.payload,
      ∃ needed, execution.finds uniqueIdentifier = some needed ∧
        execution.Permits needed.managedObject := by
  obtain ⟨response, outcome⟩ := outcome_of_succeeded succeeded
  intro uniqueIdentifier member
  obtain ⟨loaded, accessed⟩ :=
    processOperation_needs (result_of_outcome_ok outcome) uniqueIdentifier member
  obtain ⟨needed, value, found, _, permitted⟩ := access_eq_found accessed
  exact ⟨needed, found, permitted⟩

/-- What an identifier finds is in the committed rows. -/
theorem lookup_of_finds
    (clean : execution.before.Clean) {uniqueIdentifier : Option String}
    {found : StoredObject}
    (finds : execution.finds uniqueIdentifier = some found) :
    execution.rowsBefore.lookup found.uniqueIdentifier =
      some found.managedObject := by
  have located := findObject_eq_some finds
  rwa [show execution.before.dataStore.session = execution.rowsBefore from
    clean] at located

end Execution

end Steps

section Invariants

variable {property allowed : ManagedObject → Prop}

/-- What new objects have and changes keep, all stored objects have. -/
theorem Execution.forall_step
    {execution : Execution} (clean : execution.before.Clean)
    (stable : ∀ old new, property old → Evolves execution.payload old new →
      property new)
    (initially : ∀ managedObject : ManagedObject, managedObject.IsNew →
      property managedObject)
    (holds : execution.rowsBefore.Forall property) :
    execution.rowsAfter.Forall property := by
  rw [Table.forall_iff_lookup] at holds ⊢
  intro key managedObject stored
  have step := execution.rowStep clean key
  rw [stored] at step
  cases before : execution.rowsBefore.lookup key with
  | none =>
      rw [before] at step
      cases step with
      | add succeeded producing unused isNew => exact initially _ isNew
  | some old =>
      rw [before] at step
      cases step with
      | keep => exact holds key _ before
      | change succeeded writes found permitted evolves =>
          exact stable old _ (holds key old before) evolves

/-- Whatever is found under a key that has been used is allowed. -/
def Confines (allowed : ManagedObject → Prop) (key : Nat)
    (rows : Table ManagedObject) : Prop :=
  key < rows.next ∧ ∀ managedObject, rows.lookup key = some managedObject →
    allowed managedObject

theorem Execution.confines_step
    {execution : Execution} (clean : execution.before.Clean)
    (stable : ∀ old new, allowed old → Evolves execution.payload old new →
      allowed new)
    {key : Nat} (confines : Confines allowed key execution.rowsBefore) :
    Confines allowed key execution.rowsAfter := by
  obtain ⟨used, within⟩ := confines
  refine ⟨Nat.lt_of_lt_of_le used (execution.next_le clean), ?_⟩
  intro managedObject stored
  have step := execution.rowStep clean key
  rw [stored] at step
  cases before : execution.rowsBefore.lookup key with
  | none =>
      rw [before] at step
      cases step with
      | add succeeded producing unused => omega
  | some old =>
      rw [before] at step
      cases step with
      | keep => exact within _ before
      | change succeeded writes found permitted evolves =>
          exact stable old _ (within old before) evolves

variable {start : EngineState} {exchanges : List Exchange}
  {prior later : List Execution} {execution : Execution}

theorem history_rows (start : EngineState) (exchanges : List Exchange) :
    Linked Execution.rowsBefore Execution.rowsAfter
      start.dataStore.committed (history start exchanges)
      (run start exchanges).dataStore.committed :=
  (history_linked start exchanges).map Durable.rows

/-- What a step leaves under a key confines it for the rest of the run. -/
theorem confines_of_later
    (divides : history start exchanges = prior ++ execution :: later)
    (stable : ∀ payload old new, allowed old → Evolves payload old new →
      allowed new)
    {key : Nat} (confines : Confines allowed key execution.rowsAfter) :
    ∀ next ∈ later, Confines allowed key next.rowsBefore := by
  have linked := history_rows start exchanges
  rw [divides] at linked
  refine (linked.at.2.invariant (Confines allowed key) ?_ confines).2
  intro next member
  have executed : next ∈ history start exchanges := by
    rw [divides]
    exact List.mem_append_right _ (.tail _ member)
  exact next.confines_step (clean_of_mem_history executed) (stable _)

end Invariants

end PyKMIP
