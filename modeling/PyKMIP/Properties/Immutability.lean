import PyKMIP.Rows

/-!
# What requests cannot change

A stored object keeps its identity as long as it is stored: requests change its
state, its names, its application specific information, its groups and its
Sensitive flag, and they change nothing of an object that they do not name.
-/

namespace PyKMIP

open History

namespace ManagedObject

/-- An object that takes over the changeable fields of another one. -/
def withChangeable (managedObject changed : ManagedObject) : ManagedObject :=
  { changed.state?.elim managedObject managedObject.withState with
    names := changed.names
    sensitive := changed.sensitive
    appSpecificInfo := changed.appSpecificInfo
    objectGroups := changed.objectGroups }

theorem eq_withChangeable_of_immutable_eq
    {old new : ManagedObject} (same : new.immutable = old.immutable) :
    new = old.withChangeable new := by
  rcases new with ⟨_, _, _, _, _, _, _, _, newClass⟩
  rcases old with ⟨_, _, _, _, _, _, _, _, oldClass⟩
  unfold immutable withState mapCryptographic at same
  unfold withChangeable withState mapCryptographic state? cryptographic?
  cases newClass <;> cases oldClass <;>
    simp only [Option.map_eq_map, Option.map_some, Option.map_none,
      Option.elim_some, Option.elim_none, mk.injEq, true_and, and_true,
      reduceCtorEq, and_false, ObjectClass.key.injEq,
      ObjectClass.certificate.injEq, ObjectClass.secretData.injEq,
      CryptographicFields.mk.injEq] at same ⊢
  case opaqueObject.opaqueObject => exact same
  all_goals grind [CryptographicFields]

/-- What two versions of one object have in common. -/
structure SameIdentity (old new : ManagedObject) : Prop where
  objectType : new.objectType = old.objectType
  value : new.value = old.value
  cryptographicAlgorithm :
    new.keyFields?.map KeyFields.cryptographicAlgorithm =
      old.keyFields?.map KeyFields.cryptographicAlgorithm
  cryptographicLength :
    new.keyFields?.map KeyFields.cryptographicLength =
      old.keyFields?.map KeyFields.cryptographicLength
  keyFormatType :
    new.keyFields?.map KeyFields.keyFormatType =
      old.keyFields?.map KeyFields.keyFormatType
  keyWrappingData :
    new.keyFields?.map KeyFields.wrapping = old.keyFields?.map KeyFields.wrapping
  cryptographicUsageMasks :
    new.cryptographicUsageMasks? = old.cryptographicUsageMasks?
  owner : new.owner = old.owner
  operationPolicyName : new.operationPolicyName = old.operationPolicyName
  initialDate : new.initialDate = old.initialDate
  /-- Nothing but the changeable fields differs. -/
  rest : new = old.withChangeable new

theorem SameIdentity.of_immutable_eq
    {old new : ManagedObject} (same : new.immutable = old.immutable) :
    SameIdentity old new := by
  have keyFields : new.keyFields? = old.keyFields? :=
    eq_of_immutable_eq keyFields?_immutable same
  exact {
    objectType := eq_of_immutable_eq objectType_immutable same
    value := eq_of_immutable_eq (fun _ => rfl) same
    cryptographicAlgorithm := by rw [keyFields]
    cryptographicLength := by rw [keyFields]
    keyFormatType := by rw [keyFields]
    keyWrappingData := by rw [keyFields]
    cryptographicUsageMasks :=
      eq_of_immutable_eq cryptographicUsageMasks?_immutable same
    owner := eq_of_immutable_eq (fun _ => rfl) same
    operationPolicyName := eq_of_immutable_eq (fun _ => rfl) same
    initialDate := eq_of_immutable_eq (fun _ => rfl) same
    rest := eq_withChangeable_of_immutable_eq same }

end ManagedObject

/-- Whether the item of an execution is about the object under a key. -/
def Execution.Names (execution : Execution) (key : Nat) : Prop :=
  ∃ managedObject, execution.finds execution.target = some ⟨key, managedObject⟩

/-- What a request does to the objects that are stored before it. -/
structure KeepsIdentities (exchange : Exchange) (state : EngineState) :
    Prop where
  same : ∀ key old new,
    state.dataStore.committed.lookup key = some old →
    (exchange.after state).dataStore.committed.lookup key = some new →
    old.SameIdentity new
  unnamed : ∀ key old,
    state.dataStore.committed.lookup key = some old →
    (∀ execution ∈ exchange.executions state,
      execution.Succeeded → ¬execution.Names key) →
    (exchange.after state).dataStore.committed.lookup key = some old

theorem Exchange.rows_linked (exchange : Exchange) (state : EngineState) :
    Linked Execution.rowsBefore Execution.rowsAfter state.dataStore.committed
      (exchange.executions state)
      (exchange.after state).dataStore.committed :=
  (exchange.linked state).map Durable.rows

/-- An execution leaves the objects alone that it does not name. -/
theorem Execution.lookup_of_unnamed
    {execution : Execution} (clean : execution.before.Clean) {key : Nat}
    {old : ManagedObject} (unnamed : execution.Succeeded → ¬execution.Names key)
    (stored : execution.rowsBefore.lookup key = some old) :
    execution.rowsAfter.lookup key = some old := by
  have step := execution.rowStep clean key
  rw [stored] at step
  generalize execution.rowsAfter.lookup key = after at step
  cases step with
  | keep => rfl
  | change succeeded writes found =>
      exact absurd ⟨old, found⟩ (unnamed succeeded)
  | remove succeeded destroys found =>
      exact absurd ⟨old, found⟩ (unnamed succeeded)

theorem request_keeps_identities (exchange : Exchange) (state : EngineState) :
    KeepsIdentities exchange state := by
  have linked := exchange.rows_linked state
  have clean : ∀ execution ∈ exchange.executions state,
      execution.before.Clean :=
    fun execution member => (exchange.serves_of_mem state member).clean
  constructor
  · intro key old new stored remains
    have kept := linked.invariant
      (Confines (fun managedObject =>
        managedObject.immutable = old.immutable) key)
      (fun execution member => execution.confines_step (clean execution member)
        fun _ _ same evolves => evolves.immutable.trans same)
      ⟨Table.lookup_lt_next stored, fun managedObject found => by
        rw [stored] at found
        cases found
        rfl⟩
    exact .of_immutable_eq (kept.1.2 new remains)
  · intro key old stored unnamed
    exact (linked.invariant (fun rows => rows.lookup key = some old)
      (fun execution member => execution.lookup_of_unnamed
        (clean execution member) (unnamed execution member)) stored).1

end PyKMIP
