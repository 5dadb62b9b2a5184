import PyKMIP.DataStore
import PyKMIP.Messages

/-!
# The life of a managed object

A stored object keeps what makes it the object it is.  Requests move it along
the life cycle and change its names, its application specific information, its
groups and its Sensitive flag.
-/

namespace PyKMIP

namespace ManagedObject

variable (managedObject : ManagedObject)

/-- The object without the fields that requests can change. -/
def immutable : ManagedObject :=
  { managedObject.withState .preActive with
    names := []
    sensitive := false
    appSpecificInfo := []
    objectGroups := [] }

/-- A new object is pre-active, unless its class has no state. -/
def IsNew : Prop := ∀ state, managedObject.state? = some state → state = .preActive

/-- What setting the attributes of a template leaves of an object. -/
structure Origin where
  value : Bytes
  objectType : ObjectType
  state : Option State
  keyFormatType : Option KeyFormatType
deriving DecidableEq, Repr

def origin : Origin where
  value := managedObject.value
  objectType := managedObject.objectType
  state := managedObject.state?
  keyFormatType := managedObject.keyFields?.map KeyFields.keyFormatType

theorem IsNew.of_preActive
    {managedObject : ManagedObject}
    (preActive : managedObject.state? = some .preActive) :
    managedObject.IsNew := by
  intro state stateful
  rw [preActive] at stateful
  exact (Option.some.inj stateful).symm

theorem IsNew.of_state
    {managedObject other : ManagedObject}
    (new : managedObject.IsNew) (same : other.state? = managedObject.state?) :
    other.IsNew := by
  intro state stateful
  exact new state (same ▸ stateful)

theorem state?_mapCryptographic
    (change : CryptographicFields → CryptographicFields) :
    (managedObject.mapCryptographic change).state? =
      (CryptographicFields.state ∘ change) <$> managedObject.cryptographic? := by
  unfold state? cryptographic? mapCryptographic
  cases managedObject.objectClass <;> rfl

theorem state?_withState {old : State} (new : State)
    (stateful : managedObject.state? = some old) :
    (managedObject.withState new).state? = some new := by
  rw [withState, state?_mapCryptographic]
  unfold state? at stateful
  cases found : managedObject.cryptographic? with
  | none => simp [found] at stateful
  | some fields => rfl

@[simp] theorem immutable_withState (state : State) :
    (managedObject.withState state).immutable = managedObject.immutable := by
  unfold immutable withState mapCryptographic
  cases managedObject.objectClass <;> rfl

section Projections

@[simp] theorem objectType_immutable :
    managedObject.immutable.objectType = managedObject.objectType := by
  unfold objectType immutable withState mapCryptographic
  rcases managedObject with ⟨_, _, _, _, _, _, _, _, ⟨kind, _, _⟩ | _ | _ | _⟩
  · cases kind <;> rfl
  all_goals rfl

@[simp] theorem keyFields?_immutable :
    managedObject.immutable.keyFields? = managedObject.keyFields? := by
  unfold keyFields? immutable withState mapCryptographic
  cases managedObject.objectClass <;> rfl

@[simp] theorem cryptographicUsageMasks?_immutable :
    managedObject.immutable.cryptographicUsageMasks? =
      managedObject.cryptographicUsageMasks? := by
  unfold cryptographicUsageMasks? cryptographic? immutable withState
    mapCryptographic
  cases managedObject.objectClass <;> rfl

@[simp] theorem storable_immutable :
    managedObject.immutable.storable = managedObject.storable := by
  unfold storable immutable withState mapCryptographic
  rcases managedObject with ⟨_, _, _, _, _, _, _, _, ⟨kind, _, _⟩ | _ | _ | _⟩
  · cases kind <;> rfl
  all_goals rfl

end Projections

/-- Equal immutable parts agree on whatever only depends on them. -/
theorem eq_of_immutable_eq
    {before after : ManagedObject} {property : ManagedObject → α}
    (determined : ∀ managedObject, property managedObject.immutable =
      property managedObject)
    (same : after.immutable = before.immutable) :
    property after = property before := by
  rw [← determined after, same, determined]

end ManagedObject

/-- The transitions that a request asks for. -/
inductive Transition : RequestPayload → State → State → Prop where
  | activate : Transition (.activate uniqueIdentifier) .preActive .active
  | deactivate :
      payload.revocationCode ≠ some .keyCompromise →
      Transition (.revoke payload) .active .deactivated
  | compromise :
      payload.revocationCode = some .keyCompromise → state ≠ .destroyed →
      Transition (.revoke payload) state .compromised
  | compromiseDestroyed :
      payload.revocationCode = some .keyCompromise →
      Transition (.revoke payload) .destroyed .destroyedCompromised

/-- What a request may make of a stored object. -/
structure Evolves (payload : RequestPayload) (before after : ManagedObject) :
    Prop where
  immutable : after.immutable = before.immutable
  state : after.state? = before.state? ∨
    ∃ old new, Transition payload old new ∧
      before.state? = some old ∧ after.state? = some new

theorem Evolves.storable
    (evolves : Evolves payload before after) :
    after.storable = before.storable :=
  ManagedObject.eq_of_immutable_eq ManagedObject.storable_immutable
    evolves.immutable

end PyKMIP
