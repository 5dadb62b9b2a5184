import PyKMIP.Engine.AttributeOperations
import PyKMIP.Engine.LifeCycle
import PyKMIP.Transactions.Evolution

/-!
# Changes in place

A loaded object is shared with the session, so a handler that changed it and
then raised would leave the change to the next commit.  Every change that the
handlers make to a loaded object is the last thing that can raise.
-/

namespace PyKMIP

open StatefulExcept
open AttributePolicy

section LifeCycle

theorem activateObject_atomic
    (uniqueIdentifier : Option String) (managedObject : ManagedObject) :
    AtomicAt (Evolves (.activate uniqueIdentifier) managedObject) managedObject
      activateObject := by
  unfold activateObject
  apply AtomicAt.get
  cases stateful : managedObject.state? with
  | none => exact .raise _
  | some state =>
      apply AtomicAt.raiseIf
      intro preActive
      have state_eq : state = .preActive := not_not.mp preActive
      subst state_eq
      exact .set {
        immutable := managedObject.immutable_withState .active
        state := .inr ⟨.preActive, .active, .activate, stateful,
          managedObject.state?_withState .active stateful⟩ }

theorem revokeObject_atomic
    {payload : RevokeRequestPayload} {revocationCode : RevocationReasonCode}
    (specified : payload.revocationCode = some revocationCode)
    (managedObject : ManagedObject) :
    AtomicAt (Evolves (.revoke payload) managedObject) managedObject
      (revokeObject revocationCode) := by
  have moves : ∀ {old new : State}, Transition (.revoke payload) old new →
      managedObject.state? = some old →
      Evolves (.revoke payload) managedObject (managedObject.withState new) :=
    fun transition stateful => {
      immutable := managedObject.immutable_withState _
      state := .inr ⟨_, _, transition, stateful,
        managedObject.state?_withState _ stateful⟩ }
  unfold revokeObject
  apply AtomicAt.get
  cases stateful : managedObject.state? with
  | none => exact .raise _
  | some state =>
      apply AtomicAt.ite
      · rintro rfl
        apply AtomicAt.ite
        · rintro rfl
          exact .set (moves (.compromiseDestroyed specified) stateful)
        · intro live
          exact .set (moves (.compromise specified live) stateful)
      · intro other
        apply AtomicAt.raiseIf
        intro active
        have state_eq : state = .active := not_not.mp active
        subst state_eq
        refine .set (moves (.deactivate ?_) stateful)
        rw [specified]
        exact fun same => other (Option.some.inj same)

/-- The object is only prepared for a removal that nothing can stop. -/
theorem run_prepareDestruction (managedObject : ManagedObject) :
    ∃ prepared, prepareDestruction.run managedObject =
      if managedObject.state? = some .active then
        .error (permissionDenied "Object is active and cannot be destroyed.")
          managedObject
      else .ok () prepared := by
  by_cases active : managedObject.state? = some .active
  · refine ⟨managedObject, ?_⟩
    rw [if_pos active]
    show (raiseIf _ _ >>= fun _ => _ : ObjectM Unit).run managedObject = _
    rw [EStateM.run_bind, run_raiseIf, if_pos active]
  · refine ⟨if managedObject.state? = some .compromised then
      managedObject.withState .destroyedCompromised else managedObject, ?_⟩
    rw [if_neg active]
    show (raiseIf _ _ >>= fun _ => _ : ObjectM Unit).run managedObject = _
    rw [EStateM.run_bind, run_raiseIf, if_neg active]
    by_cases compromised : managedObject.state? = some .compromised
    · simp only [compromised, if_true]
      rfl
    · simp only [compromised, if_false]
      rfl

end LifeCycle

section Attributes

/-- The objects differ at most in the fields that attribute operations write. -/
structure SameButAttributes (before after : ManagedObject) : Prop where
  immutable : after.immutable = before.immutable
  state : after.state? = before.state?

theorem SameButAttributes.refl (managedObject : ManagedObject) :
    SameButAttributes managedObject managedObject :=
  ⟨rfl, rfl⟩

theorem SameButAttributes.evolves
    (same : SameButAttributes before after) : Evolves payload before after :=
  ⟨same.immutable, .inl same.state⟩

variable (managedObject : ManagedObject)

theorem deleteMultivaluedAttribute_atomic
    (attributeName : AttributeName) (attributeIndex : Option Int)
    (attributeValue : Option AttributeValue) :
    AtomicAt (SameButAttributes managedObject) managedObject
      (deleteMultivaluedAttribute attributeName attributeIndex
        attributeValue) := by
  unfold deleteMultivaluedAttribute
  split
  · refine .get (.raiseIf fun _ => .fromExcept fun names _ => .set ⟨rfl, rfl⟩)
  · refine .get (.fromExcept fun value _ => .fromExcept fun infos _ =>
      .set ⟨rfl, rfl⟩)
  · refine .get (.fromExcept fun value _ => .fromExcept fun groups _ =>
      .set ⟨rfl, rfl⟩)
  · exact .raise _

theorem deleteAttributeFromManagedObject_atomic
    (attributeName : AttributeName) (attributeIndex : Option Int)
    (attributeValue : Option AttributeValue) :
    AtomicAt (SameButAttributes managedObject) managedObject
      (deleteAttributeFromManagedObject attributeName attributeIndex
        attributeValue) := by
  unfold deleteAttributeFromManagedObject
  refine .get (.fromExcept fun applicable _ => .raiseIf fun _ =>
    .fromExcept fun deletable _ => .raiseIf fun _ =>
    .fromExcept fun multivalued _ => ?_)
  split
  · exact deleteMultivaluedAttribute_atomic managedObject attributeName
      attributeIndex attributeValue
  · exact .raise _

theorem setField_atomic
    [DecidableEq τ] (attributeName : AttributeName)
    (existing : ManagedObject → Except PyError τ) (truthy : τ → Bool)
    {assign : τ → ManagedObject → ManagedObject} {value : τ}
    (assigned : SameButAttributes managedObject (assign value managedObject)) :
    AtomicAt (SameButAttributes managedObject) managedObject
      (setField attributeName existing truthy assign value) := by
  unfold setField
  refine .get (.fromExcept fun existingValue _ => .ite (fun _ => ?_) fun _ => ?_)
  · exact .raiseIfLast (.refl managedObject)
  · exact .set assigned

/-- The only single-valued attributes that a client may modify are Sensitive
and ones that the engine cannot set. -/
theorem setSingleValuedAttribute_atomic
    {attributeName : AttributeName}
    (modifiable : isAttributeModifiableByClient attributeName = .ok true)
    (attributeValue : AttributeValue) :
    AtomicAt (SameButAttributes managedObject) managedObject
      (setSingleValuedAttribute attributeName attributeValue) := by
  unfold setSingleValuedAttribute
  split
  case h_5 =>
      exact .fromExcept fun value _ =>
        setField_atomic managedObject .sensitive _ _ ⟨rfl, rfl⟩
  case h_6 => exact .raise _
  all_goals cases modifiable

theorem setAttributeOnManagedObject_atomic
    {attributeName : AttributeName}
    (modifiable : isAttributeModifiableByClient attributeName = .ok true)
    (single : isAttributeMultivalued attributeName = .ok false)
    (attributeValue : TemplateValue) :
    AtomicAt (SameButAttributes managedObject) managedObject
      (setAttributeOnManagedObject attributeName attributeValue) := by
  unfold setAttributeOnManagedObject
  rw [single]
  refine .fromExcept fun multivalued isSingle => ?_
  cases isSingle
  exact .fromExcept fun value _ =>
    setSingleValuedAttribute_atomic managedObject modifiable value

theorem setAttributeOnManagedObjectByIndex_atomic
    (attributeName : AttributeName) (attributeValue : AttributeValue)
    (attributeIndex : Nat) :
    AtomicAt (SameButAttributes managedObject) managedObject
      (setAttributeOnManagedObjectByIndex attributeName attributeValue
        attributeIndex) := by
  unfold setAttributeOnManagedObjectByIndex
  split
  · exact .get (.fromExcept fun info _ => .fromExcept fun infos _ =>
      .set ⟨rfl, rfl⟩)
  · exact .get (.fromExcept fun name _ => .fromExcept fun names _ =>
      .set ⟨rfl, rfl⟩)
  · exact .get (.fromExcept fun group _ => .fromExcept fun groups _ =>
      .set ⟨rfl, rfl⟩)
  · exact .pure (.refl managedObject)

theorem checkModifiable_eq_ok
    {attributeName : AttributeName} {checked : Unit}
    (passed : checkModifiable attributeName = .ok checked) :
    isAttributeModifiableByClient attributeName = .ok true := by
  unfold checkModifiable at passed
  cases modifiable : isAttributeModifiableByClient attributeName with
  | ok answer =>
      rw [modifiable] at passed
      cases answer with
      | true => rfl
      | false => cases passed
  | error exception =>
      rw [modifiable] at passed
      cases passed

theorem checkSettable_eq_ok
    {attributeName : AttributeName} {checked : Unit}
    (passed : checkSettable attributeName = .ok checked) :
    isAttributeModifiableByClient attributeName = .ok true ∧
      isAttributeMultivalued attributeName = .ok false := by
  unfold checkSettable at passed
  cases multivalued : isAttributeMultivalued attributeName with
  | error exception =>
      rw [multivalued] at passed
      cases passed
  | ok several =>
      rw [multivalued] at passed
      cases several with
      | true => cases passed
      | false =>
          cases modifiable : isAttributeModifiableByClient attributeName with
          | ok answer =>
              rw [modifiable] at passed
              cases answer with
              | true => exact ⟨rfl, rfl⟩
              | false => cases passed
          | error exception =>
              rw [modifiable] at passed
              cases passed

/-- SetAttribute sets one attribute that is not multivalued. -/
theorem setAttributesOnManagedObject_atomic
    {newAttribute : TaggedAttribute} {checked : Unit}
    (settable : checkSettable newAttribute.attributeName = .ok checked) :
    AtomicAt (SameButAttributes managedObject) managedObject
      (setAttributesOnManagedObject
        [(newAttribute.attributeName, .single newAttribute.attributeValue)]) := by
  obtain ⟨modifiable, single⟩ := checkSettable_eq_ok settable
  have round : AtomicAt (SameButAttributes managedObject) managedObject
      (setApplicableAttribute
        (newAttribute.attributeName, .single newAttribute.attributeValue)) := by
    unfold setApplicableAttribute
    refine .get (.fromExcept fun applicable _ => ?_)
    split
    · exact setAttributeOnManagedObject_atomic managedObject modifiable single _
    · exact .raise _
  exact round.map fun _ => PUnit.unit

theorem modifyByValue_atomic
    (storedObject : StoredObject) (payload : ModifyAttributeRequestPayload) :
    AtomicAt (SameButAttributes managedObject) managedObject
      (modifyByValue storedObject payload) := by
  unfold modifyByValue
  refine .fromExcept fun newAttribute _ => .fromExcept fun checked passed =>
    .fromExcept fun multivalued cardinality => ?_
  have modifiable := checkModifiable_eq_ok passed
  cases multivalued with
  | true =>
      simp only [if_true]
      split
      · exact .raise _
      · refine .fromExcept fun index _ => ?_
        split
        · exact .raise _
        · exact setAttributeOnManagedObjectByIndex_atomic managedObject _ _ _
  | false =>
      have last := setAttributeOnManagedObject_atomic managedObject modifiable
        cardinality (.single newAttribute.attributeValue)
      simp only [Bool.false_eq_true, if_false]
      split
      · refine .fromExcept fun existing _ => .raiseIf fun _ => last
      · refine .fromExcept fun index _ => .raiseIf fun _ => last

theorem modifyByIndex_atomic
    (version : ProtocolVersion) (storedObject : StoredObject)
    (modification : Attribute) :
    AtomicAt (SameButAttributes managedObject) managedObject
      (modifyByIndex version storedObject modification) := by
  unfold modifyByIndex
  refine .fromExcept fun checked passed => .fromExcept fun multivalued
    cardinality => ?_
  have modifiable := checkModifiable_eq_ok passed
  cases multivalued with
  | true =>
      refine .raiseIf fun _ => .fromExcept fun count _ => .raiseIf fun _ => ?_
      exact (setAttributeOnManagedObjectByIndex_atomic managedObject _ _ _).map
        fun _ => _
  | false =>
      refine .raiseIf fun _ => .fromExcept fun existing _ => .raiseIf fun _ => ?_
      exact (setAttributeOnManagedObject_atomic managedObject modifiable
        cardinality _).map fun _ => _

end Attributes

end PyKMIP
