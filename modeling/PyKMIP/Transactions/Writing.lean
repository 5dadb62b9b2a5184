import PyKMIP.Transactions.Following

/-!
# Plans of the operations that write to one object
-/

namespace PyKMIP

open EStateM StatefulExcept
open AttributePolicy

variable (world : World) (context : ItemContext) {state : EngineState}

section LifeCycle

def planActivate (payloadIdentifier : Option String) :
    Plan context (.activate payloadIdentifier) :=
  let uniqueIdentifier := context.valueOrPlaceholder payloadIdentifier
  .supportedSince ⟨1, 0⟩ "Activate" <|
  .update rfl fun target =>
  changing target activateObject (activateObject_atomic _ _) fun _ =>
    .ok (.activate uniqueIdentifier)

theorem processActivate_follows (payloadIdentifier : Option String) :
    Follows world state (processActivate world payloadIdentifier)
      (planActivate state.context payloadIdentifier) :=
  .kmipVersionSupported fun _ => .valueOrPlaceholder <|
    .update fun _ found => .change found _ fun _ _ _ => ⟨_, rfl, fun _ => rfl⟩

def planRevoke (payload : RevokeRequestPayload) : Plan context (.revoke payload) :=
  let uniqueIdentifier := context.valueOrPlaceholder payload.uniqueIdentifier
  .supportedSince ⟨1, 0⟩ "Revoke" <|
  match specified : payload.revocationCode with
  | none =>
      .refuse (invalidField "revocation reason code must be specified")
  | some revocationCode =>
      .update rfl fun target =>
      changing target (revokeObject revocationCode)
        (revokeObject_atomic specified _) fun _ => .ok (.revoke uniqueIdentifier)

theorem processRevoke_follows (payload : RevokeRequestPayload) :
    Follows world state (processRevoke world payload)
      (planRevoke state.context payload) := by
  refine .kmipVersionSupported fun _ => ?_
  rcases payload with ⟨payloadIdentifier, specified⟩
  cases specified with
  | none => exact .raise _
  | some revocationCode =>
      exact Follows.valueOrPlaceholder <| .update fun _ found =>
        .change found _ fun _ _ _ => ⟨_, rfl, fun _ => rfl⟩

def planDestroy (payloadIdentifier : Option String) :
    Plan context (.destroy payloadIdentifier) :=
  let uniqueIdentifier := context.valueOrPlaceholder payloadIdentifier
  .supportedSince ⟨1, 0⟩ "Destroy" <|
  .update rfl fun target =>
  removing target rfl (.destroy uniqueIdentifier)

theorem processDestroy_follows (payloadIdentifier : Option String) :
    Follows world state (processDestroy world payloadIdentifier)
      (planDestroy state.context payloadIdentifier) :=
  .kmipVersionSupported fun _ => .valueOrPlaceholder <|
    .update fun _ found => .remove found rfl _

end LifeCycle

section Attributes

def planDeleteAttribute (payload : DeleteAttributeRequestPayload) :
    Plan context (.deleteAttribute payload) :=
  let uniqueIdentifier := context.payloadOrPlaceholder payload.uniqueIdentifier
  .supportedSince ⟨1, 0⟩ "DeleteAttribute" <|
  .update rfl fun target => do
    let answer ← addressedAttribute context.protocolVersion target payload
    changing target
      (deleteAttributeFromManagedObject answer.1.attributeName
        answer.1.attributeIndex answer.1.attributeValue)
      ((deleteAttributeFromManagedObject_atomic ..).weaken fun _ same =>
        same.evolves)
      fun _ => .ok (.deleteAttribute uniqueIdentifier answer.2)

theorem processDeleteAttribute_follows
    (payload : DeleteAttributeRequestPayload) :
    Follows world state (processDeleteAttribute world payload)
      (planDeleteAttribute state.context payload) :=
  .kmipVersionSupported fun _ => .payloadOrPlaceholder <|
    .update fun _ found => .get <| .fromExcept fun _ _ =>
      .change found _ fun _ _ _ => ⟨_, rfl, fun _ => rfl⟩

def planSetAttribute (payload : SetAttributeRequestPayload) :
    Plan context (.setAttribute payload) :=
  let uniqueIdentifier := context.payloadOrPlaceholder payload.uniqueIdentifier
  .supportedSince version20 "SetAttribute" <|
  .update rfl fun target => do
    let newAttribute ← getattr payload.newAttribute
    let settable ← witnessed (checkSettable newAttribute.attributeName)
    changing target
      (setAttributesOnManagedObject
        [(newAttribute.attributeName, .single newAttribute.attributeValue)])
      ((setAttributesOnManagedObject_atomic _ settable.2).weaken fun _ same =>
        same.evolves)
      fun _ => .ok (.setAttribute uniqueIdentifier)

theorem processSetAttribute_follows (payload : SetAttributeRequestPayload) :
    Follows world state (processSetAttribute world payload)
      (planSetAttribute state.context payload) :=
  .kmipVersionSupported fun _ => .payloadOrPlaceholder <|
    .update fun _ found => .fromExcept fun _ _ => .witnessed fun _ =>
      .change found _ fun _ _ _ => ⟨_, rfl, fun _ => rfl⟩

section Modification

/-- The attribute at an index of an object, as the 1.x response shows it. -/
def modifiedAttribute (version : ProtocolVersion) (storedObject : StoredObject)
    (attributeName : AttributeName) (index : Nat) : Except PyError Attribute := do
  let existingAttributes ← getAttributesFromManagedObject version storedObject
    [attributeName]
  elementAt existingAttributes index

theorem elementAt_of_lt
    {values : List α} {index : Nat} (inside : index < values.length) :
    elementAt values (index : Int) = .ok values[index] := by
  have position : pythonIndex? values.length (index : Int) = some index := by
    unfold pythonIndex?
    rw [if_pos ⟨by omega, by omega⟩]
    rfl
  unfold elementAt
  rw [position, Option.bind_some, List.getElem?_eq_getElem inside]

theorem ManagedObject.objectType_mem_everyObject
    (managedObject : ManagedObject) :
    everyObject.contains managedObject.objectType = true := by
  unfold ManagedObject.objectType
  rcases managedObject with ⟨_, _, _, _, _, _, _, _, ⟨kind, _, _⟩ | _ | _ | _⟩
  · cases kind <;> rfl
  all_goals rfl

theorem getAttributesFromManagedObject_singleton
    (version : ProtocolVersion) (storedObject : StoredObject)
    (attributeName : AttributeName) :
    getAttributesFromManagedObject version storedObject [attributeName] =
      retrievedAttributes version storedObject attributeName := by
  unfold getAttributesFromManagedObject
  simp only [List.cons_ne_nil, if_false, List.mapM_cons, List.mapM_nil]
  cases retrievedAttributes version storedObject attributeName with
  | error exception => rfl
  | ok attributes => exact congrArg Except.ok (List.append_nil attributes)

/-- The multivalued attributes that the engine reads. -/
theorem multivalued_cases
    {attributeName : AttributeName} {storedObject : StoredObject}
    {value : ObjectAttribute}
    (multivalued : isAttributeMultivalued attributeName = .ok true)
    (read : getAttributeFromManagedObject storedObject attributeName =
      .ok (some value)) :
    attributeName = .name ∨ attributeName = .objectGroup ∨
      attributeName = .applicationSpecificInformation := by
  cases attributeName
  case name => exact .inl rfl
  case objectGroup => exact .inr (.inl rfl)
  case applicationSpecificInformation => exact .inr (.inr rfl)
  all_goals cases multivalued
  all_goals cases read

theorem supported_of_multivalued
    {version : ProtocolVersion} {attributeName : AttributeName}
    (listed : ⟨1, 0⟩ ≤ version)
    (multivalued : isAttributeMultivalued attributeName = .ok true) :
    isAttributeSupported version attributeName = true := by
  unfold isAttributeSupported
  cases attributeName
  all_goals cases multivalued
  all_goals exact decide_eq_true listed

theorem retrievedAttributes_eq_ok
    {version : ProtocolVersion} {storedObject : StoredObject}
    {attributeName : AttributeName} {several : Bool} {value : ObjectAttribute}
    (supported : isAttributeSupported version attributeName = true)
    (current : isAttributeDeprecated version attributeName = .ok false)
    (applicable : isAttributeApplicableToObjectType attributeName
      storedObject.managedObject.objectType = .ok true)
    (cardinality : isAttributeMultivalued attributeName = .ok several)
    (read : getAttributeFromManagedObject storedObject attributeName =
      .ok (some value)) :
    retrievedAttributes version storedObject attributeName =
      .ok (AttributeFactory.createAttributes attributeName several value) := by
  unfold retrievedAttributes
  rw [supported, current, applicable, cardinality, read]
  rfl

theorem modifiedAttribute_eq_ok
    {version : ProtocolVersion} {storedObject : StoredObject}
    {attributeName : AttributeName} {attributes : List Attribute} {index : Nat}
    (retrieved : retrievedAttributes version storedObject attributeName =
      .ok attributes)
    (inside : index < attributes.length) :
    ∃ modified, modifiedAttribute version storedObject attributeName index =
      .ok modified := by
  unfold modifiedAttribute
  rw [getAttributesFromManagedObject_singleton, retrieved]
  exact ⟨_, elementAt_of_lt inside⟩

theorem instanceCount_eq_ok
    {storedObject : StoredObject} {attributeName : AttributeName} {count : Nat}
    (counted : instanceCount storedObject attributeName = .ok count) :
    ∃ value, getAttributeFromManagedObject storedObject attributeName =
        .ok (some value) ∧
      (AttributeFactory.instances value).length = count := by
  unfold instanceCount at counted
  cases read : getAttributeFromManagedObject storedObject attributeName with
  | error exception =>
      rw [read] at counted
      cases counted
  | ok existing =>
      rw [read] at counted
      cases existing with
      | none => cases counted
      | some value =>
          cases counted
          exact ⟨value, rfl, rfl⟩

/-- Reading back a multivalued attribute finds all its instances. -/
theorem modifiedAttribute_of_instanceCount
    {version : ProtocolVersion} {storedObject : StoredObject}
    {attributeName : AttributeName} {count index : Nat}
    (listed : ⟨1, 0⟩ ≤ version)
    (multivalued : isAttributeMultivalued attributeName = .ok true)
    (counted : instanceCount storedObject attributeName = .ok count)
    (inside : index < count) :
    ∃ modified, modifiedAttribute version storedObject attributeName index =
      .ok modified := by
  obtain ⟨value, read, rfl⟩ := instanceCount_eq_ok counted
  have supported := supported_of_multivalued listed multivalued
  have applicable := congrArg (Except.ok (ε := PyError))
    storedObject.managedObject.objectType_mem_everyObject
  have retrieved : retrievedAttributes version storedObject attributeName =
      .ok (AttributeFactory.createAttributes attributeName true value) := by
    rcases multivalued_cases multivalued read with rfl | rfl | rfl
    all_goals
      exact retrievedAttributes_eq_ok supported rfl applicable multivalued read
  exact modifiedAttribute_eq_ok retrieved
    (by simpa [AttributeFactory.createAttributes] using inside)

/-- An assignment by index does not change the number of instances. -/
theorem instanceCount_setByIndex
    {target : StoredObject} {attributeName : AttributeName}
    {attributeValue : AttributeValue} {index count : Nat} {result : Unit}
    {changed : ManagedObject}
    (multivalued : isAttributeMultivalued attributeName = .ok true)
    (counted : instanceCount target attributeName = .ok count)
    (ran : (setAttributeOnManagedObjectByIndex attributeName attributeValue
      index).run target.managedObject = .ok result changed) :
    instanceCount { target with managedObject := changed } attributeName =
      .ok count := by
  obtain ⟨value, read, rfl⟩ := instanceCount_eq_ok counted
  have assigned : ∀ {α : Type} {values changed : List α} {element : α},
      assignAt values index element = .ok changed →
      changed.length = values.length := by
    intro α values changed element assigned
    unfold assignAt at assigned
    split at assigned
    · cases assigned
      exact List.length_set
    · cases assigned
  rcases multivalued_cases multivalued read with rfl | rfl | rfl
  all_goals
    cases read
    unfold setAttributeOnManagedObjectByIndex at ran
    obtain ⟨before, between, got, ran⟩ := bind_ok_iff.mp ran
    cases got
    obtain ⟨element, between, extracted, ran⟩ := bind_ok_iff.mp ran
    obtain ⟨_, rfl⟩ := fromExcept_ok_iff.mp extracted
    obtain ⟨values, between, assigning, ran⟩ := bind_ok_iff.mp ran
    obtain ⟨assignment, rfl⟩ := fromExcept_ok_iff.mp assigning
    cases ran
    have length_eq := assigned assignment
    simp [instanceCount, getAttributeFromManagedObject,
      AttributeFactory.instances, bind, Except.bind, pure, Except.pure,
      length_eq]

/-- The only single-valued attribute that can be modified is Sensitive. -/
theorem sensitive_of_set
    {attributeName : AttributeName} {attributeValue : AttributeValue}
    {managedObject changed : ManagedObject} {result : Unit}
    (modifiable : isAttributeModifiableByClient attributeName = .ok true)
    (single : isAttributeMultivalued attributeName = .ok false)
    (ran : (setAttributeOnManagedObject attributeName
      (.single attributeValue)).run managedObject = .ok result changed) :
    attributeName = .sensitive := by
  unfold setAttributeOnManagedObject at ran
  rw [single] at ran
  change (setSingleValuedAttribute attributeName attributeValue).run _ = _ at ran
  unfold setSingleValuedAttribute at ran
  split at ran
  case h_5 => rfl
  case h_6 => cases ran
  all_goals cases modifiable

/-- The response of ModifyAttribute can be read back from the changed object. -/
theorem modifyByIndex_readsBack
    {version : ProtocolVersion} {target : StoredObject}
    {modification : Attribute} {index : Nat} {changed : ManagedObject}
    (listed : ⟨1, 0⟩ ≤ version)
    (ran : (modifyByIndex version target modification).run
      target.managedObject = .ok index changed) :
    ∃ modified, modifiedAttribute version
      { target with managedObject := changed } modification.attributeName
      index = .ok modified := by
  unfold modifyByIndex at ran
  obtain ⟨checked, between, checking, ran⟩ := bind_ok_iff.mp ran
  obtain ⟨passed, rfl⟩ := fromExcept_ok_iff.mp checking
  obtain ⟨multivalued, between, classifying, ran⟩ := bind_ok_iff.mp ran
  obtain ⟨cardinality, rfl⟩ := fromExcept_ok_iff.mp classifying
  cases multivalued with
  | true =>
      obtain ⟨_, between, guarding, ran⟩ := bind_ok_iff.mp ran
      obtain ⟨nonnegative, rfl⟩ := raiseIf_ok_iff.mp guarding
      obtain ⟨count, between, counting, ran⟩ := bind_ok_iff.mp ran
      obtain ⟨counted, rfl⟩ := fromExcept_ok_iff.mp counting
      obtain ⟨_, between, guarding, ran⟩ := bind_ok_iff.mp ran
      obtain ⟨inside, rfl⟩ := raiseIf_ok_iff.mp guarding
      obtain ⟨_, between, setting, returned⟩ := bind_ok_iff.mp ran
      cases returned
      exact modifiedAttribute_of_instanceCount listed cardinality
        (instanceCount_setByIndex cardinality counted setting) (by omega)
  | false =>
      obtain ⟨_, between, guarding, ran⟩ := bind_ok_iff.mp ran
      obtain ⟨_, rfl⟩ := raiseIf_ok_iff.mp guarding
      obtain ⟨existing, between, reading, ran⟩ := bind_ok_iff.mp ran
      obtain ⟨retrieved, rfl⟩ := fromExcept_ok_iff.mp reading
      obtain ⟨_, between, guarding, ran⟩ := bind_ok_iff.mp ran
      obtain ⟨present, rfl⟩ := raiseIf_ok_iff.mp guarding
      obtain ⟨_, between, setting, returned⟩ := bind_ok_iff.mp ran
      cases returned
      have isSensitive :=
        sensitive_of_set (checkModifiable_eq_ok passed) cardinality setting
      rw [isSensitive] at retrieved ⊢
      rw [getAttributesFromManagedObject_singleton] at retrieved
      have supported : isAttributeSupported version .sensitive = true := by
        by_contra unsupported
        unfold retrievedAttributes at retrieved
        rw [Bool.not_eq_true _ |>.mp unsupported] at retrieved
        cases retrieved
        exact present rfl
      have applicable := congrArg (Except.ok (ε := PyError))
        changed.objectType_mem_everyObject
      have retrievedAgain : retrievedAttributes version
          { target with managedObject := changed } .sensitive =
          .ok (AttributeFactory.createAttributes .sensitive false
            (.boolean changed.sensitive)) :=
        retrievedAttributes_eq_ok supported rfl applicable rfl rfl
      exact modifiedAttribute_eq_ok retrievedAgain (by
        simp [AttributeFactory.createAttributes, AttributeFactory.instances])

def planModifyAttribute (payload : ModifyAttributeRequestPayload) :
    Plan context (.modifyAttribute payload) :=
  let uniqueIdentifier := context.payloadOrPlaceholder payload.uniqueIdentifier
  .supportedSince ⟨1, 0⟩ "ModifyAttribute" <|
  .update rfl fun target =>
  if version20 ≤ context.protocolVersion then
    changing target (modifyByValue target payload)
      ((modifyByValue_atomic ..).weaken fun _ same => same.evolves)
      fun _ => .ok (.modifyAttribute uniqueIdentifier none)
  else do
    let modification ← getattr payload.attributeField
    changing target
      (modifyByIndex context.protocolVersion target modification >>= fun index =>
        get >>= fun changed => pure (index, changed))
      (((modifyByIndex_atomic ..).weaken fun _ same => same.evolves).read)
      fun answer => do
        let modified ← modifiedAttribute context.protocolVersion
          { target with managedObject := answer.2 } modification.attributeName
          answer.1
        return .modifyAttribute uniqueIdentifier (some modified)

theorem processModifyAttribute_follows
    (payload : ModifyAttributeRequestPayload) :
    Follows world state (processModifyAttribute world payload)
      (planModifyAttribute state.context payload) := by
  refine .kmipVersionSupported fun listed => .payloadOrPlaceholder <|
    .update fun target found => .get <| .ite (fun _ => ?_) fun _ => ?_
  · exact .change found _ fun _ _ _ => ⟨_, rfl, fun _ => rfl⟩
  · refine .fromExcept fun modification _ => .change found _ ?_
    rintro ⟨index, after⟩ changed ran
    obtain ⟨result, between, modifying, returned⟩ := bind_ok_iff.mp ran
    cases returned
    obtain ⟨modified, readBack⟩ := modifyByIndex_readsBack listed modifying
    refine ⟨.modifyAttribute
      (state.context.payloadOrPlaceholder payload.uniqueIdentifier)
      (some modified), ?_, fun final => ?_⟩
    · show (modifiedAttribute state.protocolVersion
        { target with managedObject := after } modification.attributeName index >>=
          fun modified => _) = _
      rw [readBack]
      rfl
    unfold modifiedAttribute at readBack
    cases retrieved : getAttributesFromManagedObject state.protocolVersion
        { target with managedObject := after } [modification.attributeName] with
    | error exception =>
        rw [retrieved] at readBack
        cases readBack
    | ok existing =>
        rw [retrieved] at readBack
        change elementAt existing index = .ok modified at readBack
        simp only [run_bind, run_fromExcept, readBack]
        rfl

end Modification

end Attributes

end PyKMIP
