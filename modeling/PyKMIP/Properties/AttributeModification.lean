import PyKMIP.Properties.AttributeDeletion

/-!
# Modifying instances of attributes

ModifyAttribute replaces one instance of an attribute, which a request addresses
by index before protocol version 2.0 and by its current value from then on.  The
lookup by value does not see which attribute the current one is, names lose
their type, and Sensitive is never cleared.
-/

namespace PyKMIP

open EStateM StatefulExcept
open AttributePolicy

section Reports

variable {version : ProtocolVersion} {storedObject : StoredObject}
  {attributeName : AttributeName}

/-- The instances of an attribute that GetAttributes reports. -/
def reportedInstances (version : ProtocolVersion) (storedObject : StoredObject)
    (attributeName : AttributeName) : List AttributeValue :=
  match getAttributesFromManagedObject version storedObject [attributeName] with
  | .ok attributes => attributes.map Attribute.attributeValue
  | .error _ => []

theorem reportedInstances_of_stored
    (listed : ⟨1, 0⟩ ≤ version) (isStored : attributeName ∈ storedNames) :
    reportedInstances version storedObject attributeName =
      storedInstances attributeName storedObject.managedObject := by
  unfold reportedInstances
  rw [getAttributes_storedInstances listed isStored]
  simp only [numbered, List.map_map]
  exact List.zipIdx_map_fst 0 _

theorem reportedInstances_sensitive
    (version : ProtocolVersion) (storedObject : StoredObject) :
    reportedInstances version storedObject .sensitive =
      if isAttributeSupported version .sensitive = true
      then [.boolean storedObject.managedObject.sensitive] else [] := by
  have applicable := congrArg (Except.ok (ε := PyError))
    storedObject.managedObject.objectType_mem_everyObject
  unfold reportedInstances
  rw [getAttributesFromManagedObject_singleton]
  by_cases supported : isAttributeSupported version .sensitive = true
  · rw [if_pos supported,
      retrievedAttributes_eq_ok supported rfl applicable rfl rfl]
    rfl
  · rw [if_neg supported]
    unfold retrievedAttributes
    rw [Bool.not_eq_true _ |>.mp supported]
    rfl

/-- What is left of an object beside the attribute. -/
def besideAttribute (attributeName : AttributeName)
    (managedObject : ManagedObject) : ManagedObject :=
  match attributeName with
  | .sensitive => { managedObject with sensitive := false }
  | _ => besideInstances attributeName managedObject

/-- The reported instance at the position becomes the value, and everything else
stays as it was. -/
structure ReplacesInstance (version : ProtocolVersion)
    (attributeName : AttributeName) (before after : StoredObject)
    (position : Nat) (value : AttributeValue) : Prop where
  instances : reportedInstances version after attributeName =
    (reportedInstances version before attributeName).set position value
  beside : besideAttribute attributeName after.managedObject =
    besideAttribute attributeName before.managedObject

end Reports

section Requests

/-- The attribute that a request proposes. -/
def ModifyAttributeRequestPayload.proposed
    (payload : ModifyAttributeRequestPayload) (version : ProtocolVersion) :
    Option TaggedAttribute :=
  if version20 ≤ version then payload.newAttribute
  else payload.attributeField.map fun modification =>
    ⟨modification.attributeName, modification.attributeValue⟩

/-- The request addresses the instance at the position. -/
def ModifyAttributeRequestPayload.Addresses
    (payload : ModifyAttributeRequestPayload) (version : ProtocolVersion)
    (attributeName : AttributeName) (instances : List AttributeValue)
    (position : Nat) : Prop :=
  if version20 ≤ version then
    match payload.currentAttribute with
    | some current => current.attributeName = attributeName ∧
        instances[position]? = some current.attributeValue
    | none => isAttributeMultivalued attributeName = .ok false ∧
        position < instances.length
  else
    position < instances.length ∧
      if isAttributeMultivalued attributeName = .ok true
      then (payload.attributeField.bind Attribute.attributeIndex).getD 0 =
        (position : Int)
      else payload.attributeField.bind Attribute.attributeIndex = none

/-- What ModifyAttribute is meant to do: a success replaces the addressed
instance with the proposed value, a failure changes nothing, and a request that
addresses Sensitive succeeds with either value. -/
structure Execution.ModifiesExactly (execution : Execution)
    (stored : StoredObject) (version : ProtocolVersion)
    (payload : ModifyAttributeRequestPayload) : Prop where
  replaced : ∀ reply, execution.outcome = .ok reply →
    ∃ proposed position changed, payload.proposed version = some proposed ∧
      payload.Addresses version proposed.attributeName
        (reportedInstances version stored proposed.attributeName) position ∧
      execution.rowsAfter = execution.rowsBefore.update stored.uniqueIdentifier
        (fun _ => changed) ∧
      ReplacesInstance version proposed.attributeName stored
        { stored with managedObject := changed } position
        proposed.attributeValue
  unchanged : ∀ exception, execution.outcome = .error exception →
    execution.rowsAfter = execution.rowsBefore
  settable : ∀ sensitive position,
    payload.proposed version = some ⟨.sensitive, .boolean sensitive⟩ →
    payload.Addresses version .sensitive
      (reportedInstances version stored .sensitive) position →
    execution.outcome.isOk = true

/-- The engine can write the value as an instance of the attribute. -/
def ManagedObject.Takes (managedObject : ManagedObject)
    (proposed : TaggedAttribute) : Prop :=
  match proposed.attributeName, proposed.attributeValue with
  | .name, .name _ => True
  | .objectGroup, .text _ => True
  | .applicationSpecificInformation, .applicationSpecificInformation _ => True
  | .sensitive, .boolean sensitive =>
      managedObject.sensitive = true → sensitive = true
  | _, _ => False

/-- The requests that the engine serves as they are meant. -/
structure ModifyAttributeRequestPayload.IsRegular
    (payload : ModifyAttributeRequestPayload) (version : ProtocolVersion)
    (stored : StoredObject) : Prop where
  /-- A current attribute that the lookup finds is an instance of the proposed
  attribute. -/
  current : ∀ proposed current position,
    payload.proposed version = some proposed →
    stored.managedObject.Takes proposed → version20 ≤ version →
    payload.currentAttribute = some current →
    getAttributeIndexFromManagedObject stored proposed.attributeName
      current.attributeValue = .ok (some position) →
    current.attributeName = proposed.attributeName ∧
      (reportedInstances version stored proposed.attributeName)[position]? =
        some current.attributeValue
  /-- A proposed name has the type that names are reported with. -/
  typed : ∀ name position,
    payload.proposed version = some ⟨.name, .name name⟩ →
    payload.Addresses version .name
      (reportedInstances version stored .name) position →
    name.nameType = .uninterpretedTextString
  /-- A request that clears Sensitive finds it cleared. -/
  cleared : ∀ position,
    payload.proposed version = some ⟨.sensitive, .boolean false⟩ →
    payload.Addresses version .sensitive
      (reportedInstances version stored .sensitive) position →
    stored.managedObject.sensitive = false

end Requests

section Assignment

variable {managedObject : ManagedObject} {attributeName : AttributeName}
  {proposed : TaggedAttribute} {index : Nat}

/-- The value as it is reported after it was written: a name loses its type. -/
def AttributeValue.kept : AttributeValue → AttributeValue
  | .name proposed => .name ⟨proposed.nameValue, .uninterpretedTextString⟩
  | value => value

/-- The attributes that the server stores, and that clients may modify. -/
def modifiableNames : List AttributeName := .sensitive :: storedNames

/-- The values of the instances of a modifiable attribute. -/
def objectInstances (attributeName : AttributeName)
    (managedObject : ManagedObject) : List AttributeValue :=
  match attributeName with
  | .sensitive => [.boolean managedObject.sensitive]
  | _ => storedInstances attributeName managedObject

/-- Writing one instance, by the setter of the attribute. -/
def writeInstance (proposed : TaggedAttribute) (index : Nat) : ObjectM Unit :=
  if proposed.attributeName = .sensitive then
    setAttributeOnManagedObject .sensitive (.single proposed.attributeValue)
  else
    setAttributeOnManagedObjectByIndex proposed.attributeName
      proposed.attributeValue index

/-- The generic part of an assignment by index, on one column. -/
def InstanceColumn.assign (column : InstanceColumn α) (index : Nat)
    (instance_ : α) : ObjectM Unit := do
  let managedObject ← get
  let instances ← fromExcept
    (assignAt (column.read managedObject) index instance_)
  set (column.write instances managedObject)

theorem InstanceColumn.Holds.assign
    {column : InstanceColumn α} (holds : column.Holds attributeName)
    (inside : index < (storedInstances attributeName managedObject).length)
    (instance_ : α) :
    ∃ changed,
      (column.assign index instance_).run managedObject = .ok () changed ∧
      LeavesInstances attributeName managedObject changed
        ((storedInstances attributeName managedObject).set index
          (column.value instance_)) := by
  rw [holds.instances, List.length_map] at inside
  refine ⟨column.write ((column.read managedObject).set index instance_)
    managedObject, ?_, ?_⟩
  · change ((fromExcept (assignAt (column.read managedObject) index instance_) :
      ObjectM (List α)) >>= fun instances =>
        set (column.write instances managedObject)).run managedObject = _
    rw [run_bind, run_fromExcept]
    unfold assignAt
    rw [if_pos inside]
    rfl
  · rw [holds.instances, ← List.map_set]
    exact holds.leaves _

theorem run_setSensitive (managedObject : ManagedObject) (sensitive : Bool) :
    (setAttributeOnManagedObject .sensitive
        (.single (.boolean sensitive))).run managedObject =
      if managedObject.sensitive = true → sensitive = true
      then .ok () { managedObject with sensitive := sensitive }
      else .error (invalidField "Cannot overwrite the Sensitive attribute.")
        managedObject := by
  rcases managedObject with ⟨_, _, _, set, _, _, _, _, _⟩
  cases set <;> cases sensitive <;> rfl

/-- A value that the object takes becomes the instance. -/
theorem run_writeInstance_of_takes
    (modifiable : proposed.attributeName ∈ modifiableNames)
    (inside : index <
      (objectInstances proposed.attributeName managedObject).length)
    (takes : managedObject.Takes proposed) :
    ∃ changed,
      (writeInstance proposed index).run managedObject = .ok () changed ∧
      objectInstances proposed.attributeName changed =
        (objectInstances proposed.attributeName managedObject).set index
          proposed.attributeValue.kept ∧
      besideAttribute proposed.attributeName changed =
        besideAttribute proposed.attributeName managedObject := by
  obtain ⟨attributeName, attributeValue⟩ := proposed
  simp only [modifiableNames, storedNames, List.mem_cons, List.not_mem_nil,
    or_false] at modifiable
  rcases modifiable with rfl | rfl | rfl | rfl
  · cases attributeValue with
    | boolean sensitive =>
        have first : index = 0 := Nat.lt_one_iff.mp inside
        have ran := run_setSensitive managedObject sensitive
        have same : managedObject.sensitive = true → sensitive = true := takes
        rw [if_pos same] at ran
        refine ⟨_, ran, ?_, rfl⟩
        rw [first]
        rfl
    | _ => exact takes.elim
  · cases attributeValue with
    | name name => exact nameColumn_holds.assign inside name.nameValue
    | _ => exact takes.elim
  · cases attributeValue with
    | text group => exact objectGroupColumn_holds.assign inside group
    | _ => exact takes.elim
  · cases attributeValue with
    | applicationSpecificInformation info =>
        exact applicationSpecificInformationColumn_holds.assign inside info
    | _ => exact takes.elim

theorem takes_of_run_writeInstance
    {changed : ManagedObject}
    (modifiable : proposed.attributeName ∈ modifiableNames)
    (ran : (writeInstance proposed index).run managedObject = .ok () changed) :
    managedObject.Takes proposed := by
  obtain ⟨attributeName, attributeValue⟩ := proposed
  simp only [modifiableNames, storedNames, List.mem_cons, List.not_mem_nil,
    or_false] at modifiable
  rcases modifiable with rfl | rfl | rfl | rfl
  · cases attributeValue with
    | boolean sensitive =>
        intro isSet
        change (setAttributeOnManagedObject .sensitive
          (.single (.boolean sensitive))).run managedObject = _ at ran
        rw [run_setSensitive] at ran
        by_contra unset
        rw [if_neg fun kept => unset (kept isSet)] at ran
        cases ran
    | _ => cases ran
  · cases attributeValue with
    | name name => exact trivial
    | _ => cases ran
  · cases attributeValue with
    | text group => exact trivial
    | _ => cases ran
  · cases attributeValue with
    | applicationSpecificInformation info => exact trivial
    | _ => cases ran

end Assignment

section Lookup

variable {version : ProtocolVersion} {stored : StoredObject}
  {attributeName : AttributeName} {value : AttributeValue} {index : Nat}

theorem reportedInstances_of_supported
    (listed : ⟨1, 0⟩ ≤ version) (modifiable : attributeName ∈ modifiableNames)
    (supported : isAttributeSupported version attributeName = true)
    (stored : StoredObject) :
    reportedInstances version stored attributeName =
      objectInstances attributeName stored.managedObject := by
  rcases List.mem_cons.mp modifiable with rfl | isStored
  · rw [reportedInstances_sensitive, if_pos supported]
    rfl
  · rw [reportedInstances_of_stored listed isStored]
    simp only [storedNames, List.mem_cons, List.not_mem_nil, or_false]
      at isStored
    rcases isStored with rfl | rfl | rfl <;> rfl

/-- If one object reports an instance, then every object reports its own. -/
theorem reportedInstances_of_lt
    (listed : ⟨1, 0⟩ ≤ version) (modifiable : attributeName ∈ modifiableNames)
    (inside : index < (reportedInstances version stored attributeName).length)
    (other : StoredObject) :
    reportedInstances version other attributeName =
      objectInstances attributeName other.managedObject := by
  apply reportedInstances_of_supported listed modifiable
  by_contra unsupported
  unfold reportedInstances at inside
  rw [getAttributesFromManagedObject_singleton] at inside
  unfold retrievedAttributes at inside
  rw [Bool.not_eq_true _ |>.mp unsupported] at inside
  exact absurd inside (Nat.not_lt_zero _)

theorem reportedInstances_recent
    (listed : ⟨1, 0⟩ ≤ version) (recent : version20 ≤ version)
    (modifiable : attributeName ∈ modifiableNames) (stored : StoredObject) :
    reportedInstances version stored attributeName =
      objectInstances attributeName stored.managedObject := by
  apply reportedInstances_of_supported listed modifiable
  simp only [modifiableNames, storedNames, List.mem_cons, List.not_mem_nil,
    or_false] at modifiable
  rcases modifiable with rfl | rfl | rfl | rfl
  · apply decide_eq_true
    rcases recent with later | ⟨same, _⟩
    · exact .inl (lt_trans (by decide) later)
    · exact .inl (lt_of_lt_of_eq (by decide) same)
  all_goals exact decide_eq_true listed

theorem findInstance_lt
    [DecidableEq α] {instances : List α} {given : Except PyError α}
    (found : findInstance instances given = .ok (some index)) :
    index < instances.length := by
  unfold findInstance at found
  split at found
  · cases found
  · cases given with
    | error exception => cases found
    | ok instance_ =>
        have first : instances.findIdx? (· = instance_) = some index :=
          Except.ok.inj found
        obtain ⟨inside, _⟩ := List.findIdx?_eq_some_iff_getElem.mp first
        exact inside

theorem findInstance_of_mem
    [DecidableEq α] {instances : List α} {instance_ : α}
    (member : instance_ ∈ instances) :
    ∃ index, findInstance instances (.ok instance_) = .ok (some index) ∧
      instances[index]? = some instance_ := by
  have first : instances.findIdx? (· = instance_) =
      some (instances.findIdx (· = instance_)) :=
    List.findIdx?_eq_some_of_exists ⟨instance_, member, decide_eq_true rfl⟩
  obtain ⟨inside, equal, _⟩ := List.findIdx?_eq_some_iff_getElem.mp first
  refine ⟨instances.findIdx (· = instance_), ?_, ?_⟩
  · unfold findInstance
    rw [if_neg (List.ne_nil_of_mem member)]
    exact congrArg Except.ok first
  · rw [List.getElem?_eq_getElem inside]
    exact congrArg some (of_decide_eq_true equal)

/-- The lookup by value stays inside the instances. -/
theorem lookup_lt
    (modifiable : attributeName ∈ modifiableNames)
    (found : getAttributeIndexFromManagedObject stored attributeName value =
      .ok (some index)) :
    index < (objectInstances attributeName stored.managedObject).length := by
  simp only [modifiableNames, storedNames, List.mem_cons, List.not_mem_nil,
    or_false] at modifiable
  rcases modifiable with rfl | rfl | rfl | rfl
  · have first : index = 0 := by
      unfold getAttributeIndexFromManagedObject at found
      cases compared : value.pyValue with
      | error exception =>
          simp only [compared] at found
          cases found
      | ok given =>
          simp only [compared] at found
          change Except.ok (if _ then some 0 else none) = _ at found
          split at found
          · exact (Option.some.inj (Except.ok.inj found)).symm
          · cases found
    rw [first]
    exact Nat.zero_lt_one
  · exact lt_of_lt_of_eq (findInstance_lt found) (List.length_map _).symm
  · exact lt_of_lt_of_eq (findInstance_lt found)
      ((List.length_map _).trans (List.length_map _).symm)
  · exact lt_of_lt_of_eq (findInstance_lt found) (List.length_map _).symm

/-- The lookup finds every instance of the object. -/
theorem lookup_of_mem
    (modifiable : attributeName ∈ modifiableNames)
    (member : value ∈ objectInstances attributeName stored.managedObject) :
    ∃ index, getAttributeIndexFromManagedObject stored attributeName value =
        .ok (some index) ∧
      (objectInstances attributeName stored.managedObject)[index]? =
        some value := by
  simp only [modifiableNames, storedNames, List.mem_cons, List.not_mem_nil,
    or_false] at modifiable
  rcases modifiable with rfl | rfl | rfl | rfl
  · obtain rfl := List.mem_singleton.mp member
    refine ⟨0, ?_, rfl⟩
    change Except.ok (if _ = _ then some 0 else none) = _
    rw [if_pos rfl]
  · obtain ⟨name, held, rfl⟩ := List.mem_map.mp member
    obtain ⟨index, found, same⟩ := findInstance_of_mem held
    refine ⟨index, found, ?_⟩
    exact (List.getElem?_map ..).trans (congrArg (Option.map _) same)
  · obtain ⟨group, held, rfl⟩ := List.mem_map.mp member
    obtain ⟨index, found, same⟩ := findInstance_of_mem
      (List.mem_map_of_mem (f := PyValue.text) held)
    rw [List.getElem?_map] at same
    obtain ⟨other, got, text⟩ := Option.map_eq_some_iff.mp same
    obtain rfl := PyValue.text.inj text
    refine ⟨index, found, ?_⟩
    exact (List.getElem?_map ..).trans (congrArg (Option.map _) got)
  · obtain ⟨info, held, rfl⟩ := List.mem_map.mp member
    obtain ⟨index, found, same⟩ := findInstance_of_mem held
    refine ⟨index, found, ?_⟩
    exact (List.getElem?_map ..).trans (congrArg (Option.map _) same)

end Lookup

section Engine

variable {version : ProtocolVersion} {stored : StoredObject}
  {payload : ModifyAttributeRequestPayload} {attributeName : AttributeName}
  {proposed : TaggedAttribute} {index : Nat} {changed : ManagedObject}

/-- The engine finds the instance at the index: a current attribute is looked
up under the name of the proposed one. -/
def ModifyAttributeRequestPayload.Finds
    (payload : ModifyAttributeRequestPayload) (version : ProtocolVersion)
    (stored : StoredObject) (attributeName : AttributeName) (index : Nat) :
    Prop :=
  match if version20 ≤ version then payload.currentAttribute else none with
  | some current => getAttributeIndexFromManagedObject stored attributeName
      current.attributeValue = .ok (some index)
  | none => payload.Addresses version attributeName
      (reportedInstances version stored attributeName) index

theorem mem_modifiableNames_of_sensitive
    (isSensitive : attributeName = .sensitive) :
    attributeName ∈ modifiableNames := by
  rw [isSensitive]
  exact .head _

theorem checkModifiable_of_mem
    (modifiable : attributeName ∈ modifiableNames) :
    checkModifiable attributeName = .ok () := by
  simp only [modifiableNames, storedNames, List.mem_cons, List.not_mem_nil,
    or_false] at modifiable
  rcases modifiable with same | same | same | same <;> rw [same] <;> rfl

theorem multivalued_of_mem
    (isStored : attributeName ∈ storedNames) :
    isAttributeMultivalued attributeName = .ok true := by
  simp only [storedNames, List.mem_cons, List.not_mem_nil, or_false] at isStored
  rcases isStored with same | same | same <;> rw [same] <;> rfl

theorem ne_sensitive_of_mem
    (isStored : attributeName ∈ storedNames) :
    attributeName ≠ .sensitive := by
  intro isSensitive
  rw [isSensitive] at isStored
  exact absurd isStored (by decide)

/-- What the body does for version 2.0, once it has found the instance. -/
theorem run_modifyByValue
    (recent : version20 ≤ version)
    (proposes : payload.newAttribute = some proposed)
    (modifiable : proposed.attributeName ∈ modifiableNames)
    (finds : payload.Finds version stored proposed.attributeName index) :
    (modifyByValue stored payload).run stored.managedObject =
      (writeInstance proposed index).run stored.managedObject := by
  unfold ModifyAttributeRequestPayload.Finds at finds
  rw [if_pos recent] at finds
  unfold modifyByValue
  rw [run_fromExcept_bind (congrArg getattr proposes),
    run_fromExcept_bind (checkModifiable_of_mem modifiable)]
  rcases List.mem_cons.mp modifiable with isSensitive | isStored
  · obtain ⟨attributeName, attributeValue⟩ := proposed
    cases isSensitive
    have single : isAttributeMultivalued .sensitive = .ok false := rfl
    rw [run_fromExcept_bind single, if_neg (by simp)]
    cases given : payload.currentAttribute with
    | none => rfl
    | some current =>
        rw [given] at finds
        simp only
        rw [run_fromExcept_bind finds, run_raiseIf_bind (by simp)]
        rfl
  · rw [run_fromExcept_bind (multivalued_of_mem isStored), if_pos rfl]
    cases given : payload.currentAttribute with
    | none =>
        rw [given] at finds
        unfold ModifyAttributeRequestPayload.Addresses at finds
        rw [if_pos recent, given, multivalued_of_mem isStored] at finds
        cases finds.1
    | some current =>
        rw [given] at finds
        simp only
        rw [run_fromExcept_bind finds]
        unfold writeInstance
        rw [if_neg (ne_sensitive_of_mem isStored)]

theorem mem_storedNames_of_lookup
    {attributeName : AttributeName} {value : AttributeValue}
    (multivalued : isAttributeMultivalued attributeName = .ok true)
    (found : getAttributeIndexFromManagedObject stored attributeName value =
      .ok (some index)) : attributeName ∈ storedNames := by
  cases attributeName
  case name => decide
  case objectGroup => decide
  case applicationSpecificInformation => decide
  all_goals cases multivalued
  all_goals cases found

/-- The body for version 2.0 only succeeds where it finds an instance. -/
theorem finds_of_run_modifyByValue
    (listed : ⟨1, 0⟩ ≤ version) (recent : version20 ≤ version)
    (ran : (modifyByValue stored payload).run stored.managedObject =
      .ok () changed) :
    ∃ proposed index, payload.newAttribute = some proposed ∧
      proposed.attributeName ∈ modifiableNames ∧
      payload.Finds version stored proposed.attributeName index := by
  unfold ModifyAttributeRequestPayload.Finds
  rw [if_pos recent]
  unfold modifyByValue at ran
  obtain ⟨proposed, between, reading, ran⟩ := bind_ok_iff.mp ran
  obtain ⟨proposes, rfl⟩ := fromExcept_ok_iff.mp reading
  obtain ⟨checked, between, checking, ran⟩ := bind_ok_iff.mp ran
  obtain ⟨passed, rfl⟩ := fromExcept_ok_iff.mp checking
  obtain ⟨multivalued, between, classifying, ran⟩ := bind_ok_iff.mp ran
  obtain ⟨cardinality, rfl⟩ := fromExcept_ok_iff.mp classifying
  refine ⟨proposed, ?_⟩
  cases multivalued with
  | true =>
      rw [if_pos rfl] at ran
      cases given : payload.currentAttribute with
      | none =>
          rw [given] at ran
          cases ran
      | some current =>
          rw [given] at ran
          obtain ⟨found, between, looking, ran⟩ := bind_ok_iff.mp ran
          obtain ⟨located, rfl⟩ := fromExcept_ok_iff.mp looking
          cases found with
          | none => cases ran
          | some index =>
              exact ⟨index, getattr_eq_ok proposes, List.mem_cons_of_mem _
                (mem_storedNames_of_lookup cardinality located), located⟩
  | false =>
      rw [if_neg (by simp)] at ran
      have modifiable := checkModifiable_eq_ok passed
      cases given : payload.currentAttribute with
      | none =>
          rw [given] at ran
          obtain ⟨existing, between, reading, ran⟩ := bind_ok_iff.mp ran
          obtain ⟨_, rfl⟩ := fromExcept_ok_iff.mp reading
          obtain ⟨_, between, guarding, ran⟩ := bind_ok_iff.mp ran
          obtain ⟨_, rfl⟩ := raiseIf_ok_iff.mp guarding
          have isSensitive := sensitive_of_set modifiable cardinality ran
          have isModifiable := mem_modifiableNames_of_sensitive isSensitive
          refine ⟨0, getattr_eq_ok proposes, isModifiable, ?_⟩
          unfold ModifyAttributeRequestPayload.Addresses
          rw [if_pos recent, given, reportedInstances_recent listed recent
            isModifiable, isSensitive]
          exact ⟨rfl, Nat.zero_lt_one⟩
      | some current =>
          rw [given] at ran
          obtain ⟨found, between, looking, ran⟩ := bind_ok_iff.mp ran
          obtain ⟨located, rfl⟩ := fromExcept_ok_iff.mp looking
          obtain ⟨_, between, guarding, ran⟩ := bind_ok_iff.mp ran
          obtain ⟨exists_, rfl⟩ := raiseIf_ok_iff.mp guarding
          have isSensitive := sensitive_of_set modifiable cardinality ran
          cases found with
          | none => exact absurd rfl exists_
          | some index =>
              exact ⟨index, getattr_eq_ok proposes,
                mem_modifiableNames_of_sensitive isSensitive, located⟩

variable {modification : Attribute}

theorem finds_iff_of_early
    (early : ¬version20 ≤ version)
    (asks : payload.attributeField = some modification) :
    payload.Finds version stored modification.attributeName index ↔
      index < (reportedInstances version stored
          modification.attributeName).length ∧
        if isAttributeMultivalued modification.attributeName = .ok true
        then modification.attributeIndex.getD 0 = (index : Int)
        else modification.attributeIndex = none := by
  unfold ModifyAttributeRequestPayload.Finds
    ModifyAttributeRequestPayload.Addresses
  rw [if_neg early]
  simp only [if_neg early, asks, Option.bind_some]

theorem instanceCount_of_mem
    (stored : StoredObject) (isStored : attributeName ∈ storedNames) :
    instanceCount stored attributeName =
      .ok (storedInstances attributeName
        stored.managedObject).length := by
  simp only [storedNames, List.mem_cons, List.not_mem_nil, or_false] at isStored
  rcases isStored with same | same | same
  all_goals
    rw [same]
    simp [instanceCount, getAttributeFromManagedObject,
      AttributeFactory.instances, storedInstances, nameColumn,
      objectGroupColumn, applicationSpecificInformationColumn, bind,
      Except.bind, pure, Except.pure]

theorem existing_of_lt
    (inside : index <
      (reportedInstances version stored attributeName).length) :
    ∃ existing, getAttributesFromManagedObject version stored
        [attributeName] = .ok existing ∧ existing ≠ [] := by
  unfold reportedInstances at inside
  cases retrieved : getAttributesFromManagedObject version stored
      [attributeName] with
  | error exception =>
      rw [retrieved] at inside
      exact absurd inside (Nat.not_lt_zero _)
  | ok existing =>
      rw [retrieved] at inside
      refine ⟨existing, rfl, ?_⟩
      rintro rfl
      exact absurd inside (Nat.not_lt_zero _)

/-- What the body does for version 1.x, once it has found the instance. -/
theorem run_modifyByIndex
    (listed : ⟨1, 0⟩ ≤ version) (early : ¬version20 ≤ version)
    (asks : payload.attributeField = some modification)
    (modifiable : modification.attributeName ∈ modifiableNames)
    (finds : payload.Finds version stored modification.attributeName index) :
    (modifyByIndex version stored modification).run stored.managedObject =
      (writeInstance
        ⟨modification.attributeName, modification.attributeValue⟩ index >>=
          fun _ => pure index).run stored.managedObject := by
  obtain ⟨inside, addressed⟩ := (finds_iff_of_early early asks).mp finds
  obtain ⟨attributeName, attributeIndex, attributeValue⟩ := modification
  have reported := reportedInstances_of_lt listed modifiable inside stored
  unfold modifyByIndex
  rw [run_fromExcept_bind (checkModifiable_of_mem modifiable)]
  rcases List.mem_cons.mp modifiable with isSensitive | isStored
  · cases isSensitive
    have single : isAttributeMultivalued .sensitive = .ok false := rfl
    obtain ⟨existing, retrieved, nonempty⟩ := existing_of_lt inside
    have first : index = 0 := by
      rw [reported] at inside
      exact Nat.lt_one_iff.mp inside
    rw [if_neg (by rw [single]; simp)] at addressed
    rw [run_fromExcept_bind single, if_neg (by simp),
      run_raiseIf_bind (by rw [addressed]; simp), run_fromExcept_bind retrieved,
      run_raiseIf_bind nonempty, first]
    rfl
  · have several := multivalued_of_mem isStored
    have counted := instanceCount_of_mem stored isStored
    rw [reportedInstances_of_stored listed isStored] at inside
    rw [if_pos several] at addressed
    rw [run_fromExcept_bind several, if_pos rfl, addressed,
      run_raiseIf_bind (by omega), run_fromExcept_bind counted,
      run_raiseIf_bind (by simpa using inside)]
    unfold writeInstance
    rw [if_neg (ne_sensitive_of_mem isStored)]
    rfl

/-- The body for version 1.x only succeeds where it finds an instance. -/
theorem finds_of_run_modifyByIndex
    (listed : ⟨1, 0⟩ ≤ version) (early : ¬version20 ≤ version)
    (asks : payload.attributeField = some modification)
    (ran : (modifyByIndex version stored modification).run
      stored.managedObject = .ok index changed) :
    modification.attributeName ∈ modifiableNames ∧
      payload.Finds version stored modification.attributeName index := by
  rw [finds_iff_of_early early asks]
  unfold modifyByIndex at ran
  obtain ⟨checked, between, checking, ran⟩ := bind_ok_iff.mp ran
  obtain ⟨passed, rfl⟩ := fromExcept_ok_iff.mp checking
  obtain ⟨multivalued, between, classifying, ran⟩ := bind_ok_iff.mp ran
  obtain ⟨cardinality, rfl⟩ := fromExcept_ok_iff.mp classifying
  cases multivalued with
  | true =>
      rw [if_pos rfl] at ran
      obtain ⟨_, between, guarding, ran⟩ := bind_ok_iff.mp ran
      obtain ⟨nonnegative, rfl⟩ := raiseIf_ok_iff.mp guarding
      obtain ⟨count, between, counting, ran⟩ := bind_ok_iff.mp ran
      obtain ⟨counted, rfl⟩ := fromExcept_ok_iff.mp counting
      obtain ⟨_, between, guarding, ran⟩ := bind_ok_iff.mp ran
      obtain ⟨inside, rfl⟩ := raiseIf_ok_iff.mp guarding
      obtain ⟨_, between, setting, returned⟩ := bind_ok_iff.mp ran
      cases returned
      obtain ⟨value, read, _⟩ := instanceCount_eq_ok counted
      have isStored : modification.attributeName ∈ storedNames := by
        rcases multivalued_cases cardinality read with same | same | same
        all_goals
          rw [same]
          decide
      rw [instanceCount_of_mem stored isStored] at counted
      cases counted
      refine ⟨List.mem_cons_of_mem _ isStored, ?_, ?_⟩
      · rw [reportedInstances_of_stored listed isStored]
        omega
      · rw [if_pos cardinality]
        omega
  | false =>
      rw [if_neg (by simp)] at ran
      obtain ⟨_, between, guarding, ran⟩ := bind_ok_iff.mp ran
      obtain ⟨unindexed, rfl⟩ := raiseIf_ok_iff.mp guarding
      obtain ⟨existing, between, reading, ran⟩ := bind_ok_iff.mp ran
      obtain ⟨retrieved, rfl⟩ := fromExcept_ok_iff.mp reading
      obtain ⟨_, between, guarding, ran⟩ := bind_ok_iff.mp ran
      obtain ⟨nonempty, rfl⟩ := raiseIf_ok_iff.mp guarding
      obtain ⟨_, between, setting, returned⟩ := bind_ok_iff.mp ran
      cases returned
      have isSensitive := sensitive_of_set (checkModifiable_eq_ok passed)
        cardinality setting
      refine ⟨mem_modifiableNames_of_sensitive isSensitive, ?_, ?_⟩
      · unfold reportedInstances
        rw [retrieved]
        exact lt_of_lt_of_eq (List.length_pos_iff.mpr nonempty)
          (List.length_map _).symm
      · rw [if_neg (by rw [cardinality]; simp)]
        simpa using unindexed

end Engine

section Requests

variable {execution : Execution} {stored : StoredObject}
  {version : ProtocolVersion} {payload : ModifyAttributeRequestPayload}
  {proposed : TaggedAttribute} {index : Nat}

/-- A request for which the engine finds an instance writes the proposed value
there, if the object takes it. -/
theorem Execution.Reaches.modifies
    (reaches : execution.Reaches stored version) (clean : execution.before.Clean)
    (asks : execution.payload = .modifyAttribute payload)
    (proposes : payload.proposed version = some proposed)
    (modifiable : proposed.attributeName ∈ modifiableNames)
    (finds : payload.Finds version stored proposed.attributeName index)
    {changed : ManagedObject}
    (writes : (writeInstance proposed index).run stored.managedObject =
      .ok () changed) :
    (∃ reply, execution.outcome = .ok reply) ∧
      execution.rowsAfter = execution.rowsBefore.update stored.uniqueIdentifier
        fun _ => changed := by
  obtain ⟨world, item, before⟩ := execution
  obtain ⟨uniqueBatchItemId, requestPayload⟩ := item
  cases asks
  obtain rfl : before.context.protocolVersion = version := reaches.sameVersion
  unfold ModifyAttributeRequestPayload.proposed at proposes
  by_cases recent : version20 ≤ before.context.protocolVersion
  · rw [if_pos recent] at proposes
    have ran := run_modifyByValue recent proposes modifiable finds
    obtain ⟨succeeds, rows⟩ := reaches.outcome_of_changing reaches.listed clean
      rfl (if_pos recent) (ran.trans writes) rfl
    exact ⟨⟨_, succeeds⟩, rows⟩
  · rw [if_neg recent] at proposes
    obtain ⟨modification, given, rfl⟩ := Option.map_eq_some_iff.mp proposes
    have modifies : (modifyByIndex before.context.protocolVersion stored
        modification).run stored.managedObject = .ok index changed := by
      rw [run_modifyByIndex reaches.listed recent given modifiable finds,
        run_bind, writes]
      rfl
    obtain ⟨modified, readBack⟩ :=
      modifyByIndex_readsBack reaches.listed modifies
    have ran : (modifyByIndex before.context.protocolVersion stored
        modification >>= fun index => get >>= fun changed =>
          pure (index, changed)).run stored.managedObject =
        .ok (index, changed) changed := by
      rw [run_bind, modifies]
      rfl
    obtain ⟨succeeds, rows⟩ := reaches.outcome_of_changing reaches.listed clean
      rfl ((if_neg recent).trans
        (except_bind_of_ok (congrArg getattr given))) ran
      (except_bind_of_ok readBack)
    exact ⟨⟨_, succeeds⟩, rows⟩

/-- Every other request fails and leaves the rows as they were. -/
theorem Execution.Reaches.refuses
    (reaches : execution.Reaches stored version)
    (asks : execution.payload = .modifyAttribute payload)
    (fails : ∀ proposed index changed,
      payload.proposed version = some proposed →
      proposed.attributeName ∈ modifiableNames →
      payload.Finds version stored proposed.attributeName index →
      (writeInstance proposed index).run stored.managedObject ≠
        .ok () changed) :
    (∃ exception, execution.outcome = .error exception) ∧
      execution.rowsAfter = execution.rowsBefore := by
  obtain ⟨world, item, before⟩ := execution
  obtain ⟨uniqueBatchItemId, requestPayload⟩ := item
  cases asks
  obtain rfl : before.context.protocolVersion = version := reaches.sameVersion
  unfold ModifyAttributeRequestPayload.proposed at fails
  by_cases recent : version20 ≤ before.context.protocolVersion
  · rw [if_pos recent] at fails
    cases ran : (modifyByValue stored payload).run stored.managedObject with
    | ok _ changed =>
        exfalso
        obtain ⟨proposed, index, proposes, modifiable, finds⟩ :=
          finds_of_run_modifyByValue reaches.listed recent ran
        rw [run_modifyByValue recent proposes modifiable finds] at ran
        exact fails proposed index changed proposes modifiable finds ran
    | error exception changed =>
        obtain ⟨raises, rows⟩ := reaches.outcome_of_changing_error
          reaches.listed rfl (if_pos recent) ran
        exact ⟨⟨exception, raises⟩, rows⟩
  · rw [if_neg recent] at fails
    cases given : payload.attributeField with
    | none =>
        obtain ⟨raises, rows⟩ := reaches.outcome_of_refusal reaches.listed rfl
          ((if_neg recent).trans
            (except_bind_of_error _ (congrArg getattr given)))
        exact ⟨⟨_, raises⟩, rows⟩
    | some modification =>
        rw [given] at fails
        cases modifies : (modifyByIndex before.context.protocolVersion stored
            modification).run stored.managedObject with
        | ok index changed =>
            exfalso
            obtain ⟨modifiable, finds⟩ := finds_of_run_modifyByIndex
              reaches.listed recent given modifies
            rw [run_modifyByIndex reaches.listed recent given modifiable finds]
              at modifies
            obtain ⟨_, between, writes, returned⟩ := bind_ok_iff.mp modifies
            cases returned
            exact fails _ index changed rfl modifiable finds writes
        | error exception changed =>
            have ran : (modifyByIndex before.context.protocolVersion stored
                modification >>= fun index => get >>= fun changed =>
                  pure (index, changed)).run stored.managedObject =
                .error exception changed := by
              rw [run_bind, modifies]
            obtain ⟨raises, rows⟩ := reaches.outcome_of_changing_error
              reaches.listed rfl ((if_neg recent).trans
                (except_bind_of_ok (congrArg getattr given))) ran
            exact ⟨⟨exception, raises⟩, rows⟩

end Requests

section Claims

variable {execution : Execution} {stored : StoredObject}
  {version : ProtocolVersion} {payload : ModifyAttributeRequestPayload}
  {attributeName : AttributeName} {proposed : TaggedAttribute}
  {position index : Nat}

theorem mem_modifiableNames_of_takes
    {managedObject : ManagedObject} (takes : managedObject.Takes proposed) :
    proposed.attributeName ∈ modifiableNames := by
  obtain ⟨attributeName, attributeValue⟩ := proposed
  cases attributeName
  case name => simp [modifiableNames, storedNames]
  case objectGroup => simp [modifiableNames, storedNames]
  case applicationSpecificInformation => simp [modifiableNames, storedNames]
  case sensitive => simp [modifiableNames]
  all_goals exact takes.elim

theorem finds_iff_of_current
    (recent : version20 ≤ version) {current : TaggedAttribute}
    (given : payload.currentAttribute = some current) :
    payload.Finds version stored attributeName index ↔
      getAttributeIndexFromManagedObject stored attributeName
        current.attributeValue = .ok (some index) := by
  unfold ModifyAttributeRequestPayload.Finds
  rw [if_pos recent, given]

/-- Without a current attribute the engine finds what the request addresses. -/
theorem finds_iff_of_no_current
    (without : ¬(version20 ≤ version ∧ payload.currentAttribute.isSome)) :
    payload.Finds version stored attributeName index ↔
      payload.Addresses version attributeName
        (reportedInstances version stored attributeName) index := by
  unfold ModifyAttributeRequestPayload.Finds
  by_cases recent : version20 ≤ version
  · cases given : payload.currentAttribute with
    | none => rw [if_pos recent]
    | some current => exact absurd ⟨recent, by rw [given]; rfl⟩ without
  · rw [if_neg recent]

theorem addresses_iff_of_current
    (recent : version20 ≤ version) {current : TaggedAttribute}
    (given : payload.currentAttribute = some current) :
    payload.Addresses version attributeName
        (reportedInstances version stored attributeName) position ↔
      current.attributeName = attributeName ∧
        (reportedInstances version stored attributeName)[position]? =
          some current.attributeValue := by
  unfold ModifyAttributeRequestPayload.Addresses
  rw [if_pos recent, given]

/-- The lookup finds an instance that a request addresses. -/
theorem exists_finds_of_addresses
    (listed : ⟨1, 0⟩ ≤ version) (modifiable : attributeName ∈ modifiableNames)
    (addresses : payload.Addresses version attributeName
      (reportedInstances version stored attributeName) position) :
    ∃ index, payload.Finds version stored attributeName index ∧
      payload.Addresses version attributeName
        (reportedInstances version stored attributeName) index := by
  by_cases isCurrent : version20 ≤ version ∧ payload.currentAttribute.isSome
  · obtain ⟨recent, isSome⟩ := isCurrent
    obtain ⟨current, given⟩ := Option.isSome_iff_exists.mp isSome
    simp only [addresses_iff_of_current recent given,
      finds_iff_of_current recent given] at addresses ⊢
    rw [reportedInstances_recent listed recent modifiable] at addresses ⊢
    obtain ⟨sameName, held⟩ := addresses
    obtain ⟨index, found, same⟩ :=
      lookup_of_mem modifiable (List.mem_of_getElem? held)
    exact ⟨index, found, sameName, same⟩
  · exact ⟨position, (finds_iff_of_no_current isCurrent).mpr addresses, addresses⟩

theorem lt_of_addresses
    {instances : List AttributeValue}
    (addresses : payload.Addresses version attributeName instances position) :
    position < instances.length := by
  unfold ModifyAttributeRequestPayload.Addresses at addresses
  by_cases recent : version20 ≤ version
  · rw [if_pos recent] at addresses
    cases given : payload.currentAttribute with
    | none =>
        rw [given] at addresses
        exact addresses.2
    | some current =>
        rw [given] at addresses
        exact (List.getElem?_eq_some_iff.mp addresses.2).1
  · rw [if_neg recent] at addresses
    exact addresses.1

theorem lt_of_finds
    (listed : ⟨1, 0⟩ ≤ version) (modifiable : attributeName ∈ modifiableNames)
    (finds : payload.Finds version stored attributeName index) :
    index < (reportedInstances version stored attributeName).length := by
  by_cases isCurrent : version20 ≤ version ∧ payload.currentAttribute.isSome
  · obtain ⟨recent, isSome⟩ := isCurrent
    obtain ⟨current, given⟩ := Option.isSome_iff_exists.mp isSome
    rw [reportedInstances_recent listed recent modifiable]
    exact lookup_lt modifiable ((finds_iff_of_current recent given).mp finds)
  · exact lt_of_addresses ((finds_iff_of_no_current isCurrent).mp finds)

/-- A value that the object takes is written where the engine finds an
instance. -/
theorem written_of_finds
    (listed : ⟨1, 0⟩ ≤ version)
    (takes : stored.managedObject.Takes proposed)
    (finds : payload.Finds version stored proposed.attributeName index) :
    ∃ changed,
      (writeInstance proposed index).run stored.managedObject =
        .ok () changed ∧
      ReplacesInstance version proposed.attributeName stored
        { stored with managedObject := changed } index
        proposed.attributeValue.kept := by
  have modifiable := mem_modifiableNames_of_takes takes
  have inside := lt_of_finds listed modifiable finds
  have reported := reportedInstances_of_lt listed modifiable inside
  rw [reported] at inside
  obtain ⟨changed, ran, instances, beside⟩ :=
    run_writeInstance_of_takes modifiable inside takes
  refine ⟨changed, ran, ?_, beside⟩
  rw [reported, reported]
  exact instances

namespace ModifyAttributeRequestPayload.IsRegular

variable (regular : payload.IsRegular version stored)
  (proposes : payload.proposed version = some proposed)

include regular proposes

/-- What the engine finds for a regular request is what the request addresses. -/
theorem addresses
    (takes : stored.managedObject.Takes proposed)
    (finds : payload.Finds version stored proposed.attributeName index) :
    payload.Addresses version proposed.attributeName
      (reportedInstances version stored proposed.attributeName) index := by
  by_cases isCurrent : version20 ≤ version ∧ payload.currentAttribute.isSome
  · obtain ⟨recent, isSome⟩ := isCurrent
    obtain ⟨current, given⟩ := Option.isSome_iff_exists.mp isSome
    rw [addresses_iff_of_current recent given]
    rw [finds_iff_of_current recent given] at finds
    exact regular.current proposed current index proposes takes recent given
      finds
  · exact (finds_iff_of_no_current isCurrent).mp finds

/-- The value that a regular request proposes is kept as it is. -/
theorem kept
    (takes : stored.managedObject.Takes proposed)
    (addresses : payload.Addresses version proposed.attributeName
      (reportedInstances version stored proposed.attributeName) index) :
    proposed.attributeValue.kept = proposed.attributeValue := by
  obtain ⟨attributeName, attributeValue⟩ := proposed
  cases attributeValue with
  | name name =>
      cases attributeName
      case name =>
        have typed := regular.typed name index proposes addresses
        obtain ⟨nameValue, nameType⟩ := name
        cases typed
        rfl
      all_goals exact takes.elim
  | _ => rfl

end ModifyAttributeRequestPayload.IsRegular

/-- ModifyAttribute replaces exactly the instance that the request addresses, or
fails without a trace, and sets Sensitive to either value; exactly for the
regular requests. -/
theorem modify_attribute_is_exact_iff
    (reaches : execution.Reaches stored version) (clean : execution.before.Clean)
    (asks : execution.payload = .modifyAttribute payload) :
    execution.ModifiesExactly stored version payload ↔
      payload.IsRegular version stored := by
  have listed := reaches.listed
  have succeeds : ∀ proposed index, payload.proposed version = some proposed →
      stored.managedObject.Takes proposed →
      payload.Finds version stored proposed.attributeName index →
      ∃ reply, execution.outcome = .ok reply := by
    intro proposed index proposes takes finds
    obtain ⟨changed, writes, _⟩ := written_of_finds listed takes finds
    exact (reaches.modifies clean asks proposes
      (mem_modifiableNames_of_takes takes) finds writes).1
  constructor
  · intro exact
    constructor
    · intro proposed current position proposes takes recent given found
      have finds := (finds_iff_of_current recent given).mpr found
      obtain ⟨reply, succeeded⟩ :=
        succeeds proposed position proposes takes finds
      obtain ⟨same, addressed, _, isProposed, addresses, _⟩ :=
        exact.replaced reply succeeded
      rw [proposes] at isProposed
      cases isProposed
      obtain ⟨index, findsIndex, addressesIndex⟩ := exists_finds_of_addresses
        listed (mem_modifiableNames_of_takes takes) addresses
      rw [finds_iff_of_current recent given, found] at findsIndex
      cases findsIndex
      exact (addresses_iff_of_current recent given).mp addressesIndex
    · intro name position proposes addresses
      obtain ⟨index, finds, _⟩ :=
        exists_finds_of_addresses listed (by decide) addresses
      obtain ⟨reply, succeeded⟩ :=
        succeeds ⟨.name, .name name⟩ index proposes trivial finds
      obtain ⟨same, replaced, changed, isProposed, addressed, _, replaces⟩ :=
        exact.replaced reply succeeded
      rw [proposes] at isProposed
      cases isProposed
      have inside := lt_of_addresses addressed
      have reported : AttributeValue.name name ∈
          reportedInstances version { stored with managedObject := changed }
            .name := by
        rw [replaces.instances]
        exact List.mem_set inside _
      rw [reportedInstances_of_stored listed (.head _)] at reported
      obtain ⟨held, _, isHeld⟩ := List.mem_map.mp reported
      cases isHeld
      rfl
    · intro position proposes addresses
      by_contra isSet
      have succeeded := exact.settable false position proposes addresses
      obtain ⟨⟨exception, raises⟩, _⟩ := reaches.refuses asks fun other index
          changed isOther modifiable finds writes => by
        rw [proposes] at isOther
        cases isOther
        have takes := takes_of_run_writeInstance modifiable writes
        exact absurd (takes (Bool.not_eq_false _ |>.mp isSet)) (by simp)
      rw [raises] at succeeded
      cases succeeded
  · intro regular
    by_cases writes : ∃ proposed index changed,
        payload.proposed version = some proposed ∧
        proposed.attributeName ∈ modifiableNames ∧
        payload.Finds version stored proposed.attributeName index ∧
        (writeInstance proposed index).run stored.managedObject =
          .ok () changed
    · obtain ⟨proposed, index, changed, proposes, modifiable, finds, ran⟩ :=
        writes
      obtain ⟨⟨reply, succeeded⟩, rows⟩ :=
        reaches.modifies clean asks proposes modifiable finds ran
      have takes := takes_of_run_writeInstance modifiable ran
      have addresses := regular.addresses proposes takes finds
      constructor
      · intro _ _
        refine ⟨proposed, index, changed, proposes, addresses, rows, ?_⟩
        obtain ⟨written, ranAgain, replaces⟩ :=
          written_of_finds listed takes finds
        rw [ran] at ranAgain
        cases ranAgain
        rwa [regular.kept proposes takes addresses] at replaces
      · intro exception raises
        rw [succeeded] at raises
        cases raises
      · intro _ _ _ _
        rw [succeeded]
        rfl
    · obtain ⟨⟨exception, raises⟩, rows⟩ := reaches.refuses asks
        fun proposed index changed proposes modifiable finds ran =>
          writes ⟨proposed, index, changed, proposes, modifiable, finds, ran⟩
      constructor
      · intro reply succeeded
        rw [raises] at succeeded
        cases succeeded
      · intro _ _
        exact rows
      · intro sensitive position proposes addresses
        exfalso
        obtain ⟨index, finds, _⟩ :=
          exists_finds_of_addresses listed (.head _) addresses
        have takes : stored.managedObject.Takes
            ⟨.sensitive, .boolean sensitive⟩ := by
          intro isSet
          by_contra unset
          rw [Bool.not_eq_true _ |>.mp unset] at proposes
          rw [regular.cleared position proposes addresses] at isSet
          cases isSet
        obtain ⟨changed, ran, _⟩ := written_of_finds listed takes finds
        exact writes
          ⟨_, index, changed, proposes, List.mem_cons_self, finds, ran⟩

end Claims

section Samples

/-- The modification of the second name of a key that has two. -/
def renames : ModifyAttributeRequestPayload where
  uniqueIdentifier := some "1"
  attributeField := some {
    attributeName := .name
    attributeIndex := some 1
    attributeValue := .name ⟨"third", .uninterpretedTextString⟩ }

def sampleModification (creates : RequestPayload) (version : ProtocolVersion)
    (modifies : ModifyAttributeRequestPayload) : Execution where
  world := sampleWorld
  item := { requestPayload := .modifyAttribute modifies }
  before := ({ sampleExchange sampleWorld "alice" [] with
    request := {
      requestHeader := { protocolVersion := version }
      batchItems := [{ requestPayload := creates }] } }).after
        (newEngine .empty [])

theorem modify_attribute_is_exact_second :
    ∃ stored, (sampleModification twoNames ⟨1, 2⟩ renames).ModifiesExactly
      stored ⟨1, 2⟩ renames := by
  have found : ((sampleModification twoNames ⟨1, 2⟩ renames).finds
      (sampleModification twoNames ⟨1, 2⟩ renames).target).isSome := by
    decide +kernel
  obtain ⟨stored, isStored⟩ := Option.isSome_iff_exists.mp found
  have reaches : ∀ stored ∈ (sampleModification twoNames ⟨1, 2⟩ renames).finds
      (sampleModification twoNames ⟨1, 2⟩ renames).target,
      (sampleModification twoNames ⟨1, 2⟩ renames).Reaches stored ⟨1, 2⟩ := by
    decide +kernel
  have clean : (sampleModification twoNames ⟨1, 2⟩ renames).before.Clean := by
    unfold EngineState.Clean
    decide +kernel
  refine ⟨stored, (modify_attribute_is_exact_iff (reaches stored isStored) clean
    rfl).mpr ⟨?_, ?_, ?_⟩⟩
  · intro _ _ _ _ _ recent
    exact absurd recent (by decide)
  · intro name _ proposes
    cases proposes
    intro _
    rfl
  · intro _ proposes
    cases proposes

/-- A request for a new key that is sensitive. -/
def sensitiveCreation : RequestPayload :=
  .create {
    objectType := .symmetricKey
    templateAttribute := some {
      attributes := [
        { attributeName := .cryptographicAlgorithm
          attributeValue := .cryptographicAlgorithm .aes },
        { attributeName := .cryptographicLength
          attributeValue := .integer 128 },
        { attributeName := .cryptographicUsageMask
          attributeValue := .integer 12 },
        { attributeName := .sensitive
          attributeValue := .boolean true }] } }

/-- The modification that clears Sensitive. -/
def clears : ModifyAttributeRequestPayload where
  uniqueIdentifier := some "1"
  attributeField := some {
    attributeName := .sensitive
    attributeValue := .boolean false }

/-- Sensitive is refused the value false. -/
theorem modify_attribute_is_not_exact :
    ¬∀ (execution : Execution) (stored : StoredObject)
      (version : ProtocolVersion) (payload : ModifyAttributeRequestPayload),
      execution.Reaches stored version → execution.before.Clean →
      execution.payload = .modifyAttribute payload →
      execution.ModifiesExactly stored version payload := by
  intro exact
  have found : ((sampleModification sensitiveCreation ⟨1, 4⟩ clears).finds
      (sampleModification sensitiveCreation ⟨1, 4⟩ clears).target).isSome := by
    decide +kernel
  obtain ⟨stored, isStored⟩ := Option.isSome_iff_exists.mp found
  have facts : ∀ stored ∈
      (sampleModification sensitiveCreation ⟨1, 4⟩ clears).finds
        (sampleModification sensitiveCreation ⟨1, 4⟩ clears).target,
      (sampleModification sensitiveCreation ⟨1, 4⟩ clears).Reaches stored
          ⟨1, 4⟩ ∧
        reportedInstances ⟨1, 4⟩ stored .sensitive = [.boolean true] := by
    decide +kernel
  obtain ⟨reaches, reported⟩ := facts stored isStored
  have clean :
      (sampleModification sensitiveCreation ⟨1, 4⟩ clears).before.Clean := by
    unfold EngineState.Clean
    decide +kernel
  have succeeded := (exact _ stored ⟨1, 4⟩ clears reaches clean rfl).settable
    false 0 rfl (by
      unfold ModifyAttributeRequestPayload.Addresses
      rw [reported, if_neg (by decide)]
      exact ⟨Nat.zero_lt_one, by decide⟩)
  have fails :
      (sampleModification sensitiveCreation ⟨1, 4⟩ clears).outcome.isOk =
        false := by
    decide +kernel
  rw [fails] at succeeded
  cases succeeded

end Samples

end PyKMIP
