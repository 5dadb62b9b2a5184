import Mathlib.Data.List.InsertIdx
import PyKMIP.Properties.AttributeListing
import PyKMIP.Properties.DistinctNames

/-!
# Deleting instances of attributes

The engine stores the instances of three attributes in columns of an object.
DeleteAttribute addresses them by index before protocol version 2.0 and by value
or altogether from then on.  A negative index counts from the end, and a name
cannot be addressed by value.
-/

namespace PyKMIP

open EStateM StatefulExcept
open AttributePolicy

section Columns

/-- The column that holds the instances of a multivalued attribute. -/
structure InstanceColumn (α : Type) where
  attributeName : AttributeName
  read : ManagedObject → List α
  write : List α → ManagedObject → ManagedObject
  value : α → AttributeValue
  injective : Function.Injective value
  read_write : ∀ instances managedObject,
    read (write instances managedObject) = instances
  write_write : ∀ instances overwritten managedObject,
    write instances (write overwritten managedObject) =
      write instances managedObject
  write_read : ∀ managedObject,
    write (read managedObject) managedObject = managedObject

def nameColumn : InstanceColumn String where
  attributeName := .name
  read := ManagedObject.names
  write := fun names managedObject => { managedObject with names := names }
  value := fun name => .name ⟨name, .uninterpretedTextString⟩
  injective := fun first second same => by cases same; rfl
  read_write := fun _ _ => rfl
  write_write := fun _ _ _ => rfl
  write_read := fun _ => rfl

def objectGroupColumn : InstanceColumn String where
  attributeName := .objectGroup
  read := ManagedObject.objectGroups
  write := fun groups managedObject =>
    { managedObject with objectGroups := groups }
  value := .text
  injective := fun first second same => by cases same; rfl
  read_write := fun _ _ => rfl
  write_write := fun _ _ _ => rfl
  write_read := fun _ => rfl

def applicationSpecificInformationColumn :
    InstanceColumn ApplicationSpecificInformation where
  attributeName := .applicationSpecificInformation
  read := ManagedObject.appSpecificInfo
  write := fun infos managedObject =>
    { managedObject with appSpecificInfo := infos }
  value := .applicationSpecificInformation
  injective := fun first second same => by cases same; rfl
  read_write := fun _ _ => rfl
  write_write := fun _ _ _ => rfl
  write_read := fun _ => rfl

/-- The multivalued attributes that the server stores, and that clients may
delete. -/
def storedNames : List AttributeName :=
  [.name, .objectGroup, .applicationSpecificInformation]

/-- The values of the instances of an attribute. -/
def storedInstances (attributeName : AttributeName)
    (managedObject : ManagedObject) : List AttributeValue :=
  match attributeName with
  | .name => (nameColumn.read managedObject).map nameColumn.value
  | .objectGroup =>
      (objectGroupColumn.read managedObject).map objectGroupColumn.value
  | .applicationSpecificInformation =>
      (applicationSpecificInformationColumn.read managedObject).map
        applicationSpecificInformationColumn.value
  | _ => []

/-- What is left of an object beside the instances of the attribute. -/
def besideInstances (attributeName : AttributeName)
    (managedObject : ManagedObject) : ManagedObject :=
  match attributeName with
  | .name => nameColumn.write [] managedObject
  | .objectGroup => objectGroupColumn.write [] managedObject
  | .applicationSpecificInformation =>
      applicationSpecificInformationColumn.write [] managedObject
  | _ => managedObject

variable {version : ProtocolVersion} {storedObject : StoredObject}
  {attributeName : AttributeName}

/-- The instances, numbered from zero. -/
def numbered (attributeName : AttributeName) (instances : List AttributeValue) :
    List Attribute :=
  instances.zipIdx.map fun (value, index) =>
    { attributeName := attributeName
      attributeIndex := some index
      attributeValue := value }

/-- GetAttributes reports the stored instances. -/
theorem getAttributes_storedInstances
    (listed : ⟨1, 0⟩ ≤ version) (stored : attributeName ∈ storedNames) :
    getAttributesFromManagedObject version storedObject [attributeName] =
      .ok (numbered attributeName
        (storedInstances attributeName storedObject.managedObject)) := by
  have applicable := congrArg (Except.ok (ε := PyError))
    storedObject.managedObject.objectType_mem_everyObject
  have multivalued : isAttributeMultivalued attributeName = .ok true := by
    revert stored
    cases attributeName <;> simp [storedNames] <;> rfl
  have supported := supported_of_multivalued listed multivalued
  rw [getAttributesFromManagedObject_singleton]
  simp only [storedNames, List.mem_cons, List.not_mem_nil, or_false] at stored
  rcases stored with rfl | rfl | rfl
  · rw [retrievedAttributes_eq_ok supported rfl applicable multivalued rfl]
    simp [AttributeFactory.createAttributes, AttributeFactory.instances,
      numbered, storedInstances, nameColumn, List.map_map]
    rfl
  · rw [retrievedAttributes_eq_ok supported rfl applicable multivalued rfl]
    rfl
  · rw [retrievedAttributes_eq_ok supported rfl applicable multivalued rfl]
    rfl

end Columns

section Deletion

/-- The object is left with the instances, and otherwise as it was. -/
def LeavesInstances (attributeName : AttributeName)
    (before after : ManagedObject) (remaining : List AttributeValue) : Prop :=
  storedInstances attributeName after = remaining ∧
    besideInstances attributeName after = besideInstances attributeName before

/-- The generic part of a deletion, on one column. -/
def InstanceColumn.delete [DecidableEq α] (column : InstanceColumn α)
    (value : Option α) (shown : α → String) (attributeIndex : Option Int) :
    ObjectM Unit := do
  let managedObject ← get
  let instances ← fromExcept
    (deleteInstances (column.read managedObject) value shown attributeIndex)
  set (column.write instances managedObject)

variable {managedObject : ManagedObject} {attributeName : AttributeName}

theorem InstanceColumn.run_delete
    [DecidableEq α] (column : InstanceColumn α) (value : Option α)
    (shown : α → String) (attributeIndex : Option Int) :
    (column.delete value shown attributeIndex).run managedObject =
      match deleteInstances (column.read managedObject) value shown
          attributeIndex with
      | .ok instances => .ok () (column.write instances managedObject)
      | .error exception => .error exception managedObject := by
  change ((fromExcept (deleteInstances (column.read managedObject) value shown
    attributeIndex) : ObjectM (List α)) >>= fun instances =>
      set (column.write instances managedObject)).run managedObject = _
  rw [run_bind, run_fromExcept]
  cases deleteInstances (column.read managedObject) value shown
    attributeIndex <;> rfl

/-- The checks before the deletion let the stored attributes pass. -/
theorem run_deleteAttribute
    (stored : attributeName ∈ storedNames) (attributeIndex : Option Int)
    (attributeValue : Option AttributeValue) :
    (deleteAttributeFromManagedObject attributeName attributeIndex
        attributeValue).run managedObject =
      (deleteMultivaluedAttribute attributeName attributeIndex
        attributeValue).run managedObject := by
  have applies := congrArg (Except.ok (ε := PyError))
    managedObject.objectType_mem_everyObject
  have rules : isAttributeApplicableToObjectType attributeName
        managedObject.objectType = .ok true ∧
      isAttributeDeletableByClient attributeName = .ok true ∧
      isAttributeMultivalued attributeName = .ok true := by
    simp only [storedNames, List.mem_cons, List.not_mem_nil, or_false] at stored
    rcases stored with rfl | rfl | rfl
    all_goals exact ⟨applies, rfl, rfl⟩
  obtain ⟨applicable, deletable, multivalued⟩ := rules
  unfold deleteAttributeFromManagedObject
  rw [run_get_bind, run_fromExcept_bind applicable, run_raiseIf_bind (by decide),
    run_fromExcept_bind deletable, run_raiseIf_bind (by decide),
    run_fromExcept_bind multivalued, if_pos rfl]

theorem run_deleteName (attributeIndex : Option Int) :
    (deleteMultivaluedAttribute .name attributeIndex none).run managedObject =
      (nameColumn.delete none id attributeIndex).run managedObject := rfl

theorem run_deleteName_of_value
    (attributeIndex : Option Int) (attributeValue : AttributeValue) :
    (deleteMultivaluedAttribute .name attributeIndex (some attributeValue)).run
        managedObject =
      .error (.python .attributeError) managedObject := rfl

theorem run_deleteGroup
    (attributeIndex : Option Int) (attributeValue : Option AttributeValue) :
    (deleteMultivaluedAttribute .objectGroup attributeIndex attributeValue).run
        managedObject =
      match attributeValue.mapM AttributeValue.asText with
      | .ok value =>
          (objectGroupColumn.delete value showGroup attributeIndex).run
            managedObject
      | .error exception => .error exception managedObject := by
  change ((fromExcept (attributeValue.mapM AttributeValue.asText) :
    ObjectM (Option String)) >>= fun value => do
      let groups ← fromExcept (deleteInstances managedObject.objectGroups value
        showGroup attributeIndex)
      set { managedObject with objectGroups := groups }).run managedObject = _
  rw [run_bind, run_fromExcept]
  cases attributeValue.mapM AttributeValue.asText <;> rfl

theorem run_deleteInfo
    (attributeIndex : Option Int) (attributeValue : Option AttributeValue) :
    (deleteMultivaluedAttribute .applicationSpecificInformation attributeIndex
        attributeValue).run managedObject =
      match attributeValue.mapM AttributeValue.asApplicationSpecificInformation
        with
      | .ok value => (applicationSpecificInformationColumn.delete value showInfo
          attributeIndex).run managedObject
      | .error exception => .error exception managedObject := by
  change ((fromExcept
    (attributeValue.mapM AttributeValue.asApplicationSpecificInformation) :
    ObjectM (Option ApplicationSpecificInformation)) >>= fun value => do
      let infos ← fromExcept (deleteInstances managedObject.appSpecificInfo value
        showInfo attributeIndex)
      set { managedObject with appSpecificInfo := infos }).run managedObject = _
  rw [run_bind, run_fromExcept]
  cases attributeValue.mapM AttributeValue.asApplicationSpecificInformation <;>
    rfl

/-- The column holds the instances of the attribute. -/
structure InstanceColumn.Holds (column : InstanceColumn α)
    (attributeName : AttributeName) : Prop where
  instances : ∀ managedObject, storedInstances attributeName managedObject =
    (column.read managedObject).map column.value
  beside : ∀ managedObject, besideInstances attributeName managedObject =
    column.write [] managedObject

theorem nameColumn_holds : nameColumn.Holds .name :=
  ⟨fun _ => rfl, fun _ => rfl⟩

theorem objectGroupColumn_holds : objectGroupColumn.Holds .objectGroup :=
  ⟨fun _ => rfl, fun _ => rfl⟩

theorem applicationSpecificInformationColumn_holds :
    applicationSpecificInformationColumn.Holds
      .applicationSpecificInformation :=
  ⟨fun _ => rfl, fun _ => rfl⟩

theorem InstanceColumn.Holds.leaves
    {column : InstanceColumn α} (holds : column.Holds attributeName)
    (instances : List α) :
    LeavesInstances attributeName managedObject
      (column.write instances managedObject) (instances.map column.value) := by
  constructor
  · rw [holds.instances, column.read_write]
  · rw [holds.beside, holds.beside, column.write_write]

variable [DecidableEq α] {column : InstanceColumn α} {shown : α → String}

/-- How a deletion ends: with fewer instances, or with the object as it was. -/
def EndsWith (attributeName : AttributeName) (managedObject : ManagedObject)
    (result : Result PyError ManagedObject Unit)
    (remaining : Option (List AttributeValue)) : Prop :=
  match remaining with
  | some instances => ∃ changed, result = .ok () changed ∧
      LeavesInstances attributeName managedObject changed instances
  | none => ∃ exception, result = .error exception managedObject

theorem InstanceColumn.Holds.delete_at
    (holds : column.Holds attributeName) (index : Int) :
    EndsWith attributeName managedObject
      ((column.delete none shown (some index)).run managedObject)
      ((pythonIndex? (storedInstances attributeName managedObject).length
        index).map
          (storedInstances attributeName managedObject).eraseIdx) := by
  rw [holds.instances, List.length_map, column.run_delete]
  unfold deleteInstances
  cases normal : pythonIndex? (column.read managedObject).length index with
  | some position =>
      have inside : index < (column.read managedObject).length := by
        unfold pythonIndex? at normal
        split at normal
        · omega
        · split at normal
          · omega
          · cases normal
      simp only [if_pos inside, Option.map_some, normal]
      refine ⟨_, rfl, ?_⟩
      rw [List.eraseIdx_map]
      exact holds.leaves _
  | none =>
      by_cases inside : index < (column.read managedObject).length
      · simp only [if_pos inside, Option.map_none, normal]
        exact ⟨_, rfl⟩
      · simp only [if_neg inside, Option.map_none]
        exact ⟨_, rfl⟩

theorem InstanceColumn.Holds.delete_value
    (holds : column.Holds attributeName) (value : α) :
    EndsWith attributeName managedObject
      ((column.delete (some value) shown none).run managedObject)
      (if column.value value ∈ storedInstances attributeName managedObject
        then some ((storedInstances attributeName managedObject).erase
          (column.value value))
        else none) := by
  rw [holds.instances, column.run_delete]
  unfold deleteInstances
  by_cases member : value ∈ column.read managedObject
  · rw [if_pos (List.mem_map_of_mem member)]
    simp only [if_pos member]
    refine ⟨_, rfl, ?_⟩
    rw [← List.map_erase column.injective]
    exact holds.leaves _
  · rw [if_neg fun inside =>
      member ((List.mem_map_of_injective column.injective).mp inside)]
    simp only [if_neg member]
    exact ⟨_, rfl⟩

theorem InstanceColumn.Holds.delete_all
    (holds : column.Holds attributeName) :
    EndsWith attributeName managedObject
      ((column.delete none shown none).run managedObject) (some []) := by
  rw [column.run_delete]
  exact ⟨_, rfl, holds.leaves []⟩

/-- What a deletion by index, which counts from the end when it is negative,
leaves. -/
theorem deleteAttribute_at
    (stored : attributeName ∈ storedNames) (index : Int) :
    EndsWith attributeName managedObject
      ((deleteAttributeFromManagedObject attributeName (some index) none).run
        managedObject)
      ((pythonIndex? (storedInstances attributeName managedObject).length
        index).map
          (storedInstances attributeName managedObject).eraseIdx) := by
  rw [run_deleteAttribute stored]
  simp only [storedNames, List.mem_cons, List.not_mem_nil, or_false] at stored
  rcases stored with rfl | rfl | rfl
  · rw [run_deleteName]
    exact nameColumn_holds.delete_at index
  · rw [run_deleteGroup]
    exact objectGroupColumn_holds.delete_at index
  · rw [run_deleteInfo]
    exact applicationSpecificInformationColumn_holds.delete_at index

theorem deleteAttribute_all
    (stored : attributeName ∈ storedNames) :
    EndsWith attributeName managedObject
      ((deleteAttributeFromManagedObject attributeName none none).run
        managedObject) (some []) := by
  rw [run_deleteAttribute stored]
  simp only [storedNames, List.mem_cons, List.not_mem_nil, or_false] at stored
  rcases stored with rfl | rfl | rfl
  · rw [run_deleteName]
    exact nameColumn_holds.delete_all
  · rw [run_deleteGroup]
    exact objectGroupColumn_holds.delete_all
  · rw [run_deleteInfo]
    exact applicationSpecificInformationColumn_holds.delete_all

/-- Names are never deleted by value. -/
theorem deleteAttribute_value
    (stored : attributeName ∈ storedNames) (value : AttributeValue) :
    EndsWith attributeName managedObject
      ((deleteAttributeFromManagedObject attributeName none (some value)).run
        managedObject)
      (if attributeName ≠ .name ∧
          value ∈ storedInstances attributeName managedObject
        then some ((storedInstances attributeName managedObject).erase value)
        else none) := by
  rw [run_deleteAttribute stored]
  simp only [storedNames, List.mem_cons, List.not_mem_nil, or_false] at stored
  rcases stored with rfl | rfl | rfl
  · rw [if_neg (fun both => both.1 rfl), run_deleteName_of_value]
    exact ⟨_, rfl⟩
  · rw [run_deleteGroup]
    simp only [ne_eq, reduceCtorEq, not_false_eq_true, true_and]
    by_cases isGroup : ∃ group, value = objectGroupColumn.value group
    · obtain ⟨group, rfl⟩ := isGroup
      exact objectGroupColumn_holds.delete_value group
    · rw [if_neg]
      · have refused : value.asText = .error (.python .attributeError) := by
          cases value with
          | text group => exact absurd ⟨group, rfl⟩ isGroup
          | _ => rfl
        refine ⟨.python .attributeError, ?_⟩
        change (match some <$> value.asText with
          | .ok value => _
          | .error exception => Result.error exception managedObject) = _
        rw [refused]
        rfl
      · intro member
        obtain ⟨group, _, same⟩ := List.mem_map.mp member
        exact isGroup ⟨group, same.symm⟩
  · rw [run_deleteInfo]
    simp only [ne_eq, reduceCtorEq, not_false_eq_true, true_and]
    by_cases isInfo : ∃ info,
        value = applicationSpecificInformationColumn.value info
    · obtain ⟨info, rfl⟩ := isInfo
      exact applicationSpecificInformationColumn_holds.delete_value info
    · rw [if_neg]
      · have refused : value.asApplicationSpecificInformation =
            .error (.python .attributeError) := by
          cases value with
          | applicationSpecificInformation info =>
              exact absurd ⟨info, rfl⟩ isInfo
          | _ => rfl
        refine ⟨.python .attributeError, ?_⟩
        change (match some <$> value.asApplicationSpecificInformation with
          | .ok value => _
          | .error exception => Result.error exception managedObject) = _
        rw [refused]
        rfl
      · intro member
        obtain ⟨info, _, same⟩ := List.mem_map.mp member
        exact isInfo ⟨info, same.symm⟩

end Deletion

section Requests

/-- What a request to the object has done: it left the instances and gave the
reply, or it failed and left the rows as they were. -/
def Execution.EndsWith (execution : Execution) (stored : StoredObject)
    (attributeName : AttributeName) (reply : ResponsePayload)
    (remaining : Option (List AttributeValue)) : Prop :=
  match remaining with
  | some instances => execution.outcome = .ok reply ∧ ∃ changed,
      execution.rowsAfter = execution.rowsBefore.update stored.uniqueIdentifier
        (fun _ => changed) ∧
      LeavesInstances attributeName stored.managedObject changed instances
  | none => ∃ exception, execution.outcome = .error exception ∧
      execution.rowsAfter = execution.rowsBefore

variable {execution : Execution} {stored : StoredObject}
  {version : ProtocolVersion} {attributeName : AttributeName}
  {payload : DeleteAttributeRequestPayload}

theorem Execution.Reaches.ends_of_addressed
    (reaches : execution.Reaches stored version) (clean : execution.before.Clean)
    (asks : execution.payload = .deleteAttribute payload)
    {addressed : AddressedAttribute} {deleted : Option Attribute}
    (addresses : addressedAttribute version stored payload =
      .ok (addressed, deleted))
    {remaining : Option (List AttributeValue)}
    (ends : PyKMIP.EndsWith attributeName stored.managedObject
      ((deleteAttributeFromManagedObject addressed.attributeName
        addressed.attributeIndex addressed.attributeValue).run
          stored.managedObject) remaining) :
    execution.EndsWith stored attributeName
      (.deleteAttribute execution.target deleted) remaining := by
  obtain ⟨world, item, before⟩ := execution
  obtain ⟨uniqueBatchItemId, requestPayload⟩ := item
  cases asks
  obtain rfl : before.context.protocolVersion = version := reaches.sameVersion
  cases remaining with
  | some instances =>
      obtain ⟨changed, ran, leaves⟩ := ends
      obtain ⟨outcome, rows⟩ := reaches.outcome_of_changing reaches.listed clean
        rfl (except_bind_of_ok addresses) ran rfl
      exact ⟨outcome, changed, rows, leaves⟩
  | none =>
      obtain ⟨exception, ran⟩ := ends
      exact ⟨exception, reaches.outcome_of_changing_error reaches.listed rfl
        (except_bind_of_ok addresses) ran⟩

theorem Execution.Reaches.ends_of_not_addressed
    (reaches : execution.Reaches stored version)
    (asks : execution.payload = .deleteAttribute payload)
    {exception : PyError}
    (refuses : addressedAttribute version stored payload = .error exception)
    (reply : ResponsePayload) :
    execution.EndsWith stored attributeName reply none := by
  obtain ⟨world, item, before⟩ := execution
  obtain ⟨uniqueBatchItemId, requestPayload⟩ := item
  cases asks
  obtain rfl : before.context.protocolVersion = version := reaches.sameVersion
  exact ⟨exception, reaches.outcome_of_refusal reaches.listed rfl
    (except_bind_of_error _ refuses)⟩

end Requests

section Positions

theorem pythonIndex?_lt
    {length position : Nat} {index : Int}
    (normal : pythonIndex? length index = some position) :
    position < length := by
  unfold pythonIndex? at normal
  split at normal
  · cases normal
    omega
  · split at normal
    · cases normal
      omega
    · cases normal

theorem pythonIndex?_of_nonnegative
    {length : Nat} {index : Int} (nonnegative : 0 ≤ index) :
    pythonIndex? length index =
      if index < length then some index.toNat else none := by
  unfold pythonIndex?
  by_cases inside : index < length
  · rw [if_pos ⟨nonnegative, inside⟩, if_pos inside]
  · rw [if_neg (fun both => inside both.2),
      if_neg (fun both => by omega), if_neg inside]

theorem pythonIndex?_of_below
    {length : Nat} {index : Int} (below : index < -(length : Int)) :
    pythonIndex? length index = none := by
  unfold pythonIndex?
  rw [if_neg (fun both => by omega), if_neg (fun both => by omega)]

theorem elementAt_of_normal
    {values : List α} {index : Int} {position : Nat}
    (normal : pythonIndex? values.length index = some position) :
    ∃ value, values[position]? = some value ∧
      elementAt values index = .ok value := by
  have inside := pythonIndex?_lt normal
  refine ⟨values[position], List.getElem?_eq_getElem inside, ?_⟩
  unfold elementAt
  rw [normal, Option.bind_some, List.getElem?_eq_getElem inside]

/-- The copy for the response is the instance that the index addresses. -/
theorem deletedAttribute_of_normal
    {existing : List Attribute} {index : Int} {position : Nat}
    (normal : pythonIndex? existing.length index = some position) :
    deletedAttribute existing index = .ok existing[position]? := by
  have inside := pythonIndex?_lt normal
  obtain ⟨value, isValue, found⟩ := elementAt_of_normal normal
  have nonempty : existing ≠ [] := by
    rintro rfl
    exact absurd inside (Nat.not_lt_zero _)
  have small : index < existing.length := by
    unfold pythonIndex? at normal
    split at normal
    · omega
    · split at normal
      · omega
      · cases normal
  unfold deletedAttribute
  rw [if_neg nonempty, isValue]
  by_cases first : index = 0
  · subst first
    rw [if_pos rfl, found]
    rfl
  · rw [if_neg first, if_pos small, found]
    rfl

theorem deletedAttribute_of_outside
    {existing : List Attribute} {index : Int}
    (outside : pythonIndex? existing.length index = none) :
    deletedAttribute existing index = .ok none ∨
      ∃ exception, deletedAttribute existing index = .error exception := by
  have refused : elementAt existing index = .error (.python .indexError) := by
    unfold elementAt
    rw [outside]
    rfl
  unfold deletedAttribute
  by_cases empty : existing = []
  · rw [if_pos empty]
    exact .inl rfl
  · rw [if_neg empty]
    by_cases first : index = 0
    · subst first
      rw [if_pos rfl, refused]
      exact .inr ⟨_, rfl⟩
    · rw [if_neg first]
      split
      · rw [refused]
        exact .inr ⟨_, rfl⟩
      · exact .inr ⟨_, rfl⟩

end Positions

section Claims

variable {execution : Execution} {stored : StoredObject}
  {version : ProtocolVersion} {attributeName : AttributeName}
  {payload : DeleteAttributeRequestPayload}

/-- The request is about instances of the attribute. -/
def DeleteAttributeRequestPayload.IsAbout
    (payload : DeleteAttributeRequestPayload) (version : ProtocolVersion)
    (attributeName : AttributeName) : Prop :=
  if version20 ≤ version then
    match payload.currentAttribute with
    | some current => current.attributeName = attributeName
    | none => payload.attributeReference = some attributeName
  else payload.attributeName = some attributeName

/-- The instances that the request is meant to leave, if it is meant to
succeed. -/
def DeleteAttributeRequestPayload.remaining
    (payload : DeleteAttributeRequestPayload) (version : ProtocolVersion)
    (instances : List AttributeValue) : Option (List AttributeValue) :=
  if version20 ≤ version then
    match payload.currentAttribute with
    | some current =>
        if current.attributeValue ∈ instances
        then some (instances.erase current.attributeValue) else none
    | none => some []
  else
    let index := payload.attributeIndex.getD 0
    if 0 ≤ index ∧ index < instances.length
    then some (instances.eraseIdx index.toNat) else none

/-- The instance that the response of the 1.x form shows. -/
def DeleteAttributeRequestPayload.deleted
    (payload : DeleteAttributeRequestPayload) (version : ProtocolVersion)
    (attributeName : AttributeName) (instances : List AttributeValue) :
    Option Attribute :=
  if version20 ≤ version then none
  else (numbered attributeName instances)[(payload.attributeIndex.getD 0).toNat]?

/-- The index is not one that counts from the end, and no name that exists is
addressed by its value. -/
def DeleteAttributeRequestPayload.IsRegular
    (payload : DeleteAttributeRequestPayload) (version : ProtocolVersion)
    (attributeName : AttributeName) (instances : List AttributeValue) : Prop :=
  if version20 ≤ version then
    ∀ current ∈ payload.currentAttribute, attributeName = .name →
      current.attributeValue ∉ instances
  else
    ¬(-(instances.length : Int) ≤ payload.attributeIndex.getD 0 ∧
      payload.attributeIndex.getD 0 < 0)

theorem addressedAttribute_recent
    (recent : version20 ≤ version) (stored : StoredObject) :
    addressedAttribute version stored payload =
      (addressedByValue payload).map fun addressed => (addressed, none) := by
  unfold addressedAttribute
  rw [if_pos recent]
  cases addressedByValue payload <;> rfl

theorem text_ne_empty (isStored : attributeName ∈ storedNames) :
    attributeName.text ≠ "" := by
  simp only [storedNames, List.mem_cons, List.not_mem_nil, or_false] at isStored
  rcases isStored with rfl | rfl | rfl <;> decide

theorem addressedAttribute_early
    (early : ¬version20 ≤ version) (listed : ⟨1, 0⟩ ≤ version)
    (isStored : attributeName ∈ storedNames)
    (named : payload.attributeName = some attributeName) :
    addressedAttribute version stored payload =
      (deletedAttribute (numbered attributeName
        (storedInstances attributeName stored.managedObject))
        (payload.attributeIndex.getD 0)).map fun deleted =>
          ({ attributeName := attributeName
             attributeIndex := some (payload.attributeIndex.getD 0) },
            deleted) := by
  have addressed : addressedByIndex payload = .ok {
      attributeName := attributeName
      attributeIndex := some (payload.attributeIndex.getD 0) } := by
    unfold addressedByIndex
    rw [named, Option.filter_some,
      if_pos (decide_eq_true (text_ne_empty isStored))]
  unfold addressedAttribute
  rw [if_neg early, addressed]
  change (getAttributesFromManagedObject version stored [attributeName] >>= _) = _
  rw [getAttributes_storedInstances listed isStored]
  change (deletedAttribute _ _ >>= _) = _
  cases deletedAttribute (numbered attributeName
    (storedInstances attributeName stored.managedObject))
    (payload.attributeIndex.getD 0) <;> rfl

theorem length_numbered
    (attributeName : AttributeName) (instances : List AttributeValue) :
    (numbered attributeName instances).length = instances.length := by
  unfold numbered
  rw [List.length_map, List.length_zipIdx]

theorem Execution.EndsWith.unique
    {reply other : ResponsePayload}
    {remaining : List AttributeValue}
    (ends : execution.EndsWith stored attributeName reply (some remaining))
    (fails : execution.EndsWith stored attributeName other none) : False := by
  obtain ⟨succeeds, _⟩ := ends
  obtain ⟨exception, raises, _⟩ := fails
  rw [succeeds] at raises
  cases raises

/-- Versions 1.x: the engine deletes at the normal position of the index. -/
theorem Execution.Reaches.ends_early
    (reaches : execution.Reaches stored version) (clean : execution.before.Clean)
    (asks : execution.payload = .deleteAttribute payload)
    (isStored : attributeName ∈ storedNames) (early : ¬version20 ≤ version)
    (named : payload.attributeName = some attributeName) :
    let instances := storedInstances attributeName stored.managedObject
    match pythonIndex? instances.length (payload.attributeIndex.getD 0) with
    | some position => execution.EndsWith stored attributeName
        (.deleteAttribute execution.target
          (numbered attributeName instances)[position]?)
        (some (instances.eraseIdx position))
    | none => ∀ reply, execution.EndsWith stored attributeName reply none := by
  intro instances
  have addressed : addressedAttribute version stored payload = _ :=
    addressedAttribute_early early reaches.listed isStored named
  have ends : PyKMIP.EndsWith attributeName stored.managedObject _ _ :=
    deleteAttribute_at isStored (payload.attributeIndex.getD 0)
  have same := length_numbered attributeName instances
  cases normal : pythonIndex? instances.length
      (payload.attributeIndex.getD 0) with
  | some position =>
      rw [normal] at ends
      rw [← same] at normal
      rw [deletedAttribute_of_normal normal] at addressed
      exact reaches.ends_of_addressed clean asks addressed ends
  | none =>
      intro reply
      rw [normal] at ends
      rw [← same] at normal
      rcases deletedAttribute_of_outside normal with nothing | ⟨_, refuses⟩
      · rw [nothing] at addressed
        obtain ⟨exception, raises, rows⟩ :=
          reaches.ends_of_addressed clean asks addressed ends
        exact ⟨exception, raises, rows⟩
      · rw [refuses] at addressed
        exact reaches.ends_of_not_addressed asks addressed reply

/-- DeleteAttribute removes the addressed instance, or all instances when the
request refers to the attribute, and otherwise fails without a trace; exactly
for the requests that do not count from the end and do not address a name by
its value. -/
theorem delete_attribute_is_exact_iff
    (reaches : execution.Reaches stored version) (clean : execution.before.Clean)
    (asks : execution.payload = .deleteAttribute payload)
    (isStored : attributeName ∈ storedNames)
    (about : payload.IsAbout version attributeName) :
    execution.EndsWith stored attributeName
        (.deleteAttribute execution.target (payload.deleted version attributeName
          (storedInstances attributeName stored.managedObject)))
        (payload.remaining version
          (storedInstances attributeName stored.managedObject)) ↔
      payload.IsRegular version attributeName
        (storedInstances attributeName stored.managedObject) := by
  unfold DeleteAttributeRequestPayload.deleted
    DeleteAttributeRequestPayload.remaining
    DeleteAttributeRequestPayload.IsRegular
  unfold DeleteAttributeRequestPayload.IsAbout at about
  generalize held :
    storedInstances attributeName stored.managedObject = instances
  by_cases recent : version20 ≤ version
  · rw [if_pos recent] at about
    rw [if_pos recent, if_pos recent, if_pos recent]
    have addressed : addressedAttribute version stored payload = _ :=
      addressedAttribute_recent recent stored
    cases given : payload.currentAttribute with
    | some current =>
        rw [given] at about
        simp only at about
        have addresses : addressedAttribute version stored payload =
            .ok ({
              attributeName := attributeName
              attributeValue := some current.attributeValue }, none) := by
          rw [addressed]
          unfold addressedByValue
          rw [given, ← about]
          rfl
        have ends := reaches.ends_of_addressed clean asks addresses
          (deleteAttribute_value isStored current.attributeValue)
        rw [held] at ends
        simp only [Option.mem_def, Option.some.injEq, forall_eq']
        constructor
        · rintro exact rfl member
          rw [if_pos member] at exact
          rw [if_neg (fun both => both.1 rfl)] at ends
          exact exact.unique ends
        · intro unnamed
          by_cases member : current.attributeValue ∈ instances
          · have different : attributeName ≠ .name :=
              fun isName => unnamed isName member
            rw [if_pos ⟨different, member⟩] at ends
            rw [if_pos member]
            exact ends
          · rw [if_neg (fun both => member both.2)] at ends
            rw [if_neg member]
            exact ends
    | none =>
        rw [given] at about
        simp only at about
        have addresses : addressedAttribute version stored payload =
            .ok ({ attributeName := attributeName }, none) := by
          rw [addressed]
          unfold addressedByValue
          rw [given, about]
          rfl
        have ends := reaches.ends_of_addressed clean asks addresses
          (deleteAttribute_all isStored)
        simpa using ends
  · rw [if_neg recent] at about
    rw [if_neg recent, if_neg recent, if_neg recent]
    have ends := reaches.ends_early clean asks isStored recent about
    simp only [held] at ends ⊢
    by_cases nonnegative : 0 ≤ payload.attributeIndex.getD 0
    · rw [pythonIndex?_of_nonnegative nonnegative] at ends
      have regular : ¬(-(instances.length : Int) ≤
          payload.attributeIndex.getD 0 ∧ payload.attributeIndex.getD 0 < 0) := by
        omega
      refine iff_of_true ?_ regular
      by_cases inside : payload.attributeIndex.getD 0 < instances.length
      · rw [if_pos inside] at ends
        rw [if_pos ⟨nonnegative, inside⟩]
        exact ends
      · rw [if_neg inside] at ends
        rw [if_neg (fun both => inside both.2)]
        exact ends _
    · rw [if_neg (fun both => nonnegative both.1)]
      by_cases below : payload.attributeIndex.getD 0 < -(instances.length : Int)
      · rw [pythonIndex?_of_below below] at ends
        exact iff_of_true (ends _) (by omega)
      · apply iff_of_false _ (by omega)
        intro fails
        have normal : pythonIndex? instances.length
            (payload.attributeIndex.getD 0) =
              some (payload.attributeIndex.getD 0 + instances.length).toNat := by
          unfold pythonIndex?
          rw [if_neg (fun both => nonnegative both.1),
            if_pos ⟨by omega, by omega⟩]
        rw [normal] at ends
        exact ends.unique fails

end Claims

section Samples

/-- The deletion of a name of a key that has two, by index. -/
def deletesName (index : Int) : Execution where
  world := sampleWorld
  item := {
    requestPayload := .deleteAttribute {
      uniqueIdentifier := some "1"
      attributeName := some .name
      attributeIndex := some index } }
  before := (sampleExchange sampleWorld "alice"
    [{ requestPayload := twoNames }]).after (newEngine .empty [])

theorem delete_attribute_is_exact_second :
    ∃ stored, (deletesName 1).EndsWith stored .name
      (.deleteAttribute (some "1") (some {
        attributeName := .name
        attributeIndex := some 1
        attributeValue := .name ⟨"second", .uninterpretedTextString⟩ }))
      (some [.name ⟨"first", .uninterpretedTextString⟩]) := by
  have found : ((deletesName 1).finds (deletesName 1).target).isSome := by
    decide +kernel
  obtain ⟨stored, isStored⟩ := Option.isSome_iff_exists.mp found
  have facts : ∀ stored ∈ (deletesName 1).finds (deletesName 1).target,
      (deletesName 1).Reaches stored ⟨1, 2⟩ ∧
        storedInstances .name stored.managedObject =
          [.name ⟨"first", .uninterpretedTextString⟩,
            .name ⟨"second", .uninterpretedTextString⟩] := by
    decide +kernel
  obtain ⟨reaches, instances⟩ := facts stored isStored
  have clean : (deletesName 1).before.Clean := by
    unfold EngineState.Clean
    decide +kernel
  have exact := (delete_attribute_is_exact_iff reaches clean rfl (.head _)
    (by unfold DeleteAttributeRequestPayload.IsAbout; decide)).mpr
      (by rw [instances]; unfold DeleteAttributeRequestPayload.IsRegular; decide)
  rw [instances] at exact
  exact ⟨stored, exact⟩

/-- The index that counts the last name from the end deletes it. -/
theorem delete_attribute_is_not_exact :
    ¬∀ (execution : Execution) (stored : StoredObject)
      (version : ProtocolVersion) (attributeName : AttributeName)
      (payload : DeleteAttributeRequestPayload),
      execution.Reaches stored version → execution.before.Clean →
      execution.payload = .deleteAttribute payload →
      attributeName ∈ storedNames → payload.IsAbout version attributeName →
      execution.EndsWith stored attributeName
        (.deleteAttribute execution.target (payload.deleted version attributeName
          (storedInstances attributeName stored.managedObject)))
        (payload.remaining version
          (storedInstances attributeName stored.managedObject)) := by
  intro exact
  have found : ((deletesName (-1)).finds (deletesName (-1)).target).isSome := by
    decide +kernel
  obtain ⟨stored, isStored⟩ := Option.isSome_iff_exists.mp found
  have reaches : ∀ stored ∈ (deletesName (-1)).finds (deletesName (-1)).target,
      (deletesName (-1)).Reaches stored ⟨1, 2⟩ := by
    decide +kernel
  have clean : (deletesName (-1)).before.Clean := by
    unfold EngineState.Clean
    decide +kernel
  have fails := exact (deletesName (-1)) stored ⟨1, 2⟩ .name _
    (reaches stored isStored) clean rfl (.head _)
    (by unfold DeleteAttributeRequestPayload.IsAbout; decide)
  have succeeded : (deletesName (-1)).outcome.isOk = true := by
    decide +kernel
  obtain ⟨exception, raises, _⟩ := fails
  rw [raises] at succeeded
  cases succeeded

end Samples

end PyKMIP
