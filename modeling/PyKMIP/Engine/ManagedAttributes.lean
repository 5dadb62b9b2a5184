import PyKMIP.Engine.State

/-!
# Attributes of managed objects

The helpers of the engine that read a template, read the attributes of an
object, and set or delete them.  The ones that change an object run in place:
what they changed before they raise stays changed.
-/

namespace PyKMIP

open StatefulExcept
open AttributePolicy

/-- An entry of the dictionary that a template is processed into. -/
inductive TemplateValue where
  | single (value : AttributeValue)
  | multiple (values : List AttributeValue)
deriving DecidableEq

abbrev ObjectAttributes := List (AttributeName × TemplateValue)

/-- `attributes.update([(name, value)])`: a key keeps its position. -/
def ObjectAttributes.update (attributes : ObjectAttributes)
    (attributeName : AttributeName) (value : TemplateValue) : ObjectAttributes :=
  if (attributes.map Prod.fst).contains attributeName then
    attributes.map fun entry =>
      if entry.1 = attributeName then (attributeName, value) else entry
  else attributes ++ [(attributeName, value)]

def ObjectAttributes.get? (attributes : ObjectAttributes)
    (attributeName : AttributeName) : Option TemplateValue :=
  List.lookup attributeName attributes

section Values

/-! The value of an attribute, by the class that its name decodes to. -/

def AttributeValue.asText : AttributeValue → Except PyError String
  | .text value => .ok value
  | _ => .error (.python .attributeError)

def AttributeValue.asName : AttributeValue → Except PyError Name
  | .name value => .ok value
  | _ => .error (.python .attributeError)

def AttributeValue.asAlgorithm :
    AttributeValue → Except PyError CryptographicAlgorithm
  | .cryptographicAlgorithm value => .ok value
  | _ => .error (.python .attributeError)

def AttributeValue.asInteger : AttributeValue → Except PyError Int
  | .integer value => .ok value
  | _ => .error (.python .attributeError)

def AttributeValue.asBoolean : AttributeValue → Except PyError Bool
  | .boolean value => .ok value
  | _ => .error (.python .attributeError)

def AttributeValue.asApplicationSpecificInformation :
    AttributeValue → Except PyError ApplicationSpecificInformation
  | .applicationSpecificInformation value => .ok value
  | _ => .error (.python .attributeError)

/-- What Python compares of two values; a Boolean equals the number it is. -/
inductive PyValue where
  | text (value : String)
  | number (value : Int)
  | objectType (value : ObjectType)
  | cryptographicAlgorithm (value : CryptographicAlgorithm)
  | certificateType (value : CertificateType)
  | state (value : State)
deriving DecidableEq, Repr

def PyValue.ofBool (value : Bool) : PyValue := .number (if value then 1 else 0)

/-- The `value` field, which a structure does not have. -/
def AttributeValue.pyValue : AttributeValue → Except PyError PyValue
  | .text value => .ok (.text value)
  | .objectType value => .ok (.objectType value)
  | .cryptographicAlgorithm value => .ok (.cryptographicAlgorithm value)
  | .certificateType value => .ok (.certificateType value)
  | .state value => .ok (.state value)
  | .integer value => .ok (.number value)
  | .interval value => .ok (.number value)
  | .dateTime value => .ok (.number value)
  | .boolean value => .ok (.ofBool value)
  | .name _ => .error (.python .attributeError)
  | .cryptographicParameters _ => .error (.python .attributeError)
  | .digest => .error (.python .attributeError)
  | .applicationSpecificInformation _ => .error (.python .attributeError)

/-- Reading `value` of a template entry, or iterating over it. -/
def TemplateValue.asSingle : TemplateValue → Except PyError AttributeValue
  | .single value => .ok value
  | .multiple _ => .error (.python .attributeError)

def TemplateValue.asMultiple : TemplateValue → Except PyError (List AttributeValue)
  | .single _ => .error (.python .typeError)
  | .multiple values => .ok values

end Values

section Templates

variable (version : ProtocolVersion)

/-- One round of the loop of `_process_template_attribute`. -/
def processTemplateEntry (attributes : ObjectAttributes) (entry : Attribute) :
    Except PyError ObjectAttributes := do
  let attributeName := entry.attributeName
  if isAttributeSupported version attributeName = false then
    throw (invalidField
      ("The " ++ attributeName.text ++ " attribute is unsupported."))
  else if ← isAttributeMultivalued attributeName then
    let values ← match attributes.get? attributeName with
      | some value => value.asMultiple
      | none => pure []
    if entry.attributeIndex.isNone && !values.isEmpty then
      throw (invalidField "Attribute index missing from multivalued attribute.")
    else
      return attributes.update attributeName
        (.multiple (values ++ [entry.attributeValue]))
  else if entry.attributeIndex.any (· ≠ 0) then
    throw (invalidField
      "Non-zero attribute index found for single-valued attribute.")
  else if (attributes.get? attributeName).isSome then
    throw (indexOutOfBounds
      ("Cannot set multiple instances of the " ++ attributeName.text ++
        " attribute."))
  else
    return attributes.update attributeName (.single entry.attributeValue)

def processTemplateAttribute (templateAttribute : TemplateAttribute) :
    Except PyError ObjectAttributes :=
  if templateAttribute.names ≠ [] then
    .error (itemNotFound "Attribute templates are not supported.")
  else
    templateAttribute.attributes.foldlM (processTemplateEntry version) []

/-- A template that is absent from the payload gives no attributes. -/
def processOptionalTemplate (templateAttribute : Option TemplateAttribute) :
    Except PyError ObjectAttributes :=
  match templateAttribute with
  | some template => processTemplateAttribute version template
  | none => .ok []

end Templates

section Reading

def getAttributeFromManagedObject (storedObject : StoredObject)
    (attributeName : AttributeName) : Except PyError (Option ObjectAttribute) :=
  let managedObject := storedObject.managedObject
  match attributeName with
  | .uniqueIdentifier =>
      .ok (some (.text (toString storedObject.uniqueIdentifier)))
  | .name =>
      .ok (some (.names (managedObject.names.map fun name =>
        { nameValue := name, nameType := .uninterpretedTextString })))
  | .objectType => .ok (some (.objectType managedObject.objectType))
  | .cryptographicAlgorithm => do
      let fields ← getattr managedObject.keyFields?
      return some (.cryptographicAlgorithm fields.cryptographicAlgorithm)
  | .cryptographicLength => do
      let fields ← getattr managedObject.keyFields?
      return some (.integer fields.cryptographicLength)
  | .certificateType => do
      let certificateType ← getattr managedObject.certificateType?
      return some (.certificateType certificateType)
  | .operationPolicyName =>
      .ok (managedObject.operationPolicyName.map .text)
  | .cryptographicUsageMask => do
      let masks ← getattr managedObject.cryptographicUsageMasks?
      return some (.usageMasks masks)
  | .state => do
      let state ← getattr managedObject.state?
      return some (.state state)
  | .initialDate => .ok (some (.dateTime managedObject.initialDate))
  | .objectGroup => .ok (some (.objectGroups managedObject.objectGroups))
  | .applicationSpecificInformation =>
      .ok (some (.applicationSpecificInformation managedObject.appSpecificInfo))
  | .sensitive => .ok (some (.boolean managedObject.sensitive))
  | _ => .ok none

/-- One round of the loop of `_get_attributes_from_managed_object`.  Whatever
reading the attribute raises counts as having no value. -/
def retrievedAttributes (version : ProtocolVersion)
    (storedObject : StoredObject) (attributeName : AttributeName) :
    Except PyError (List Attribute) := do
  if isAttributeSupported version attributeName = false then return []
  else if ← isAttributeDeprecated version attributeName then return []
  else if ← isAttributeApplicableToObjectType attributeName
      storedObject.managedObject.objectType then
    match getAttributeFromManagedObject storedObject attributeName with
    | .ok (some value) =>
        let multivalued ← isAttributeMultivalued attributeName
        return AttributeFactory.createAttributes attributeName multivalued value
    | _ => return []
  else return []

def getAttributesFromManagedObject (version : ProtocolVersion)
    (storedObject : StoredObject) (attributeNames : List AttributeName) :
    Except PyError (List Attribute) := do
  let names :=
    if attributeNames = [] then getAllAttributeNames else attributeNames
  let retrieved ← names.mapM (retrievedAttributes version storedObject)
  return retrieved.flatten

/-- The position of the first instance equal to the given one.  The fields of
the given value are only read while there is an instance to compare. -/
def findInstance [DecidableEq α] (instances : List α)
    (given : Except PyError α) : Except PyError (Option Nat) :=
  if instances = [] then .ok none
  else do
    let value ← given
    return instances.findIdx? (· = value)

/-- `_get_attribute_index_from_managed_object`. -/
def getAttributeIndexFromManagedObject (storedObject : StoredObject)
    (attributeName : AttributeName) (attributeValue : AttributeValue) :
    Except PyError (Option Nat) :=
  let managedObject := storedObject.managedObject
  let compare (existing : Except PyError (Option PyValue)) :
      Except PyError (Option Nat) := do
    let value ← attributeValue.pyValue
    let existingValue ← existing
    return if existingValue = some value then some 0 else none
  match attributeName with
  | .applicationSpecificInformation =>
      findInstance managedObject.appSpecificInfo
        attributeValue.asApplicationSpecificInformation
  | .certificateType =>
      compare ((some ∘ .certificateType) <$>
        getattr managedObject.certificateType?)
  | .cryptographicAlgorithm =>
      compare ((some ∘ .cryptographicAlgorithm ∘ KeyFields.cryptographicAlgorithm)
        <$> getattr managedObject.keyFields?)
  | .cryptographicLength =>
      compare ((some ∘ .number ∘ KeyFields.cryptographicLength) <$>
        getattr managedObject.keyFields?)
  | .cryptographicUsageMask =>
      compare ((some ∘ .number ∘ Int.ofNat ∘ combinedMask) <$>
        getattr managedObject.cryptographicUsageMasks?)
  | .initialDate => compare (.ok (some (.number managedObject.initialDate)))
  | .name =>
      findInstance managedObject.names (Name.nameValue <$> attributeValue.asName)
  | .objectGroup =>
      findInstance (managedObject.objectGroups.map .text) attributeValue.pyValue
  | .objectType => compare (.ok (some (.objectType managedObject.objectType)))
  | .operationPolicyName =>
      compare (.ok (managedObject.operationPolicyName.map .text))
  | .sensitive => compare (.ok (some (.ofBool managedObject.sensitive)))
  | .state => compare ((some ∘ .state) <$> getattr managedObject.state?)
  | .uniqueIdentifier =>
      compare (.ok (some (.text (toString storedObject.uniqueIdentifier))))
  | _ => .ok none

end Reading

section Writing

abbrev ObjectM := EStateM PyError ManagedObject

/-- The branch that `_set_attribute_on_managed_object` takes for each of its
single-valued fields: a truthy value may only be set again to itself. -/
def setField [DecidableEq τ] (attributeName : AttributeName)
    (existing : ManagedObject → Except PyError τ) (truthy : τ → Bool)
    (assign : τ → ManagedObject → ManagedObject) (value : τ) : ObjectM Unit := do
  let managedObject ← get
  let existingValue ← fromExcept (existing managedObject)
  if truthy existingValue then
    raiseIf (existingValue ≠ value)
      (invalidField ("Cannot overwrite the " ++ attributeName.text ++
        " attribute."))
  else set (assign value managedObject)

def unsupportedAttribute (attributeName : AttributeName) : PyError :=
  invalidField ("The " ++ attributeName.text ++ " attribute is unsupported.")

def setMultivaluedAttribute (attributeName : AttributeName)
    (values : List AttributeValue) : ObjectM Unit :=
  match attributeName with
  | .name => do
      let names ← fromExcept (values.mapM AttributeValue.asName)
      modify fun managedObject =>
        { managedObject with
          names := managedObject.names ++ names.map Name.nameValue }
      let managedObject ← get
      -- the names stay extended when the check below raises
      raiseIf (¬ managedObject.names.Nodup)
        (invalidField "Cannot set duplicate name values.")
  | .applicationSpecificInformation => do
      let infos ← fromExcept
        (values.mapM AttributeValue.asApplicationSpecificInformation)
      modify fun managedObject =>
        { managedObject with
          appSpecificInfo := managedObject.appSpecificInfo ++ infos }
  | .objectGroup => do
      let groups ← fromExcept (values.mapM AttributeValue.asText)
      modify fun managedObject =>
        { managedObject with objectGroups := managedObject.objectGroups ++ groups }
  | _ => throw (unsupportedAttribute attributeName)

def setSingleValuedAttribute (attributeName : AttributeName)
    (attributeValue : AttributeValue) : ObjectM Unit :=
  match attributeName with
  | .cryptographicAlgorithm => do
      let value ← fromExcept attributeValue.asAlgorithm
      setField attributeName
        (fun managedObject => KeyFields.cryptographicAlgorithm <$>
          getattr managedObject.keyFields?)
        (fun _ => true)
        (fun algorithm managedObject => managedObject.mapKeyFields fun fields =>
          { fields with cryptographicAlgorithm := algorithm })
        value
  | .cryptographicLength => do
      let value ← fromExcept attributeValue.asInteger
      setField attributeName
        (fun managedObject => KeyFields.cryptographicLength <$>
          getattr managedObject.keyFields?)
        (· ≠ 0)
        (fun length managedObject => managedObject.mapKeyFields fun fields =>
          { fields with cryptographicLength := length })
        value
  | .cryptographicUsageMask => do
      let value ← fromExcept attributeValue.asInteger
      setField attributeName
        (fun managedObject => getattr managedObject.cryptographicUsageMasks?)
        (· ≠ [])
        (fun masks managedObject => managedObject.mapCryptographic fun fields =>
          { fields with cryptographicUsageMasks := masks })
        (masksOf value)
  | .operationPolicyName => do
      let value ← fromExcept attributeValue.asText
      setField attributeName
        (fun managedObject => .ok managedObject.operationPolicyName)
        truthyText
        (fun policyName managedObject =>
          { managedObject with operationPolicyName := policyName })
        (some value)
  | .sensitive => do
      let value ← fromExcept attributeValue.asBoolean
      setField attributeName
        (fun managedObject => .ok managedObject.sensitive)
        id
        (fun sensitive managedObject =>
          { managedObject with sensitive := sensitive })
        value
  | _ => throw (unsupportedAttribute attributeName)

def setAttributeOnManagedObject (attributeName : AttributeName)
    (attributeValue : TemplateValue) : ObjectM Unit := do
  let multivalued ← fromExcept (isAttributeMultivalued attributeName)
  if multivalued then do
    let values ← fromExcept attributeValue.asMultiple
    setMultivaluedAttribute attributeName values
  else do
    let value ← fromExcept attributeValue.asSingle
    setSingleValuedAttribute attributeName value

/-- One round of the loop of `_set_attributes_on_managed_object`. -/
def setApplicableAttribute (entry : AttributeName × TemplateValue) :
    ObjectM Unit := do
  let managedObject ← get
  let applicable ← fromExcept
    (isAttributeApplicableToObjectType entry.1 managedObject.objectType)
  if applicable then setAttributeOnManagedObject entry.1 entry.2
  else
    throw (invalidField ("Cannot set " ++ entry.1.text ++ " attribute on " ++
      capitalizedName managedObject.objectType.name ++ " object."))

def setAttributesOnManagedObject (attributes : ObjectAttributes) :
    ObjectM Unit :=
  attributes.forM setApplicableAttribute

/-- `list[index] = value` for an index that is not negative. -/
def assignAt (values : List α) (index : Nat) (value : α) :
    Except PyError (List α) :=
  if index < values.length then .ok (values.set index value)
  else .error (.python .indexError)

/-- `_set_attribute_on_managed_object_by_index`; its callers have found the
index among the instances. -/
def setAttributeOnManagedObjectByIndex (attributeName : AttributeName)
    (attributeValue : AttributeValue) (attributeIndex : Nat) : ObjectM Unit :=
  match attributeName with
  | .applicationSpecificInformation => do
      let managedObject ← get
      let info ← fromExcept attributeValue.asApplicationSpecificInformation
      let infos ← fromExcept
        (assignAt managedObject.appSpecificInfo attributeIndex info)
      set { managedObject with appSpecificInfo := infos }
  | .name => do
      let managedObject ← get
      let value ← fromExcept attributeValue.asName
      let names ← fromExcept
        (assignAt managedObject.names attributeIndex value.nameValue)
      set { managedObject with names := names }
  | .objectGroup => do
      let managedObject ← get
      let group ← fromExcept attributeValue.asText
      let groups ← fromExcept
        (assignAt managedObject.objectGroups attributeIndex group)
      set { managedObject with objectGroups := groups }
  | _ => pure ()

end Writing

section Deleting

/-- The normal position of a Python index, which counts from the end when it is
negative. -/
def pythonIndex? (length : Nat) (index : Int) : Option Nat :=
  if 0 ≤ index ∧ index < length then some index.toNat
  else if index < 0 ∧ 0 ≤ index + length then some (index + length).toNat
  else none

/-- The generic part of the deletion: by value, by index, or all instances.
`found` is whether the value occurs, `shown` is its text in the message. -/
def deleteInstances [DecidableEq α] (instances : List α) (value : Option α)
    (shown : α → String) (attributeIndex : Option Int) :
    Except PyError (List α) :=
  match value, attributeIndex with
  | some value, _ =>
      if value ∈ instances then .ok (instances.erase value)
      else .error (itemNotFound
        ("Could not locate the attribute instance with the specified value: " ++
          shown value))
  | none, some index =>
      if index < instances.length then
        match pythonIndex? instances.length index with
        | some position => .ok (instances.eraseIdx position)
        | none => .error (.python .indexError)
      else .error (itemNotFound
        ("Could not locate the attribute instance with the specified index: " ++
          toString index))
  | none, none => .ok []

/-- `str` of the application specific information of an object. -/
def showInfo (info : ApplicationSpecificInformation) : String :=
  .ofList [openBrace] ++ "'application_namespace': " ++
    reprText info.applicationNamespace ++ ", 'application_data': " ++
    reprText info.applicationData ++ .ofList [closeBrace]

/-- `str` of an object group. -/
def showGroup (group : String) : String :=
  .ofList [openBrace] ++ "'object_group': " ++ reprText group ++
    .ofList [closeBrace]

def deleteMultivaluedAttribute (attributeName : AttributeName)
    (attributeIndex : Option Int) (attributeValue : Option AttributeValue) :
    ObjectM Unit :=
  match attributeName with
  | .name => do
      let managedObject ← get
      -- a Name structure has no `value` to read
      raiseIf attributeValue.isSome (.python .attributeError)
      let names ← fromExcept
        (deleteInstances managedObject.names none id attributeIndex)
      set { managedObject with names := names }
  | .applicationSpecificInformation => do
      let managedObject ← get
      let value ← fromExcept
        (attributeValue.mapM AttributeValue.asApplicationSpecificInformation)
      let infos ← fromExcept
        (deleteInstances managedObject.appSpecificInfo value showInfo
          attributeIndex)
      set { managedObject with appSpecificInfo := infos }
  | .objectGroup => do
      let managedObject ← get
      let value ← fromExcept (attributeValue.mapM AttributeValue.asText)
      let groups ← fromExcept
        (deleteInstances managedObject.objectGroups value showGroup
          attributeIndex)
      set { managedObject with objectGroups := groups }
  | _ =>
      throw (invalidField
        ("The '" ++ attributeName.text ++ "' attribute is not supported."))

def deleteAttributeFromManagedObject (attributeName : AttributeName)
    (attributeIndex : Option Int) (attributeValue : Option AttributeValue) :
    ObjectM Unit := do
  let managedObject ← get
  let applicable ← fromExcept
    (isAttributeApplicableToObjectType attributeName managedObject.objectType)
  raiseIf (applicable = false)
    (itemNotFound ("The '" ++ attributeName.text ++
      "' attribute is not applicable to '" ++
      capitalizedName managedObject.objectType.name ++ "' objects."))
  let deletable ← fromExcept (isAttributeDeletableByClient attributeName)
  raiseIf (deletable = false)
    (permissionDenied "Cannot delete a required attribute.")
  let multivalued ← fromExcept (isAttributeMultivalued attributeName)
  if multivalued then
    deleteMultivaluedAttribute attributeName attributeIndex attributeValue
  else
    throw (invalidField
      ("The '" ++ attributeName.text ++ "' attribute is not supported."))

end Deleting

end PyKMIP
