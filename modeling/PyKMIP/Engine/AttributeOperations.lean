import PyKMIP.Engine.ManagedAttributes

/-!
# Operations on attributes

GetAttributes and GetAttributeList read the attributes of a stored object;
DeleteAttribute, SetAttribute and ModifyAttribute change it in place and commit.
-/

namespace PyKMIP

open StatefulExcept
open AttributePolicy

variable (world : World)

/-- The first protocol version with typed attributes. -/
def version20 : ProtocolVersion := ⟨2, 0⟩

def failure (reason : ResultReason) (message : String) : PyError :=
  .kmip .operationFailed reason message

section DeleteAttribute

/-- The attribute that a request addresses: its name, index and value. -/
structure AddressedAttribute where
  attributeName : AttributeName
  attributeIndex : Option Int := none
  attributeValue : Option AttributeValue := none
deriving DecidableEq

/-- Version 2.0: the current attribute when there is one, the reference
otherwise. -/
def addressedByValue (payload : DeleteAttributeRequestPayload) :
    Except PyError AddressedAttribute :=
  match payload.currentAttribute, payload.attributeReference with
  | some current, _ =>
      .ok {
        attributeName := current.attributeName
        attributeValue := some current.attributeValue }
  | none, some attributeName => .ok { attributeName := attributeName }
  | none, none => .error (invalidMessage
      ("The DeleteAttribute request must specify the current attribute or an " ++
        "attribute reference."))

/-- Versions 1.x: the name and the index, which is zero when it is absent. -/
def addressedByIndex (payload : DeleteAttributeRequestPayload) :
    Except PyError AddressedAttribute :=
  match payload.attributeName.filter (·.text ≠ "") with
  | some attributeName =>
      .ok {
        attributeName := attributeName
        attributeIndex := some (payload.attributeIndex.getD 0) }
  | none => .error (invalidMessage
      "The DeleteAttribute request must specify the attribute name.")

/-- `values[index]`. -/
def elementAt (values : List α) (index : Int) : Except PyError α :=
  match (pythonIndex? values.length index).bind (values[·]?) with
  | some value => .ok value
  | none => .error (.python .indexError)

/-- The copy of the attribute that the 1.x response carries. -/
def deletedAttribute (existingAttributes : List Attribute) (index : Int) :
    Except PyError (Option Attribute) := do
  if existingAttributes = [] then return none
  else if index = 0 then some <$> elementAt existingAttributes 0
  else if index < existingAttributes.length then
    some <$> elementAt existingAttributes index
  else throw (itemNotFound
    ("Could not locate the attribute instance with the specified index: " ++
      toString index))

/-- What the request addresses, and the copy of it for the response. -/
def addressedAttribute (version : ProtocolVersion) (storedObject : StoredObject)
    (payload : DeleteAttributeRequestPayload) :
    Except PyError (AddressedAttribute × Option Attribute) := do
  if version20 ≤ version then
    let addressed ← addressedByValue payload
    return (addressed, none)
  else
    let addressed ← addressedByIndex payload
    let existingAttributes ← getAttributesFromManagedObject version storedObject
      [addressed.attributeName]
    let deleted ← deletedAttribute existingAttributes
      (payload.attributeIndex.getD 0)
    return (addressed, deleted)

def processDeleteAttribute (payload : DeleteAttributeRequestPayload) :
    EngineM ResponsePayload := do
  kmipVersionSupported ⟨1, 0⟩ "DeleteAttribute"
  let uniqueIdentifier ← payloadOrPlaceholder payload.uniqueIdentifier
  let storedObject ←
    getObjectWithAccessControls world uniqueIdentifier .deleteAttribute
  let state ← get
  let (addressed, deleted) ← fromExcept
    (addressedAttribute state.protocolVersion storedObject payload)
  onManagedObject storedObject
    (deleteAttributeFromManagedObject addressed.attributeName
      addressed.attributeIndex addressed.attributeValue)
  commitSession
  return .deleteAttribute uniqueIdentifier deleted

end DeleteAttribute

section SetAttribute

/-- The checks of SetAttribute on the name of the new attribute. -/
def checkSettable (attributeName : AttributeName) : Except PyError Unit := do
  if ← isAttributeMultivalued attributeName then
    throw (failure .multiValuedAttribute
      ("The '" ++ attributeName.text ++ "' attribute is multi-valued. " ++
        "Multi-valued attributes cannot be set with the SetAttribute " ++
        "operation."))
  else if ← isAttributeModifiableByClient attributeName then return ()
  else
    throw (failure .readOnlyAttribute
      ("The '" ++ attributeName.text ++ "' attribute is read-only and cannot " ++
        "be modified by the client."))

def processSetAttribute (payload : SetAttributeRequestPayload) :
    EngineM ResponsePayload := do
  kmipVersionSupported version20 "SetAttribute"
  let uniqueIdentifier ← payloadOrPlaceholder payload.uniqueIdentifier
  let storedObject ←
    getObjectWithAccessControls world uniqueIdentifier .setAttribute
  let newAttribute ← fromExcept (getattr payload.newAttribute)
  fromExcept (checkSettable newAttribute.attributeName)
  onManagedObject storedObject
    (setAttributesOnManagedObject
      [(newAttribute.attributeName, .single newAttribute.attributeValue)])
  commitSession
  return .setAttribute uniqueIdentifier

end SetAttribute

section ModifyAttribute

def checkModifiable (attributeName : AttributeName) : Except PyError Unit := do
  if ← isAttributeModifiableByClient attributeName then return ()
  else
    throw (failure .permissionDenied
      ("The '" ++ attributeName.text ++ "' attribute is read-only and cannot " ++
        "be modified."))

def notFoundOnObject : PyError :=
  failure .attributeNotFound
    "The specified current attribute could not be found on the managed object."

def notSetOnObject (attributeName : AttributeName) (reason : ResultReason) :
    PyError :=
  failure reason
    ("The '" ++ attributeName.text ++ "' attribute is not set on the managed " ++
      "object. It must be set before it can be modified.")

/-- Version 2.0 on the loaded object.  Everything before the last line of each
branch only reads the object. -/
def modifyByValue (storedObject : StoredObject)
    (payload : ModifyAttributeRequestPayload) : ObjectM Unit := do
  let newAttribute ← fromExcept (getattr payload.newAttribute)
  let attributeName := newAttribute.attributeName
  fromExcept (checkModifiable attributeName)
  let multivalued ← fromExcept (isAttributeMultivalued attributeName)
  if multivalued then
    match payload.currentAttribute with
    | none => throw (failure .attributeInstanceNotFound
        ("The '" ++ attributeName.text ++ "' attribute is multivalued so the " ++
          "current attribute must be specified."))
    | some current => do
        let index ← fromExcept (getAttributeIndexFromManagedObject storedObject
          attributeName current.attributeValue)
        match index with
        | none => throw notFoundOnObject
        | some index =>
            setAttributeOnManagedObjectByIndex attributeName
              newAttribute.attributeValue index
  else do
    match payload.currentAttribute with
    | none => do
        let existing ← fromExcept
          (getAttributeFromManagedObject storedObject attributeName)
        raiseIf existing.isNone (notSetOnObject attributeName .attributeNotFound)
    | some current => do
        let index ← fromExcept (getAttributeIndexFromManagedObject storedObject
          attributeName current.attributeValue)
        raiseIf index.isNone notFoundOnObject
    setAttributeOnManagedObject attributeName
      (.single newAttribute.attributeValue)

/-- The number of instances of a multivalued attribute, which `len` does not
give for an attribute that the engine does not read. -/
def instanceCount (storedObject : StoredObject) (attributeName : AttributeName) :
    Except PyError Nat := do
  match ← getAttributeFromManagedObject storedObject attributeName with
  | some existing => return (AttributeFactory.instances existing).length
  | none => throw (.python .typeError)

def noMatchingInstance : PyError :=
  failure .itemNotFound
    ("No matching attribute instance could be found for the specified " ++
      "attribute index.")

/-- Versions 1.x on the loaded object; the result is the index at which the
response reads the modified attribute. -/
def modifyByIndex (version : ProtocolVersion) (storedObject : StoredObject)
    (modification : Attribute) : ObjectM Nat := do
  let attributeName := modification.attributeName
  fromExcept (checkModifiable attributeName)
  let multivalued ← fromExcept (isAttributeMultivalued attributeName)
  if multivalued then do
    let index := modification.attributeIndex.getD 0
    -- a negative index is refused before the instances are counted
    raiseIf (index < 0) noMatchingInstance
    let count ← fromExcept (instanceCount storedObject attributeName)
    raiseIf ((count : Int) ≤ index) noMatchingInstance
    setAttributeOnManagedObjectByIndex attributeName modification.attributeValue
      index.toNat
    return index.toNat
  else do
    raiseIf modification.attributeIndex.isSome
      (failure .invalidField
        ("The attribute index cannot be specified for a single-valued " ++
          "attribute."))
    let existing ← fromExcept
      (getAttributesFromManagedObject version storedObject [attributeName])
    raiseIf (existing = []) (notSetOnObject attributeName .invalidField)
    setAttributeOnManagedObject attributeName (.single modification.attributeValue)
    return 0

def processModifyAttribute (payload : ModifyAttributeRequestPayload) :
    EngineM ResponsePayload := do
  kmipVersionSupported ⟨1, 0⟩ "ModifyAttribute"
  let uniqueIdentifier ← payloadOrPlaceholder payload.uniqueIdentifier
  let storedObject ←
    getObjectWithAccessControls world uniqueIdentifier .modifyAttribute
  let state ← get
  let version := state.protocolVersion
  if version20 ≤ version then do
    onManagedObject storedObject (modifyByValue storedObject payload)
    commitSession
    return .modifyAttribute uniqueIdentifier none
  else do
    let modification ← fromExcept (getattr payload.attributeField)
    let (index, changed) ← onManagedObject storedObject (do
      let index ← modifyByIndex version storedObject modification
      let changed ← get
      return (index, changed))
    commitSession
    -- the response is read back from the object after the commit
    let existingAttributes ← fromExcept
      (getAttributesFromManagedObject version
        { storedObject with managedObject := changed }
        [modification.attributeName])
    let modified ← fromExcept (elementAt existingAttributes index)
    return .modifyAttribute uniqueIdentifier (some modified)

end ModifyAttribute

section Reading

def processGetAttributes (payload : GetAttributesRequestPayload) :
    EngineM ResponsePayload := do
  kmipVersionSupported ⟨1, 0⟩ "GetAttributes"
  let uniqueIdentifier ← payloadOrPlaceholder payload.uniqueIdentifier
  let storedObject ←
    getObjectWithAccessControls world uniqueIdentifier .getAttributes
  let state ← get
  let attributes ← fromExcept
    (getAttributesFromManagedObject state.protocolVersion storedObject
      payload.attributeNames)
  return .getAttributes uniqueIdentifier attributes

/-- The response lists every name once. -/
def processGetAttributeList (payloadIdentifier : Option String) :
    EngineM ResponsePayload := do
  kmipVersionSupported ⟨1, 0⟩ "GetAttributeList"
  let uniqueIdentifier ← payloadOrPlaceholder payloadIdentifier
  let storedObject ←
    getObjectWithAccessControls world uniqueIdentifier .getAttributeList
  let state ← get
  let attributes ← fromExcept
    (getAttributesFromManagedObject state.protocolVersion storedObject [])
  return .getAttributeList uniqueIdentifier
    (attributes.map Attribute.attributeName).eraseDups

end Reading

end PyKMIP
