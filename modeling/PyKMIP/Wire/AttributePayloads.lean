import PyKMIP.Lib.StatefulExcept
import PyKMIP.Wire.Attributes

/-!
# Payloads that hold attributes

The value of an attribute is an object of its own, and the tag under which it
is written is part of the state of that object.  The writers of the payloads
run over these tags: the conversion to the form of version 2.0 changes them.
-/

namespace PyKMIP.Wire

open Formats StatefulExcept

section Objects

/-- The tags that the value objects carry. -/
abbrev ValueTags := Nat → Tag

/-- `Attribute.__init__` gives every value this tag. -/
def freshTags : ValueTags := fun _ => .attributeValue

/-- An attribute, with a reference to its value object. -/
structure HeldAttribute where
  attributeName : String
  attributeIndex : Option Int := none
  reference : Nat
deriving DecidableEq

variable (objects : Nat → ValueObject)

/-- The attribute with the value that the object has. -/
def HeldAttribute.entry (held : HeldAttribute) : Attribute where
  attributeName := held.attributeName
  attributeIndex := held.attributeIndex
  attributeValue := objects held.reference

/-- The attribute and the tag that its value carries. -/
def HeldAttribute.carried (tags : ValueTags) (held : HeldAttribute) :
    Tag × Attribute :=
  (tags held.reference, held.entry objects)

/-- The loop of `convert_template_attribute_to_attributes`: a name that is not
known ends it, and the tags set before remain. -/
def convertAttributes : List HeldAttribute → EStateM AttributesError ValueTags Unit
  | [] => return ()
  | held :: rest => do
      match convertAttributeNameToTag held.attributeName with
      | none => throw (.codec .valueError)
      | some tag => do
          modify fun tags reference =>
            if reference = held.reference then tag else tags reference
          convertAttributes rest

end Objects

section Layouts

/-- Attributes are the content of a template attribute, or stand in the payload
itself. -/
inductive Place where
  | template (tag : Tag) (names : List NameStructure)
  | payload
deriving DecidableEq

/-- The order in which a payload or message writes its fields, the attributes
among them. -/
inductive Layout (α : Type) where
  | other (write : KmipVersion → Except CodecError Bytes)
  | attributes (place : Place) (entries : List α)
  | seq (first second : Layout α)
  | struct (tag : Tag) (fields : Layout α)

def Layout.mapLists (change : List α → List β) : Layout α → Layout β
  | .other write => .other write
  | .attributes place entries => .attributes place (change entries)
  | .seq first second => .seq (first.mapLists change) (second.mapLists change)
  | .struct tag fields => .struct tag (fields.mapLists change)

def Layout.map (change : α → β) (layout : Layout α) : Layout β :=
  layout.mapLists (List.map change)

/-- The attribute lists of a layout. -/
def Layout.lists : Layout α → List (List α)
  | .other _ => []
  | .attributes _ entries => [entries]
  | .seq first second => first.lists ++ second.lists
  | .struct _ fields => fields.lists

def Place.structureTag : Place → Tag
  | .template tag _ => attributesTag tag
  | .payload => .attributes

/-- What a place adds to its attributes in the 1.x versions. -/
def Place.encode (attributes : Except CodecError Bytes) :
    Place → Except CodecError Bytes
  | .template tag names => writeStruct tag do
      return (← encodeMany (nameItem .name) names) ++ (← attributes)
  | .payload => attributes

def writeEntries : List (Tag × Attribute) → Except CodecError Bytes
  | [] => .ok []
  | (tag, entry) :: rest => do
      return (← entry.write tag) ++ (← writeEntries rest)

def taggedValues (entries : List (Tag × Attribute)) : List (Tag × ValueObject) :=
  entries.map fun (tag, entry) => (tag, entry.attributeValue)

/-- Attributes whose values carry the given tags. -/
def encodeAttributes (version : KmipVersion) (place : Place)
    (entries : List (Tag × Attribute)) : Except AttributesError Bytes :=
  if .kmip20 ≤ version then do
    let attributes ← (Attributes.make (taggedValues entries)
      place.structureTag).mapError .codec
    attributes.write version
  else (place.encode (writeEntries entries)).mapError .codec

/-- The fields of a structure and its header. -/
def enclose (tag : Tag) (fields : Bytes) : Except AttributesError Bytes := do
  let header ← (writeBase tag .struct fields.length).mapError .codec
  return header ++ fields

/-- The writers of all payloads and messages. -/
def Layout.write (objects : Nat → ValueObject) (version : KmipVersion) :
    Layout HeldAttribute → EStateM AttributesError ValueTags Bytes
  | .other write => fromExcept ((write version).mapError .codec)
  | .attributes place held => do
      if .kmip20 ≤ version then convertAttributes held
      let tags ← get
      fromExcept (encodeAttributes version place
        (held.map (·.carried objects tags)))
  | .seq first second => do
      let bytes ← first.write objects version
      let others ← second.write objects version
      return bytes ++ others
  | .struct tag fields => do
      let localBuffer ← fields.write objects version
      fromExcept (enclose tag localBuffer)

end Layouts

section Payloads

namespace Layout

variable {α : Type}

def nothing : Layout α := .other fun _ => .ok []

def all (layouts : List (Layout α)) : Layout α := layouts.foldr .seq nothing

/-- A field that is written if it is present. -/
def optional (item : Item β) (value : Option β) : Layout α :=
  .other fun _ => encodePresent item value

/-- A field whose absence is refused. -/
def demanded (item : Item β) (message : String) (value : Option β) : Layout α :=
  .other fun _ => encodeDemanded item (.invalidField message) value

def missing (message : String) : Layout α :=
  .other fun _ => .error (.invalidField message)

/-- A field that is written from version 2.0 on. -/
def recent (item : Item β) (value : Option β) : Layout α :=
  .other fun version =>
    if .kmip20 ≤ version then encodePresent item value else .ok []

end Layout

inductive ObjectGroupMember where
  | groupMemberFresh | groupMemberDefault
deriving DecidableEq

instance : Coded ObjectGroupMember :=
  .inOrder ObjectGroupMember.ctorIdx .ofNat 2 ObjectGroupMember.ofNat_ctorIdx
    (fun value => by cases value <;> decide) Coded.two_few

instance : Coded DerivationMethod :=
  .inOrder DerivationMethod.ctorIdx .ofNat 10 DerivationMethod.ofNat_ctorIdx
    (fun value => by cases value <;> decide) Coded.ten_few

structure HeldTemplate where
  tag : Tag := .templateAttribute
  names : List NameStructure := []
  attributes : List HeldAttribute := []

def HeldTemplate.layout (template : HeldTemplate) : Layout HeldAttribute :=
  .attributes (.template template.tag template.names) template.attributes

def demandedTemplate (message : String) : Option HeldTemplate →
    Layout HeldAttribute
  | some template => template.layout
  | none => .missing message

def optionalTemplate (template : Option HeldTemplate) : Layout HeldAttribute :=
  template.elim .nothing HeldTemplate.layout

def protectionStorageMasksItem (tag : Tag) : Item (List Int) :=
  structItem tag (.many (integerItem .protectionStorageMask) .nil)
    (fun masks => (masks, ())) (fun (masks, ()) => masks)

structure LocateRequestPayload where
  maximumItems : Option Int := none
  offsetItems : Option Int := none
  storageStatusMask : Option Int := none
  objectGroupMember : Option ObjectGroupMember := none
  attributes : List HeldAttribute := []

def LocateRequestPayload.layout (payload : LocateRequestPayload) :
    Layout HeldAttribute :=
  .struct .requestPayload <| .all
    [.optional (integerItem .maximumItems) payload.maximumItems,
     .optional (integerItem .offsetItems) payload.offsetItems,
     .optional (integerItem .storageStatusMask) payload.storageStatusMask,
     .optional (enumerationItem ObjectGroupMember .objectGroupMember)
       payload.objectGroupMember,
     if payload.attributes = [] then .nothing
     else .attributes .payload payload.attributes]

structure CreateRequestPayload where
  objectType : Option ObjectType := none
  templateAttribute : Option HeldTemplate := none
  protectionStorageMasks : Option (List Int) := none

def CreateRequestPayload.layout (payload : CreateRequestPayload) :
    Layout HeldAttribute :=
  .struct .requestPayload <| .all
    [.demanded (enumerationItem ObjectType .objectType)
       "The Create request payload is missing the object type field."
       payload.objectType,
     demandedTemplate
       "The Create request payload is missing the template attribute field."
       payload.templateAttribute,
     .recent (protectionStorageMasksItem .protectionStorageMasks)
       payload.protectionStorageMasks]

structure CreateKeyPairRequestPayload where
  commonTemplateAttribute : Option HeldTemplate := none
  privateKeyTemplateAttribute : Option HeldTemplate := none
  publicKeyTemplateAttribute : Option HeldTemplate := none
  commonProtectionStorageMasks : Option (List Int) := none
  privateProtectionStorageMasks : Option (List Int) := none
  publicProtectionStorageMasks : Option (List Int) := none

def CreateKeyPairRequestPayload.layout (payload : CreateKeyPairRequestPayload) :
    Layout HeldAttribute :=
  .struct .requestPayload <| .all
    [optionalTemplate payload.commonTemplateAttribute,
     optionalTemplate payload.privateKeyTemplateAttribute,
     optionalTemplate payload.publicKeyTemplateAttribute,
     .recent (protectionStorageMasksItem .commonProtectionStorageMasks)
       payload.commonProtectionStorageMasks,
     .recent (protectionStorageMasksItem .privateProtectionStorageMasks)
       payload.privateProtectionStorageMasks,
     .recent (protectionStorageMasksItem .publicProtectionStorageMasks)
       payload.publicProtectionStorageMasks]

/-- The managed object is written as it is; the attributes that it may hold share
no value with those of the payload. -/
structure RegisterRequestPayload where
  objectType : Option ObjectType := none
  templateAttribute : Option HeldTemplate := none
  managedObject : Option (KmipVersion → Except CodecError Bytes) := none
  protectionStorageMasks : Option (List Int) := none

def RegisterRequestPayload.layout (payload : RegisterRequestPayload) :
    Layout HeldAttribute :=
  .struct .requestPayload <| .all
    [.demanded (enumerationItem ObjectType .objectType)
       "The Register request payload is missing the object type field."
       payload.objectType,
     demandedTemplate
       "The Register request payload is missing the template attribute field."
       payload.templateAttribute,
     payload.managedObject.elim
       (.missing
         "The Register request payload is missing the managed object field.")
       .other,
     .recent (protectionStorageMasksItem .protectionStorageMasks)
       payload.protectionStorageMasks]

structure DerivationParametersStructure where
  cryptographicParameters : Option CryptographicParameters := none
  initializationVector : Option Bytes := none
  derivationData : Option Bytes := none
  salt : Option Bytes := none
  iterationCount : Option Int := none

def derivationParametersItem : Item DerivationParametersStructure :=
  structItem .derivationParameters
    (.optional (cryptographicParametersItem .cryptographicParameters) <|
      .optional (byteStringItem .initializationVector) <|
      .optional (byteStringItem .derivationData) <|
      .optional (byteStringItem .salt) <|
      .optional (integerItem .iterationCount) .nil)
    (fun parameters => (parameters.cryptographicParameters,
      parameters.initializationVector, parameters.derivationData,
      parameters.salt, parameters.iterationCount, ()))
    (fun (cryptographicParameters, initializationVector, derivationData, salt,
        iterationCount, ()) =>
      ⟨cryptographicParameters, initializationVector, derivationData, salt,
        iterationCount⟩)

structure DeriveKeyRequestPayload where
  objectType : Option ObjectType := none
  uniqueIdentifiers : List String := []
  derivationMethod : Option DerivationMethod := none
  derivationParameters : Option DerivationParametersStructure := none
  templateAttribute : Option HeldTemplate := none

def DeriveKeyRequestPayload.layout (payload : DeriveKeyRequestPayload) :
    Layout HeldAttribute :=
  .struct .requestPayload <| .all
    [.demanded (enumerationItem ObjectType .objectType)
       "The DeriveKey request payload is missing the object type field."
       payload.objectType,
     if payload.uniqueIdentifiers = [] then
       .missing ("The DeriveKey request payload is missing the unique " ++
         "identifiers field.")
     else .other fun _ =>
       encodeMany (textStringItem .uniqueIdentifier) payload.uniqueIdentifiers,
     .demanded (enumerationItem DerivationMethod .derivationMethod)
       "The DeriveKey request payload is missing the derivation method field."
       payload.derivationMethod,
     .demanded derivationParametersItem
       ("The DeriveKey request payload is missing the derivation parameters " ++
         "field.")
       payload.derivationParameters,
     demandedTemplate
       "The DeriveKey request payload is missing the template attribute field."
       payload.templateAttribute]

structure GetAttributesResponsePayload where
  uniqueIdentifier : Option String := none
  attributes : List HeldAttribute := []

def GetAttributesResponsePayload.layout
    (payload : GetAttributesResponsePayload) : Layout HeldAttribute :=
  .struct .responsePayload <| .all
    [.demanded (textStringItem .uniqueIdentifier)
       ("The GetAttributes response payload is missing the unique identifier " ++
         "field.")
       payload.uniqueIdentifier,
     if payload.attributes = [] then .other fun version =>
       if .kmip20 ≤ version then .error (.invalidField
         "The GetAttributes response payload is missing the attributes list.")
       else .ok []
     else .attributes .payload payload.attributes]

inductive AttributePayload where
  | locate (payload : LocateRequestPayload)
  | create (payload : CreateRequestPayload)
  | createKeyPair (payload : CreateKeyPairRequestPayload)
  | register (payload : RegisterRequestPayload)
  | deriveKey (payload : DeriveKeyRequestPayload)
  | getAttributes (payload : GetAttributesResponsePayload)

def AttributePayload.layout : AttributePayload → Layout HeldAttribute
  | .locate payload => payload.layout
  | .create payload => payload.layout
  | .createKeyPair payload => payload.layout
  | .register payload => payload.layout
  | .deriveKey payload => payload.layout
  | .getAttributes payload => payload.layout

/-- A batch item: what it writes before its payload, the payload, and its
message extension. -/
structure PayloadBatchItem where
  fields : KmipVersion → Except CodecError Bytes
  payload : AttributePayload
  messageExtension : KmipVersion → Except CodecError Bytes

def PayloadBatchItem.layout (item : PayloadBatchItem) : Layout HeldAttribute :=
  .struct .batchItem <|
    .all [.other item.fields, item.payload.layout, .other item.messageExtension]

/-- What holds attributes: a payload, or a message with batch items. -/
inductive AttributeHolder where
  | payload (held : AttributePayload)
  | message (tag : Tag) (header : KmipVersion → Except CodecError Bytes)
      (batchItems : List PayloadBatchItem)

def AttributeHolder.layout : AttributeHolder → Layout HeldAttribute
  | .payload held => held.layout
  | .message tag header batchItems => .struct tag <|
      .all (.other header :: batchItems.map PayloadBatchItem.layout)

end Payloads

end PyKMIP.Wire
