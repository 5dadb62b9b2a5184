import PyKMIP.Wire.AttributeValues

/-!
# Attribute lists

The two forms of attribute lists: the template attributes of the 1.x protocol
versions, whose attributes carry their names, and the attributes structure of
version 2.0, whose values carry the tags of their names.
-/

namespace PyKMIP.Wire

open Formats

section Names

/-- `name.replace('.', '_').replace(' ', '_').upper()`, of a name that has been
read and consists of ASCII characters. -/
def enumName (name : String) : List Char :=
  name.toList.map fun char =>
    if char = '.' ∨ char = ' ' then '_' else char.toUpper

/-- `AttributeType[enum_name]`; a member is named after its value. -/
def attributeTypeOf? (name : String) : Option AttributeType :=
  AttributeType.all.find? fun type => enumName type.value = enumName name

/-- The class of the value that is created for an attribute name. -/
def nameValueClass (name : String) : Except CodecError ValueClass :=
  match attributeTypeOf? name with
  | some type => attributeValueClass type
  | none =>
      if isCustomName name then .ok .text
      else .error
        (.exception ("No value type for " ++ String.ofList (enumName name)))

theorem attributeTypeOf?_value (type : AttributeType) :
    attributeTypeOf? type.value = some type := by
  cases type <;> decide

theorem nameValueClass_value (type : AttributeType) :
    nameValueClass type.value = attributeValueClass type := by
  unfold nameValueClass
  rw [attributeTypeOf?_value]

/-- A dash is left as it is, and no member has one. -/
theorem attributeTypeOf?_custom {name : String} (custom : isCustomName name) :
    attributeTypeOf? name = none := by
  have dash : '-' ∈ name.toList := by
    obtain ⟨rest, split⟩ := List.isPrefixOf_iff_prefix.mp custom
    rw [← split]
    simp
  have kept : '-' ∈ enumName name := List.mem_map.mpr ⟨'-', dash, by decide⟩
  apply List.find?_eq_none.mpr
  intro type member same
  have without : ∀ type ∈ AttributeType.all, '-' ∉ enumName type.value := by
    decide
  apply without type member
  rw [of_decide_eq_true same]
  exact kept

theorem nameValueClass_custom {name : String} (custom : isCustomName name) :
    nameValueClass name = .ok .text := by
  unfold nameValueClass
  rw [attributeTypeOf?_custom custom]
  exact if_pos custom

end Names

section TemplateAttributes

structure Attribute where
  attributeName : String
  attributeIndex : Option Int
  attributeValue : ValueObject
deriving DecidableEq

/-- `Attribute.write`: the value is written under the tag that it carries. -/
def Attribute.write (valueTag : Tag) (entry : Attribute) :
    Except CodecError Bytes :=
  writeStruct .attributeItem do
    let name ← (textStringItem .attributeName).encode entry.attributeName
    let index ← encodePresent (integerItem .attributeIndex)
      entry.attributeIndex
    let value ← entry.attributeValue.write valueTag
    return name ++ (index ++ value)

def Attribute.readFields : Reader Attribute := do
  let attributeName ← (textStringItem .attributeName).decode
  let attributeIndex ← decodeIfNext nextTag (integerItem .attributeIndex)
  let valueClass ← (nameValueClass attributeName : Except CodecError ValueClass)
  let attributeValue ← valueClass.read .attributeValue
  isOversized
  return { attributeName, attributeIndex, attributeValue }

def Attribute.read : Reader Attribute :=
  readStruct .attributeItem readFields

/-- The value has the class that its name stands for. -/
def Attribute.wellNamed (entry : Attribute) : Bool :=
  match nameValueClass entry.attributeName with
  | .ok valueClass => valueClass = entry.attributeValue.valueClass
  | .error _ => false

theorem Attribute.wellNamed_iff {entry : Attribute} :
    entry.wellNamed ↔
      nameValueClass entry.attributeName =
        .ok entry.attributeValue.valueClass := by
  unfold wellNamed
  cases nameValueClass entry.attributeName <;> simp

theorem Attribute.shows_write
    {valueTag : Tag} {entry : Attribute} {bytes : Bytes}
    (written : entry.write valueTag = .ok bytes) (rest : Bytes) :
    nextTag (bytes ++ rest) = some .attributeItem :=
  shows_of_writeStruct written rest

theorem Attribute.reads_write
    {entry : Attribute} {bytes : Bytes} (named : entry.wellNamed)
    (written : entry.write .attributeValue = .ok bytes) :
    Reads Attribute.read bytes entry := by
  apply reads_readStruct written
  intro tstream fields
  obtain ⟨name, encodedName, fields⟩ := bind_eq_ok fields
  obtain ⟨index, encodedIndex, fields⟩ := bind_eq_ok fields
  obtain ⟨value, encodedValue, fields⟩ := bind_eq_ok fields
  cases fields
  have absent : nextTag value ≠ some (integerItem .attributeIndex).tag := by
    have shown := ValueObject.shows_write encodedValue []
    rw [List.append_nil] at shown
    rw [shown]
    decide
  have reads := ValueObject.reads_write encodedValue []
  rw [List.append_nil] at reads
  refine ⟨[], ?_⟩
  have looked : (liftM (nameValueClass entry.attributeName) :
      Reader ValueClass).run value =
      .ok (entry.attributeValue.valueClass, value) := by
    rw [wellNamed_iff.mp named]
    rfl
  unfold readFields
  rw [run_bind_ok ((lawful_textStringItem _).reads encodedName _),
    run_bind_ok (run_decodeIfNext (lawful_integerItem _) encodedIndex absent),
    run_bind_ok looked, run_bind_ok reads]
  rfl

/-- The attributes as items of a structure. -/
def attributeItem : Item Attribute where
  tag := .attributeItem
  encode := Attribute.write .attributeValue
  decode := Attribute.read
  fits entry := (textStringItem .attributeName).fits entry.attributeName &&
    (entry.attributeIndex.all (integerItem .attributeIndex).fits &&
      entry.attributeValue.fits) &&
    (textStringItem .attributeName).size entry.attributeName +
      (entry.attributeIndex.elim 0 (integerItem .attributeIndex).size +
        entry.attributeValue.size) < 256 ^ 4
  size entry := 8 + ((textStringItem .attributeName).size entry.attributeName +
    (entry.attributeIndex.elim 0 (integerItem .attributeIndex).size +
      entry.attributeValue.size))

/-- Neither depends on the tag of the value. -/
theorem Attribute.yields_write (valueTag : Tag) (entry : Attribute) :
    Yields (entry.write valueTag) (attributeItem.fits entry)
      (attributeItem.size entry) := by
  have name := sized_textStringItem .attributeName entry.attributeName
  have index := yields_encodePresent (sized_integerItem .attributeIndex)
    entry.attributeIndex
  have value := entry.attributeValue.yields_write valueTag
  exact yields_writeStruct (name.append_append index value)

structure TemplateAttribute where
  names : List NameStructure := []
  attributes : List Attribute := []
  tag : Tag := .templateAttribute
deriving DecidableEq

def templateFields :
    Fields Tag CodecError (List NameStructure × List Attribute × Unit) :=
  .many (nameItem .name) <| .many attributeItem .nil

def TemplateAttribute.write (template : TemplateAttribute) :
    Except CodecError Bytes :=
  writeStruct template.tag
    (templateFields.encode (template.names, template.attributes, ()))

def TemplateAttribute.read (tag : Tag) : Reader TemplateAttribute :=
  readStruct tag do
    let (names, attributes, ()) ← readAll templateFields
    return { names, attributes, tag }

/-- Whether all names and attributes have encodings, which fit into one
structure. -/
def TemplateAttribute.fits (template : TemplateAttribute) : Bool :=
  templateFields.fits (template.names, template.attributes, ()) &&
    templateFields.size (template.names, template.attributes, ()) < 256 ^ 4

theorem TemplateAttribute.yields_write (template : TemplateAttribute) :
    Yields template.write template.fits
      (8 + templateFields.size (template.names, template.attributes, ())) := by
  apply yields_writeStruct
  apply Fields.yields_encode
  exact ⟨sized_nameItem _, Attribute.yields_write _, trivial⟩

/-- The attributes whose values fit their names. -/
def namedItem : Item Attribute :=
  attributeItem.guarded Attribute.wellNamed .valueError

def namedFields :
    Fields Tag CodecError (List NameStructure × List Attribute × Unit) :=
  .many (nameItem .name) <| .many namedItem .nil

theorem lawful_namedItem : namedItem.Lawful nextTag := by
  constructor
  · intro entry bytes encoded
    unfold namedItem Format.guarded at encoded
    dsimp only at encoded
    split at encoded
    · exact Attribute.shows_write encoded
    · cases encoded
  · intro entry bytes encoded
    unfold namedItem Format.guarded at encoded
    dsimp only at encoded
    split at encoded
    · rename_i named
      exact Attribute.reads_write named encoded
    · cases encoded

theorem encode_namedFields
    {names : List NameStructure} {attributes : List Attribute}
    (named : ∀ entry ∈ attributes, entry.wellNamed) :
    namedFields.encode (names, attributes, ()) =
      templateFields.encode (names, attributes, ()) := by
  have same : encodeMany namedItem attributes =
      encodeMany attributeItem attributes := encodeMany_guarded named
  unfold namedFields templateFields
  simp only [Fields.encode, same]

theorem decode_namedFields :
    namedFields.decode nextTag = templateFields.decode nextTag := by
  have same : decodeMany nextTag namedItem = decodeMany nextTag attributeItem :=
    decodeMany_guarded
  unfold namedFields templateFields
  simp only [Fields.decode, same]

theorem TemplateAttribute.reads_write
    {template : TemplateAttribute} {bytes : Bytes}
    (named : ∀ entry ∈ template.attributes, entry.wellNamed)
    (written : template.write = .ok bytes) :
    Reads (TemplateAttribute.read template.tag) bytes template := by
  apply reads_readStruct written
  intro tstream encoded
  have ran : (readAll namedFields).run tstream =
      .ok ((template.names, template.attributes, ()), []) := by
    apply run_readAll
    · exact ⟨lawful_nameItem _, lawful_namedItem, trivial⟩
    · decide
    · exact (encode_namedFields named).trans encoded
  have same : readAll namedFields = readAll templateFields := by
    unfold readAll
    rw [decode_namedFields]
  rw [same] at ran
  refine ⟨[], ?_⟩
  rw [run_bind_ok ran]
  rfl

end TemplateAttributes

section Attributes

/-- What the attributes structure raises of its own, and the errors of the
values; the messages tell the tag and the version. -/
inductive AttributesError where
  | attributeNotSupported (tag : Tag) (version : KmipVersion)
  | versionNotSupported (version : KmipVersion)
  | codec (exception : CodecError)
deriving DecidableEq

/-- The values with the tags that they carry. -/
structure Attributes where
  attributes : List (Tag × ValueObject) := []
  tag : Tag := .attributes
deriving DecidableEq

def writeTagged (tag : Tag) (value : ValueObject) :
    Except AttributesError Bytes :=
  (value.write tag).mapError .codec

/-- The loop of `Attributes.write`. -/
def writeValues (version : KmipVersion) :
    List (Tag × ValueObject) → Except AttributesError Bytes
  | [] => .ok []
  | (tag, value) :: rest =>
      if isAttribute tag (some version) then do
        let bytes ← writeTagged tag value
        let others ← writeValues version rest
        return bytes ++ others
      else .error (.attributeNotSupported tag version)

def Attributes.write (version : KmipVersion) (attributes : Attributes) :
    Except AttributesError Bytes :=
  if .kmip20 ≤ version then do
    let localStream ← writeValues version attributes.attributes
    let header ← (writeBase attributes.tag .struct localStream.length).mapError
      .codec
    return header ++ localStream
  else .error (.versionNotSupported version)

/-- A value is created for the tag and read. -/
def readTagged (tag : Tag) : Reader ValueObject := do
  let valueClass ← (tagValueClass tag : Except CodecError ValueClass)
  valueClass.read tag

def liftReader (reader : Reader α) : Decoder AttributesError α := fun input =>
  (reader.run input).mapError .codec

/-- The loop of `Attributes.read`, which ends where no known tag comes next. -/
def readValues (version : KmipVersion) :
    Nat → Decoder AttributesError (List (Tag × ValueObject))
  | 0 => return []
  | fuel + 1 => do
      match nextTag (← get) with
      | none => return []
      | some tag =>
          if isAttribute tag (some version) then
            let value ← liftReader (readTagged tag)
            let others ← readValues version fuel
            return (tag, value) :: others
          else throw (.attributeNotSupported tag version)

/-- Every value takes at least a byte, and nothing follows the last one. -/
def readAllValues (version : KmipVersion) :
    Decoder AttributesError (List (Tag × ValueObject)) := do
  let attributes ← readValues version (← get).length
  liftReader isOversized
  return attributes

def Attributes.read (tag : Tag) (version : KmipVersion) :
    Decoder AttributesError Attributes := do
  if .kmip20 ≤ version then
    let length ← liftReader (readBase tag .struct)
    let localStream ← take length
    match (readAllValues version).run localStream with
    | .ok (attributes, _) => return { attributes, tag }
    | .error exception => throw exception
  else throw (.versionNotSupported version)

end Attributes

section Conversions

/-- The check of `Attributes.attributes`. -/
def Attributes.make (attributes : List (Tag × ValueObject)) (tag : Tag) :
    Except CodecError Attributes :=
  if attributes.all fun (tag, _) => isAttribute tag none then
    .ok { attributes, tag }
  else .error .typeError

def attributesTag : Tag → Tag
  | .commonTemplateAttribute => .commonAttributes
  | .privateKeyTemplateAttribute => .privateKeyAttributes
  | .publicKeyTemplateAttribute => .publicKeyAttributes
  | _ => .attributes

def templateTag : Tag → Tag
  | .commonAttributes => .commonTemplateAttribute
  | .privateKeyAttributes => .privateKeyTemplateAttribute
  | .publicKeyAttributes => .publicKeyTemplateAttribute
  | _ => .templateAttribute

/-- The tag under which a value takes part in the other form. -/
def Attribute.tagged (entry : Attribute) : Except CodecError (Tag × ValueObject) :=
  match convertAttributeNameToTag entry.attributeName with
  | some tag => .ok (tag, entry.attributeValue)
  | none => .error .valueError

/-- The names of the template are left out. -/
def convertTemplateAttributeToAttributes (value : TemplateAttribute) :
    Except CodecError Attributes := do
  let attributeValues ← value.attributes.mapM Attribute.tagged
  Attributes.make attributeValues (attributesTag value.tag)

def named (tagged : Tag × ValueObject) : Except CodecError Attribute :=
  match convertAttributeTagToName tagged.1 with
  | some attributeName =>
      .ok { attributeName, attributeIndex := none, attributeValue := tagged.2 }
  | none => .error .valueError

def convertAttributesToTemplateAttribute (value : Attributes) :
    Except CodecError TemplateAttribute := do
  let attributes ← value.attributes.mapM named
  return { attributes, tag := templateTag value.tag }

end Conversions

end PyKMIP.Wire
