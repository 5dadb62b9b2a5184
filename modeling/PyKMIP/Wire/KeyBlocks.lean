import PyKMIP.Objects
import PyKMIP.Wire.Attributes
import PyKMIP.Wire.Encodings

/-!
# Key blocks

Key values and the key blocks around them.  An object that has been read keeps
the padding that the reader of its texts computes, so the format of the texts is
a parameter of every structure with texts: `textStringItem` for new objects,
`decodedTextItem` for decoded ones.
-/

namespace PyKMIP

open Formats

instance : Coded KeyCompressionType :=
  .inOrder KeyCompressionType.ctorIdx .ofNat 4
    KeyCompressionType.ofNat_ctorIdx
    (fun value => by cases value <;> decide) (by decide)

instance : Coded WrappingMethod :=
  .inOrder WrappingMethod.ctorIdx .ofNat 5 WrappingMethod.ofNat_ctorIdx
    (fun value => by cases value <;> decide) (by decide)

instance : Coded EncodingOption :=
  .inOrder EncodingOption.ctorIdx .ofNat 2 EncodingOption.ofNat_ctorIdx
    (fun value => by cases value <;> decide) Coded.two_few

namespace Wire

section Formats

/-- Decoded texts: a padding of eight bytes has not been read, and is
written. -/
def decodedTextItem (tag : Tag) : Item String where
  tag := tag
  encode value := writeTextString tag value (8 - value.toList.length % 8)
  decode := readTextString tag
  fits value := isAscii value && value.toList.length % 8 ≠ 0
  size value := 16 + value.toList.length / 8 * 8

/-- An item without texts. -/
def plainItem (item : Item α) : Item α := { item with fits := fun _ => true }

/-- A structure whose texts decide whether it is kept. -/
def fieldsItem (tag : Tag) (fields : Fields Tag CodecError β)
    (toFields : α → β) (ofFields : β → α) : Item α :=
  { structItem tag fields toFields ofFields with
    fits := fun value => fields.fits (toFields value) }

end Formats

section Values

variable (text : Tag → Item String)

def nameItemOf (tag : Tag) : Item NameStructure :=
  fieldsItem tag
    (.always ((text .nameValue).orUnset .attributeError) <|
      .always (plainItem ((enumerationItem NameType .nameType).orUnset
        .attributeError)) .nil)
    (fun name => (name.nameValue, name.nameType, ()))
    (fun (nameValue, nameType, ()) => ⟨nameValue, nameType⟩)

def applicationSpecificInformationItemOf (tag : Tag) :
    Item ApplicationInformationStructure :=
  fieldsItem tag
    (.demanded (text .applicationNamespace)
      (.invalidField ("The ApplicationSpecificInformation object is missing " ++
        "the ApplicationNamespace field."))
      (.invalidKmipEncoding ("The ApplicationSpecificInformation encoding is " ++
        "missing the ApplicationNamespace field.")) <|
      .demanded (text .applicationData)
      (.invalidField ("The ApplicationSpecificInformation object is missing " ++
        "the ApplicationData field."))
      (.invalidKmipEncoding ("The ApplicationSpecificInformation encoding is " ++
        "missing the ApplicationData field.")) .nil)
    (fun information =>
      (information.applicationNamespace, information.applicationData, ()))
    (fun (applicationNamespace, applicationData, ()) =>
      ⟨applicationNamespace, applicationData⟩)

/-- The items of a class, with texts of the format. -/
def ValueClass.itemOf (tag : Tag) :
    (valueClass : ValueClass) → Item valueClass.Data
  | .text => text tag
  | .name => nameItemOf text tag
  | .applicationSpecificInformation =>
      applicationSpecificInformationItemOf text tag
  | valueClass => plainItem (valueClass.item tag)

/-- `Attribute.write`, of an attribute with texts of the format. -/
def Attribute.writeOf (entry : Attribute) : Except CodecError Bytes :=
  writeStruct .attributeItem do
    let name ← (text .attributeName).encode entry.attributeName
    let index ← encodePresent (integerItem .attributeIndex)
      entry.attributeIndex
    let value ← (entry.attributeValue.valueClass.itemOf text
      .attributeValue).encode entry.attributeValue.data
    return name ++ (index ++ value)

def attributeItemOf : Item Attribute where
  tag := .attributeItem
  encode := Attribute.writeOf text
  decode := Attribute.read
  fits entry := (text .attributeName).fits entry.attributeName &&
    (entry.attributeValue.valueClass.itemOf text .attributeValue).fits
      entry.attributeValue.data
  size := attributeItem.size

theorem ValueClass.encode_itemOf_textStringItem
    (valueClass : ValueClass) (tag : Tag) (data : valueClass.Data) :
    (valueClass.itemOf textStringItem tag).encode data =
      (valueClass.item tag).encode data := by
  cases valueClass <;> rfl

/-- New attributes are written as before. -/
theorem Attribute.writeOf_textStringItem (entry : Attribute) :
    entry.writeOf textStringItem = entry.write .attributeValue := by
  unfold writeOf write ValueObject.write
  simp only [ValueClass.encode_itemOf_textStringItem]

end Values

section KeyValues

inductive KeyMaterial where
  | bytes (value : Bytes)
  | struct (data : Bytes)
deriving DecidableEq

def KeyMaterial.isBytes : KeyMaterial → Bool
  | .bytes _ => true
  | .struct _ => false

/-- `is_type_next`. -/
def nextTypeIs (type : ItemType) (input : Bytes) : Bool :=
  4 ≤ input.length &&
    BigEndian.decode ((input.take 4).drop 3) = type.code

/-- The rest of a local stream. -/
def readRest : Reader Bytes := fun input => .ok (input, [])

/-- `KeyMaterialStruct.read`: the data is not looked at. -/
def readKeyMaterialStruct : Reader Bytes :=
  readStruct .keyMaterial do
    let data ← readRest
    isOversized
    return data

def keyMaterialItem : Item KeyMaterial where
  tag := .keyMaterial
  encode
    | .bytes value => (byteStringItem .keyMaterial).encode value
    | .struct data => writeStruct .keyMaterial (.ok data)
  decode := do
    if nextTypeIs .struct (← get) then .struct <$> readKeyMaterialStruct
    else .bytes <$> (byteStringItem .keyMaterial).decode
  fits _ := true
  size
    | .bytes value => (byteStringItem .keyMaterial).size value
    | .struct data => 8 + data.length

/-- A key value, whose attributes are known as entries. -/
structure KeyValue (Entry : Type) where
  keyMaterial : KeyMaterial
  attributes : List Entry := []
deriving DecidableEq

/-- `KeyValue.validate`: the material must be a `KeyMaterial`, and a
`KeyMaterialStruct` is none. -/
def KeyMaterial.validate : KeyMaterial → Except CodecError Unit
  | .bytes _ => .ok ()
  | .struct _ => .error .typeError

variable {Entry : Type}

def keyValueFields (attributeItem : Item Entry) :
    Fields Tag CodecError (KeyMaterial × List Entry × Unit) :=
  .always keyMaterialItem <| .many attributeItem .nil

def keyValueItemOf (attributeItem : Item Entry) : Item (KeyValue Entry) where
  tag := .keyValue
  encode keyValue := writeStruct .keyValue
    ((keyValueFields attributeItem).encode
      (keyValue.keyMaterial, keyValue.attributes, ()))
  decode := readStruct .keyValue do
    let (keyMaterial, attributes, ()) ← readAll (keyValueFields attributeItem)
    keyMaterial.validate
    return { keyMaterial, attributes }
  fits keyValue := keyValue.keyMaterial.isBytes &&
    keyValue.attributes.all attributeItem.fits
  size keyValue := 8 + (keyValueFields attributeItem).size
    (keyValue.keyMaterial, keyValue.attributes, ())

def KeyValue.read : Reader (KeyValue Attribute) :=
  (keyValueItemOf (attributeItemOf textStringItem)).decode

/-- `KeyValue.write`, of an object that has been read. -/
def KeyValue.rewrite (keyValue : KeyValue Attribute) :
    Except CodecError Bytes :=
  (keyValueItemOf (attributeItemOf decodedTextItem)).encode keyValue

end KeyValues

section KeyBlocks

variable {Entry : Type} (text : Tag → Item String)

/-- Encryption and MAC/signature key information differ in their tags. -/
def keyInformationItemOf (tag : Tag) : Item KeyInformation :=
  fieldsItem tag
    (.demanded (text .uniqueIdentifier) .valueError .valueError <|
      .optional (plainItem (cryptographicParametersItem
        .cryptographicParameters)) .nil)
    (fun information =>
      (information.uniqueIdentifier, information.cryptographicParameters, ()))
    (fun (uniqueIdentifier, cryptographicParameters, ()) =>
      ⟨uniqueIdentifier, cryptographicParameters⟩)

def keyWrappingDataItemOf : Item KeyWrappingData :=
  fieldsItem .keyWrappingData
    (.demanded (enumerationItem WrappingMethod .wrappingMethod) .valueError
        .valueError <|
      .optional (keyInformationItemOf text .encryptionKeyInformation) <|
      .optional (keyInformationItemOf text .macSignatureKeyInformation) <|
      .optional (plainItem (byteStringItem .macSignature)) <|
      .optional (plainItem (byteStringItem .ivCounterNonce)) <|
      .optional (enumerationItem EncodingOption .encodingOption) .nil)
    (fun data => (data.wrappingMethod, data.encryptionKeyInformation,
      data.macSignatureKeyInformation, data.macSignature, data.ivCounterNonce,
      data.encodingOption, ()))
    (fun (wrappingMethod, encryptionKeyInformation, macSignatureKeyInformation,
        macSignature, ivCounterNonce, encodingOption, ()) =>
      ⟨wrappingMethod, encryptionKeyInformation, macSignatureKeyInformation,
        macSignature, ivCounterNonce, encodingOption⟩)

structure KeyBlock (Entry : Type) where
  keyFormatType : KeyFormatType
  keyCompressionType : Option KeyCompressionType
  keyValue : KeyValue Entry
  cryptographicAlgorithm : Option CryptographicAlgorithm
  cryptographicLength : Option Int
  keyWrappingData : Option KeyWrappingData
deriving DecidableEq

/-- The type of the format passes its check in `KeyBlock.validate`. -/
def keyBlockItemOf (attributeItem : Item Entry) : Item (KeyBlock Entry) :=
  fieldsItem .keyBlock
    (.always (enumerationItem KeyFormatType .keyFormatType) <|
      .optional (enumerationItem KeyCompressionType .keyCompressionType) <|
      .always (keyValueItemOf attributeItem) <|
      .optional (enumerationItem CryptographicAlgorithm
        .cryptographicAlgorithm) <|
      .optional (plainItem (integerItem .cryptographicLength)) <|
      .optional (keyWrappingDataItemOf text) .nil)
    (fun block => (block.keyFormatType, block.keyCompressionType,
      block.keyValue, block.cryptographicAlgorithm, block.cryptographicLength,
      block.keyWrappingData, ()))
    (fun (keyFormatType, keyCompressionType, keyValue, cryptographicAlgorithm,
        cryptographicLength, keyWrappingData, ()) =>
      ⟨keyFormatType, keyCompressionType, keyValue, cryptographicAlgorithm,
        cryptographicLength, keyWrappingData⟩)

def KeyBlock.read : Reader (KeyBlock Attribute) :=
  (keyBlockItemOf textStringItem (attributeItemOf textStringItem)).decode

/-- `KeyBlock.write`, of an object that has been read. -/
def KeyBlock.rewrite (block : KeyBlock Attribute) : Except CodecError Bytes :=
  (keyBlockItemOf decodedTextItem (attributeItemOf decodedTextItem)).encode block

end KeyBlocks

end Wire

end PyKMIP
