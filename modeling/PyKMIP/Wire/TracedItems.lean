import PyKMIP.Lib.Traces
import PyKMIP.Wire.AttributePayloads
import PyKMIP.Wire.KeyBlocks
import PyKMIP.Wire.PrimitiveObjects

/-!
# Traced items

Tracers of the items that requests consist of.  A primitive item has no nested
readers, and its decoder takes at least the eight bytes of the header.
-/

namespace PyKMIP

open Formats Traces

section Headers

theorem takes_readTag (tag : Tag) : Takes 3 (readTag tag) := by
  refine Takes.full .structError ?_ ?_
  · intro bytes
    refine .ite (.throw _ _) ?_
    cases Tag.ofCode? (BigEndian.decode bytes) with
    | none => exact .throw _ _
    | some found => exact .ite (.throw _ _) (.pure ())
  · intro bytes rest short
    rw [if_pos short]
    rfl

theorem takes_readType (type : ItemType) : Takes 1 (readType type) := by
  refine Takes.full (.readValueError "Base" "type") ?_ ?_
  · intro bytes
    refine .ite (.throw _ _) ?_
    cases ItemType.ofCode? (BigEndian.decode bytes) with
    | none => exact .throw _ _
    | some found => exact .ite (.throw _ _) (.pure ())
  · intro bytes rest short
    rw [if_pos short]
    rfl

theorem takes_readLength : Takes 4 readLength := by
  refine Takes.full (.readValueError "Base" "length") ?_ ?_
  · intro bytes
    exact .ite (.throw _ _) (.pure _)
  · intro bytes rest short
    rw [if_pos short]
    rfl

theorem takes_readBase (tag : Tag) (type : ItemType) :
    Takes 8 (readBase tag type) :=
  (takes_readTag tag).bind fun _ =>
    (takes_readType type).bind fun _ => takes_readLength

end Headers

section Primitives

theorem takes_unpack (width : Nat) : Takes 0 (unpack width) :=
  (Takes.take width).first fun _ => .ite (.pure _) (.throw _ _)

theorem takes_unpackSigned (width : Nat) : Takes 0 (unpackSigned width) :=
  (Takes.take width).first fun _ => .ite (.pure _) (.throw _ _)

theorem takes_unpackChars (count : Nat) : Takes 0 (unpackChars count) := by
  induction count with
  | zero => exact .pure []
  | succ count ih =>
      refine (Takes.take 1).first fun bytes => ?_
      match bytes with
      | [] => exact .throw _ _
      | [byte] => exact .ite (ih.first fun _ => .pure _) (.throw _ _)
      | _ :: _ :: _ => exact .throw _ _

theorem takes_unpackBytes (count : Nat) : Takes 0 (unpackBytes count) := by
  induction count with
  | zero => exact .pure []
  | succ count ih =>
      refine (Takes.take 1).first fun bytes => ?_
      match bytes with
      | [] => exact .throw _ _
      | [byte] => exact ih.first fun _ => .pure _
      | _ :: _ :: _ => exact .throw _ _

theorem takes_readPadding (count : Nat) : Takes 0 (readPadding count) := by
  induction count with
  | zero => exact .pure ()
  | succ count ih =>
      exact (takes_unpack 1).first fun _ => .ite (.throw _ _) ih

theorem takes_readInteger (tag : Tag) : Takes 8 (readInteger tag) :=
  (takes_readBase tag .integer).first fun _ => .ite (.throw _ _)
    ((takes_unpackSigned 4).first fun _ => (takes_unpackSigned 4).first fun _ =>
      .ite (.throw _ _) (.pure _))

theorem takes_readLongInteger (type : ItemType) (tag : Tag) :
    Takes 8 (readLongInteger type tag) :=
  (takes_readBase tag type).first fun _ => .ite (.throw _ _)
    (takes_unpackSigned 8)

theorem takes_readEnumeration (ofCode? : Nat → Option α) (tag : Tag) :
    Takes 8 (readEnumeration ofCode? tag) := by
  refine (takes_readBase tag .enumeration).first fun _ => .ite (.throw _ _)
    ((takes_unpack 4).first fun code => ?_)
  cases ofCode? code with
  | none => exact .throw _ _
  | some value =>
      exact (takes_unpack 4).first fun _ => .ite (.throw _ _) (.pure _)

theorem takes_readBoolean (tag : Tag) : Takes 8 (readBoolean tag) :=
  (takes_readBase tag .boolean).first fun _ => (takes_unpack 8).first fun _ =>
    .ite (.pure _) (.ite (.pure _) (.throw _ _))

theorem takes_readInterval (tag : Tag) : Takes 8 (readInterval tag) :=
  (takes_readBase tag .interval).first fun _ => .ite (.throw _ _)
    ((takes_unpack 4).first fun _ => (takes_unpack 4).first fun _ =>
      .ite (.throw _ _) (.pure _))

theorem takes_readTextString (tag : Tag) : Takes 8 (readTextString tag) :=
  (takes_readBase tag .textString).first fun length =>
    (takes_unpackChars length).first fun _ =>
      .ite ((takes_readPadding _).first fun _ => .pure _) (.pure _)

theorem takes_readByteString (tag : Tag) : Takes 8 (readByteString tag) :=
  (takes_readBase tag .byteString).first fun length =>
    (takes_unpackBytes length).first fun _ =>
      (takes_readPadding _).first fun _ => .pure _

theorem takes_unpackBits (count : Nat) : Takes 0 (BigInteger.unpackBits count) := by
  induction count with
  | zero => exact .pure []
  | succ count ih =>
      exact (takes_unpack 1).first fun _ => ih.first fun _ => .pure _

theorem takes_bigInteger (tag : Tag) : Takes 8 (BigInteger.read tag) := by
  refine (takes_readBase tag .bigInteger).first fun length => .ite (.throw _ _)
    ((takes_unpackBits length).first fun bits => ?_)
  cases BigInteger.ofBits bits with
  | error exception => exact .throw 0 exception
  | ok value => exact .pure _

end Primitives

section Items

/-- The item of a primitive type. -/
def tracedPrimitive {item : Item α} (takes : Takes 8 item.decode) :
    Traced 8 item where
  tracer := .ofDecoder item.decode
  sound := .ofDecoder takes
  erases := .ofDecoder item.decode

def tracedInteger (tag : Tag) : Traced 8 (integerItem tag) :=
  tracedPrimitive (takes_readInteger tag)

def tracedLongInteger (tag : Tag) : Traced 8 (longIntegerItem tag) :=
  tracedPrimitive (takes_readLongInteger .longInteger tag)

def tracedDateTime (tag : Tag) : Traced 8 (dateTimeItem tag) :=
  tracedPrimitive (takes_readLongInteger .dateTime tag)

def tracedEnumeration (α : Type) [Coded α] (tag : Tag) :
    Traced 8 (enumerationItem α tag) :=
  tracedPrimitive (takes_readEnumeration Coded.ofCode? tag)

def tracedBoolean (tag : Tag) : Traced 8 (booleanItem tag) :=
  tracedPrimitive (takes_readBoolean tag)

def tracedInterval (tag : Tag) : Traced 8 (intervalItem tag) :=
  tracedPrimitive (takes_readInterval tag)

def tracedTextString (tag : Tag) : Traced 8 (textStringItem tag) :=
  tracedPrimitive (takes_readTextString tag)

def tracedByteString (tag : Tag) : Traced 8 (byteStringItem tag) :=
  tracedPrimitive (takes_readByteString tag)

/-- A reader of something other than bytes of the buffer. -/
abbrev Tracing (ε α : Type) := Reading 8 Tag ε 0 α

def isOversizedTracing : Tracing CodecError Unit :=
  .ofDecoder isOversized (by
    intro input value rest ran
    change (if 0 < input.length then _ else _ : Reader Unit).run input = _ at ran
    split at ran
    · cases ran
    · cases ran
      exact Nat.le_of_eq (Nat.zero_add _))

theorem erases_isOversized : isOversizedTracing.Erases isOversized :=
  Tracer.Erases.ofDecoder isOversized

/-- A structure, whose fields are read from a local stream. -/
def tracedSlice (tag : Tag) (fields : Tracing CodecError α) :
    Reading 8 Tag CodecError 8 α :=
  .slice tag (readBase tag .struct) (takes_readBase tag .struct) fields

theorem erases_tracedSlice {tag : Tag} {fields : Tracing CodecError α}
    {reader : Reader α} (erases : fields.Erases reader) :
    (tracedSlice tag fields).Erases (readStruct tag reader) := by
  have same : readStruct tag reader = within (readBase tag .struct) reader := by
    refine bind_congr fun length => bind_congr fun tstream => ?_
    cases reader.run tstream with
    | error exception => rfl
    | ok pair => rfl
  rw [same]
  exact Tracer.Erases.slice (takes_readBase tag .struct) erases tag

/-- The bytes of a header. -/
instance header_neZero : NeZero 8 := ⟨Nat.succ_ne_zero 7⟩

/-- The fields, and nothing after the last one. -/
def tracedAll {fields : Fields Tag CodecError α}
    (traced : TracedFields 8 fields) : Tracing CodecError α := do
  let value ← traced.reading nextTag
  isOversizedTracing
  return value

theorem erases_tracedAll {fields : Fields Tag CodecError α}
    (traced : TracedFields 8 fields) : (tracedAll traced).Erases (readAll fields) :=
  (traced.erases nextTag_nil).bind fun value =>
    erases_isOversized.bind fun _ => .pure value

def tracedStruct {tag : Tag} {fields : Fields Tag CodecError β}
    {toFields : α → β} {ofFields : β → α} (traced : TracedFields 8 fields) :
    Traced 8 (structItem tag fields toFields ofFields) where
  tracer := (tracedSlice tag (ofFields <$> tracedAll traced)).tracer
  sound := (tracedSlice tag (ofFields <$> tracedAll traced)).sound
  erases := erases_tracedSlice
    ((erases_tracedAll traced).bind fun value => .pure (ofFields value))

def tracedOrUnset {item : Item α} (traced : Traced 8 item) (unset : CodecError) :
    Traced 8 (item.orUnset unset) where
  tracer := traced.tracer >>= fun value => pure (some value)
  sound := traced.sound.bind fun value => .pure (some value)
  erases := .bind traced.sound traced.erases fun value => .pure (some value)

end Items

section Structures

def tracedName (tag : Tag) : Traced 8 (nameItem tag) :=
  tracedStruct <|
    .always (tracedOrUnset (tracedTextString .nameValue) _) <|
    .always (tracedOrUnset (tracedEnumeration NameType .nameType) _) .nil

def tracedCryptographicParameters (tag : Tag) :
    Traced 8 (cryptographicParametersItem tag) :=
  tracedStruct <|
    .optional (tracedEnumeration _ .blockCipherMode) <|
    .optional (tracedEnumeration _ .paddingMethod) <|
    .optional (tracedEnumeration _ .hashingAlgorithm) <|
    .optional (tracedEnumeration _ .keyRoleType) <|
    .optional (tracedEnumeration _ .digitalSignatureAlgorithm) <|
    .optional (tracedEnumeration _ .cryptographicAlgorithm) <|
    .optional (tracedBoolean .randomIv) <|
    .optional (tracedInteger .ivLength) <|
    .optional (tracedInteger .tagLength) <|
    .optional (tracedInteger .fixedFieldLength) <|
    .optional (tracedInteger .invocationFieldLength) <|
    .optional (tracedInteger .counterLength) <|
    .optional (tracedInteger .initialCounterValue) .nil

def tracedDigest (tag : Tag) : Traced 8 (digestItem tag) :=
  tracedStruct <|
    .always (tracedEnumeration _ .hashingAlgorithm) <|
    .always (tracedByteString .digestValue) <|
    .always (tracedEnumeration _ .keyFormatType) .nil

def tracedApplicationSpecificInformation (tag : Tag) :
    Traced 8 (applicationSpecificInformationItem tag) :=
  tracedStruct <|
    .demanded (tracedTextString .applicationNamespace) <|
    .demanded (tracedTextString .applicationData) .nil

def tracedProtectionStorageMasks (tag : Tag) :
    Traced 8 (Wire.protectionStorageMasksItem tag) :=
  tracedStruct <| .many (tracedInteger .protectionStorageMask) .nil

def tracedDerivationParameters : Traced 8 Wire.derivationParametersItem :=
  tracedStruct <|
    .optional (tracedCryptographicParameters .cryptographicParameters) <|
    .optional (tracedByteString .initializationVector) <|
    .optional (tracedByteString .derivationData) <|
    .optional (tracedByteString .salt) <|
    .optional (tracedInteger .iterationCount) .nil

end Structures

namespace Wire

section Attributes

def tracedValue (tag : Tag) :
    (valueClass : ValueClass) → Traced 8 (valueClass.item tag)
  | .text => tracedTextString tag
  | .name => tracedName tag
  | .objectType => tracedOrUnset (tracedEnumeration ObjectType tag) _
  | .cryptographicAlgorithm =>
      tracedOrUnset (tracedEnumeration CryptographicAlgorithm tag) _
  | .certificateType => tracedOrUnset (tracedEnumeration CertificateType tag) _
  | .state => tracedOrUnset (tracedEnumeration State tag) _
  | .integer => tracedInteger tag
  | .usageMask => tracedInteger tag
  | .interval => tracedOrUnset (tracedInterval tag) _
  | .dateTime => tracedDateTime tag
  | .boolean => tracedOrUnset (tracedBoolean tag) _
  | .cryptographicParameters => tracedCryptographicParameters tag
  | .digest => tracedDigest tag
  | .applicationSpecificInformation => tracedApplicationSpecificInformation tag

def ValueClass.tracing (valueClass : ValueClass) (tag : Tag) :
    Reading 8 Tag CodecError 8 ValueObject :=
  (tracedValue tag valueClass).field.reading.map (ValueObject.mk valueClass)

theorem ValueClass.erases_tracing (valueClass : ValueClass) (tag : Tag) :
    (valueClass.tracing tag).Erases (valueClass.read tag) :=
  (tracedValue tag valueClass).erases_always.map (ValueObject.mk valueClass)

theorem erases_ofExcept (outcome : Except CodecError α) :
    (.ofExcept outcome : Tracing CodecError α).Erases
      (liftM outcome : Reader α) := by
  cases outcome with
  | error exception => exact Tracer.Erases.throw exception
  | ok value => exact Tracer.Erases.pure value

def Attribute.fieldsTracing : Tracing CodecError Attribute := do
  let attributeName ← (tracedTextString .attributeName).field.always
  let attributeIndex ←
    (tracedInteger .attributeIndex).field.optional nextTag
  let valueClass ← .ofExcept (nameValueClass attributeName)
  let attributeValue ← (valueClass.tracing .attributeValue).weaken
  isOversizedTracing
  return { attributeName, attributeIndex, attributeValue }

/-- `Attribute.read`. -/
def tracedAttribute : Traced 8 attributeItem where
  tracer := (tracedSlice .attributeItem Attribute.fieldsTracing).tracer
  sound := (tracedSlice .attributeItem Attribute.fieldsTracing).sound
  erases := erases_tracedSlice <|
    (tracedTextString .attributeName).erases_always.bind fun attributeName =>
      (tracedInteger .attributeIndex).erases_optional.bind fun _ =>
        (erases_ofExcept (nameValueClass attributeName)).bind fun valueClass =>
          (valueClass.erases_tracing .attributeValue).weaken.bind fun _ =>
            erases_isOversized.bind fun _ => .pure _

def tracedTemplateFields : TracedFields 8 templateFields :=
  .many (tracedName .name) <| .many tracedAttribute .nil

/-- `TemplateAttribute.read`. -/
def TemplateAttribute.tracing (tag : Tag) :
    Reading 8 Tag CodecError 8 TemplateAttribute :=
  tracedSlice tag do
    let (names, attributes, ()) ← tracedAll tracedTemplateFields
    return { names, attributes, tag }

theorem TemplateAttribute.erases_tracing (tag : Tag) :
    (tracing tag).Erases (TemplateAttribute.read tag) :=
  erases_tracedSlice <|
    (erases_tracedAll tracedTemplateFields).bind fun _ => .pure _

end Attributes

section AttributesStructure

theorem takes_liftReader {cost : Nat} {reader : Reader α}
    (takes : Takes cost reader) : Takes cost (liftReader reader) :=
  takes.mapError AttributesError.codec

/-- A value is created for the tag and read. -/
def taggedTracing (tag : Tag) : Reading 8 Tag CodecError 8 ValueObject :=
  .after (.ofExcept (tagValueClass tag)) fun valueClass =>
    valueClass.tracing tag

theorem erases_taggedTracing (tag : Tag) :
    (taggedTracing tag).Erases (readTagged tag) :=
  (erases_ofExcept (tagValueClass tag)).after fun valueClass =>
    valueClass.erases_tracing tag

theorem erases_mapError {cost : Nat} {reading : Reading 8 Tag CodecError cost α}
    {reader : Reader α} (erases : reading.Erases reader) :
    (reading.mapError AttributesError.codec).Erases (liftReader reader) :=
  Tracer.Erases.mapError erases AttributesError.codec

/-- An iteration of the loop of `Attributes.read`. -/
def readNextValue (version : KmipVersion) :
    Decoder AttributesError (Tag × ValueObject) := do
  match nextTag (← get) with
  | none => throw (.codec .valueError)
  | some tag =>
      if isAttribute tag (some version) then
        return (tag, ← liftReader (readTagged tag))
      else throw (.attributeNotSupported tag version)

def nextValueTracing (version : KmipVersion) :
    Reading 8 Tag AttributesError 8 (Tag × ValueObject) :=
  .after .look fun input =>
    match nextTag input with
    | none => .throw (.codec .valueError)
    | some tag =>
        if isAttribute tag (some version) then
          ((taggedTracing tag).mapError .codec).map fun value => (tag, value)
        else .throw (.attributeNotSupported tag version)

theorem erases_nextValueTracing (version : KmipVersion) :
    (nextValueTracing version).Erases (readNextValue version) := by
  refine Reading.Erases.look.after fun input => ?_
  cases nextTag input with
  | none => exact .throw _
  | some tag =>
      dsimp only
      split
      · exact (erases_mapError (erases_taggedTracing tag)).map _
      · exact .throw _

def valuesTracing (version : KmipVersion) :
    Tracing AttributesError (List (Tag × ValueObject)) :=
  (nextValueTracing version).whileNext fun input => (nextTag input).isSome

theorem erases_valuesTracing (version : KmipVersion) :
    (valuesTracing version).Erases
      (do readValues version (← get).length) := by
  intro fuel input enough
  have ends : (nextTag []).isSome = false := by rw [nextTag_nil, Option.isSome_none]
  refine Tracer.Erases.loop (nextValueTracing version).sound (Nat.succ_pos 7)
    (erases_nextValueTracing version) ends rfl ?_ enough enough (Nat.le_refl _)
  intro count input
  have looked : ∀ next : Tag × ValueObject → Decoder AttributesError
      (List (Tag × ValueObject)), (readNextValue version >>= next).run input =
      ((match nextTag input with
        | none => throw (.codec .valueError)
        | some tag =>
            if isAttribute tag (some version) then
              liftReader (readTagged tag) >>= fun value => pure (tag, value)
            else throw (.attributeNotSupported tag version)) >>= next).run
        input := by
    intro next
    unfold readNextValue
    rw [bind_assoc, run_get_bind]
  rw [looked, readValues, run_get_bind]
  cases nextTag input with
  | none => rfl
  | some tag =>
      dsimp only
      rw [Option.isSome_some, if_pos rfl]
      split
      · rw [bind_assoc]
        rfl
      · rfl

def allValuesTracing (version : KmipVersion) :
    Tracing AttributesError (List (Tag × ValueObject)) := do
  let attributes ← valuesTracing version
  isOversizedTracing.mapError .codec
  return attributes

/-- `Attributes.read`. -/
def Attributes.tracing (tag : Tag) (version : KmipVersion) :
    Reading 8 Tag AttributesError 8 Attributes :=
  if .kmip20 ≤ version then
    .slice tag (liftReader (readBase tag .struct))
      (takes_liftReader (takes_readBase tag .struct)) do
        let attributes ← allValuesTracing version
        return { attributes, tag }
  else .throw (.versionNotSupported version)

theorem erases_allValuesTracing (version : KmipVersion) :
    (allValuesTracing version).Erases (readAllValues version) := by
  have read := (erases_valuesTracing version).bind fun values =>
    (erases_mapError erases_isOversized).bind fun _ =>
      Reading.Erases.pure values
  rw [bind_assoc] at read
  exact read

theorem Attributes.read_eq {version : KmipVersion} (recent : .kmip20 ≤ version)
    (tag : Tag) :
    Attributes.read tag version = within (liftReader (readBase tag .struct))
      (readAllValues version >>= fun attributes =>
        pure ({ attributes, tag } : Attributes)) := by
  unfold Attributes.read
  rw [if_pos recent]
  refine bind_congr fun length => bind_congr fun localStream => ?_
  rw [StateT.run_bind]
  cases (readAllValues version).run localStream with
  | error exception => rfl
  | ok pair => rfl

theorem Attributes.erases_tracing (tag : Tag) (version : KmipVersion) :
    (tracing tag version).Erases (Attributes.read tag version) := by
  unfold tracing
  split
  · rename_i recent
    rw [Attributes.read_eq recent]
    exact Tracer.Erases.slice (takes_liftReader (takes_readBase tag .struct))
      ((erases_allValuesTracing version).bind fun _ => .pure _) tag
  · rename_i early
    unfold Attributes.read
    rw [if_neg early]
    exact .throw _

end AttributesStructure

section KeyBlocks

def tracedPlain {item : Item α} (traced : Traced 8 item) :
    Traced 8 (plainItem item) :=
  ⟨traced.tracer, traced.sound, traced.erases⟩

def tracedFieldsItem {tag : Tag} {fields : Fields Tag CodecError β}
    {toFields : α → β} {ofFields : β → α} (traced : TracedFields 8 fields) :
    Traced 8 (fieldsItem tag fields toFields ofFields) :=
  let whole : Traced 8 (structItem tag fields toFields ofFields) :=
    tracedStruct traced
  ⟨whole.tracer, whole.sound, whole.erases⟩

def readRestTracing : Tracing CodecError Bytes :=
  .ofDecoder readRest (by
    intro input value rest ran
    cases ran
    exact Nat.zero_le _)

def keyMaterialStructTracing : Reading 8 Tag CodecError 8 Bytes :=
  tracedSlice .keyMaterial do
    let data ← readRestTracing
    isOversizedTracing
    return data

theorem erases_keyMaterialStruct :
    keyMaterialStructTracing.Erases readKeyMaterialStruct :=
  erases_tracedSlice <| Reading.Erases.bind (Tracer.Erases.ofDecoder readRest)
    fun data => erases_isOversized.bind fun _ => .pure data

def keyMaterialTracing : Reading 8 Tag CodecError 8 KeyMaterial :=
  .after .look fun input =>
    if nextTypeIs .struct input then keyMaterialStructTracing.map .struct
    else (tracedByteString .keyMaterial).field.reading.map .bytes

def tracedKeyMaterial : Traced 8 keyMaterialItem where
  tracer := keyMaterialTracing.tracer
  sound := keyMaterialTracing.sound
  erases := by
    refine Reading.Erases.look.after fun input => ?_
    split
    · exact erases_keyMaterialStruct.map KeyMaterial.struct
    · exact (tracedByteString .keyMaterial).erases_always.map KeyMaterial.bytes

/-- New texts; the reader of a text does not depend on its format. -/
def tracedKeyValueFields :
    TracedFields 8 (keyValueFields (attributeItemOf textStringItem)) :=
  .always tracedKeyMaterial <|
    .many ⟨tracedAttribute.tracer, tracedAttribute.sound,
      tracedAttribute.erases⟩ .nil

/-- `KeyValue.read`. -/
def tracedKeyValue : Traced 8 (keyValueItemOf (attributeItemOf textStringItem)) :=
  let contents : Tracing CodecError (KeyValue Attribute) := do
    let (keyMaterial, attributes, ()) ← tracedAll tracedKeyValueFields
    .ofExcept keyMaterial.validate
    return { keyMaterial, attributes }
  { tracer := (tracedSlice .keyValue contents).tracer
    sound := (tracedSlice .keyValue contents).sound
    erases := erases_tracedSlice <|
      (erases_tracedAll tracedKeyValueFields).bind fun (keyMaterial, _, ()) =>
        (erases_ofExcept keyMaterial.validate).bind fun _ => .pure _ }

def tracedKeyInformation (tag : Tag) :
    Traced 8 (keyInformationItemOf textStringItem tag) :=
  tracedFieldsItem <|
    .demanded (tracedTextString .uniqueIdentifier) <|
    .optional (tracedPlain (tracedCryptographicParameters
      .cryptographicParameters)) .nil

def tracedKeyWrappingData : Traced 8 (keyWrappingDataItemOf textStringItem) :=
  tracedFieldsItem <|
    .demanded (tracedEnumeration WrappingMethod .wrappingMethod) <|
    .optional (tracedKeyInformation .encryptionKeyInformation) <|
    .optional (tracedKeyInformation .macSignatureKeyInformation) <|
    .optional (tracedPlain (tracedByteString .macSignature)) <|
    .optional (tracedPlain (tracedByteString .ivCounterNonce)) <|
    .optional (tracedEnumeration EncodingOption .encodingOption) .nil

/-- `KeyBlock.read`. -/
def tracedKeyBlock :
    Traced 8 (keyBlockItemOf textStringItem (attributeItemOf textStringItem)) :=
  tracedFieldsItem <|
    .always (tracedEnumeration KeyFormatType .keyFormatType) <|
    .optional (tracedEnumeration KeyCompressionType .keyCompressionType) <|
    .always tracedKeyValue <|
    .optional (tracedEnumeration CryptographicAlgorithm
      .cryptographicAlgorithm) <|
    .optional (tracedPlain (tracedInteger .cryptographicLength)) <|
    .optional tracedKeyWrappingData .nil

end KeyBlocks

end Wire

end PyKMIP
