import PyKMIP.Lib.Rewriting
import PyKMIP.Properties.TextEncoding
import PyKMIP.Wire.KeyBlocks

/-!
# Reading and rewriting key blocks

Encodings of key values and key blocks by the protocol, with text in UTF-8 and
attributes of any name, are read and written again.  What the reader refuses and
what the writer changes is decided by the texts, by the names of the attributes
and by the form of the key material.
-/

namespace PyKMIP.Wire

open Formats

section Texts

/-- The encoding of text by the protocol, as the program reads it. -/
def protocolTextItem (tag : Tag) : Item String where
  tag := tag
  encode value := do
    let header ← writeBase tag .textString (encodeUtf8 value).length
    return header ++ (encodeUtf8 value ++
      List.replicate (paddingLength (encodeUtf8 value).length) 0)
  decode := readTextString tag
  fits := isAscii
  size value :=
    8 + ((encodeUtf8 value).length + paddingLength (encodeUtf8 value).length)

variable {tag : Tag}

theorem isItem_of_encode {value : String} {bytes : Bytes}
    (encoded : (protocolTextItem tag).encode value = .ok bytes) :
    IsItem tag .textString (encodeUtf8 value) bytes := by
  obtain ⟨header, heads, encoded⟩ := bind_eq_ok encoded
  cases encoded
  exact isItem_iff.mpr ⟨header, heads, rfl⟩

theorem settled_protocolTextItem (tag : Tag) :
    (protocolTextItem tag).Settled nextTag where
  shows := by
    intro value bytes encoded
    obtain ⟨header, heads, encoded⟩ := bind_eq_ok encoded
    cases encoded
    exact shows_of_writeBase heads rfl
  settles := by
    intro value bytes encoded rest
    have item := isItem_of_encode encoded
    change Gives ((readTextString tag).run (bytes ++ rest)) (isAscii value)
      value rest
    rw [← TextString.value_read, StateT.run_map]
    cases ascii : isAscii value with
    | true =>
        have written := TextString.write_of_isItem ascii item
        have reads := TextString.reads_write written rest
        rw [reads]
        exact rfl
    | false =>
        rw [TextString.run_read_of_other ascii item]
        exact ⟨_, rfl⟩

/-- Decoded text that fills its last block is written with eight zeros more. -/
theorem rewritten_protocolTextItem (tag : Tag) :
    (protocolTextItem tag).RewrittenBy (decodedTextItem tag) := by
  intro value bytes encoded ascii
  have written := TextString.write_of_isItem ascii (isItem_of_encode encoded)
  have rewritten := TextString.write_decoded written
  change writeTextString tag value (8 - value.toList.length % 8) = _
    at rewritten
  have fits : (decodedTextItem tag).fits value =
      decide (value.toList.length % 8 ≠ 0) := by
    change (isAscii value && _) = _
    rw [show isAscii value = true from ascii, Bool.true_and]
  change Regrown (writeTextString tag value (8 - value.toList.length % 8)) _ _
  rw [fits, rewritten]
  by_cases whole : value.toList.length % 8 = 0
  · rw [decide_eq_false (not_not.mpr whole), if_pos whole]
    intro others same
    cases same
    simp
  · rw [decide_eq_true whole, if_neg whole]
    change Except.ok _ = Except.ok _
    rw [List.replicate_zero, List.append_nil]

end Texts

section Structures

theorem settled_of_lawful
    {item : Item α} (lawful : item.Lawful nextTag)
    (always : ∀ value, item.fits value = true) : item.Settled nextTag where
  shows := lawful.shows
  settles := by
    intro value bytes encoded
    rw [always value]
    exact (lawful.reads encoded).settles

theorem settled_plainItem
    {item : Item α} (lawful : item.Lawful nextTag) :
    (plainItem item).Settled nextTag where
  shows := lawful.shows
  settles encoded := (lawful.reads encoded).settles

/-- An item without texts is written as it was. -/
theorem rewritten_of_always
    {item : Item α} (always : ∀ value, item.fits value = true) :
    item.RewrittenBy item := by
  intro value bytes encoded _
  rw [always value]
  exact encoded

theorem rewritten_plainItem (item : Item α) :
    (plainItem item).RewrittenBy (plainItem item) :=
  rewritten_of_always fun _ => rfl

theorem settles_readStruct
    {tag : Tag} {fields : Except CodecError Bytes} {bytes : Bytes}
    (written : writeStruct tag fields = .ok bytes) {reader : Reader α}
    {plain : Bool} {value : α}
    (gives : ∀ tstream, fields = .ok tstream →
      Gives (reader.run tstream) plain value []) :
    Settles (readStruct tag reader) bytes plain value := by
  obtain ⟨tstream, writes, written⟩ := bind_eq_ok written
  obtain ⟨header, heads, written⟩ := bind_eq_ok written
  cases written
  have given := gives tstream writes
  intro rest
  unfold readStruct
  rw [List.append_assoc, run_bind_ok (reads_readBase heads _),
    run_bind_ok (reads_take tstream _)]
  cases plain with
  | true =>
      have ran : reader.run tstream = .ok (value, []) := given
      rw [ran]
      exact rfl
  | false =>
      obtain ⟨exception, ran⟩ := given
      rw [ran]
      exact ⟨exception, rfl⟩

theorem regrown_writeStruct
    {tag : Tag} {fields others : Except CodecError Bytes} {bytes : Bytes}
    (written : writeStruct tag fields = .ok bytes) {keeps : Bool}
    (regrown : ∀ tstream, fields = .ok tstream → Regrown others tstream keeps) :
    Regrown (writeStruct tag others) bytes keeps := by
  obtain ⟨tstream, writes, written⟩ := bind_eq_ok written
  obtain ⟨header, heads, written⟩ := bind_eq_ok written
  cases written
  have grown := regrown tstream writes
  cases keeps with
  | true =>
      have same : others = .ok tstream := grown
      rw [same]
      change (writeBase tag .struct tstream.length >>= _) = _
      rw [heads]
      rfl
  | false =>
      intro longer ran
      obtain ⟨stream, ranFields, ran⟩ := bind_eq_ok ran
      obtain ⟨front, ranHeader, ran⟩ := bind_eq_ok ran
      cases ran
      have more := grown stream ranFields
      have size := ((yields_writeBase _ _ _).of_ok heads).2
      have same := ((yields_writeBase _ _ _).of_ok ranHeader).2
      rw [List.length_append, List.length_append]
      omega

theorem gives_readAll
    {fields : Fields Tag CodecError α} (settled : fields.Settled nextTag)
    (distinct : fields.Distinct) {value : α} {bytes : Bytes}
    (encoded : fields.encode value = .ok bytes) :
    Gives ((readAll fields).run bytes) (fields.fits value) value [] := by
  have ends : Gives ((isOversized >>= fun _ => pure value : Reader α).run [])
      true value [] := rfl
  have given : Gives ((readAll fields).run bytes) (fields.fits value && true)
      value [] :=
    (fields.gives_decode settled distinct nextTag_nil encoded).bind ends
  rwa [Bool.and_true] at given

variable {tag : Tag} {fields rewriting : Fields Tag CodecError β}
  {toFields : α → β} {ofFields : β → α}

theorem settled_fieldsItem
    (settled : fields.Settled nextTag) (distinct : fields.Distinct)
    (inverse : ∀ value, ofFields (toFields value) = value) :
    (fieldsItem tag fields toFields ofFields).Settled nextTag where
  shows := shows_of_writeStruct
  settles := by
    intro value bytes encoded
    refine settles_readStruct encoded fun tstream written => ?_
    have given := (gives_readAll settled distinct written).map ofFields
    rwa [inverse] at given

theorem rewritten_fieldsItem (rewritten : fields.RewrittenBy rewriting) :
    (fieldsItem tag fields toFields ofFields).RewrittenBy
      (fieldsItem tag rewriting toFields ofFields) := by
  intro value bytes encoded plain
  exact regrown_writeStruct encoded fun tstream written =>
    Fields.regrown_encode rewritten written plain

end Structures

section Values

theorem settled_nameItemOf (tag : Tag) :
    (nameItemOf protocolTextItem tag).Settled nextTag :=
  settled_fieldsItem
    ⟨(settled_protocolTextItem _).orUnset _,
      settled_plainItem ((lawful_enumerationItem ..).orUnset _), trivial⟩
    (by decide) fun _ => rfl

theorem settled_applicationSpecificInformationItemOf (tag : Tag) :
    (applicationSpecificInformationItemOf protocolTextItem tag).Settled
      nextTag :=
  settled_fieldsItem
    ⟨settled_protocolTextItem _, settled_protocolTextItem _, trivial⟩
    (by decide) fun _ => rfl

theorem ValueClass.settled_itemOf (valueClass : ValueClass) (tag : Tag) :
    (valueClass.itemOf protocolTextItem tag).Settled nextTag := by
  cases valueClass with
  | text => exact settled_protocolTextItem tag
  | name => exact settled_nameItemOf tag
  | applicationSpecificInformation =>
      exact settled_applicationSpecificInformationItemOf tag
  | _ => exact settled_plainItem (ValueClass.lawful_item _ tag)

theorem ValueClass.rewritten_itemOf (valueClass : ValueClass) (tag : Tag) :
    (valueClass.itemOf protocolTextItem tag).RewrittenBy
      (valueClass.itemOf decodedTextItem tag) := by
  cases valueClass with
  | text => exact rewritten_protocolTextItem tag
  | name =>
      exact rewritten_fieldsItem <|
        .always (Format.RewrittenBy.orUnset (rewritten_protocolTextItem _) _) <|
          .always (rewritten_plainItem _) .nil
  | applicationSpecificInformation =>
      exact rewritten_fieldsItem <|
        .demanded (rewritten_protocolTextItem _) <|
          .demanded (rewritten_protocolTextItem _) .nil
  | _ => exact rewritten_plainItem _

theorem ValueClass.decode_itemOf_protocolTextItem
    (valueClass : ValueClass) (tag : Tag) :
    (valueClass.itemOf protocolTextItem tag).decode =
      (valueClass.item tag).decode := by
  cases valueClass <;> rfl

theorem ValueClass.tag_itemOf (valueClass : ValueClass) (tag : Tag) :
    (valueClass.itemOf protocolTextItem tag).tag = tag := by
  cases valueClass <;> rfl

end Values

section Attributes

/-- An attribute of the protocol: one whose value the program knows, or one with
another name, whose value is any item. -/
inductive EncodedAttribute where
  | known (entry : Attribute)
  | other (attributeName : String) (attributeIndex : Option Int)
      (type : ItemType) (value : Bytes)
deriving DecidableEq

/-- Whether the factory has no value for the name. -/
def isUnknown (attributeName : String) : Bool :=
  match nameValueClass attributeName with
  | .ok _ => false
  | .error _ => true

def EncodedAttribute.encode :
    EncodedAttribute → Except CodecError Bytes
  | .known entry =>
      if entry.wellNamed then entry.writeOf protocolTextItem
      else .error .valueError
  | .other attributeName attributeIndex type value =>
      if isUnknown attributeName then
        writeStruct .attributeItem do
          let name ← (protocolTextItem .attributeName).encode attributeName
          let index ← encodePresent (integerItem .attributeIndex) attributeIndex
          let header ← writeBase .attributeValue type value.length
          return name ++ (index ++ (header ++
            (value ++ List.replicate (paddingLength value.length) 0)))
      else .error .valueError

/-- The attributes of the protocol, as the program reads them. -/
def protocolAttributeItem : Item EncodedAttribute where
  tag := .attributeItem
  encode := EncodedAttribute.encode
  decode := .known <$> Attribute.read
  fits
    | .known entry => (attributeItemOf protocolTextItem).fits entry
    | .other .. => false
  size _ := 0

/-- The attributes that have been read, as they are written. -/
def decodedAttributeItem : Item EncodedAttribute where
  tag := .attributeItem
  encode
    | .known entry => entry.writeOf decodedTextItem
    | .other .. => .error .valueError
  decode := .known <$> Attribute.read
  fits
    | .known entry => (attributeItemOf decodedTextItem).fits entry
    | .other .. => false
  size _ := 0

/-- What `Attribute.read` does after the name and the index. -/
def Attribute.readValue (attributeName : String) (attributeIndex : Option Int) :
    Reader Attribute := do
  let valueClass ←
    (nameValueClass attributeName : Except CodecError ValueClass)
  let attributeValue ← valueClass.read .attributeValue
  isOversized
  return { attributeName, attributeIndex, attributeValue }

theorem gives_readFields
    {attributeName : String} {attributeIndex : Option Int}
    {name index value : Bytes} {plain : Bool} {entry : Attribute}
    (encodedName :
      (protocolTextItem .attributeName).encode attributeName = .ok name)
    (encodedIndex : encodePresent (integerItem .attributeIndex) attributeIndex =
      .ok index)
    (absent : nextTag value ≠ some .attributeIndex)
    (gives : Gives ((Attribute.readValue attributeName attributeIndex).run value)
      plain entry []) :
    Gives (Attribute.readFields.run (name ++ (index ++ value)))
      (isAscii attributeName && plain) entry [] := by
  have present : Gives ((decodeIfNext nextTag
      (integerItem .attributeIndex)).run (index ++ value)) true attributeIndex
      value := run_decodeIfNext (lawful_integerItem _) encodedIndex absent
  have following : Gives ((decodeIfNext nextTag (integerItem .attributeIndex) >>=
      Attribute.readValue attributeName).run (index ++ value)) (true && plain)
      entry [] := present.bind gives
  rw [Bool.true_and] at following
  exact ((settled_protocolTextItem _).settles encodedName _).bind following

theorem gives_readValue
    {entry : Attribute} (named : entry.wellNamed) {value : Bytes}
    (encoded : (entry.attributeValue.valueClass.itemOf protocolTextItem
      .attributeValue).encode entry.attributeValue.data = .ok value) :
    Gives ((Attribute.readValue entry.attributeName entry.attributeIndex).run
        value)
      ((entry.attributeValue.valueClass.itemOf protocolTextItem
        .attributeValue).fits entry.attributeValue.data) entry [] := by
  have looked : (liftM (nameValueClass entry.attributeName) :
      Reader ValueClass).run value =
      .ok (entry.attributeValue.valueClass, value) := by
    rw [Attribute.wellNamed_iff.mp named]
    rfl
  have given := (entry.attributeValue.valueClass.settled_itemOf
    .attributeValue).settles encoded []
  rw [List.append_nil] at given
  rw [ValueClass.decode_itemOf_protocolTextItem] at given
  have ends : Gives ((isOversized >>= fun _ => pure entry : Reader Attribute).run
      []) true entry [] := rfl
  have followed : Gives ((entry.attributeValue.valueClass.read .attributeValue >>=
      fun attributeValue => isOversized >>= fun _ =>
        pure { entry with attributeValue }).run value) (_ && true) entry [] :=
    (given.map (ValueObject.mk _)).bind ends
  rw [Bool.and_true] at followed
  unfold Attribute.readValue
  rw [run_bind_ok looked]
  exact followed

/-- A name without a value class is refused before the value. -/
theorem refuses_readValue
    {attributeName : String} (unknown : isUnknown attributeName)
    (attributeIndex : Option Int) (value : Bytes) (entry : Attribute) :
    Gives ((Attribute.readValue attributeName attributeIndex).run value) false
      entry [] := by
  unfold isUnknown at unknown
  unfold Attribute.readValue
  cases looked : nameValueClass attributeName with
  | ok valueClass =>
      rw [looked] at unknown
      cases unknown
  | error exception => exact ⟨exception, rfl⟩

theorem shows_encode
    {encodedAttribute : EncodedAttribute} {bytes : Bytes}
    (encoded : encodedAttribute.encode = .ok bytes) (rest : Bytes) :
    nextTag (bytes ++ rest) = some .attributeItem := by
  unfold EncodedAttribute.encode at encoded
  split at encoded <;> split at encoded
  · exact shows_of_writeStruct encoded rest
  · cases encoded
  · exact shows_of_writeStruct encoded rest
  · cases encoded

theorem settles_known
    {entry : Attribute} (named : entry.wellNamed) {bytes : Bytes}
    (encoded : entry.writeOf protocolTextItem = .ok bytes) :
    Settles Attribute.read bytes
      ((attributeItemOf protocolTextItem).fits entry) entry := by
  refine settles_readStruct encoded fun tstream fields => ?_
  obtain ⟨name, encodedName, fields⟩ := bind_eq_ok fields
  obtain ⟨index, encodedIndex, fields⟩ := bind_eq_ok fields
  obtain ⟨value, encodedValue, fields⟩ := bind_eq_ok fields
  cases fields
  have shown := (entry.attributeValue.valueClass.settled_itemOf
    .attributeValue).shows encodedValue []
  rw [List.append_nil, ValueClass.tag_itemOf] at shown
  apply gives_readFields encodedName encodedIndex
  · rw [shown]
    decide
  · exact gives_readValue named encodedValue

theorem refuses_other
    {attributeName : String} {attributeIndex : Option Int} {type : ItemType}
    {value bytes : Bytes} (unknown : isUnknown attributeName)
    (encoded : (EncodedAttribute.other attributeName attributeIndex type
      value).encode = .ok bytes) (entry : Attribute) :
    Settles Attribute.read bytes false entry := by
  change ite _ _ _ = _ at encoded
  rw [if_pos unknown] at encoded
  refine settles_readStruct encoded fun tstream fields => ?_
  obtain ⟨name, encodedName, fields⟩ := bind_eq_ok fields
  obtain ⟨index, encodedIndex, fields⟩ := bind_eq_ok fields
  obtain ⟨header, heads, fields⟩ := bind_eq_ok fields
  cases fields
  have absent : nextTag (header ++ (value ++
      List.replicate (paddingLength value.length) 0)) ≠
        some .attributeIndex := by
    rw [nextTag_of_writeBase heads]
    decide
  have given := gives_readFields encodedName encodedIndex absent
    (refuses_readValue unknown attributeIndex _ entry)
  rwa [Bool.and_false] at given

theorem settled_protocolAttributeItem :
    protocolAttributeItem.Settled nextTag where
  shows := shows_encode
  settles := by
    intro encodedAttribute bytes encoded rest
    cases encodedAttribute with
    | known entry =>
        change ite _ _ _ = _ at encoded
        split at encoded
        · rename_i named
          exact (settles_known named encoded rest).map EncodedAttribute.known
        · cases encoded
    | other attributeName attributeIndex type value =>
        have unknown : isUnknown attributeName = true := by
          by_contra known
          change ite _ _ _ = _ at encoded
          rw [if_neg known] at encoded
          cases encoded
        have entry : Attribute :=
          ⟨attributeName, attributeIndex, ⟨.text, attributeName⟩⟩
        exact (refuses_other unknown encoded entry rest).map
          EncodedAttribute.known

theorem rewritten_protocolAttributeItem :
    protocolAttributeItem.RewrittenBy decodedAttributeItem := by
  intro encodedAttribute bytes encoded plain
  cases encodedAttribute with
  | known entry =>
      change ite _ _ _ = _ at encoded
      split at encoded
      · have plains := Bool.and_eq_true_iff.mp plain
        refine regrown_writeStruct encoded fun tstream fields => ?_
        obtain ⟨name, encodedName, fields⟩ := bind_eq_ok fields
        obtain ⟨index, encodedIndex, fields⟩ := bind_eq_ok fields
        obtain ⟨value, encodedValue, fields⟩ := bind_eq_ok fields
        cases fields
        have same : Regrown (encodePresent (integerItem .attributeIndex)
            entry.attributeIndex) index true := encodedIndex
        have others := same.append (entry.attributeValue.valueClass.rewritten_itemOf
          .attributeValue encodedValue plains.2)
        have written :=
          (rewritten_protocolTextItem _ encodedName plains.1).append others
        rw [Bool.true_and] at written
        simp only [bind_assoc, pure_bind] at written
        exact written
      · cases encoded
  | other attributeName attributeIndex type value => cases plain

end Attributes

section KeyValues

theorem nextTypeIs_of_writeBase
    {tag : Tag} {type : ItemType} {length : Nat} {bytes : Bytes}
    (written : writeBase tag type length = .ok bytes) (other : ItemType)
    (rest : Bytes) :
    nextTypeIs other (bytes ++ rest) = decide (type.code = other.code) := by
  unfold writeBase at written
  split at written
  · cases written
    have tagLength : (BigEndian.encode 3 tag.code).length = 3 :=
      BigEndian.length_encode ..
    have frontLength : (BigEndian.encode 3 tag.code ++
        BigEndian.encode 1 type.code).length = 4 := by simp
    have small : type.code < 256 ^ 1 := Nat.lt_trans type.code_lt (by decide)
    have long : 4 ≤ (BigEndian.encode 3 tag.code ++
        BigEndian.encode 1 type.code ++ BigEndian.encode 4 length ++
          rest).length := by
      simp
      omega
    unfold nextTypeIs
    rw [decide_eq_true long, Bool.true_and, List.append_assoc,
      List.take_left' frontLength, List.drop_left' tagLength,
      BigEndian.decode_encode small]
  · cases written

theorem lawful_keyMaterialItem : keyMaterialItem.Lawful nextTag where
  shows := by
    intro material bytes encoded
    cases material with
    | bytes value => exact (lawful_byteStringItem _).shows encoded
    | struct data => exact shows_of_writeStruct encoded
  reads := by
    intro material bytes encoded rest
    cases material with
    | bytes value =>
        have reads := (lawful_byteStringItem .keyMaterial).reads encoded rest
        obtain ⟨header, heads, written⟩ := bind_eq_ok encoded
        have other : nextTypeIs .struct (bytes ++ rest) = false := by
          cases written
          rw [List.append_assoc, nextTypeIs_of_writeBase heads]
          decide
        change (ite (nextTypeIs .struct (bytes ++ rest) = true) _ _ :
          Reader KeyMaterial).run _ = _
        rw [if_neg (by rw [other]; decide), StateT.run_map, reads]
        rfl
    | struct data =>
        have reads : Reads readKeyMaterialStruct bytes data :=
          reads_readStruct encoded fun tstream written => by
            cases written
            exact ⟨[], rfl⟩
        obtain ⟨tstream, writes, written⟩ := bind_eq_ok encoded
        obtain ⟨header, heads, written⟩ := bind_eq_ok written
        have same : nextTypeIs .struct (bytes ++ rest) = true := by
          cases written
          rw [List.append_assoc, nextTypeIs_of_writeBase heads]
          decide
        change (ite (nextTypeIs .struct (bytes ++ rest) = true) _ _ :
          Reader KeyMaterial).run _ = _
        rw [if_pos same, StateT.run_map, reads rest]
        rfl

variable {Entry : Type} {attributeItem rewriting : Item Entry}

theorem settled_keyValueItemOf
    (settled : attributeItem.Settled nextTag) :
    (keyValueItemOf attributeItem).Settled nextTag where
  shows := shows_of_writeStruct
  settles := by
    intro keyValue bytes encoded
    refine settles_readStruct encoded fun tstream written => ?_
    have fields : (keyValueFields attributeItem).Settled nextTag :=
      ⟨settled_of_lawful lawful_keyMaterialItem fun _ => rfl, settled, trivial⟩
    have given := gives_readAll fields ⟨nofun, trivial⟩ written
    have valid : Gives ((do
        keyValue.keyMaterial.validate
        return { keyMaterial := keyValue.keyMaterial,
                 attributes := keyValue.attributes }
          : Reader (KeyValue Entry)).run []) keyValue.keyMaterial.isBytes
        keyValue [] := by
      obtain ⟨keyMaterial, attributes⟩ := keyValue
      cases keyMaterial with
      | bytes value => exact rfl
      | struct data => exact ⟨.typeError, rfl⟩
    have fits : (keyValueItemOf attributeItem).fits keyValue =
        ((keyValueFields attributeItem).fits
          (keyValue.keyMaterial, keyValue.attributes, ()) &&
            keyValue.keyMaterial.isBytes) := by
      simp [keyValueItemOf, keyValueFields, Fields.fits, keyMaterialItem,
        Bool.and_comm]
    rw [fits]
    exact given.bind valid

theorem rewritten_keyValueItemOf (rewritten : attributeItem.RewrittenBy rewriting) :
    (keyValueItemOf attributeItem).RewrittenBy (keyValueItemOf rewriting) := by
  intro keyValue bytes encoded plain
  have plains := Bool.and_eq_true_iff.mp plain
  refine regrown_writeStruct encoded fun tstream written => ?_
  have fits : ∀ {item : Item Entry}, (keyValueItemOf item).fits keyValue =
      (keyValueFields item).fits
        (keyValue.keyMaterial, keyValue.attributes, ()) := by
    intro item
    simp [keyValueItemOf, keyValueFields, Fields.fits, keyMaterialItem, plains.1]
  have fields : (keyValueFields attributeItem).RewrittenBy
      (keyValueFields rewriting) :=
    .always (rewritten_of_always fun _ => rfl) (.many rewritten .nil)
  rw [fits] at plain ⊢
  exact Fields.regrown_encode fields written plain

end KeyValues

section KeyBlocks

theorem settled_keyInformationItemOf (tag : Tag) :
    (keyInformationItemOf protocolTextItem tag).Settled nextTag :=
  settled_fieldsItem
    ⟨settled_protocolTextItem _,
      settled_plainItem (lawful_cryptographicParametersItem _), trivial⟩
    (by decide) fun _ => rfl

theorem rewritten_keyInformationItemOf (tag : Tag) :
    (keyInformationItemOf protocolTextItem tag).RewrittenBy
      (keyInformationItemOf decodedTextItem tag) :=
  rewritten_fieldsItem <|
    .demanded (rewritten_protocolTextItem _) <|
      .optional (rewritten_plainItem _) .nil

theorem settled_enumerationItem (α : Type) [Coded α] (tag : Tag) :
    (enumerationItem α tag).Settled nextTag :=
  settled_of_lawful (lawful_enumerationItem α tag) fun _ => rfl

theorem rewritten_enumerationItem (α : Type) [Coded α] (tag : Tag) :
    (enumerationItem α tag).RewrittenBy (enumerationItem α tag) :=
  rewritten_of_always fun _ => rfl

theorem settled_keyWrappingDataItemOf :
    (keyWrappingDataItemOf protocolTextItem).Settled nextTag :=
  settled_fieldsItem
    ⟨settled_enumerationItem _ _, settled_keyInformationItemOf _,
      settled_keyInformationItemOf _,
      settled_plainItem (lawful_byteStringItem _),
      settled_plainItem (lawful_byteStringItem _), settled_enumerationItem _ _,
      trivial⟩
    (by decide) fun _ => rfl

theorem rewritten_keyWrappingDataItemOf :
    (keyWrappingDataItemOf protocolTextItem).RewrittenBy
      (keyWrappingDataItemOf decodedTextItem) :=
  rewritten_fieldsItem <|
    .demanded (rewritten_enumerationItem _ _) <|
      .optional (rewritten_keyInformationItemOf _) <|
      .optional (rewritten_keyInformationItemOf _) <|
      .optional (rewritten_plainItem _) <| .optional (rewritten_plainItem _) <|
      .optional (rewritten_enumerationItem _ _) .nil

theorem settled_keyBlockItemOf :
    (keyBlockItemOf protocolTextItem protocolAttributeItem).Settled nextTag :=
  settled_fieldsItem
    ⟨settled_enumerationItem _ _, settled_enumerationItem _ _,
      settled_keyValueItemOf settled_protocolAttributeItem,
      settled_enumerationItem _ _, settled_plainItem (lawful_integerItem _),
      settled_keyWrappingDataItemOf, trivial⟩
    (by decide) fun _ => rfl

theorem rewritten_keyBlockItemOf :
    (keyBlockItemOf protocolTextItem protocolAttributeItem).RewrittenBy
      (keyBlockItemOf decodedTextItem decodedAttributeItem) :=
  rewritten_fieldsItem <|
    .always (rewritten_enumerationItem _ _) <|
      .optional (rewritten_enumerationItem _ _) <|
      .always (rewritten_keyValueItemOf rewritten_protocolAttributeItem) <|
      .optional (rewritten_enumerationItem _ _) <|
      .optional (rewritten_plainItem _) <|
      .optional rewritten_keyWrappingDataItemOf .nil

end KeyBlocks

section Conditions

/-- A text that is written again with its bytes. -/
def keptText (text : String) : Bool :=
  isAscii text && text.toList.length % 8 ≠ 0

variable (good : String → Bool)

/-- All texts of a value are good; a text that must be there is there. -/
def ValueObject.allTexts : ValueObject → Bool
  | ⟨.text, (data : String)⟩ => good data
  | ⟨.name, (data : NameStructure)⟩ => data.nameValue.any good
  | ⟨.applicationSpecificInformation,
      (data : ApplicationInformationStructure)⟩ =>
      data.applicationNamespace.any good && data.applicationData.any good
  | _ => true

/-- The value of an attribute is known to the program, and its texts are
good. -/
def EncodedAttribute.allTexts : EncodedAttribute → Bool
  | .known entry =>
      good entry.attributeName && entry.attributeValue.allTexts good
  | .other .. => false

def allTextsOfWrapping (data : KeyWrappingData) : Bool :=
  data.wrappingMethod.isSome &&
    (data.encryptionKeyInformation.all (·.uniqueIdentifier.any good) &&
      data.macSignatureKeyInformation.all (·.uniqueIdentifier.any good))

def KeyValue.allTexts (keyValue : KeyValue EncodedAttribute) : Bool :=
  keyValue.keyMaterial.isBytes &&
    keyValue.attributes.all (·.allTexts good)

def KeyBlock.allTexts (block : KeyBlock EncodedAttribute) : Bool :=
  block.keyValue.allTexts good &&
    block.keyWrappingData.all (allTextsOfWrapping good)

variable {good} {better : String → Bool}
  (implies : ∀ text, good text = true → better text = true)
include implies

theorem any_mono {text : Option String} (all : text.any good = true) :
    text.any better = true := by
  cases text with
  | none => cases all
  | some text => exact implies text all

theorem ValueObject.allTexts_mono {value : ValueObject}
    (all : value.allTexts good = true) : value.allTexts better = true := by
  obtain ⟨valueClass, data⟩ := value
  cases valueClass with
  | text => exact implies data all
  | name => exact any_mono implies all
  | applicationSpecificInformation =>
      have both := Bool.and_eq_true_iff.mp all
      exact Bool.and_eq_true_iff.mpr
        ⟨any_mono implies both.1, any_mono implies both.2⟩
  | _ => rfl

theorem EncodedAttribute.allTexts_mono {encodedAttribute : EncodedAttribute}
    (all : encodedAttribute.allTexts good = true) :
    encodedAttribute.allTexts better = true := by
  cases encodedAttribute with
  | known entry =>
      have both := Bool.and_eq_true_iff.mp all
      exact Bool.and_eq_true_iff.mpr
        ⟨implies _ both.1, ValueObject.allTexts_mono implies both.2⟩
  | other => cases all

theorem allTextsOfWrapping_mono {data : KeyWrappingData}
    (all : allTextsOfWrapping good data = true) :
    allTextsOfWrapping better data = true := by
  have informed : ∀ {information : Option KeyInformation},
      information.all (·.uniqueIdentifier.any good) = true →
      information.all (·.uniqueIdentifier.any better) = true := by
    intro information all
    cases information with
    | none => rfl
    | some information => exact any_mono implies all
  unfold allTextsOfWrapping at all ⊢
  rw [Bool.and_eq_true_iff, Bool.and_eq_true_iff] at all ⊢
  exact ⟨all.1, informed all.2.1, informed all.2.2⟩

theorem KeyValue.allTexts_mono {keyValue : KeyValue EncodedAttribute}
    (all : keyValue.allTexts good = true) :
    keyValue.allTexts better = true := by
  have both := Bool.and_eq_true_iff.mp all
  refine Bool.and_eq_true_iff.mpr ⟨both.1, ?_⟩
  rw [List.all_eq_true] at both ⊢
  exact fun entry member =>
    EncodedAttribute.allTexts_mono implies (both.2 entry member)

theorem KeyBlock.allTexts_mono {block : KeyBlock EncodedAttribute}
    (all : block.allTexts good = true) : block.allTexts better = true := by
  have both := Bool.and_eq_true_iff.mp all
  refine Bool.and_eq_true_iff.mpr ⟨KeyValue.allTexts_mono implies both.1, ?_⟩
  cases wrapping : block.keyWrappingData with
  | none => rfl
  | some data =>
      rw [wrapping] at both
      exact allTextsOfWrapping_mono implies both.2

end Conditions

section Fits

theorem fits_keyValueItemOf
    {attributeItem : Item EncodedAttribute} {good : String → Bool}
    (entries : ∀ entry, attributeItem.fits entry = entry.allTexts good)
    (keyValue : KeyValue EncodedAttribute) :
    (keyValueItemOf attributeItem).fits keyValue = keyValue.allTexts good := by
  have attributes : attributeItem.fits = (·.allTexts good) := funext entries
  change (_ && List.all _ attributeItem.fits) = _
  rw [attributes]
  rfl

variable {text : Tag → Item String} {good : String → Bool}
  (same : ∀ tag value, (text tag).fits value = good value)
include same

theorem fits_itemOf (value : ValueObject) :
    (value.valueClass.itemOf text .attributeValue).fits value.data =
      value.allTexts good := by
  obtain ⟨valueClass, data⟩ := value
  cases valueClass with
  | text => exact same _ data
  | name =>
      have first : (text .nameValue).fits = good := funext (same _)
      change (Option.any (text .nameValue).fits _ && (true && true)) = _
      rw [first, Bool.and_self, Bool.and_true]
      rfl
  | applicationSpecificInformation =>
      have first : (text .applicationNamespace).fits = good := funext (same _)
      have second : (text .applicationData).fits = good := funext (same _)
      change (Option.any (text .applicationNamespace).fits _ &&
        (Option.any (text .applicationData).fits _ && true)) = _
      rw [first, second, Bool.and_true]
      rfl
  | _ => rfl

theorem fits_keyWrappingDataItemOf (data : KeyWrappingData) :
    (keyWrappingDataItemOf text).fits data = allTextsOfWrapping good data := by
  have identifier : (text .uniqueIdentifier).fits = good := funext (same _)
  simp [keyWrappingDataItemOf, keyInformationItemOf, fieldsItem, structItem,
    Fields.fits, plainItem, enumerationItem, identifier, allTextsOfWrapping]

theorem fits_attributeItemOf (entry : Attribute) :
    (attributeItemOf text).fits entry =
      (EncodedAttribute.known entry).allTexts good := by
  change ((text .attributeName).fits _ && _) = (good _ && _)
  rw [same, fits_itemOf same]

theorem fits_keyBlockItemOf
    {attributeItem : Item EncodedAttribute}
    (entries : ∀ entry, attributeItem.fits entry = entry.allTexts good)
    (block : KeyBlock EncodedAttribute) :
    (keyBlockItemOf text attributeItem).fits block = block.allTexts good := by
  have keyValue : (keyValueItemOf attributeItem).fits =
      (·.allTexts good) := funext (fits_keyValueItemOf entries)
  have wrapping : (keyWrappingDataItemOf text).fits =
      allTextsOfWrapping good := funext (fits_keyWrappingDataItemOf same)
  simp [keyBlockItemOf, fieldsItem, structItem, Fields.fits, plainItem,
    enumerationItem, wrapping, keyValue, KeyBlock.allTexts]

end Fits

section Inversions

end Inversions

section Maps

variable {Entry Other : Type}

def KeyValue.map (change : Entry → Other) (keyValue : KeyValue Entry) :
    KeyValue Other where
  keyMaterial := keyValue.keyMaterial
  attributes := keyValue.attributes.map change

def KeyBlock.map (change : Entry → Other) (block : KeyBlock Entry) :
    KeyBlock Other where
  keyFormatType := block.keyFormatType
  keyCompressionType := block.keyCompressionType
  keyValue := block.keyValue.map change
  cryptographicAlgorithm := block.cryptographicAlgorithm
  cryptographicLength := block.cryptographicLength
  keyWrappingData := block.keyWrappingData

variable {change : Entry → Other} {item : Item Entry} {other : Item Other}

theorem map_readStruct (tag : Tag) (reader : Reader α) (change : α → β) :
    change <$> readStruct tag reader = readStruct tag (change <$> reader) := by
  unfold readStruct
  simp only [map_bind]
  congr
  funext length
  congr
  funext tstream
  rw [StateT.run_map]
  cases reader.run tstream with
  | ok outcome => rfl
  | error exception => rfl

theorem map_readAll
    {fields : Fields Tag CodecError α} {others : Fields Tag CodecError β}
    {change : α → β}
    (maps : others.decode nextTag = change <$> fields.decode nextTag) :
    readAll others = change <$> readAll fields := by
  unfold readAll
  simp only [maps, map_bind, bind_map_left, map_pure]

theorem decode_keyValueItemOf_map
    (tag : other.tag = item.tag) (maps : other.decode = change <$> item.decode) :
    (keyValueItemOf other).decode =
      KeyValue.map change <$> (keyValueItemOf item).decode := by
  have fields : readAll (keyValueFields other) =
      (fun values => (values.1, values.2.1.map change, ())) <$>
          readAll (keyValueFields item) := by
    apply map_readAll
    unfold keyValueFields
    simp only [Fields.decode, decodeMany_map tag maps, map_bind, bind_map_left,
      map_pure, pure_bind, bind_assoc]
  unfold keyValueItemOf
  dsimp only
  rw [map_readStruct, fields]
  simp only [map_bind, bind_map_left, map_pure]
  rfl

theorem decode_keyBlockItemOf_map {text : Tag → Item String}
    (tag : other.tag = item.tag) (maps : other.decode = change <$> item.decode) :
    (keyBlockItemOf text other).decode =
      KeyBlock.map change <$> (keyBlockItemOf text item).decode := by
  have keyValue := decode_keyValueItemOf_map tag maps
  unfold keyBlockItemOf fieldsItem structItem
  dsimp only
  rw [map_readStruct]
  unfold readAll
  simp only [Fields.decode, keyValue, map_bind, bind_map_left, map_pure,
    pure_bind, bind_assoc]
  rfl

theorem encode_keyValueItemOf_map
    (maps : ∀ entry, other.encode (change entry) = item.encode entry)
    (keyValue : KeyValue Entry) :
    (keyValueItemOf other).encode (keyValue.map change) =
      (keyValueItemOf item).encode keyValue := by
  unfold keyValueItemOf keyValueFields KeyValue.map
  simp only [Fields.encode, encodeMany_map maps]

theorem encode_keyBlockItemOf_map {text : Tag → Item String}
    (maps : ∀ entry, other.encode (change entry) = item.encode entry)
    (block : KeyBlock Entry) :
    (keyBlockItemOf text other).encode (block.map change) =
      (keyBlockItemOf text item).encode block := by
  have keyValue := encode_keyValueItemOf_map maps block.keyValue
  unfold keyBlockItemOf fieldsItem structItem KeyBlock.map
  simp only [Fields.encode, keyValue]

theorem KeyValue.map_injective (injective : Function.Injective change) :
    Function.Injective (KeyValue.map change) := by
  intro first second same
  cases first
  cases second
  simp only [KeyValue.map, KeyValue.mk.injEq] at same ⊢
  exact ⟨same.1, (List.map_inj_right fun _ _ alike => injective alike).mp
    same.2⟩

theorem KeyBlock.map_injective (injective : Function.Injective change) :
    Function.Injective (KeyBlock.map change) := by
  intro first second same
  cases first
  cases second
  simp only [KeyBlock.map, KeyBlock.mk.injEq] at same ⊢
  exact ⟨same.1, same.2.1, KeyValue.map_injective injective same.2.2.1,
    same.2.2.2⟩

/-- The item of the protocol settles whether the reader of the program accepts
an encoding and whether the object is written with the same bytes. -/
theorem rewrites_iff
    {protocol decoded : Item β} {reader : Reader α}
    {writer : α → Except CodecError Bytes} {change : α → β}
    (settled : protocol.Settled nextTag)
    (rewritten : protocol.RewrittenBy decoded)
    (reads : protocol.decode = change <$> reader)
    (writes : ∀ object, decoded.encode (change object) = writer object)
    (injective : Function.Injective change)
    (keeps : ∀ value, decoded.fits value = true → protocol.fits value = true)
    {value : β} {bytes : Bytes} (encoded : protocol.encode value = .ok bytes) :
    (∃ object, Reads reader bytes object ∧ writer object = .ok bytes) ↔
      decoded.fits value = true := by
  have settles := settled.settles encoded
  rw [reads] at settles
  constructor
  · rintro ⟨object, readsObject, written⟩
    have ran : (change <$> reader).run (bytes ++ []) =
        .ok (change object, []) := by
      rw [StateT.run_map, readsObject]
      rfl
    cases plain : protocol.fits value with
    | false =>
        rw [plain] at settles
        obtain ⟨exception, failed⟩ := settles []
        cases ran.symm.trans failed
    | true =>
        rw [plain] at settles
        have same : (change <$> reader).run (bytes ++ []) = .ok (value, []) :=
          settles []
        cases ran.symm.trans same
        rw [← writes] at written
        exact (rewritten encoded plain).eq_ok_iff.mp written
  · intro kept
    have plain := keeps value kept
    rw [plain] at settles
    have ran : ∀ rest, ∃ object, reader.run (bytes ++ rest) = .ok (object, rest) ∧
        change object = value := by
      intro rest
      have given : (change <$> reader).run (bytes ++ rest) = .ok (value, rest) :=
        settles rest
      rw [StateT.run_map] at given
      cases outcome : reader.run (bytes ++ rest) with
      | error exception =>
          rw [outcome] at given
          cases given
      | ok result =>
          rw [outcome] at given
          cases given
          exact ⟨result.1, rfl, rfl⟩
    obtain ⟨object, _, same⟩ := ran []
    refine ⟨object, fun rest => ?_, ?_⟩
    · obtain ⟨other, outcome, alike⟩ := ran rest
      rw [outcome, injective (alike.trans same.symm)]
    · rw [← writes, same]
      exact (rewritten encoded plain).eq_ok_iff.mpr kept

end Maps

section Results

theorem known_injective : Function.Injective EncodedAttribute.known :=
  fun _ _ same => EncodedAttribute.known.inj same

theorem fits_protocolAttributeItem (encodedAttribute : EncodedAttribute) :
    protocolAttributeItem.fits encodedAttribute =
      encodedAttribute.allTexts isAscii := by
  have same : ∀ tag text, (protocolTextItem tag).fits text = isAscii text :=
    fun _ _ => rfl
  cases encodedAttribute with
  | known entry => exact fits_attributeItemOf same entry
  | other => rfl

theorem fits_decodedAttributeItem (encodedAttribute : EncodedAttribute) :
    decodedAttributeItem.fits encodedAttribute =
      encodedAttribute.allTexts keptText := by
  have same : ∀ tag text, (decodedTextItem tag).fits text = keptText text :=
    fun _ _ => rfl
  cases encodedAttribute with
  | known entry => exact fits_attributeItemOf same entry
  | other => rfl

theorem isAscii_of_keptText (text : String) (kept : keptText text = true) :
    isAscii text = true :=
  (Bool.and_eq_true_iff.mp kept).1

/-- The encoding of a key value by the protocol. -/
def KeyValue.encode (keyValue : KeyValue EncodedAttribute) :
    Except CodecError Bytes :=
  (keyValueItemOf protocolAttributeItem).encode keyValue

def KeyBlock.encode (block : KeyBlock EncodedAttribute) :
    Except CodecError Bytes :=
  (keyBlockItemOf protocolTextItem protocolAttributeItem).encode block

theorem decode_keyInformationItemOf_protocolTextItem (tag : Tag) :
    (keyInformationItemOf protocolTextItem tag).decode =
      (keyInformationItemOf textStringItem tag).decode := rfl

theorem decode_keyWrappingDataItemOf_protocolTextItem :
    (keyWrappingDataItemOf protocolTextItem).decode =
      (keyWrappingDataItemOf textStringItem).decode := by
  unfold keyWrappingDataItemOf fieldsItem structItem readAll
  simp only [Fields.decode, decodeIfNext,
    decode_keyInformationItemOf_protocolTextItem]
  rfl

/-- Text of either format is read alike. -/
theorem decode_keyBlockItemOf_protocolTextItem
    {Entry : Type} (attributeItem : Item Entry) :
    (keyBlockItemOf protocolTextItem attributeItem).decode =
      (keyBlockItemOf textStringItem attributeItem).decode := by
  unfold keyBlockItemOf fieldsItem structItem readAll
  simp only [Fields.decode, decodeIfNext,
    decode_keyWrappingDataItemOf_protocolTextItem]
  rfl

theorem KeyValue.map_read :
    (keyValueItemOf protocolAttributeItem).decode =
      KeyValue.map EncodedAttribute.known <$> KeyValue.read :=
  decode_keyValueItemOf_map rfl rfl

theorem KeyValue.rewrites_iff
    {keyValue : KeyValue EncodedAttribute} {bytes : Bytes}
    (encoded : keyValue.encode = .ok bytes) :
    (∃ decoded, Reads KeyValue.read bytes decoded ∧
        decoded.rewrite = .ok bytes) ↔
      keyValue.allTexts keptText = true := by
  have writes : ∀ decoded : KeyValue Attribute,
      (keyValueItemOf decodedAttributeItem).encode (decoded.map .known) =
        decoded.rewrite :=
    encode_keyValueItemOf_map fun _ => rfl
  rw [← fits_keyValueItemOf fits_decodedAttributeItem]
  refine Wire.rewrites_iff
    (settled_keyValueItemOf settled_protocolAttributeItem)
    (rewritten_keyValueItemOf rewritten_protocolAttributeItem)
    KeyValue.map_read writes
    (KeyValue.map_injective known_injective) ?_ encoded
  intro value kept
  rw [fits_keyValueItemOf fits_decodedAttributeItem] at kept
  rw [fits_keyValueItemOf fits_protocolAttributeItem]
  exact KeyValue.allTexts_mono isAscii_of_keptText kept

theorem KeyBlock.rewrites_iff
    {block : KeyBlock EncodedAttribute} {bytes : Bytes}
    (encoded : block.encode = .ok bytes) :
    (∃ decoded, Reads KeyBlock.read bytes decoded ∧
        decoded.rewrite = .ok bytes) ↔
      block.allTexts keptText = true := by
  have reads : (keyBlockItemOf protocolTextItem protocolAttributeItem).decode =
      KeyBlock.map EncodedAttribute.known <$> KeyBlock.read := by
    rw [decode_keyBlockItemOf_protocolTextItem]
    exact decode_keyBlockItemOf_map rfl rfl
  have writes : ∀ decoded : KeyBlock Attribute,
      (keyBlockItemOf decodedTextItem decodedAttributeItem).encode
        (decoded.map .known) = decoded.rewrite :=
    encode_keyBlockItemOf_map fun _ => rfl
  have ascii : ∀ tag text, (protocolTextItem tag).fits text = isAscii text :=
    fun _ _ => rfl
  have kept : ∀ tag text, (decodedTextItem tag).fits text = keptText text :=
    fun _ _ => rfl
  rw [← fits_keyBlockItemOf kept fits_decodedAttributeItem]
  refine Wire.rewrites_iff settled_keyBlockItemOf rewritten_keyBlockItemOf reads
    writes (KeyBlock.map_injective known_injective) ?_ encoded
  intro value keeps
  rw [fits_keyBlockItemOf kept fits_decodedAttributeItem] at keeps
  rw [fits_keyBlockItemOf ascii fits_protocolAttributeItem]
  exact KeyBlock.allTexts_mono isAscii_of_keptText keeps

end Results

end PyKMIP.Wire
