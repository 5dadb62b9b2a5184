import PyKMIP.Wire.Primitives

/-!
# Structures

A structure is an item whose value consists of its fields.  The structures
here are those that attribute values have.
-/

namespace PyKMIP

open Formats

section Enumerations

/-- Members whose codes count from one in the order of their declaration. -/
@[reducible] def Coded.inOrder
    (index : α → Nat) (member : Nat → α) (count : Nat)
    (member_index : ∀ value, member (index value) = value)
    (index_lt : ∀ value, index value < count) (few : count < 256 ^ 4) :
    Coded α where
  code value := index value + 1
  ofCode? code :=
    if 1 ≤ code ∧ code ≤ count then some (member (code - 1)) else none
  ofCode?_code value := by
    have small := index_lt value
    rw [if_pos (by omega), Nat.add_sub_cancel, member_index]
  code_lt value := by
    have small := index_lt value
    omega

theorem Coded.two_few : 2 < 256 ^ 4 := by decide

theorem Coded.four_few : 4 < 256 ^ 4 := by decide

theorem Coded.six_few : 6 < 256 ^ 4 := by decide

theorem Coded.ten_few : 10 < 256 ^ 4 := by decide

instance : Coded ObjectType :=
  .inOrder ObjectType.ctorIdx .ofNat 10 ObjectType.ofNat_ctorIdx
    (fun value => by cases value <;> decide) (by decide)

instance : Coded CryptographicAlgorithm :=
  .inOrder CryptographicAlgorithm.ctorIdx .ofNat 56
    CryptographicAlgorithm.ofNat_ctorIdx
    (fun value => by cases value <;> decide) (by decide)

instance : Coded CertificateType :=
  .inOrder CertificateType.ctorIdx .ofNat 2 CertificateType.ofNat_ctorIdx
    (fun value => by cases value <;> decide) (by decide)

instance : Coded State :=
  .inOrder State.ctorIdx .ofNat 6 State.ofNat_ctorIdx
    (fun value => by cases value <;> decide) (by decide)

instance : Coded NameType :=
  .inOrder NameType.ctorIdx .ofNat 2 NameType.ofNat_ctorIdx
    (fun value => by cases value <;> decide) (by decide)

instance : Coded BlockCipherMode :=
  .inOrder BlockCipherMode.ctorIdx .ofNat 18 BlockCipherMode.ofNat_ctorIdx
    (fun value => by cases value <;> decide) (by decide)

instance : Coded PaddingMethod :=
  .inOrder PaddingMethod.ctorIdx .ofNat 10 PaddingMethod.ofNat_ctorIdx
    (fun value => by cases value <;> decide) (by decide)

instance : Coded HashingAlgorithm :=
  .inOrder HashingAlgorithm.ctorIdx .ofNat 17 HashingAlgorithm.ofNat_ctorIdx
    (fun value => by cases value <;> decide) (by decide)

instance : Coded KeyRoleType :=
  .inOrder KeyRoleType.ctorIdx .ofNat 24 KeyRoleType.ofNat_ctorIdx
    (fun value => by cases value <;> decide) (by decide)

instance : Coded DigitalSignatureAlgorithm :=
  .inOrder DigitalSignatureAlgorithm.ctorIdx .ofNat 19
    DigitalSignatureAlgorithm.ofNat_ctorIdx
    (fun value => by cases value <;> decide) (by decide)

instance : Coded KeyFormatType :=
  .inOrder KeyFormatType.ctorIdx .ofNat 22 KeyFormatType.ofNat_ctorIdx
    (fun value => by cases value <;> decide) (by decide)

end Enumerations

section Structures

/-- A structure whose fields have been written to a local stream. -/
def writeStruct (tag : Tag) (fields : Except CodecError Bytes) :
    Except CodecError Bytes := do
  let tstream ← fields
  let header ← writeBase tag .struct tstream.length
  return header ++ tstream

/-- The fields are read from a local stream of the declared length. -/
def readStruct (tag : Tag) (fields : Reader α) : Reader α := do
  let length ← readBase tag .struct
  let tstream ← take length
  match fields.run tstream with
  | .ok (value, _) => return value
  | .error exception => throw exception

theorem shows_of_writeStruct
    {tag : Tag} {fields : Except CodecError Bytes} {bytes : Bytes}
    (written : writeStruct tag fields = .ok bytes) (rest : Bytes) :
    nextTag (bytes ++ rest) = some tag := by
  obtain ⟨tstream, _, written⟩ := bind_eq_ok written
  obtain ⟨header, writtenHeader, written⟩ := bind_eq_ok written
  cases written
  exact shows_of_writeBase writtenHeader rfl rest

theorem reads_readStruct
    {tag : Tag} {fields : Except CodecError Bytes} {bytes : Bytes}
    (written : writeStruct tag fields = .ok bytes) {reader : Reader α} {value : α}
    (reads : ∀ tstream, fields = .ok tstream →
      ∃ rest, reader.run tstream = .ok (value, rest)) :
    Reads (readStruct tag reader) bytes value := by
  obtain ⟨tstream, writes, written⟩ := bind_eq_ok written
  obtain ⟨header, writtenHeader, written⟩ := bind_eq_ok written
  cases written
  obtain ⟨left, ran⟩ := reads tstream writes
  intro rest
  unfold readStruct
  rw [List.append_assoc, run_bind_ok (reads_readBase writtenHeader _),
    run_bind_ok (reads_take tstream _), ran]
  rfl

theorem yields_writeStruct
    {tag : Tag} {fields : Except CodecError Bytes} {fits : Bool} {size : Nat}
    (yields : Yields fields fits size) :
    Yields (writeStruct tag fields) (fits && decide (size < 256 ^ 4))
      (8 + size) := by
  cases fields with
  | error exception =>
      rw [show fits = false from yields]
      exact Bool.false_and _
  | ok tstream =>
      obtain ⟨fitted, rfl⟩ := yields
      have header := yields_writeBase tag .struct tstream.length
      have value : Yields (.ok tstream : Except CodecError Bytes) true
        tstream.length := ⟨rfl, rfl⟩
      have written := header.append value
      rw [fitted, Bool.true_and]
      rw [Bool.and_true] at written
      exact written

/-- The fields are read, and nothing follows the last one. -/
def readAll (fields : Fields Tag CodecError α) : Reader α := do
  let value ← fields.decode nextTag
  isOversized
  return value

theorem run_readAll
    {fields : Fields Tag CodecError α} (lawful : fields.Lawful nextTag)
    (distinct : fields.Distinct) {value : α} {bytes : Bytes}
    (encoded : fields.encode value = .ok bytes) :
    (readAll fields).run bytes = .ok (value, []) := by
  unfold readAll
  rw [run_bind_ok (fields.decode_encode lawful distinct nextTag_nil encoded)]
  rfl

/-- A structure with the given fields. -/
def structItem (tag : Tag) (fields : Fields Tag CodecError β)
    (toFields : α → β) (ofFields : β → α) : Item α where
  tag := tag
  encode value := writeStruct tag (fields.encode (toFields value))
  decode := readStruct tag (ofFields <$> readAll fields)
  fits value := fields.fits (toFields value) &&
    fields.size (toFields value) < 256 ^ 4
  size value := 8 + fields.size (toFields value)

theorem lawful_structItem
    {tag : Tag} {fields : Fields Tag CodecError β} {toFields : α → β}
    {ofFields : β → α} (lawful : fields.Lawful nextTag)
    (distinct : fields.Distinct)
    (inverse : ∀ value, ofFields (toFields value) = value) :
    (structItem tag fields toFields ofFields).Lawful nextTag where
  shows := shows_of_writeStruct
  reads := by
    intro value bytes encoded
    refine reads_readStruct encoded fun tstream written => ⟨[], ?_⟩
    rw [StateT.run_map, run_readAll lawful distinct written]
    exact congrArg (fun value => Except.ok (value, [])) (inverse value)

theorem sized_structItem
    {tag : Tag} {fields : Fields Tag CodecError β} {toFields : α → β}
    {ofFields : β → α} (sized : fields.Sized) :
    (structItem tag fields toFields ofFields).Sized :=
  fun value => yields_writeStruct (fields.yields_encode sized (toFields value))

end Structures

section Values

structure NameStructure where
  nameValue : Option String
  nameType : Option NameType
deriving DecidableEq

/-- A part that is `None` has no `write`, or no value. -/
def nameItem (tag : Tag) : Item NameStructure :=
  structItem tag
    (.always ((textStringItem .nameValue).orUnset .attributeError) <|
      .always ((enumerationItem NameType .nameType).orUnset .attributeError) .nil)
    (fun name => (name.nameValue, name.nameType, ()))
    (fun (nameValue, nameType, ()) => ⟨nameValue, nameType⟩)

def cryptographicParametersItem (tag : Tag) : Item CryptographicParameters :=
  structItem tag
    (.optional (enumerationItem BlockCipherMode .blockCipherMode) <|
      .optional (enumerationItem PaddingMethod .paddingMethod) <|
      .optional (enumerationItem HashingAlgorithm .hashingAlgorithm) <|
      .optional (enumerationItem KeyRoleType .keyRoleType) <|
      .optional (enumerationItem DigitalSignatureAlgorithm
        .digitalSignatureAlgorithm) <|
      .optional (enumerationItem CryptographicAlgorithm
        .cryptographicAlgorithm) <|
      .optional (booleanItem .randomIv) <|
      .optional (integerItem .ivLength) <|
      .optional (integerItem .tagLength) <|
      .optional (integerItem .fixedFieldLength) <|
      .optional (integerItem .invocationFieldLength) <|
      .optional (integerItem .counterLength) <|
      .optional (integerItem .initialCounterValue) .nil)
    (fun parameters => (parameters.blockCipherMode, parameters.paddingMethod,
      parameters.hashingAlgorithm, parameters.keyRoleType,
      parameters.digitalSignatureAlgorithm, parameters.cryptographicAlgorithm,
      parameters.randomIv, parameters.ivLength, parameters.tagLength,
      parameters.fixedFieldLength, parameters.invocationFieldLength,
      parameters.counterLength, parameters.initialCounterValue, ()))
    (fun (blockCipherMode, paddingMethod, hashingAlgorithm, keyRoleType,
        digitalSignatureAlgorithm, cryptographicAlgorithm, randomIv, ivLength,
        tagLength, fixedFieldLength, invocationFieldLength, counterLength,
        initialCounterValue, ()) =>
      ⟨blockCipherMode, paddingMethod, hashingAlgorithm, keyRoleType,
        digitalSignatureAlgorithm, cryptographicAlgorithm, randomIv, ivLength,
        tagLength, fixedFieldLength, invocationFieldLength, counterLength,
        initialCounterValue⟩)

structure Digest where
  hashingAlgorithm : HashingAlgorithm := .sha256
  digestValue : Bytes := []
  keyFormatType : KeyFormatType := .raw
deriving DecidableEq

def digestItem (tag : Tag) : Item Digest :=
  structItem tag
    (.always (enumerationItem HashingAlgorithm .hashingAlgorithm) <|
      .always (byteStringItem .digestValue) <|
      .always (enumerationItem KeyFormatType .keyFormatType) .nil)
    (fun digest =>
      (digest.hashingAlgorithm, digest.digestValue, digest.keyFormatType, ()))
    (fun (hashingAlgorithm, digestValue, keyFormatType, ()) =>
      ⟨hashingAlgorithm, digestValue, keyFormatType⟩)

structure ApplicationInformationStructure where
  applicationNamespace : Option String
  applicationData : Option String
deriving DecidableEq

def applicationSpecificInformationItem (tag : Tag) :
    Item ApplicationInformationStructure :=
  structItem tag
    (.demanded (textStringItem .applicationNamespace)
      (.invalidField ("The ApplicationSpecificInformation object is missing " ++
        "the ApplicationNamespace field."))
      (.invalidKmipEncoding ("The ApplicationSpecificInformation encoding is " ++
        "missing the ApplicationNamespace field.")) <|
      .demanded (textStringItem .applicationData)
      (.invalidField ("The ApplicationSpecificInformation object is missing " ++
        "the ApplicationData field."))
      (.invalidKmipEncoding ("The ApplicationSpecificInformation encoding is " ++
        "missing the ApplicationData field.")) .nil)
    (fun information =>
      (information.applicationNamespace, information.applicationData, ()))
    (fun (applicationNamespace, applicationData, ()) =>
      ⟨applicationNamespace, applicationData⟩)

theorem lawful_nameItem (tag : Tag) : (nameItem tag).Lawful nextTag :=
  lawful_structItem
    ⟨(lawful_textStringItem _).orUnset _, (lawful_enumerationItem ..).orUnset _,
      trivial⟩
    (by decide) fun _ => rfl

theorem lawful_cryptographicParametersItem (tag : Tag) :
    (cryptographicParametersItem tag).Lawful nextTag :=
  lawful_structItem
    ⟨lawful_enumerationItem .., lawful_enumerationItem ..,
      lawful_enumerationItem .., lawful_enumerationItem ..,
      lawful_enumerationItem .., lawful_enumerationItem ..,
      lawful_booleanItem _, lawful_integerItem _, lawful_integerItem _,
      lawful_integerItem _, lawful_integerItem _, lawful_integerItem _,
      lawful_integerItem _, trivial⟩
    (by decide) fun _ => rfl

theorem lawful_digestItem (tag : Tag) : (digestItem tag).Lawful nextTag :=
  lawful_structItem
    ⟨lawful_enumerationItem .., lawful_byteStringItem _,
      lawful_enumerationItem .., trivial⟩
    (by decide) fun _ => rfl

theorem lawful_applicationSpecificInformationItem (tag : Tag) :
    (applicationSpecificInformationItem tag).Lawful nextTag :=
  lawful_structItem
    ⟨lawful_textStringItem _, lawful_textStringItem _, trivial⟩
    (by decide) fun _ => rfl

theorem sized_nameItem (tag : Tag) : (nameItem tag).Sized :=
  sized_structItem
    ⟨(sized_textStringItem _).orUnset _, (sized_enumerationItem _ _).orUnset _,
      trivial⟩

theorem sized_cryptographicParametersItem (tag : Tag) :
    (cryptographicParametersItem tag).Sized :=
  sized_structItem
    ⟨sized_enumerationItem _ _, sized_enumerationItem _ _,
      sized_enumerationItem _ _, sized_enumerationItem _ _,
      sized_enumerationItem _ _, sized_enumerationItem _ _,
      sized_booleanItem _, sized_integerItem _, sized_integerItem _,
      sized_integerItem _, sized_integerItem _, sized_integerItem _,
      sized_integerItem _, trivial⟩

theorem sized_digestItem (tag : Tag) : (digestItem tag).Sized :=
  sized_structItem
    ⟨sized_enumerationItem _ _, sized_byteStringItem _,
      sized_enumerationItem _ _, trivial⟩

theorem sized_applicationSpecificInformationItem (tag : Tag) :
    (applicationSpecificInformationItem tag).Sized :=
  sized_structItem
    ⟨sized_textStringItem _, sized_textStringItem _, trivial⟩

end Values

end PyKMIP
