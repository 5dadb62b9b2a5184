import PyKMIP.Properties.AttributeForms
import PyKMIP.Properties.KeyBlockRewriting
import PyKMIP.Wire.RequestWriting

/-!
# The parts of a request survive the wire

What is written of the header of a request, of its credentials and of the
objects in its payloads is read back.  Every reader is followed with the writer
of its structure, field by field: a field is there exactly if its tag comes
next, since the tags of what may follow it are others.
-/

namespace PyKMIP.Wire

open Formats Traces

section Rules

theorem reads_readHeader {tag : Tag} {length : Nat} {bytes : Bytes}
    (written : (writeBase tag .struct length).mapError RequestError.codec =
      .ok bytes) :
    Formats.Reads (readHeader tag) bytes length ∧
      ∀ rest, nextTag (bytes ++ rest) = some tag := by
  cases result : writeBase tag .struct length with
  | error exception =>
      rw [result] at written
      cases written
  | ok header =>
      rw [result] at written
      cases written
      refine ⟨fun rest => ?_, nextTag_of_writeBase result⟩
      change ((readBase tag .struct).run (bytes ++ rest)).mapError _ = _
      rw [reads_readBase result rest]
      rfl

/-- The contents of a structure give back what has been written of them. -/
theorem undoes_contents {α : Type} {tag : Tag} {contents : RequestReading α}
    {writers : List Writing} {value : α} {write : α → Writing}
    (writes : write value = writeFields tag writers)
    (gives : ∀ localStream, writeAll writers = .ok localStream →
      contents.Gives localStream value []) :
    (struct tag contents).Undoes nextTag write value := by
  intro bytes written
  rw [writes] at written
  obtain ⟨localStream, fields, written⟩ := bind_eq_ok written
  obtain ⟨header, heads, written⟩ := bind_eq_ok written
  cases written
  obtain ⟨reads, shows⟩ := reads_readHeader heads
  refine ⟨fun rest => ?_, ?_⟩
  · rw [List.append_assoc]
    exact shows (localStream ++ rest)
  · exact Reading.reads_slice (takes_readHeader tag) reads
      (gives localStream fields)

/-- A structure survives if its contents do. -/
theorem undoes_struct {α : Type} {tag : Tag} {contents : RequestReading α}
    {tags : List Tag} {writers : List Writing} {value : α} {write : α → Writing}
    (writes : write value = writeFields tag writers)
    (survives : Survives nextTag tags writers contents value) :
    (struct tag contents).Undoes nextTag write value :=
  undoes_contents writes fun localStream fields =>
    (survives localStream fields).2

/-- An item whose value has the condition under which it is read back. -/
theorem undoes_kept {item : Item α} (traced : Traced 8 item) {value : α}
    (kept : ∀ {bytes}, item.encode value = .ok bytes →
      (∀ rest, nextTag (bytes ++ rest) = some item.tag) ∧
        Formats.Reads item.decode bytes value) :
    (fieldOf traced).Undoes nextTag (writeItem item) value := by
  have undoes := (traced.undoes_of kept).mapError RequestError.codec
  exact undoes.ofWritten RequestError.codec

theorem undoes_fieldOf {item : Item α} (traced : Traced 8 item)
    (lawful : item.Lawful nextTag) (value : α) :
    (fieldOf traced).Undoes nextTag (writeItem item) value :=
  undoes_kept traced fun written => ⟨lawful.shows written, lawful.reads written⟩

theorem undoes_text (tag : Tag) (value : String) :
    (text tag).Undoes nextTag (writeText tag) value :=
  undoes_fieldOf _ (lawful_textStringItem tag) value

theorem undoes_byteString (tag : Tag) (value : Bytes) :
    (byteString tag).Undoes nextTag (writeBytes tag) value :=
  undoes_fieldOf _ (lawful_byteStringItem tag) value

theorem undoes_integer (tag : Tag) (value : Int) :
    (integer tag).Undoes nextTag (writeInt tag) value :=
  undoes_fieldOf _ (lawful_integerItem tag) value

theorem undoes_longInteger (tag : Tag) (value : Int) :
    (longInteger tag).Undoes nextTag (writeLong tag) value :=
  undoes_fieldOf _ (lawful_longIntegerItem tag) value

theorem undoes_dateTime (tag : Tag) (value : Int) :
    (dateTime tag).Undoes nextTag (writeDate tag) value :=
  undoes_fieldOf _ (lawful_dateTimeItem tag) value

theorem undoes_interval (tag : Tag) (value : Nat) :
    (interval tag).Undoes nextTag (writeSpan tag) value :=
  undoes_fieldOf _ (lawful_intervalItem tag) value

theorem undoes_boolean (tag : Tag) (value : Bool) :
    (boolean tag).Undoes nextTag (writeFlag tag) value :=
  undoes_fieldOf _ (lawful_booleanItem tag) value

theorem undoes_enumeration [Coded α] (tag : Tag) (value : α) :
    (enumeration α tag).Undoes nextTag (writeMember tag) value :=
  undoes_fieldOf _ (lawful_enumerationItem α tag) value

theorem undoes_cryptographicParameters (value : CryptographicParameters) :
    cryptographicParameters.Undoes nextTag
      (writeItem (cryptographicParametersItem .cryptographicParameters))
      value :=
  undoes_fieldOf _ (lawful_cryptographicParametersItem _) value

variable {α β : Type} {tags : List Tag} {writers : List Writing} {result : β}

/-- Nothing is left at the end of a structure. -/
theorem survives_notOversized (value : α) :
    Survives nextTag [] ([] : List Writing)
      (notOversized >>= fun _ => pure value) value := by
  apply Survives.ends nextTag_nil
  have done : notOversized.Gives [] () [] :=
    Reading.Gives.mapError (Reading.Gives.ofDecoder rfl) RequestError.codec
  exact done.bind (.pure value [])

theorem survives_pure (value : α) :
    Survives nextTag [] ([] : List Writing) (pure value : RequestReading α)
      value :=
  Survives.ends nextTag_nil (.pure value [])

/-- A refusal that does not apply. -/
theorem survives_unless {condition : Prop} [Decidable condition]
    {exception : RequestError} {reading : RequestReading α} {value : α}
    (holds : ¬condition) (others : Survives nextTag tags writers reading value) :
    Survives nextTag tags writers
      (if condition then raise exception else reading) value := by
  rwa [if_neg holds]

/-- A field that belongs to the versions from one on. -/
theorem survives_since {supported version : KmipVersion}
    {field : RequestField α} {write : α → Writing} {value : Option α}
    {later : Option α → RequestReading β}
    (undoes : ∀ present, value = some present →
      field.Undoes nextTag write present)
    (distinct : field.tag ∉ tags) (allowed : supported ≤ version ∨ value = none)
    (others : Survives nextTag tags writers (later value) result) :
    Survives nextTag (field.tag :: tags)
      (since supported version (writePresent write value) :: writers)
      ((if supported ≤ version then optional field else pure none) >>= later)
      result := by
  unfold since
  split
  · exact .optional undoes distinct others
  · rename_i early
    obtain rfl : value = none := allowed.resolve_left early
    have first : Survives nextTag tags writers (pure none >>= later) result :=
      others.returned
    exact first.skip.widen fun _ member => List.mem_cons_of_mem _ member

end Rules

section Header

theorem undoes_protocolVersion (version : ProtocolVersion) :
    protocolVersion.Undoes nextTag writeProtocolVersion version :=
  undoes_struct rfl <|
    .demanded (undoes_integer _ _) <| .demanded (undoes_integer _ _) <|
      survives_notOversized version

theorem undoes_nonce (nonceId nonceValue : Bytes) :
    nonce.Undoes nextTag (fun (first, second) => writeNonce first second)
      (nonceId, nonceValue) :=
  undoes_struct rfl <|
    .demanded (undoes_byteString _ _) <|
      .demanded (undoes_byteString _ _) <| survives_notOversized _

/-- The type under which the value of a credential is read. -/
def CredentialValue.credentialType : CredentialValue → CredentialType
  | .usernamePassword .. => .usernameAndPassword
  | .device .. => .device
  | .attestation .. => .attestation

theorem undoes_usernamePassword (username : String) (password : Option String) :
    usernamePasswordCredential.Undoes nextTag writeCredentialValue
      (.usernamePassword username password) :=
  undoes_struct rfl <|
    .demanded (undoes_text _ _) <|
      .optional (fun _ _ => undoes_text _ _) (by decide) <|
        survives_notOversized _

theorem undoes_device (deviceSerialNumber password deviceIdentifier
    networkIdentifier machineIdentifier mediaIdentifier : Option String) :
    deviceCredential.Undoes nextTag writeCredentialValue
      (.device deviceSerialNumber password deviceIdentifier networkIdentifier
        machineIdentifier mediaIdentifier) :=
  undoes_struct rfl <|
    .optional (fun _ _ => undoes_text _ _) (by decide) <|
      .optional (fun _ _ => undoes_text _ _) (by decide) <|
      .optional (fun _ _ => undoes_text _ _) (by decide) <|
      .optional (fun _ _ => undoes_text _ _) (by decide) <|
      .optional (fun _ _ => undoes_text _ _) (by decide) <|
      .optional (fun _ _ => undoes_text _ _) (by decide) <|
        survives_notOversized _

/-- The writer makes the check of the reader. -/
theorem undoes_attestation (nonceId nonceValue : Bytes)
    (attestationType : AttestationType)
    (attestationMeasurement attestationAssertion : Option Bytes) :
    attestationCredential.Undoes nextTag writeCredentialValue
      (.attestation nonceId nonceValue attestationType attestationMeasurement
        attestationAssertion) :=
  undoes_struct rfl <|
    .demanded (undoes_nonce nonceId nonceValue) <|
      .demanded (undoes_enumeration _ _) <|
      .optional (fun _ _ => undoes_byteString _ _) (by decide) <|
      .optional (fun _ _ => undoes_byteString _ _) (by decide) <|
      .checked fun complete => survives_unless complete <|
        survives_notOversized _

theorem undoes_credential (credential_ : Credential)
    (matched : credential_.credentialType =
      credential_.credentialValue.credentialType) :
    credential.Undoes nextTag writeCredential credential_ := by
  obtain ⟨credentialType, credentialValue⟩ := credential_
  dsimp only at matched
  subst matched
  cases credentialValue with
  | usernamePassword username password =>
      exact undoes_struct rfl <|
        .demanded (undoes_enumeration _ _) <|
          .demanded (undoes_usernamePassword username password) <|
            survives_notOversized _
  | device first second third fourth fifth sixth =>
      exact undoes_struct rfl <|
        .demanded (undoes_enumeration _ _) <|
          .demanded (undoes_device first second third fourth fifth sixth) <|
            survives_notOversized _
  | attestation first second third fourth fifth =>
      exact undoes_struct rfl <|
        .demanded (undoes_enumeration _ _) <|
          .demanded (undoes_attestation first second third fourth fifth) <|
            survives_notOversized _

theorem undoes_authentication (credentials : List Credential)
    (matched : ∀ credential ∈ credentials, credential.credentialType =
      credential.credentialValue.credentialType) :
    authentication.Undoes nextTag writeAuthentication credentials :=
  undoes_struct rfl <|
    .checked fun present =>
      .many (fun credential member => undoes_credential credential
          (matched credential member)) (List.not_mem_nil) <|
        survives_unless present <| survives_notOversized _

/-- The credentials of the header have the types of their values. -/
def RequestHeader.Matched (header : RequestHeader) : Prop :=
  ∀ credentials, header.authentication = some credentials →
    ∀ credential ∈ credentials, credential.credentialType =
      credential.credentialValue.credentialType

theorem undoes_requestHeader (header : RequestHeader)
    (matched : header.Matched) :
    requestHeader.Undoes nextTag writeRequestHeader header :=
  undoes_struct rfl <|
    .always (undoes_protocolVersion _) <|
      .optional (fun _ _ => undoes_integer _ _) (by decide) <|
      .optional (fun _ _ => undoes_boolean _ _) (by decide) <|
      .optional (fun credentials present => undoes_authentication credentials
        (matched credentials present)) (by decide) <|
      .optional (fun _ _ => undoes_enumeration _ _) (by decide) <|
      .optional (fun _ _ => undoes_boolean _ _) (by decide) <|
      .optional (fun _ _ => undoes_dateTime _ _) (by decide) <|
      .always (undoes_integer _ _) <| survives_notOversized header

end Header

section KeyBlocks

/-- The attributes of a key value, whose values fit their names. -/
def newAttributeItem : Item Attribute :=
  (attributeItemOf textStringItem).guarded Attribute.wellNamed .valueError

theorem lawful_newAttributeItem : newAttributeItem.Lawful nextTag := by
  constructor
  · intro entry bytes encoded
    change ite _ _ _ = _ at encoded
    split at encoded
    · exact shows_of_writeStruct encoded
    · cases encoded
  · intro entry bytes encoded
    change ite _ _ _ = _ at encoded
    split at encoded
    · rename_i named
      change entry.writeOf textStringItem = _ at encoded
      rw [Attribute.writeOf_textStringItem] at encoded
      exact Attribute.reads_write named encoded
    · cases encoded

/-- The material of the key is known as bytes. -/
def KeyValue.kept (keyValue : KeyValue Attribute) : Bool :=
  keyValue.keyMaterial.isBytes && keyValue.attributes.all Attribute.wellNamed

def KeyBlock.Kept (block : KeyBlock Attribute) : Prop := block.keyValue.kept

/-- The key values that are read back. -/
def keptKeyValueItem : Item (KeyValue Attribute) :=
  (keyValueItemOf (attributeItemOf textStringItem)).guarded KeyValue.kept
    .valueError

theorem encode_keyValue
    {keyValue : KeyValue Attribute}
    (named : keyValue.attributes.all Attribute.wellNamed) :
    (keyValueItemOf (plainItem newAttributeItem)).encode keyValue =
      (keyValueItemOf (attributeItemOf textStringItem)).encode keyValue := by
  have same : encodeMany (plainItem newAttributeItem) keyValue.attributes =
      encodeMany (attributeItemOf textStringItem) keyValue.attributes :=
    encodeMany_congr fun entry member =>
      if_pos (List.all_eq_true.mp named entry member)
  unfold keyValueItemOf keyValueFields
  simp only [Fields.encode, same]

theorem decode_keyValue :
    (keyValueItemOf (plainItem newAttributeItem)).decode =
      (keyValueItemOf (attributeItemOf textStringItem)).decode := by
  have same : decodeMany nextTag (plainItem newAttributeItem) =
      decodeMany nextTag (attributeItemOf textStringItem) :=
    decodeMany_congr rfl rfl
  unfold keyValueItemOf keyValueFields readAll
  simp only [Fields.decode, same]

theorem lawful_keptKeyValueItem : keptKeyValueItem.Lawful nextTag := by
  have settled := settled_keyValueItemOf
    (settled_plainItem lawful_newAttributeItem)
  constructor
  · intro keyValue bytes encoded
    change ite _ _ _ = _ at encoded
    split at encoded
    · exact shows_of_writeStruct encoded
    · cases encoded
  · intro keyValue bytes encoded
    change ite _ _ _ = _ at encoded
    split at encoded
    · rename_i kept
      obtain ⟨isBytes, named⟩ := Bool.and_eq_true_iff.mp kept
      rw [← encode_keyValue named] at encoded
      have settles := settled.settles encoded
      have fits : (keyValueItemOf (plainItem newAttributeItem)).fits
          keyValue = true := by
        simp [keyValueItemOf, plainItem, isBytes]
      rw [fits, decode_keyValue] at settles
      exact settles
    · cases encoded

theorem lawful_fieldsItem {β : Type}
    {tag : Tag} {fields : Fields Tag CodecError β} {toFields : α → β}
    {ofFields : β → α} (lawful : fields.Lawful nextTag)
    (distinct : fields.Distinct)
    (inverse : ∀ value, ofFields (toFields value) = value) :
    (fieldsItem tag fields toFields ofFields).Lawful nextTag where
  shows := (lawful_structItem lawful distinct inverse).shows
  reads := (lawful_structItem lawful distinct inverse).reads

theorem lawful_keyInformationItem (tag : Tag) :
    (keyInformationItemOf textStringItem tag).Lawful nextTag :=
  lawful_fieldsItem
    ⟨lawful_textStringItem _,
      ⟨(lawful_cryptographicParametersItem _).shows,
        (lawful_cryptographicParametersItem _).reads⟩, trivial⟩
    (by decide) fun _ => rfl

theorem lawful_keyWrappingDataItem :
    (keyWrappingDataItemOf textStringItem).Lawful nextTag :=
  lawful_fieldsItem
    ⟨lawful_enumerationItem _ _, lawful_keyInformationItem _,
      lawful_keyInformationItem _,
      ⟨(lawful_byteStringItem _).shows, (lawful_byteStringItem _).reads⟩,
      ⟨(lawful_byteStringItem _).shows, (lawful_byteStringItem _).reads⟩,
      lawful_enumerationItem _ _, trivial⟩
    (by decide) fun _ => rfl

/-- The fields of a key block, with the key values that are read back. -/
def keptKeyBlockItem : Item (KeyBlock Attribute) :=
  fieldsItem .keyBlock
    (.always (enumerationItem KeyFormatType .keyFormatType) <|
      .optional (enumerationItem KeyCompressionType .keyCompressionType) <|
      .always keptKeyValueItem <|
      .optional (enumerationItem CryptographicAlgorithm
        .cryptographicAlgorithm) <|
      .optional (plainItem (integerItem .cryptographicLength)) <|
      .optional (keyWrappingDataItemOf textStringItem) .nil)
    (fun block => (block.keyFormatType, block.keyCompressionType,
      block.keyValue, block.cryptographicAlgorithm, block.cryptographicLength,
      block.keyWrappingData, ()))
    (fun (keyFormatType, keyCompressionType, keyValue, cryptographicAlgorithm,
        cryptographicLength, keyWrappingData, ()) =>
      ⟨keyFormatType, keyCompressionType, keyValue, cryptographicAlgorithm,
        cryptographicLength, keyWrappingData⟩)

theorem lawful_keptKeyBlockItem : keptKeyBlockItem.Lawful nextTag :=
  lawful_fieldsItem
    ⟨lawful_enumerationItem _ _, lawful_enumerationItem _ _,
      lawful_keptKeyValueItem, lawful_enumerationItem _ _,
      ⟨(lawful_integerItem _).shows, (lawful_integerItem _).reads⟩,
      lawful_keyWrappingDataItem, trivial⟩
    (by decide) fun _ => rfl

theorem undoes_keyBlock {block : KeyBlock Attribute} (kept : block.Kept) :
    keyBlock.Undoes nextTag writeKeyBlock block := by
  have same : keptKeyBlockItem.encode block =
      (keyBlockItemOf textStringItem
        (attributeItemOf textStringItem)).encode block := by
    have whole : keptKeyValueItem.encode block.keyValue =
        (keyValueItemOf (attributeItemOf textStringItem)).encode
          block.keyValue := if_pos kept
    unfold keptKeyBlockItem keyBlockItemOf fieldsItem structItem
    simp only [Fields.encode, whole]
  refine undoes_kept _ fun {bytes} written => ?_
  rw [← same] at written
  exact ⟨lawful_keptKeyBlockItem.shows written,
    lawful_keptKeyBlockItem.reads written⟩

end KeyBlocks

section Objects

theorem undoes_attributeField {entry : Attribute} (named : entry.wellNamed) :
    attributeField.Undoes nextTag writeAttribute entry :=
  undoes_kept _ fun written =>
    ⟨Attribute.shows_write written, Attribute.reads_write named written⟩

theorem undoes_certificate (certificateType : CertificateType)
    (certificateValue : Bytes) :
    certificate.Undoes nextTag writeSecret
      (.certificate certificateType certificateValue) :=
  undoes_struct rfl <|
    .always (undoes_enumeration _ _) <| .always (undoes_byteString _ _) <|
      survives_notOversized _

theorem undoes_keyBlockKey {tag : Tag} {make : KeyBlock Attribute → Secret}
    {block : KeyBlock Attribute} (kept : block.Kept)
    (writes : writeSecret (make block) =
      writeFields tag [writeKeyBlock block]) :
    (keyBlockKey tag make).Undoes nextTag writeSecret (make block) :=
  undoes_struct writes <|
    .always (undoes_keyBlock kept) <| survives_notOversized _

/-- A big integer that has been read: its length is that of its bits. -/
def countedBigInteger (value : Int) : Primitive Int :=
  ⟨value, some (((BigInteger.toBits value).length + 7) / 8), 0⟩

theorem undoes_bigInteger (tag : Tag) (value : Int) :
    (bigInteger tag).Undoes nextTag (writeBigInteger tag)
      (countedBigInteger value) := by
  have undoes : Field.Undoes nextTag
      (⟨tag, .ofDecoder (BigInteger.read tag) (takes_bigInteger tag)⟩ :
        Field 8 Tag CodecError (Primitive Int))
      (BigInteger.write tag) (countedBigInteger value) := by
    intro bytes written
    change BigInteger.write tag (BigInteger.new value) = _ at written
    refine ⟨?_, fun rest fuel enough =>
      congrArg some (BigInteger.reads_write written rest)⟩
    obtain ⟨header, heads, written⟩ := bind_eq_ok written
    cases written
    exact shows_of_writeBase heads rfl
  exact (undoes.mapError RequestError.codec).ofWritten RequestError.codec

theorem undoes_splitKey (splitKeyParts keyPartIdentifier splitKeyThreshold : Int)
    (splitKeyMethod : SplitKeyMethod) (primeFieldSize : Option (Primitive Int))
    {keyBlock : KeyBlock Attribute} (kept : keyBlock.Kept)
    (counted : ∀ object, primeFieldSize = some object →
      object = countedBigInteger object.value) :
    splitKey.Undoes nextTag writeSecret
      (.splitKey splitKeyParts keyPartIdentifier splitKeyThreshold
        splitKeyMethod primeFieldSize keyBlock) :=
  undoes_struct rfl <|
    .demanded (undoes_integer _ _) <| .demanded (undoes_integer _ _) <|
      .demanded (undoes_integer _ _) <| .demanded (undoes_enumeration _ _) <|
      .optional (fun object present =>
        counted object present ▸ undoes_bigInteger _ _) (by decide) <|
      .checked fun complete => survives_unless complete <|
        .demanded (undoes_keyBlock kept) <| survives_notOversized _

/-- The first of several items is written like the others. -/
theorem survives_cons {α β : Type} {tags : List Tag} {writers : List Writing}
    {write : α → Writing} {first : α} {others : List α}
    {reading : RequestReading β} {result : β}
    (survives : Survives nextTag tags
      (write first :: writeAll (others.map write) :: writers) reading result) :
    Survives nextTag tags
      (writeAll ((first :: others).map write) :: writers) reading result := by
  intro bytes written
  obtain ⟨items, rest, writtenItems, writtenRest, rfl⟩ := writeAll_cons written
  obtain ⟨item, later, writtenItem, writtenLater, rfl⟩ :=
    writeAll_cons writtenItems
  apply survives
  rw [List.append_assoc]
  simp only [writeAll, writtenItem, writtenLater, writtenRest]
  rfl

theorem undoes_template {first : Attribute} {others : List Attribute}
    (named : ∀ entry ∈ first :: others, entry.wellNamed) :
    template.Undoes nextTag writeSecret (.template (first :: others)) :=
  undoes_struct rfl <|
    survives_cons <|
      .always (undoes_attributeField (named first List.mem_cons_self)) <|
      .many (fun entry member => undoes_attributeField
        (named entry (List.mem_cons_of_mem _ member))) List.not_mem_nil <|
      survives_notOversized _

theorem undoes_secretData (secretDataType : SecretDataType)
    {keyBlock : KeyBlock Attribute} (kept : keyBlock.Kept) :
    secretData.Undoes nextTag writeSecret
      (.secretData secretDataType keyBlock) :=
  undoes_struct rfl <|
    .always (undoes_enumeration _ _) <| .always (undoes_keyBlock kept) <|
      survives_notOversized _

theorem undoes_opaqueObject (opaqueDataType : OpaqueDataType)
    (opaqueDataValue : Bytes) :
    opaqueObject.Undoes nextTag writeSecret
      (.opaqueObject opaqueDataType opaqueDataValue) :=
  undoes_struct rfl <|
    .always (undoes_enumeration _ _) <| .always (undoes_byteString _ _) <|
      survives_notOversized _

/-- The object type whose secrets the factory creates for the secret. -/
def Secret.objectType : Secret → ObjectType
  | .certificate .. => .certificate
  | .symmetricKey _ => .symmetricKey
  | .publicKey _ => .publicKey
  | .privateKey _ => .privateKey
  | .splitKey .. => .splitKey
  | .template _ => .template
  | .secretData .. => .secretData
  | .opaqueObject .. => .opaqueData

/-- What a secret must fulfil to be read back. -/
def Secret.Kept : Secret → Prop
  | .symmetricKey keyBlock | .publicKey keyBlock | .privateKey keyBlock
  | .secretData _ keyBlock => keyBlock.Kept
  | .splitKey _ _ _ _ primeFieldSize keyBlock =>
      keyBlock.Kept ∧ ∀ object, primeFieldSize = some object →
        object = countedBigInteger object.value
  | .template attributes =>
      attributes ≠ [] ∧ ∀ entry ∈ attributes, entry.wellNamed
  | .certificate .. | .opaqueObject .. => True

/-- The factory finds the reader of the secret by its object type. -/
theorem undoes_secret {secret : Secret} (kept : secret.Kept) :
    ∃ field, createSecret secret.objectType = .ok field ∧
      field.Undoes nextTag writeSecret secret := by
  cases secret with
  | certificate type value => exact ⟨_, rfl, undoes_certificate type value⟩
  | symmetricKey keyBlock => exact ⟨_, rfl, undoes_keyBlockKey kept rfl⟩
  | publicKey keyBlock => exact ⟨_, rfl, undoes_keyBlockKey kept rfl⟩
  | privateKey keyBlock => exact ⟨_, rfl, undoes_keyBlockKey kept rfl⟩
  | splitKey first second third method size keyBlock =>
      exact ⟨_, rfl, undoes_splitKey first second third method size kept.1
        kept.2⟩
  | template attributes =>
      obtain ⟨nonempty, named⟩ := kept
      obtain ⟨first, others, rfl⟩ := List.exists_cons_of_ne_nil nonempty
      exact ⟨_, rfl, undoes_template named⟩
  | secretData type keyBlock => exact ⟨_, rfl, undoes_secretData type kept⟩
  | opaqueObject type value => exact ⟨_, rfl, undoes_opaqueObject type value⟩

theorem undoes_keyInformation (tag : Tag) (information : KeyInformation) :
    (keyInformation tag).Undoes nextTag (writeKeyInformation tag) information :=
  undoes_fieldOf _ (lawful_keyInformationItem tag) information

/-- A specification without a method is refused by its writer. -/
theorem undoes_keyWrappingSpecification
    (specification : KeyWrappingSpecification) :
    keyWrappingSpecification.Undoes nextTag writeKeyWrappingSpecification
      specification := by
  obtain ⟨wrappingMethod, encryption, signature, names, encoding⟩ :=
    specification
  cases wrappingMethod with
  | none =>
      intro bytes written
      cases written
  | some wrappingMethod =>
      exact undoes_struct rfl <|
        .demanded (undoes_enumeration _ _) <|
          .optional (fun _ _ => undoes_keyInformation _ _) (by decide) <|
          .optional (fun _ _ => undoes_keyInformation _ _) (by decide) <|
          .many (fun _ _ => undoes_text _ _) (by decide) <|
          .optional (fun _ _ => undoes_enumeration _ _) (by decide) <|
          survives_notOversized _

theorem undoes_revocationReason
    (reason : RevocationReasonCode × Option String) :
    revocationReason.Undoes nextTag writeRevocationReason reason :=
  undoes_struct rfl <|
    .always (undoes_enumeration _ _) <|
      .optional (fun _ _ => undoes_text _ _) (by decide) <|
      survives_notOversized reason

theorem undoes_storageMasks (tag : Tag) (masks : List Int) :
    (storageMasks tag).Undoes nextTag (writeStorageMasks tag) masks := by
  refine undoes_fieldOf _ (lawful_structItem ?_ (by decide) fun _ => rfl) masks
  exact ⟨lawful_integerItem _, trivial⟩

end Objects

section Templates

/-- A template that comes back under a tag.  In the form of version 2.0 it has
neither names nor indices, and the factory for tags knows its attributes. -/
structure TemplateAttribute.Kept (version : KmipVersion) (tag : Tag)
    (template : TemplateAttribute) : Prop where
  tagged : template.tag = tag
  named : ∀ entry ∈ template.attributes, entry.wellNamed
  form20 : .kmip20 ≤ version → template.names = [] ∧
    ∀ entry ∈ template.attributes, entry.Created ∧
      isCustomName entry.attributeName = false ∧
      entry.attributeName ∉ undecodableNames ∧ entry.attributeIndex = none

theorem undoes_templateAttribute {template : TemplateAttribute}
    (named : ∀ entry ∈ template.attributes, entry.wellNamed) :
    (templateAttribute template.tag).Undoes nextTag writeTemplateAttribute
      template := by
  have undoes : Field.Undoes nextTag
      (⟨template.tag, TemplateAttribute.tracing template.tag⟩ :
        Field 8 Tag CodecError TemplateAttribute)
      TemplateAttribute.write template := by
    intro bytes written
    have erases := TemplateAttribute.erases_tracing template.tag
    exact ⟨shows_of_writeStruct written,
      erases.reads (TemplateAttribute.reads_write named written)⟩
  exact (undoes.mapError RequestError.codec).ofWritten RequestError.codec

/-- What has been converted is converted back. -/
theorem convert_form20 {template : TemplateAttribute} {version : KmipVersion}
    {tag : Tag} (kept : template.Kept version tag)
    (recent : .kmip20 ≤ version)
    (same : templateTag (attributesTag tag) = tag) :
    convertTemplateAttributeToAttributes template = .ok template.form20 ∧
      convertAttributesToTemplateAttribute template.form20 = .ok template := by
  obtain ⟨noNames, all⟩ := kept.form20 recent
  have created : ∀ entry ∈ template.attributes, entry.Created :=
    fun entry member => (all entry member).1
  have standard : ∀ entry ∈ template.attributes,
      isCustomName entry.attributeName = false :=
    fun entry member => (all entry member).2.1
  have whole : template.attributes.map (fun entry : Attribute =>
      { entry with attributeIndex := none }) = template.attributes := by
    have same := List.map_congr_left (g := id) fun entry member => show
      ({ entry with attributeIndex := none } : Attribute) = id entry by
        obtain ⟨name, index, value⟩ := entry
        have absent := (all _ member).2.2.2
        dsimp only at absent
        rw [absent]
        rfl
    rw [same, List.map_id]
  refine ⟨convertTemplateAttributeToAttributes_of_standard created standard, ?_⟩
  rw [convertAttributesToTemplateAttribute_form20 created standard, whole,
    kept.tagged, same, ← kept.tagged, ← noNames]

theorem undoes_attributesStructure {template : TemplateAttribute}
    {version : KmipVersion} {tag : Tag} (kept : template.Kept version tag)
    (recent : .kmip20 ≤ version)
    (same : templateTag (attributesTag tag) = tag) :
    (attributesStructure (attributesTag tag) version).Undoes nextTag
      (writeTemplate version) template := by
  obtain ⟨there, back⟩ := convert_form20 kept recent same
  intro bytes written
  unfold writeTemplate at written
  rw [if_pos recent, there] at written
  change (template.form20.write version).mapError RequestError.attributes = _
    at written
  cases wrote : template.form20.write version with
  | error exception =>
      rw [wrote] at written
      cases written
  | ok other =>
      rw [wrote] at written
      cases written
      have known : ∀ tagged ∈ template.form20.attributes,
          tagValueClass tagged.1 = .ok tagged.2.valueClass := by
        intro tagged member
        obtain ⟨entry, found, rfl⟩ := List.mem_map.mp member
        obtain ⟨created, standard, decodable, _⟩ :=
          (kept.form20 recent).2 entry found
        have form := tagValueClass_form20 created standard
        rwa [if_neg decodable] at form
      have reads := Attributes.reads_write wrote known
      obtain ⟨_, header, localStream, _, heads, rfl⟩ :=
        Attributes.write_cases wrote
      have tagged : template.form20.tag = attributesTag tag :=
        congrArg attributesTag kept.tagged
      rw [tagged] at reads heads
      refine ⟨fun rest => shows_of_writeBase heads rfl rest, fun rest => ?_⟩
      have first := (Attributes.erases_tracing (attributesTag tag)
        version).reads reads
      have given : ((Attributes.tracing (attributesTag tag) version).mapError
          RequestError.attributes).Gives (header ++ localStream ++ rest)
          template.form20 rest :=
        Reading.Gives.mapError (first rest) _
      refine given.followedBy ?_
      unfold ofCodec
      rw [back]
      exact .pure template rest

end Templates

section AttributeChanges

/-- The factory for tags creates the class of the value. -/
def Decodable (held : Tag × ValueObject) : Prop :=
  tagValueClass held.1 = .ok held.2.valueClass

theorem survives_heldAttribute {object : String} {version : KmipVersion}
    {held : Tag × ValueObject} (decodable : Decodable held) :
    Survives nextTag [held.1]
      [if isAttribute held.1 (some version) then
        (held.2.write held.1).mapError RequestError.codec
      else .error (.attributes (.attributeNotSupported held.1 version))]
      (heldAttributeFields object version) held := by
  intro bytes written
  obtain ⟨first, others, writtenFirst, writtenOthers, rfl⟩ :=
    writeAll_cons written
  cases writtenOthers
  rw [List.append_nil]
  split at writtenFirst
  · rename_i known
    obtain ⟨tag, value⟩ := held
    cases wrote : value.write tag with
    | error exception =>
        rw [wrote] at writtenFirst
        cases writtenFirst
    | ok other =>
        rw [wrote] at writtenFirst
        cases writtenFirst
        have shown := ValueObject.shows_write wrote []
        rw [List.append_nil] at shown
        refine ⟨fun other shows => ?_, ?_⟩
        · rw [shown] at shows
          cases shows
          exact List.mem_cons_self
        have read : ((taggedTracing tag).mapError RequestError.codec).Gives first
            value [] := by
          have reads := (erases_taggedTracing tag).reads
            (reads_readTagged decodable wrote)
          have gives := reads []
          rw [List.append_nil] at gives
          exact Reading.Gives.mapError gives _
        have done : notOversized.Gives [] () [] :=
          Reading.Gives.mapError (Reading.Gives.ofDecoder rfl) RequestError.codec
        refine Reading.Gives.bind (.look _) ?_
        rw [shown]
        dsimp only
        rw [if_pos known]
        exact Reading.Gives.bind read (done.bind (.pure (tag, value) []))
  · cases writtenFirst

theorem undoes_heldAttribute (tag : Tag) (object : String)
    (version : KmipVersion) {held : Tag × ValueObject}
    (decodable : Decodable held) :
    (heldAttribute tag object version).Undoes nextTag
      (writeHeldAttribute tag object version) held := by
  intro bytes written
  unfold writeHeldAttribute at written
  split at written
  · rename_i recent
    have undoes : (struct tag (heldAttributeFields object version)).Undoes
        nextTag (writeHeldAttribute tag object version) held :=
      undoes_struct (if_pos recent) (survives_heldAttribute decodable)
    have both := undoes bytes (by rw [← written]; exact if_pos recent)
    unfold heldAttribute
    rw [if_pos recent]
    exact both
  · cases written

theorem undoes_attributeReference (version : KmipVersion)
    (reference : AttributeReference) :
    (attributeReference version).Undoes nextTag
      (writeAttributeReference version) reference := by
  intro bytes written
  unfold writeAttributeReference at written
  split at written
  · rename_i recent
    unfold attributeReference
    rw [if_pos recent]
    have undoes : Field.Undoes nextTag
        (struct .attributeReference do
          let vendorIdentification ← demanded
            (invalidEncoding ("The AttributeReference encoding is missing " ++
              "the vendor identification string."))
            (text .vendorIdentification)
          let attributeName ← demanded
            (invalidEncoding ("The AttributeReference encoding is missing " ++
              "the attribute name string."))
            (text .attributeName)
          notOversized
          return { vendorIdentification, attributeName })
        (fun reference => writeFields .attributeReference
          [writeText .vendorIdentification reference.vendorIdentification,
           writeText .attributeName reference.attributeName]) reference :=
      undoes_struct rfl <| .demanded (undoes_text _ _) <|
        .demanded (undoes_text _ _) <| survives_notOversized reference
    exact undoes bytes written
  · cases written

theorem tagOfName_inverts {name : String} {tag : Tag}
    (found : convertAttributeNameToTag name = some tag) :
    convertAttributeTagToName tag = some name := by
  have table : ∀ entry ∈ attributeNameTagTable,
      convertAttributeTagToName entry.2 = some entry.1 := by
    decide
  obtain ⟨entry, member, rfl⟩ := Option.map_eq_some_iff.mp found
  have name := List.find?_some member
  rw [table entry (List.mem_of_find?_eq_some member), of_decide_eq_true name]

/-- A name is referred to by its tag, which is a reference by enumeration. -/
theorem undoes_nameOfReference (exception : RequestError) (version : KmipVersion)
    (name : String) :
    (nameOfReference exception version).Undoes nextTag writeReferencedName
      name := by
  intro bytes written
  unfold writeReferencedName at written
  cases found : convertAttributeNameToTag name with
  | none =>
      rw [found] at written
      cases written
  | some tag =>
      rw [found] at written
      change ((enumerationItem Tag .attributeReference).encode tag).mapError _ =
        _ at written
      cases wrote : (enumerationItem Tag .attributeReference).encode tag with
      | error exception =>
          rw [wrote] at written
          cases written
      | ok other =>
          rw [wrote] at written
          cases written
          have lawful := lawful_enumerationItem Tag .attributeReference
          refine ⟨lawful.shows wrote, fun rest => ?_⟩
          have reads := lawful.reads wrote rest
          obtain ⟨header, heads, wrote⟩ := bind_eq_ok wrote
          obtain ⟨packed, _, wrote⟩ := bind_eq_ok wrote
          obtain ⟨padding, _, wrote⟩ := bind_eq_ok wrote
          cases wrote
          have isType : ∀ type, nextTypeIs type
              (header ++ (packed ++ padding) ++ rest) =
                decide (ItemType.enumeration.code = type.code) := by
            intro type
            rw [List.append_assoc]
            exact nextTypeIs_of_writeBase heads type _
          refine Reading.Gives.after (.look _) ?_
          rw [isType .struct, isType .enumeration, if_neg (by decide),
            if_pos (by decide)]
          have given : referencedTag.Gives _ tag rest :=
            Reading.Gives.mapError (.ofDecoder reads) RequestError.codec
          refine given.followedBy ?_
          rw [tagOfName_inverts found]
          exact .pure name rest

theorem undoes_referencedName (version : KmipVersion) (name : String) :
    (referencedName version).Undoes nextTag writeReferencedName name :=
  undoes_nameOfReference _ version name

end AttributeChanges

end PyKMIP.Wire
