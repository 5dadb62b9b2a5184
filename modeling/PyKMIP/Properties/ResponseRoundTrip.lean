import PyKMIP.Properties.RequestRoundTrip
import PyKMIP.Wire.ResponseWriting

/-!
# Responses survive the wire

What the server writes of a response message is what the client reads, under
the protocol version that the header of the response tells.
-/

namespace PyKMIP.Wire

open Formats Traces

section Rules

variable {α β : Type} {tags : List Tag} {writers : List Writing} {result : β}
  {supported version : KmipVersion} {field : RequestField α}
  {write : α → Writing}

theorem undoes_fromVersion {object : String} {value : α}
    (undoes : field.Undoes nextTag write value) :
    (fromVersion supported version object field).Undoes nextTag
      (fun value => writeFromVersion supported version object (write value))
      value := by
  intro bytes written
  unfold writeFromVersion at written
  split at written
  · rename_i recent
    unfold fromVersion
    rw [if_pos recent]
    exact undoes bytes written
  · cases written

theorem survives_sinceMany {values : List α}
    {later : List α → RequestReading β}
    (undoes : ∀ value ∈ values, field.Undoes nextTag write value)
    (distinct : field.tag ∉ tags) (allowed : supported ≤ version ∨ values = [])
    (others : Survives nextTag tags writers (later values) result) :
    Survives nextTag (field.tag :: tags)
      (since supported version (writeAll (values.map write)) :: writers)
      (sinceMany supported version field >>= later) result := by
  unfold since sinceMany
  split
  · exact .many undoes distinct others
  · rename_i early
    obtain rfl : values = [] := allowed.resolve_left early
    have first : Survives nextTag tags writers (pure [] >>= later) result :=
      others.returned
    exact first.skip.widen fun _ member => List.mem_cons_of_mem _ member

/-- The value is what has been read, in another form. -/
theorem survives_as {value other : α} (same : value = other) :
    Survives nextTag [] ([] : List Writing)
      (notOversized >>= fun _ => pure value) other :=
  same ▸ survives_notOversized value

end Rules

section ServerInformation

variable {version : KmipVersion}

theorem undoes_serverInformation (data : Bytes) :
    serverInformation.Undoes nextTag writeServerInformation data := by
  refine undoes_contents rfl fun localStream fields => ?_
  obtain ⟨first, others, written, writtenOthers, rfl⟩ := writeAll_cons fields
  cases written
  cases writtenOthers
  rw [List.append_nil]
  have rest : (readRestTracing.mapError RequestError.codec).Gives data data [] :=
    Reading.Gives.mapError (Reading.Gives.ofDecoder rfl) _
  have done : notOversized.Gives [] () [] :=
    Reading.Gives.mapError (Reading.Gives.ofDecoder rfl) RequestError.codec
  exact rest.bind (done.bind (.pure data []))

theorem lawful_extensionInformationItem :
    extensionInformationItem.Lawful nextTag :=
  lawful_structItem
    ⟨lawful_textStringItem _, lawful_integerItem _, lawful_integerItem _,
      trivial⟩
    (by decide) fun _ => rfl

theorem lawful_rngParametersItem : rngParametersItem.Lawful nextTag :=
  lawful_structItem
    ⟨lawful_enumerationItem _ _, lawful_enumerationItem _ _,
      lawful_integerItem _, lawful_enumerationItem _ _,
      lawful_enumerationItem _ _, lawful_enumerationItem _ _,
      lawful_enumerationItem _ _, lawful_booleanItem _, trivial⟩
    (by decide) fun _ => rfl

theorem lawful_profileInformationItem : profileInformationItem.Lawful nextTag :=
  lawful_structItem
    ⟨lawful_enumerationItem _ _, lawful_textStringItem _, lawful_integerItem _,
      trivial⟩
    (by decide) fun _ => rfl

theorem lawful_validationInformationItem :
    validationInformationItem.Lawful nextTag :=
  lawful_structItem
    ⟨lawful_enumerationItem _ _, lawful_textStringItem _,
      lawful_textStringItem _, lawful_integerItem _, lawful_integerItem _,
      lawful_enumerationItem _ _, lawful_integerItem _, lawful_textStringItem _,
      lawful_textStringItem _, lawful_textStringItem _,
      lawful_textStringItem _, trivial⟩
    (by decide) fun _ => rfl

/-- The capability to undo batches is not read back, and neither is that to
continue them before version 1.4. -/
structure CapabilityInformation.Kept (version : KmipVersion)
    (information : CapabilityInformation) : Prop where
  undo : information.batchUndoCapability = none
  continued : .kmip14 ≤ version ∨ information.batchContinueCapability = none

theorem undoes_capabilityInformation {information : CapabilityInformation}
    (kept : information.Kept version) :
    (capabilityInformation version).Undoes nextTag
      (writeCapabilityInformation version) information := by
  obtain ⟨streaming, asynchronous, attestation, undo, continued, unwrapMode,
    destroyAction, shreddingAlgorithm, rngMode⟩ := information
  obtain ⟨unset, allowed⟩ := kept
  dsimp only at unset allowed
  subst unset
  have only : (continued <|> none) = continued := by cases continued <;> rfl
  exact undoes_fromVersion <| undoes_struct rfl <|
    .optional (fun _ _ => undoes_boolean _ _) (by decide) <|
    .optional (fun _ _ => undoes_boolean _ _) (by decide) <|
    .optional (fun _ _ => undoes_boolean _ _) (by decide) <|
    survives_since (fun _ _ => undoes_boolean _ _) (by decide) (.inr rfl) <|
    survives_since (fun _ _ => undoes_boolean _ _) (by decide) allowed <|
    .optional (fun _ _ => undoes_enumeration _ _) (by decide) <|
    .optional (fun _ _ => undoes_enumeration _ _) (by decide) <|
    .optional (fun _ _ => undoes_enumeration _ _) (by decide) <|
    .optional (fun _ _ => undoes_enumeration _ _) (by decide) <|
    survives_as (by rw [only])

theorem undoes_plainAttributes {attributes : List (Tag × ValueObject)}
    (decodable : ∀ held ∈ attributes, Decodable held) :
    (plainAttributes version).Undoes nextTag (writePlainAttributes version)
      attributes := by
  intro bytes written
  change (Attributes.write version { attributes }).mapError
    RequestError.attributes = _ at written
  cases wrote : Attributes.write version { attributes } with
  | error exception =>
      rw [wrote] at written
      cases written
  | ok other =>
      rw [wrote] at written
      cases written
      have reads := Attributes.reads_write wrote decodable
      obtain ⟨_, header, localStream, _, heads, rfl⟩ :=
        Attributes.write_cases wrote
      refine ⟨fun rest => shows_of_writeBase heads rfl rest, fun rest => ?_⟩
      have first := (Attributes.erases_tracing .attributes version).reads reads
      have given : ((Attributes.tracing .attributes version).mapError
          RequestError.attributes).Gives (header ++ localStream ++ rest)
          { attributes } rest :=
        Reading.Gives.mapError (first rest) _
      exact given.map Attributes.attributes

theorem undoes_objectDefaults {defaults : ObjectDefaults}
    (decodable : ∀ held ∈ defaults.attributes, Decodable held) :
    (objectDefaults version).Undoes nextTag (writeObjectDefaults version)
      defaults :=
  undoes_fromVersion <| undoes_struct rfl <|
    .demanded (undoes_enumeration _ _) <|
    .demanded (undoes_plainAttributes decodable) <| survives_notOversized _

theorem undoes_defaultsInformation {defaults : List ObjectDefaults}
    (decodable : ∀ object ∈ defaults, ∀ held ∈ object.attributes,
      Decodable held) :
    (defaultsInformation version).Undoes nextTag
      (writeDefaultsInformation version) defaults :=
  undoes_fromVersion <| undoes_struct rfl <| .checked fun present =>
    .many (fun object member => undoes_objectDefaults (decodable object member))
      List.not_mem_nil <|
    survives_unless present <| survives_notOversized _

end ServerInformation

section Payloads

variable {version : KmipVersion}

/-- A template that a response has before version 2.0 only. -/
def KeptTemplate (version : KmipVersion) (tag : Tag)
    (template : Option TemplateAttribute) : Prop :=
  (.kmip20 ≤ version → template = none) ∧
    ∀ present, template = some present →
      present.tag = tag ∧ ∀ entry ∈ present.attributes, entry.wellNamed

theorem survives_keptTemplate {β : Type} {tags : List Tag} {tag : Tag}
    {writers : List Writing} {template : Option TemplateAttribute}
    {later : Option TemplateAttribute → RequestReading β} {result : β}
    (kept : KeptTemplate version tag template) (distinct : tag ∉ tags)
    (others : Survives nextTag tags writers (later template) result) :
    Survives nextTag (tag :: tags)
      (writePresent writeTemplateAttribute template :: writers)
      (before20 version (templateAttribute tag) >>= later) result := by
  obtain ⟨allowed, kept⟩ := kept
  unfold before20
  split
  · rename_i recent
    obtain rfl : template = none := allowed recent
    have first : Survives nextTag tags writers (pure none >>= later) result :=
      others.returned
    exact first.skip.widen fun _ member => List.mem_cons_of_mem _ member
  · exact survives_templateAttribute kept distinct others

/-- It does not matter whether the writer looks at the version. -/
theorem KeptTemplate.written {tag : Tag} {template : Option TemplateAttribute}
    (kept : KeptTemplate version tag template) :
    writeBefore20 version (writePresent writeTemplateAttribute template) =
      writePresent writeTemplateAttribute template := by
  unfold writeBefore20
  split
  · rename_i recent
    rw [kept.1 recent]
    rfl
  · rfl

theorem survives_writtenTemplate {β : Type} {tags : List Tag} {tag : Tag}
    {writers : List Writing} {template : Option TemplateAttribute}
    {later : Option TemplateAttribute → RequestReading β} {result : β}
    (kept : KeptTemplate version tag template) (distinct : tag ∉ tags)
    (others : Survives nextTag tags writers (later template) result) :
    Survives nextTag (tag :: tags)
      (writeBefore20 version (writePresent writeTemplateAttribute template) ::
        writers)
      (before20 version (templateAttribute tag) >>= later) result := by
  rw [kept.written]
  exact survives_keptTemplate kept distinct others

/-- What the answer to a query must fulfil to be read back: it has no fields
that later versions have brought, and what it holds comes back. -/
structure QueryInformation.Kept (version : KmipVersion)
    (information : QueryInformation) : Prop where
  kmip11 : .kmip11 ≤ version ∨ information.extensionInformation = []
  kmip12 : .kmip12 ≤ version ∨ information.attestationTypes = []
  kmip13 : .kmip13 ≤ version ∨
    information.rngParameters = [] ∧ information.profileInformation = [] ∧
      information.validationInformation = [] ∧
      information.capabilityInformation = [] ∧
      information.clientRegistrationMethods = []
  kmip20 : .kmip20 ≤ version ∨
    information.defaultsInformation = none ∧
      information.protectionStorageMasks = []
  capable : ∀ capability ∈ information.capabilityInformation,
    capability.Kept version
  decodable : ∀ defaults, information.defaultsInformation = some defaults →
    ∀ object ∈ defaults, ∀ held ∈ object.attributes, Decodable held

theorem undoes_queryInformation {information : QueryInformation}
    (kept : information.Kept version) :
    (QueryResponsePayload.read version).Undoes nextTag
      (ResponsePayload.write version) (.query information) := by
  obtain ⟨kmip11, kmip12, kmip13, kmip20, capable, decodable⟩ := kept
  exact undoes_struct rfl <|
    .many (fun _ _ => undoes_enumeration _ _) (by decide) <|
    .many (fun _ _ => undoes_enumeration _ _) (by decide) <|
    .optional (fun _ _ => undoes_text _ _) (by decide) <|
    .optional (fun data _ => undoes_serverInformation data) (by decide) <|
    .many (fun _ _ => undoes_text _ _) (by decide) <|
    survives_sinceMany (fun _ _ =>
      undoes_fieldOf _ lawful_extensionInformationItem _) (by decide) kmip11 <|
    survives_sinceMany (fun _ _ => undoes_enumeration _ _) (by decide) kmip12 <|
    .named .rngParameters <| survives_sinceMany (fun _ _ =>
      undoes_fromVersion <| undoes_fieldOf _ lawful_rngParametersItem _)
      (by change Tag.rngParameters ∉ _; decide) (kmip13.imp_right And.left) <|
    .named .profileInformation <| survives_sinceMany (fun _ _ =>
      undoes_fromVersion <| undoes_fieldOf _ lawful_profileInformationItem _)
      (by change Tag.profileInformation ∉ _; decide) (kmip13.imp_right (·.2.1)) <|
    .named .validationInformation <| survives_sinceMany (fun _ _ =>
      undoes_fromVersion <| undoes_fieldOf _ lawful_validationInformationItem _)
      (by change Tag.validationInformation ∉ _; decide) (kmip13.imp_right (·.2.2.1)) <|
    .named .capabilityInformation <| survives_sinceMany
      (fun capability member =>
        undoes_capabilityInformation (capable capability member))
      (by change Tag.capabilityInformation ∉ _; decide) (kmip13.imp_right (·.2.2.2.1)) <|
    survives_sinceMany (fun _ _ => undoes_enumeration _ _) (by decide)
      (kmip13.imp_right (·.2.2.2.2)) <|
    .named .defaultsInformation <| survives_since
      (fun defaults present =>
        undoes_defaultsInformation (decodable defaults present))
      (by change Tag.defaultsInformation ∉ _; decide) (kmip20.imp_right And.left) <|
    survives_sinceMany (fun _ _ => undoes_integer _ _) List.not_mem_nil
      (kmip20.imp_right And.right) <|
    survives_notOversized _

/-- The operation whose payload it is. -/
def ResponsePayload.operation : ResponsePayload → Operation
  | .create .. => .create
  | .createKeyPair .. => .createKeyPair
  | .register .. => .register
  | .deriveKey .. => .deriveKey
  | .rekey .. => .rekey
  | .rekeyKeyPair .. => .rekeyKeyPair
  | .locate .. => .locate
  | .check .. => .check
  | .get .. => .get
  | .getAttributes .. => .getAttributes
  | .getAttributeList .. => .getAttributeList
  | .deleteAttribute .. => .deleteAttribute
  | .setAttribute _ => .setAttribute
  | .modifyAttribute .. => .modifyAttribute
  | .destroy _ => .destroy
  | .query _ => .query
  | .discoverVersions _ => .discoverVersions
  | .activate _ => .activate
  | .revoke _ => .revoke
  | .mac .. => .mac
  | .encrypt .. => .encrypt
  | .decrypt .. => .decrypt
  | .sign .. => .sign
  | .signatureVerify .. => .signatureVerify

/-- What a payload must fulfil to be read back under a version. -/
def ResponsePayload.Kept (version : KmipVersion) : ResponsePayload → Prop
  | .create _ _ templateAttribute | .register _ templateAttribute
  | .deriveKey _ templateAttribute =>
      KeptTemplate version .templateAttribute templateAttribute
  | .createKeyPair _ _ privateKeyTemplateAttribute publicKeyTemplateAttribute
  | .rekeyKeyPair _ _ privateKeyTemplateAttribute publicKeyTemplateAttribute =>
      KeptTemplate version .privateKeyTemplateAttribute
          privateKeyTemplateAttribute ∧
        KeptTemplate version .publicKeyTemplateAttribute
          publicKeyTemplateAttribute
  | .rekey _ templateAttribute =>
      ∀ template, templateAttribute = some template →
        template.tag = .templateAttribute ∧
          ∀ entry ∈ template.attributes, entry.wellNamed
  | .get objectType _ secret => secret.Kept ∧ secret.objectType = objectType
  | .getAttributes _ attributes =>
      TemplateAttribute.Kept version .templateAttribute { attributes }
  | .deleteAttribute _ entry | .modifyAttribute _ entry =>
      (.kmip20 ≤ version → entry = none) ∧
        ∀ given, entry = some given → given.wellNamed
  | .query information => information.Kept version
  | .encrypt _ _ _ authTag => .kmip14 ≤ version ∨ authTag = none
  | _ => True

/-- The payload factory finds the reader that undoes the writer. -/
def ResponsePayload.ReadBack (version : KmipVersion) (payload : ResponsePayload) :
    Prop :=
  ∃ reader, createResponsePayload payload.operation = .ok reader ∧
    (reader version).Undoes nextTag (ResponsePayload.write version) payload

variable {uniqueIdentifier privateKeyUniqueIdentifier
    publicKeyUniqueIdentifier : String} {objectType : ObjectType}
  {templateAttribute first second : Option TemplateAttribute}

theorem answered_create
    (kept : KeptTemplate version .templateAttribute templateAttribute) :
    ResponsePayload.ReadBack version
      (.create objectType uniqueIdentifier templateAttribute) :=
  ⟨_, rfl, undoes_struct rfl <| .demanded (undoes_enumeration _ _) <|
    .demanded (undoes_text _ _) <|
    survives_writtenTemplate kept List.not_mem_nil <| survives_notOversized _⟩

/-- The reader that two operations share. -/
theorem undoes_keyPairResponse
    {make : String → String → Option TemplateAttribute →
      Option TemplateAttribute → ResponsePayload}
    (kept : KeptTemplate version .privateKeyTemplateAttribute first)
    (keptOther : KeptTemplate version .publicKeyTemplateAttribute second)
    {write : ResponsePayload → Writing}
    (writes : write (make privateKeyUniqueIdentifier publicKeyUniqueIdentifier
        first second) =
      writeKeyPairResponse privateKeyUniqueIdentifier publicKeyUniqueIdentifier
        first second) :
    (CreateKeyPairResponsePayload.readAs make version).Undoes nextTag write
      (make privateKeyUniqueIdentifier publicKeyUniqueIdentifier first second) :=
  undoes_struct writes <| .demanded (undoes_text _ _) <|
    .demanded (undoes_text _ _) <|
    survives_keptTemplate kept (by decide) <|
    survives_keptTemplate keptOther List.not_mem_nil <| survives_notOversized _

theorem answered_register
    (kept : KeptTemplate version .templateAttribute templateAttribute) :
    ResponsePayload.ReadBack version
      (.register uniqueIdentifier templateAttribute) :=
  ⟨_, rfl, undoes_struct rfl <| .demanded (undoes_text _ _) <|
    survives_writtenTemplate kept List.not_mem_nil <| survives_notOversized _⟩

theorem answered_deriveKey
    (kept : KeptTemplate version .templateAttribute templateAttribute) :
    ResponsePayload.ReadBack version
      (.deriveKey uniqueIdentifier templateAttribute) :=
  ⟨_, rfl, undoes_struct rfl <| .demanded (undoes_text _ _) <|
    survives_writtenTemplate kept List.not_mem_nil <| survives_notOversized _⟩

theorem answered_get {secret : Secret} (kept : secret.Kept)
    (same : secret.objectType = objectType) :
    ResponsePayload.ReadBack version
      (.get objectType uniqueIdentifier secret) := by
  subst same
  obtain ⟨field, created, undoes⟩ := undoes_secret kept
  exact ⟨_, rfl, undoes_struct rfl <| .demanded (undoes_enumeration _ _) <|
    .checked fun _ => .demanded (undoes_text _ _) <|
    survives_ofExcept created <| .demanded undoes <| survives_notOversized _⟩

theorem answered_getAttributes {attributes : List Attribute}
    (kept : TemplateAttribute.Kept version .templateAttribute { attributes }) :
    ResponsePayload.ReadBack version
      (.getAttributes uniqueIdentifier attributes) :=
  ⟨_, rfl, undoes_struct rfl <| .demanded (undoes_text _ _) <|
    .either (fun recent => .checked fun _ =>
        .demanded (undoes_template20 kept recent ⟨rfl, rfl⟩) <|
        survives_notOversized _)
      fun _ => .many (fun entry member =>
          undoes_attributeField (kept.named entry member)) List.not_mem_nil <|
        survives_notOversized _⟩

theorem answered_getAttributeList {attributeNames : List String} :
    ResponsePayload.ReadBack version
      (.getAttributeList uniqueIdentifier attributeNames) :=
  ⟨_, rfl, undoes_struct rfl <| .demanded (undoes_text _ _) <|
    .checked fun present =>
    .either (fun _ => .many (fun _ _ => undoes_nameOfReference _ version _)
        List.not_mem_nil <| survives_notOversized _)
      fun _ => .many (fun _ _ => undoes_text _ _) List.not_mem_nil <|
        survives_unless present <| survives_notOversized _⟩

/-- The reader that two operations share. -/
theorem undoes_changedAttribute {operation : String}
    {make : String → Option Attribute → ResponsePayload}
    {entry : Option Attribute} (allowed : .kmip20 ≤ version → entry = none)
    (named : ∀ given, entry = some given → given.wellNamed)
    {write : ResponsePayload → Writing}
    (writes : write (make uniqueIdentifier entry) =
      writeChangedAttribute operation version uniqueIdentifier entry) :
    (changedAttribute operation make version).Undoes nextTag write
      (make uniqueIdentifier entry) := by
  cases entry with
  | none =>
      exact undoes_struct writes <| .demanded (undoes_text _ _) <|
        .chosen (fun _ => .skip <| survives_notOversized _)
          fun _ => (Survives.refused : Survives nextTag [] _ _ _)
  | some entry =>
      exact undoes_struct writes <| .demanded (undoes_text _ _) <|
        .chosen (fun recent =>
            (absurd (allowed recent) (Option.some_ne_none _) :
              Survives nextTag [] _ _ _))
          fun _ => .demanded (undoes_attributeField (named entry rfl)) <|
            survives_notOversized _

/-- The operation does not exist before version 2.0. -/
theorem answered_setAttribute :
    ResponsePayload.ReadBack version (.setAttribute uniqueIdentifier) := by
  refine ⟨_, rfl, fun bytes written => ?_⟩
  change ite _ _ _ = _ at written
  split at written
  · rename_i recent
    have undoes : (responsePayload do
        let uniqueIdentifier ← demanded
          (missingInResponse "SetAttribute" "unique identifier field")
          (text .uniqueIdentifier)
        notOversized
        return .setAttribute uniqueIdentifier).Undoes nextTag
        (fun _ => writeIdentified uniqueIdentifier)
        (.setAttribute uniqueIdentifier) :=
      undoes_struct rfl <| .demanded (undoes_text _ _) <|
        survives_notOversized _
    unfold SetAttributeResponsePayload.read
    dsimp only
    rw [if_pos recent]
    exact undoes bytes written
  · cases written

theorem undoes_identifierOnly {make : String → ResponsePayload}
    {write : ResponsePayload → Writing}
    (writes : write (make uniqueIdentifier) = writeIdentified uniqueIdentifier) :
    (identifierOnly make version).Undoes nextTag write (make uniqueIdentifier) :=
  undoes_struct writes <| .always (undoes_text _ _) <| survives_notOversized _

theorem answered_check {given : Option String}
    {usageLimitsCount cryptographicUsageMask : Option Int}
    {leaseTime : Option Nat} :
    ResponsePayload.ReadBack version
      (.check given usageLimitsCount cryptographicUsageMask leaseTime) :=
  ⟨_, rfl, undoes_struct rfl <|
    .optional (fun _ _ => undoes_text _ _) (by decide) <|
    .optional (fun _ _ => undoes_longInteger _ _) (by decide) <|
    .optional (fun _ _ => undoes_integer _ _) (by decide) <|
    .optional (fun _ _ => undoes_interval _ _) List.not_mem_nil <|
    survives_notOversized _⟩

theorem answered_encrypt {data : Bytes} {ivCounterNonce authTag : Option Bytes}
    (allowed : .kmip14 ≤ version ∨ authTag = none) :
    ResponsePayload.ReadBack version
      (.encrypt uniqueIdentifier data ivCounterNonce authTag) :=
  ⟨_, rfl, undoes_struct rfl <| .demanded (undoes_text _ _) <|
    .demanded (undoes_byteString _ _) <|
    .optional (fun _ _ => undoes_byteString _ _) (by decide) <|
    survives_since (fun _ _ => undoes_byteString _ _) List.not_mem_nil allowed <|
    survives_notOversized _⟩

theorem answered_signatureVerify {validityIndicator : ValidityIndicator}
    {data correlationValue : Option Bytes} :
    ResponsePayload.ReadBack version (.signatureVerify uniqueIdentifier
      validityIndicator data correlationValue) :=
  ⟨_, rfl, undoes_struct rfl <| .demanded (undoes_text _ _) <|
    .demanded (undoes_enumeration _ _) <|
    .optional (fun _ _ => undoes_byteString _ _) (by decide) <|
    .optional (fun _ _ => undoes_byteString _ _) List.not_mem_nil <|
    survives_notOversized _⟩

/-- Every payload that is kept is read back. -/
theorem ResponsePayload.readBack {payload : ResponsePayload}
    (kept : payload.Kept version) : payload.ReadBack version := by
  cases payload with
  | create => exact answered_create kept
  | createKeyPair =>
      exact ⟨_, rfl, undoes_keyPairResponse kept.1 kept.2 rfl⟩
  | register => exact answered_register kept
  | deriveKey => exact answered_deriveKey kept
  | rekey =>
      exact ⟨_, rfl, undoes_struct rfl <| .demanded (undoes_text _ _) <|
        survives_templateAttribute kept List.not_mem_nil <|
        survives_notOversized _⟩
  | rekeyKeyPair =>
      exact ⟨_, rfl, undoes_keyPairResponse kept.1 kept.2 rfl⟩
  | locate =>
      exact ⟨_, rfl, undoes_struct rfl <|
        .optional (fun _ _ => undoes_integer _ _) (by decide) <|
        .many (fun _ _ => undoes_text _ _) List.not_mem_nil <|
        survives_notOversized _⟩
  | check => exact answered_check
  | get => exact answered_get kept.1 kept.2
  | getAttributes => exact answered_getAttributes kept
  | getAttributeList => exact answered_getAttributeList
  | deleteAttribute =>
      exact ⟨_, rfl, undoes_changedAttribute kept.1 kept.2 rfl⟩
  | setAttribute => exact answered_setAttribute
  | modifyAttribute =>
      exact ⟨_, rfl, undoes_changedAttribute kept.1 kept.2 rfl⟩
  | destroy => exact ⟨_, rfl, undoes_identifierOnly rfl⟩
  | query => exact ⟨_, rfl, undoes_queryInformation kept⟩
  | discoverVersions =>
      exact ⟨_, rfl, undoes_struct rfl <|
        .many (fun version _ => undoes_protocolVersion version)
          List.not_mem_nil <|
        survives_notOversized _⟩
  | activate => exact ⟨_, rfl, undoes_identifierOnly rfl⟩
  | revoke => exact ⟨_, rfl, undoes_identifierOnly rfl⟩
  | mac =>
      exact ⟨_, rfl, undoes_struct rfl <| .demanded (undoes_text _ _) <|
        .demanded (undoes_byteString _ _) <| survives_notOversized _⟩
  | encrypt => exact answered_encrypt kept
  | decrypt =>
      exact ⟨_, rfl, undoes_struct rfl <| .demanded (undoes_text _ _) <|
        .demanded (undoes_byteString _ _) <| survives_notOversized _⟩
  | sign =>
      exact ⟨_, rfl, undoes_struct rfl <| .demanded (undoes_text _ _) <|
        .demanded (undoes_byteString _ _) <| survives_pure _⟩
  | signatureVerify => exact answered_signatureVerify

end Payloads

section Messages

variable {version : KmipVersion}

/-- There is a reader for the operation that an item tells, and a payload is
that of the operation. -/
structure ResponseBatchItem.Kept (version : KmipVersion)
    (item : ResponseBatchItem) : Prop where
  known : ∀ operation, item.operation = some operation →
    ∃ reader, createResponsePayload operation = .ok reader
  matched : ∀ payload, item.responsePayload = some payload →
    item.operation = some payload.operation
  payload : ∀ payload, item.responsePayload = some payload →
    payload.Kept version

/-- A message that its reader gives back.  The correlation value of the server
is not written, so there is none. -/
structure ResponseMessage.WellFormed (version : KmipVersion)
    (message : ResponseMessage) : Prop where
  tells : protocolVersionToKmipVersion message.responseHeader.protocolVersion =
    some version
  counted : message.responseHeader.batchCount = message.batchItems.length
  uncorrelated : message.responseHeader.serverCorrelationValue = none
  hashed : .kmip20 ≤ version ∨
    message.responseHeader.serverHashedPassword = none
  kept : ∀ item ∈ message.batchItems, item.Kept version

/-- The version that the header tells is known. -/
theorem survives_comparable {β : Type} {tags : List Tag}
    {writers : List Writing} {found : Option KmipVersion}
    {later : KmipVersion → RequestReading β} {result : β}
    (tells : found = some version)
    (others : Survives nextTag tags writers (later version) result) :
    Survives nextTag tags writers (comparable found >>= later) result := by
  subst tells
  exact others.returned

theorem undoes_responseHeader {header : ResponseHeader}
    (tells : protocolVersionToKmipVersion header.protocolVersion = some version)
    (uncorrelated : header.serverCorrelationValue = none)
    (hashed : .kmip20 ≤ version ∨ header.serverHashedPassword = none) :
    responseHeader.Undoes nextTag (writeResponseHeader version) header := by
  obtain ⟨protocolVersion, timeStamp, serverHashedPassword,
    serverCorrelationValue, batchCount⟩ := header
  dsimp only at tells uncorrelated hashed
  subst uncorrelated
  exact undoes_struct rfl <| .always (undoes_protocolVersion _) <|
    .always (undoes_dateTime _ _) <| survives_comparable tells <|
    survives_since (fun _ _ => undoes_byteString _ _) (by decide) hashed <|
    .absent (by decide) <| .always (undoes_integer _ _) <|
    survives_notOversized _

theorem tag_of_createResponsePayload {operation : Operation}
    {reader : ResponsePayloadReader}
    (created : createResponsePayload operation = .ok reader) :
    (reader version).tag = .responsePayload := by
  cases operation <;> cases created <;> rfl

theorem expectedPayload_of_known {operation : Operation}
    {reader : ResponsePayloadReader}
    (created : createResponsePayload operation = .ok reader) :
    expectedPayload version (some operation) = .ok (some (reader version)) := by
  change (createResponsePayload operation).map _ = _
  rw [created]
  rfl

/-- The payload of an item, which the reader of its operation reads. -/
theorem survives_payload {β : Type} {tags : List Tag} {writers : List Writing}
    {item : ResponseBatchItem} (kept : item.Kept version)
    {later : Option ResponsePayload → RequestReading β} {result : β}
    (distinct : .responsePayload ∉ tags)
    (others : Survives nextTag tags writers (later item.responsePayload)
      result) :
    Survives nextTag (.responsePayload :: tags)
      (writePresent (ResponsePayload.write version) item.responsePayload ::
        writers)
      (.ofExcept (expectedPayload version item.operation) >>= fun expected =>
        expected.elim (pure none) optional >>= later) result := by
  cases told : item.operation with
  | none =>
      have absent : item.responsePayload = none := by
        refine Option.eq_none_iff_forall_ne_some.mpr fun payload present => ?_
        have same := kept.matched payload present
        rw [told] at same
        cases same
      rw [absent] at others ⊢
      refine survives_ofExcept rfl <| Survives.returned <| Survives.skip ?_
      exact others.widen fun _ member => List.mem_cons_of_mem _ member
  | some operation =>
      obtain ⟨reader, created⟩ := kept.known operation told
      have tagged := @tag_of_createResponsePayload version _ _ created
      refine survives_ofExcept (expectedPayload_of_known created) ?_
      rw [← tagged]
      refine Survives.optional (fun payload present => ?_) (tagged ▸ distinct)
        others
      have same := kept.matched payload present
      rw [told] at same
      cases same
      obtain ⟨other, found, undoes⟩ :=
        ResponsePayload.readBack (kept.payload payload present)
      rw [created] at found
      cases found
      exact undoes

theorem undoes_responseBatchItem {item : ResponseBatchItem}
    (kept : item.Kept version) :
    (responseBatchItem version).Undoes nextTag (ResponseBatchItem.write version)
      item :=
  undoes_struct rfl <| .optional (fun _ _ => undoes_enumeration _ _) (by decide) <|
    .optional (fun _ _ => undoes_byteString _ _) (by decide) <|
    .always (undoes_enumeration _ _) <|
    .optional (fun _ _ => undoes_enumeration _ _) (by decide) <|
    .optional (fun _ _ => undoes_text _ _) (by decide) <|
    .optional (fun _ _ => undoes_byteString _ _) (by decide) <|
    survives_payload kept (by decide) <|
    .optional (fun length _ => undoes_messageExtension length)
      List.not_mem_nil <|
    survives_notOversized item

theorem gives_responseMessage {message : ResponseMessage} {bytes : Bytes}
    (wellFormed : message.WellFormed version)
    (written : writeAll
      [writeResponseHeader version message.responseHeader,
       writeAll (message.batchItems.map (ResponseBatchItem.write version))] =
      .ok bytes) (rest : Bytes) :
    responseMessage.Gives (bytes ++ rest) message rest := by
  obtain ⟨header, others, writtenHeader, writtenOthers, rfl⟩ :=
    writeAll_cons written
  obtain ⟨items, nothing, writtenItems, writtenNothing, rfl⟩ :=
    writeAll_cons writtenOthers
  cases writtenNothing
  rw [List.append_nil, List.append_assoc]
  obtain ⟨_, readsHeader⟩ :=
    undoes_responseHeader wellFormed.tells wellFormed.uncorrelated
      wellFormed.hashed header writtenHeader
  have givesHeader : responseHeader.always.Gives (header ++ (items ++ rest))
      message.responseHeader (items ++ rest) := readsHeader (items ++ rest)
  have givesItems := Field.gives_times
    (fun item member => undoes_responseBatchItem (wellFormed.kept item member))
    writtenItems rest
  refine givesHeader.bind ?_
  rw [wellFormed.tells, wellFormed.counted]
  exact (Reading.Gives.pure version _).bind
    (givesItems.bind (.pure message rest))

theorem ResponseMessage.read_write
    {message : ResponseMessage} {bytes : Bytes}
    (wellFormed : message.WellFormed version)
    (written : message.write version = .ok bytes) (told : KmipVersion)
    (rest : Bytes) {fuel : Nat} (enough : (bytes ++ rest).length < fuel) :
    (ResponseMessage.read told fuel (bytes ++ rest)).outcome =
      some (.ok (message, rest)) := by
  obtain ⟨localStream, fields, written⟩ := bind_eq_ok written
  obtain ⟨header, heads, written⟩ := bind_eq_ok written
  cases written
  obtain ⟨reads, _⟩ := reads_readHeader heads
  rw [List.append_assoc] at enough ⊢
  rw [List.length_append] at enough
  have gives := gives_responseMessage wellFormed fields rest fuel (by omega)
  unfold ResponseMessage.read
  rw [Tracer.inPlace_reads (reads (localStream ++ rest)),
    Run.outcome_enclosed, gives]
  rfl

/-- What is written of a response is read as that response, whatever follows
it. -/
theorem response_messages_survive_the_wire
    {message : ResponseMessage} {bytes : Bytes}
    (wellFormed : message.WellFormed version)
    (written : message.write version = .ok bytes) (told : KmipVersion)
    (rest : Bytes) {fuel : Nat} (enough : (bytes ++ rest).length < fuel) :
    (ResponseMessage.read told fuel (bytes ++ rest)).outcome =
      some (.ok (message, rest)) :=
  ResponseMessage.read_write wellFormed written told rest enough

/-- A key has been created, and the object to activate has not been found. -/
def createdAndNotFound : ResponseMessage where
  responseHeader :=
    { protocolVersion := ⟨1, 2⟩
      timeStamp := 1
      serverHashedPassword := none
      serverCorrelationValue := none
      batchCount := 2 }
  batchItems :=
    [{ operation := some .create
       uniqueBatchItemId := some [1]
       resultStatus := .success
       resultReason := none
       resultMessage := none
       asyncCorrelationValue := none
       responsePayload := some (.create .symmetricKey "1" none)
       messageExtension := none },
     { operation := some .activate
       uniqueBatchItemId := some [2]
       resultStatus := .operationFailed
       resultReason := some .itemNotFound
       resultMessage := some "Could not locate object: 2"
       asyncCorrelationValue := none
       responsePayload := none
       messageExtension := none }]

theorem wellFormed_createdAndNotFound :
    createdAndNotFound.WellFormed .kmip12 where
  tells := rfl
  counted := rfl
  uncorrelated := rfl
  hashed := .inr rfl
  kept := by
    refine List.forall_mem_cons.mpr ⟨⟨?_, ?_, ?_⟩,
      List.forall_mem_singleton.mpr ⟨?_, ?_, ?_⟩⟩
    · rintro operation ⟨rfl⟩
      exact ⟨_, rfl⟩
    · rintro payload ⟨rfl⟩
      rfl
    · rintro payload ⟨rfl⟩
      exact ⟨fun _ => rfl, fun present same => by cases same⟩
    · rintro operation ⟨rfl⟩
      exact ⟨_, rfl⟩
    · rintro payload ⟨⟩
    · rintro payload ⟨⟩

theorem response_messages_survive_the_wire_createdAndNotFound :
    ∃ bytes, createdAndNotFound.write .kmip12 = .ok bytes ∧
      (ResponseMessage.read .kmip20 (bytes.length + 1) bytes).outcome =
        some (.ok (createdAndNotFound, [])) := by
  have ok : (createdAndNotFound.write .kmip12).isOk = true := by
    decide +kernel
  cases written : createdAndNotFound.write .kmip12 with
  | error exception =>
      rw [written] at ok
      cases ok
  | ok bytes =>
      have survives := @response_messages_survive_the_wire .kmip12
        createdAndNotFound bytes wellFormed_createdAndNotFound written .kmip20
        [] (bytes.length + 1)
        (by rw [List.append_nil]; exact Nat.lt_succ_self _)
      rw [List.append_nil] at survives
      exact ⟨bytes, rfl, survives⟩

end Messages

end PyKMIP.Wire
