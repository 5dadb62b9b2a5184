import PyKMIP.Properties.RequestParts

/-!
# Requests survive the wire

What is written of a request message is read back as that message, under the
protocol version that its header tells: with its credentials, its batch items
and the payload of each operation.
-/

namespace PyKMIP.Wire

open Formats Traces

section Templates

variable {β : Type} {tags : List Tag} {writers : List Writing} {result : β}
  {version : KmipVersion} {tag : Tag}

/-- The two tags of a template belong to each other. -/
def Paired (tag recentTag : Tag) : Prop :=
  attributesTag tag = recentTag ∧ templateTag recentTag = tag

theorem undoes_template11 {template : TemplateAttribute}
    (kept : template.Kept version tag) (early : ¬.kmip20 ≤ version) :
    (templateAttribute tag).Undoes nextTag (writeTemplate version) template := by
  obtain rfl := kept.tagged
  exact (undoes_templateAttribute kept.named).congr (if_neg early)

theorem undoes_template20 {template : TemplateAttribute} {recentTag : Tag}
    (kept : template.Kept version tag) (recent : .kmip20 ≤ version)
    (paired : Paired tag recentTag) :
    (attributesStructure recentTag version).Undoes nextTag
      (writeTemplate version) template := by
  obtain ⟨rfl, same⟩ := paired
  exact undoes_attributesStructure kept recent same

theorem survives_demandedTemplate20 {operation : String}
    {template : TemplateAttribute}
    {later : TemplateAttribute → RequestReading β}
    (kept : template.Kept version .templateAttribute)
    (others : Survives nextTag tags writers (later template) result) :
    Survives nextTag [.attributes, .templateAttribute]
      (writeTemplate version template :: writers)
      (demandedTemplate20 operation version >>= later) result := by
  unfold demandedTemplate20
  split
  · rename_i recent
    have undoes := undoes_template20 kept recent ⟨rfl, rfl⟩
    refine (Survives.demanded undoes others).widen fun other member => ?_
    rw [List.mem_singleton.mp member]
    exact List.mem_cons_self
  · rename_i early
    refine (Survives.demanded (undoes_template11 kept early) others).widen
      fun other member => ?_
    exact List.mem_cons_of_mem _ member

theorem survives_optionalTemplate20 {recentTag : Tag}
    {template : Option TemplateAttribute}
    {later : Option TemplateAttribute → RequestReading β}
    (kept : ∀ present, template = some present → present.Kept version tag)
    (paired : Paired tag recentTag) (distinct : tag ∉ tags)
    (recentDistinct : recentTag ∉ tags)
    (others : Survives nextTag tags writers (later template) result) :
    Survives nextTag (recentTag :: tag :: tags)
      (writePresent (writeTemplate version) template :: writers)
      (optionalTemplate20 tag recentTag version >>= later) result := by
  unfold optionalTemplate20
  split
  · rename_i recent
    have first := Survives.optional (fun present same =>
      undoes_template20 (kept present same) recent paired) recentDistinct others
    refine first.widen fun other member => ?_
    rcases List.mem_cons.mp member with rfl | member
    · exact List.mem_cons_self
    · exact List.mem_cons_of_mem _ (List.mem_cons_of_mem _ member)
  · rename_i early
    have first := Survives.optional (fun present same =>
      undoes_template11 (kept present same) early) distinct others
    exact first.widen fun _ member => List.mem_cons_of_mem _ member

/-- The template attributes of the operations that know one form only. -/
theorem survives_templateAttribute {template : Option TemplateAttribute}
    {later : Option TemplateAttribute → RequestReading β}
    (kept : ∀ present, template = some present →
      present.tag = tag ∧ ∀ entry ∈ present.attributes, entry.wellNamed)
    (distinct : tag ∉ tags)
    (others : Survives nextTag tags writers (later template) result) :
    Survives nextTag (tag :: tags)
      (writePresent writeTemplateAttribute template :: writers)
      (optional (templateAttribute tag) >>= later) result := by
  have undoes : ∀ present, template = some present →
      (templateAttribute tag).Undoes nextTag writeTemplateAttribute present := by
    intro present same
    obtain ⟨rfl, named⟩ := kept present same
    exact undoes_templateAttribute named
  exact .optional undoes distinct others

theorem survives_recentMasks {masks : Option (List Int)}
    {later : Option (List Int) → RequestReading β}
    (allowed : .kmip20 ≤ version ∨ masks = none) (distinct : tag ∉ tags)
    (others : Survives nextTag tags writers (later masks) result) :
    Survives nextTag (tag :: tags)
      (writeRecentMasks version tag masks :: writers)
      (recent version (storageMasks tag) >>= later) result :=
  survives_since (fun _ _ => undoes_storageMasks tag _) distinct allowed others

end Templates

section Payloads

variable {version : KmipVersion}

/-- A lookup that finds something takes nothing. -/
theorem survives_ofExcept {α β : Type} {tags : List Tag}
    {writers : List Writing} {outcome : Except RequestError α} {found : α}
    {later : α → RequestReading β} {result : β} (ran : outcome = .ok found)
    (others : Survives nextTag tags writers (later found) result) :
    Survives nextTag tags writers (.ofExcept outcome >>= later) result := by
  subst ran
  exact others.returned

theorem lawful_derivationParametersItem :
    derivationParametersItem.Lawful nextTag :=
  lawful_structItem
    ⟨lawful_cryptographicParametersItem _, lawful_byteStringItem _,
      lawful_byteStringItem _, lawful_byteStringItem _, lawful_integerItem _,
      trivial⟩
    (by decide) fun _ => rfl

/-- The operation whose payload it is. -/
def RequestPayload.operation : RequestPayload → Operation
  | .create .. => .create
  | .createKeyPair .. => .createKeyPair
  | .register .. => .register
  | .deriveKey .. => .deriveKey
  | .rekey .. => .rekey
  | .rekeyKeyPair .. => .rekeyKeyPair
  | .locate .. => .locate
  | .check .. => .check
  | .get .. => .get
  | .getAttributes .. => .getAttributes
  | .getAttributeList _ => .getAttributeList
  | .deleteAttribute .. => .deleteAttribute
  | .setAttribute .. => .setAttribute
  | .modifyAttribute .. => .modifyAttribute
  | .destroy _ => .destroy
  | .query _ => .query
  | .discoverVersions _ => .discoverVersions
  | .activate _ => .activate
  | .revoke .. => .revoke
  | .mac .. => .mac
  | .encrypt .. => .encrypt
  | .decrypt .. => .decrypt
  | .sign .. => .sign
  | .signatureVerify .. => .signatureVerify

/-- What a payload must fulfil to be read back under a version: it has no
fields that belong to other versions, the values in it come back, a registered
object has the object type of the request, and an identifier that the writer
omits but the reader demands is present. -/
def RequestPayload.Kept (version : KmipVersion) : RequestPayload → Prop
  | .create _ templateAttribute storageMasks =>
      templateAttribute.Kept version .templateAttribute ∧
        (.kmip20 ≤ version ∨ storageMasks = none)
  | .createKeyPair commonTemplateAttribute privateKeyTemplateAttribute
      publicKeyTemplateAttribute commonMasks privateMasks publicMasks =>
      (∀ template, commonTemplateAttribute = some template →
        template.Kept version .commonTemplateAttribute) ∧
      (∀ template, privateKeyTemplateAttribute = some template →
        template.Kept version .privateKeyTemplateAttribute) ∧
      (∀ template, publicKeyTemplateAttribute = some template →
        template.Kept version .publicKeyTemplateAttribute) ∧
      (.kmip20 ≤ version ∨
        commonMasks = none ∧ privateMasks = none ∧ publicMasks = none)
  | .register objectType templateAttribute managedObject storageMasks =>
      templateAttribute.Kept version .templateAttribute ∧
        managedObject.Kept ∧ managedObject.objectType = objectType ∧
        (.kmip20 ≤ version ∨ storageMasks = none)
  | .deriveKey _ _ _ _ templateAttribute =>
      templateAttribute.Kept version .templateAttribute
  | .rekey _ _ templateAttribute =>
      ∀ template, templateAttribute = some template →
        template.tag = .templateAttribute ∧
          ∀ entry ∈ template.attributes, entry.wellNamed
  | .rekeyKeyPair _ _ commonTemplateAttribute privateKeyTemplateAttribute
      publicKeyTemplateAttribute =>
      (∀ template, commonTemplateAttribute = some template →
        template.tag = .commonTemplateAttribute ∧
          ∀ entry ∈ template.attributes, entry.wellNamed) ∧
      (∀ template, privateKeyTemplateAttribute = some template →
        template.tag = .privateKeyTemplateAttribute ∧
          ∀ entry ∈ template.attributes, entry.wellNamed) ∧
      (∀ template, publicKeyTemplateAttribute = some template →
        template.tag = .publicKeyTemplateAttribute ∧
          ∀ entry ∈ template.attributes, entry.wellNamed)
  | .locate _ _ _ _ attributes =>
      TemplateAttribute.Kept version .templateAttribute { attributes }
  | .deleteAttribute _ attributeName attributeIndex currentAttribute
      attributeReference =>
      if .kmip20 ≤ version then
        attributeName = none ∧ attributeIndex = none ∧
          ∀ held, currentAttribute = some held → Decodable held
      else currentAttribute = none ∧ attributeReference = none
  | .setAttribute _ newAttribute => Decodable newAttribute
  | .modifyAttribute _ entry currentAttribute newAttribute =>
      if .kmip20 ≤ version then
        entry = none ∧
          (∀ held, currentAttribute = some held → Decodable held) ∧
          ∀ held, newAttribute = some held → Decodable held
      else
        currentAttribute = none ∧ newAttribute = none ∧
          ∀ given, entry = some given → given.wellNamed
  | .activate uniqueIdentifier => uniqueIdentifier.isSome
  | .revoke uniqueIdentifier _ _ => uniqueIdentifier.isSome
  | .encrypt _ _ _ _ authAdditionalData =>
      .kmip14 ≤ version ∨ authAdditionalData = none
  | .decrypt _ _ _ _ authAdditionalData authTag =>
      .kmip14 ≤ version ∨ authAdditionalData = none ∧ authTag = none
  | _ => True

/-- The payload factory finds the reader that undoes the writer. -/
def RequestPayload.ReadBack (version : KmipVersion) (payload : RequestPayload) :
    Prop :=
  ∃ reader, createPayload payload.operation = .ok reader ∧
    (reader version).Undoes nextTag (RequestPayload.write version) payload

variable {uniqueIdentifier : Option String} {objectType : ObjectType}
  {templateAttribute : TemplateAttribute}
  {first second third : Option TemplateAttribute}
  {cryptographicParameters : Option CryptographicParameters} {data : Bytes}

theorem readBack_create {storageMasks : Option (List Int)}
    (kept : RequestPayload.Kept version
      (.create objectType templateAttribute storageMasks)) :
    RequestPayload.ReadBack version
      (.create objectType templateAttribute storageMasks) :=
  ⟨_, rfl, undoes_struct rfl <| .demanded (undoes_enumeration _ _) <|
    survives_demandedTemplate20 kept.1 <|
    survives_recentMasks kept.2 (by decide) <| survives_notOversized _⟩

theorem readBack_createKeyPair
    {commonMasks privateMasks publicMasks : Option (List Int)}
    (kept : RequestPayload.Kept version (.createKeyPair first second third
      commonMasks privateMasks publicMasks)) :
    RequestPayload.ReadBack version (.createKeyPair first second third
      commonMasks privateMasks publicMasks) := by
  obtain ⟨keptFirst, keptSecond, keptThird, allowed⟩ := kept
  exact ⟨_, rfl, undoes_struct rfl <|
    survives_optionalTemplate20 keptFirst ⟨rfl, rfl⟩ (by decide) (by decide) <|
    survives_optionalTemplate20 keptSecond ⟨rfl, rfl⟩ (by decide) (by decide) <|
    survives_optionalTemplate20 keptThird ⟨rfl, rfl⟩ (by decide) (by decide) <|
    survives_recentMasks (allowed.imp_right And.left) (by decide) <|
    survives_recentMasks (allowed.imp_right (·.2.1)) (by decide) <|
    survives_recentMasks (allowed.imp_right (·.2.2)) (by decide) <|
    survives_notOversized _⟩

theorem readBack_register {managedObject : Secret}
    {storageMasks : Option (List Int)}
    (kept : RequestPayload.Kept version
      (.register objectType templateAttribute managedObject storageMasks)) :
    RequestPayload.ReadBack version
      (.register objectType templateAttribute managedObject storageMasks) := by
  obtain ⟨keptTemplate, keptSecret, rfl, allowed⟩ := kept
  obtain ⟨field, created, undoes⟩ := undoes_secret keptSecret
  exact ⟨_, rfl, undoes_struct rfl <| .demanded (undoes_enumeration _ _) <|
    survives_demandedTemplate20 keptTemplate <|
    survives_ofExcept created <| .demanded undoes <|
    survives_recentMasks allowed (by decide) <| survives_notOversized _⟩

theorem readBack_deriveKey {uniqueIdentifiers : List String}
    {derivationMethod : DerivationMethod}
    {derivationParameters : DerivationParametersStructure}
    (kept : RequestPayload.Kept version (.deriveKey objectType
      uniqueIdentifiers derivationMethod derivationParameters
      templateAttribute)) :
    RequestPayload.ReadBack version (.deriveKey objectType uniqueIdentifiers
      derivationMethod derivationParameters templateAttribute) :=
  ⟨_, rfl, undoes_struct rfl <| .demanded (undoes_enumeration _ _) <|
    .checked fun present =>
    .many (fun _ _ => undoes_text _ _) (by decide) <|
    survives_unless present <| .demanded (undoes_enumeration _ _) <|
    .demanded (undoes_fieldOf _ lawful_derivationParametersItem _) <|
    survives_demandedTemplate20 kept <| survives_notOversized _⟩

theorem readBack_rekey {offset : Option Nat}
    (kept : RequestPayload.Kept version (.rekey uniqueIdentifier offset first)) :
    RequestPayload.ReadBack version (.rekey uniqueIdentifier offset first) :=
  ⟨_, rfl, undoes_struct rfl <|
    .optional (fun _ _ => undoes_text _ _) (by decide) <|
    .optional (fun _ _ => undoes_interval _ _) (by decide) <|
    survives_templateAttribute kept (by decide) <| survives_notOversized _⟩

theorem readBack_rekeyKeyPair {privateKeyUuid : Option String}
    {offset : Option Nat}
    (kept : RequestPayload.Kept version
      (.rekeyKeyPair privateKeyUuid offset first second third)) :
    RequestPayload.ReadBack version
      (.rekeyKeyPair privateKeyUuid offset first second third) :=
  ⟨_, rfl, undoes_struct rfl <|
    .optional (fun _ _ => undoes_text _ _) (by decide) <|
    .optional (fun _ _ => undoes_interval _ _) (by decide) <|
    survives_templateAttribute kept.1 (by decide) <|
    survives_templateAttribute kept.2.1 (by decide) <|
    survives_templateAttribute kept.2.2 (by decide) <|
    survives_notOversized _⟩

/-- The attributes of a search, which may be none. -/
theorem survives_located {attributes : List Attribute} {β : Type} {result : β}
    {later : List Attribute → RequestReading β}
    (kept : TemplateAttribute.Kept version .templateAttribute { attributes })
    (recent : .kmip20 ≤ version)
    (others : Survives nextTag [] ([] : List Writing) (later attributes)
      result) :
    Survives nextTag [.attributes]
      [if attributes = [] then .ok []
       else writeTemplate version { attributes }]
      (optional (attributesStructure .attributes version) >>= fun converted =>
        pure (converted.elim [] TemplateAttribute.attributes) >>= later)
      result := by
  have same : (if attributes = [] then .ok []
      else writeTemplate version { attributes }) =
      writePresent (writeTemplate version)
        (if attributes = [] then none else some { attributes }) := by
    split <;> rfl
  have back : ((if attributes = [] then none else some { attributes } :
      Option TemplateAttribute).elim [] TemplateAttribute.attributes) =
      attributes := by
    split
    · rename_i empty
      rw [empty]
      rfl
    · rfl
  rw [same]
  have undoes : ∀ present,
      (if attributes = [] then none else some { attributes }) = some present →
      (attributesStructure .attributes version).Undoes nextTag
        (writeTemplate version) present := by
    intro present isPresent
    split at isPresent
    · cases isPresent
    · cases isPresent
      exact undoes_template20 kept recent ⟨rfl, rfl⟩
  refine Survives.optional undoes List.not_mem_nil ?_
  rw [back]
  exact others.returned

theorem readBack_locate {maximumItems offsetItems storageStatusMask : Option Int}
    {objectGroupMember : Option ObjectGroupMember} {attributes : List Attribute}
    (kept : RequestPayload.Kept version (.locate maximumItems offsetItems
      storageStatusMask objectGroupMember attributes)) :
    RequestPayload.ReadBack version (.locate maximumItems offsetItems
      storageStatusMask objectGroupMember attributes) := by
  have kept : TemplateAttribute.Kept version .templateAttribute
    { attributes } := kept
  exact ⟨_, rfl, undoes_struct rfl <|
    .optional (fun _ _ => undoes_integer _ _) (by decide) <|
    .optional (fun _ _ => undoes_integer _ _) (by decide) <|
    .optional (fun _ _ => undoes_integer _ _) (by decide) <|
    .optional (fun _ _ => undoes_enumeration _ _) (by decide) <|
    .chosen (fun recent => survives_located kept recent <| survives_pure _)
      fun _ => .many (fun entry member =>
        undoes_attributeField (kept.named entry member)) List.not_mem_nil <|
        survives_pure _⟩

theorem readBack_check {usageLimitsCount cryptographicUsageMask : Option Int}
    {leaseTime : Option Nat} :
    RequestPayload.ReadBack version (.check uniqueIdentifier usageLimitsCount
      cryptographicUsageMask leaseTime) :=
  ⟨_, rfl, undoes_struct rfl <|
    .optional (fun _ _ => undoes_text _ _) (by decide) <|
    .optional (fun _ _ => undoes_longInteger _ _) (by decide) <|
    .optional (fun _ _ => undoes_integer _ _) (by decide) <|
    .optional (fun _ _ => undoes_interval _ _) (by decide) <|
    survives_notOversized _⟩

theorem readBack_get {keyFormatType : Option KeyFormatType}
    {keyCompressionType : Option KeyCompressionType}
    {keyWrappingSpecification : Option KeyWrappingSpecification} :
    RequestPayload.ReadBack version (.get uniqueIdentifier keyFormatType
      keyCompressionType keyWrappingSpecification) :=
  ⟨_, rfl, undoes_struct rfl <|
    .optional (fun _ _ => undoes_text _ _) (by decide) <|
    .optional (fun _ _ => undoes_enumeration _ _) (by decide) <|
    .optional (fun _ _ => undoes_enumeration _ _) (by decide) <|
    .optional (fun specification _ =>
      undoes_keyWrappingSpecification specification) (by decide) <|
    survives_notOversized _⟩

theorem readBack_getAttributes {attributeNames : List String} :
    RequestPayload.ReadBack version
      (.getAttributes uniqueIdentifier attributeNames) := by
  have distinct : Tag.uniqueIdentifier ∉
    [Tag.attributeReference, .attributeName] := by decide
  exact ⟨_, rfl, undoes_struct rfl <|
    .optional (fun _ _ => undoes_text _ _) distinct <|
    .chosen (fun _ => .many (fun _ _ => undoes_referencedName _ _)
        List.not_mem_nil <| survives_notOversized _)
      fun _ => .many (fun _ _ => undoes_text _ _) List.not_mem_nil <|
        survives_notOversized _⟩

theorem readBack_deleteAttribute {attributeName : Option String}
    {attributeIndex : Option Int} {currentAttribute : Option (Tag × ValueObject)}
    {attributeReference : Option AttributeReference}
    (kept : RequestPayload.Kept version (.deleteAttribute uniqueIdentifier
      attributeName attributeIndex currentAttribute attributeReference)) :
    RequestPayload.ReadBack version (.deleteAttribute uniqueIdentifier
      attributeName attributeIndex currentAttribute attributeReference) := by
  have kept : if .kmip20 ≤ version then
      attributeName = none ∧ attributeIndex = none ∧
        ∀ held, currentAttribute = some held → Decodable held
    else currentAttribute = none ∧ attributeReference = none := kept
  have distinct : Tag.uniqueIdentifier ∉
    [Tag.currentAttribute, .attributeReference] ++ [.attributeName] := by decide
  refine ⟨_, rfl, undoes_struct rfl <|
    .optional (fun _ _ => undoes_text _ _) distinct <|
    .either (fun recent => ?_) fun early => ?_⟩
  · rw [if_pos recent] at kept
    obtain ⟨rfl, rfl, decodable⟩ := kept
    have apart : Tag.currentAttribute ∉ [Tag.attributeReference] := by decide
    exact .checked fun complete =>
      .optional (fun held present =>
        undoes_heldAttribute _ _ version (decodable held present)) apart <|
      .optional (fun _ _ => undoes_attributeReference version _)
        List.not_mem_nil <|
      survives_unless complete <| survives_notOversized _
  · rw [if_neg early] at kept
    obtain ⟨rfl, rfl⟩ := kept
    cases attributeName with
    | none => exact .refused
    | some attributeName =>
        exact .demanded (undoes_text _ _) <|
          .optional (fun _ _ => undoes_integer _ _) List.not_mem_nil <|
          survives_notOversized _

/-- The operation does not exist before version 2.0. -/
theorem readBack_setAttribute {newAttribute : Tag × ValueObject}
    (kept : RequestPayload.Kept version
      (.setAttribute uniqueIdentifier newAttribute)) :
    RequestPayload.ReadBack version
      (.setAttribute uniqueIdentifier newAttribute) := by
  refine ⟨_, rfl, fun bytes written => ?_⟩
  change ite _ _ _ = _ at written
  split at written
  · rename_i recent
    have distinct : Tag.uniqueIdentifier ∉ [Tag.newAttribute] := by decide
    have undoes : (payload do
        let uniqueIdentifier ← optional (text .uniqueIdentifier)
        let newAttribute ← demanded
          (missingField "SetAttribute" "new attribute field")
          (Wire.newAttribute version)
        notOversized
        return .setAttribute uniqueIdentifier newAttribute).Undoes nextTag
        (fun _ => writePayload
          [writePresent (writeText .uniqueIdentifier) uniqueIdentifier,
           writeHeldAttribute .newAttribute "NewAttribute" version newAttribute])
        (.setAttribute uniqueIdentifier newAttribute) :=
      undoes_struct rfl <| .optional (fun _ _ => undoes_text _ _) distinct <|
        .demanded (undoes_heldAttribute _ _ version kept) <|
        survives_notOversized _
    unfold SetAttributeRequestPayload.read
    dsimp only
    rw [if_pos recent]
    exact undoes bytes written
  · cases written

theorem readBack_modifyAttribute {entry : Option Attribute}
    {currentAttribute newAttribute : Option (Tag × ValueObject)}
    (kept : RequestPayload.Kept version
      (.modifyAttribute uniqueIdentifier entry currentAttribute newAttribute)) :
    RequestPayload.ReadBack version
      (.modifyAttribute uniqueIdentifier entry currentAttribute newAttribute) := by
  have kept : if .kmip20 ≤ version then
      entry = none ∧
        (∀ held, currentAttribute = some held → Decodable held) ∧
        ∀ held, newAttribute = some held → Decodable held
    else currentAttribute = none ∧ newAttribute = none ∧
      ∀ given, entry = some given → given.wellNamed := kept
  have distinct : Tag.uniqueIdentifier ∉
    [Tag.currentAttribute, .newAttribute] ++ [.attributeItem] := by decide
  refine ⟨_, rfl, undoes_struct rfl <|
    .optional (fun _ _ => undoes_text _ _) distinct <|
    .either (fun recent => ?_) fun early => ?_⟩
  · rw [if_pos recent] at kept
    obtain ⟨rfl, decodable, decodableNew⟩ := kept
    have apart : Tag.currentAttribute ∉ [Tag.newAttribute] := by decide
    refine .optional (fun held present =>
      undoes_heldAttribute _ _ version (decodable held present)) apart ?_
    cases newAttribute with
    | none => exact .refused
    | some newAttribute =>
        exact .demanded (undoes_heldAttribute _ _ version
          (decodableNew newAttribute rfl)) <| survives_notOversized _
  · rw [if_neg early] at kept
    obtain ⟨rfl, rfl, named⟩ := kept
    cases entry with
    | none => exact .refused
    | some entry =>
        exact .demanded (undoes_attributeField (named entry rfl)) <|
          survives_notOversized _

theorem readBack_activate
    (kept : RequestPayload.Kept version (.activate uniqueIdentifier)) :
    RequestPayload.ReadBack version (.activate uniqueIdentifier) := by
  obtain ⟨identifier, rfl⟩ := Option.isSome_iff_exists.mp kept
  exact ⟨_, rfl, undoes_struct rfl <|
    .always (undoes_text .uniqueIdentifier identifier) <|
    survives_notOversized _⟩

theorem readBack_revoke {reason : RevocationReasonCode × Option String}
    {compromiseOccurrenceDate : Option Int}
    (kept : RequestPayload.Kept version
      (.revoke uniqueIdentifier reason compromiseOccurrenceDate)) :
    RequestPayload.ReadBack version
      (.revoke uniqueIdentifier reason compromiseOccurrenceDate) := by
  obtain ⟨identifier, rfl⟩ := Option.isSome_iff_exists.mp kept
  exact ⟨_, rfl, undoes_struct rfl <|
    .always (undoes_text .uniqueIdentifier identifier) <|
    .always (undoes_revocationReason reason) <|
    .optional (fun _ _ => undoes_dateTime _ _) (by decide) <|
    survives_notOversized _⟩

theorem readBack_mac :
    RequestPayload.ReadBack version
      (.mac uniqueIdentifier cryptographicParameters data) :=
  ⟨_, rfl, undoes_struct rfl <|
    .optional (fun _ _ => undoes_text _ _) (by decide) <|
    .optional (fun _ _ => undoes_cryptographicParameters _) (by decide) <|
    .demanded (undoes_byteString _ _) <| survives_notOversized _⟩

theorem readBack_encrypt {ivCounterNonce authAdditionalData : Option Bytes}
    (kept : RequestPayload.Kept version (.encrypt uniqueIdentifier
      cryptographicParameters data ivCounterNonce authAdditionalData)) :
    RequestPayload.ReadBack version (.encrypt uniqueIdentifier
      cryptographicParameters data ivCounterNonce authAdditionalData) :=
  ⟨_, rfl, undoes_struct rfl <|
    .optional (fun _ _ => undoes_text _ _) (by decide) <|
    .optional (fun _ _ => undoes_cryptographicParameters _) (by decide) <|
    .demanded (undoes_byteString _ _) <|
    .optional (fun _ _ => undoes_byteString _ _) (by decide) <|
    survives_since (fun _ _ => undoes_byteString _ _) (by decide) kept <|
    survives_notOversized _⟩

theorem readBack_decrypt
    {ivCounterNonce authAdditionalData authTag : Option Bytes}
    (kept : RequestPayload.Kept version (.decrypt uniqueIdentifier
      cryptographicParameters data ivCounterNonce authAdditionalData authTag)) :
    RequestPayload.ReadBack version (.decrypt uniqueIdentifier
      cryptographicParameters data ivCounterNonce authAdditionalData authTag) := by
  have kept : .kmip14 ≤ version ∨ authAdditionalData = none ∧ authTag = none :=
    kept
  exact ⟨_, rfl, undoes_struct rfl <|
    .optional (fun _ _ => undoes_text _ _) (by decide) <|
    .optional (fun _ _ => undoes_cryptographicParameters _) (by decide) <|
    .demanded (undoes_byteString _ _) <|
    .optional (fun _ _ => undoes_byteString _ _) (by decide) <|
    survives_since (fun _ _ => undoes_byteString _ _) (by decide)
      (kept.imp_right And.left) <|
    survives_since (fun _ _ => undoes_byteString _ _) (by decide)
      (kept.imp_right And.right) <|
    survives_notOversized _⟩

theorem readBack_signatureVerify
    {data digestedData signatureData correlationValue : Option Bytes}
    {initIndicator finalIndicator : Option Bool} :
    RequestPayload.ReadBack version (.signatureVerify uniqueIdentifier
      cryptographicParameters data digestedData signatureData correlationValue
      initIndicator finalIndicator) :=
  ⟨_, rfl, undoes_struct rfl <|
    .optional (fun _ _ => undoes_text _ _) (by decide) <|
    .optional (fun _ _ => undoes_cryptographicParameters _) (by decide) <|
    .optional (fun _ _ => undoes_byteString _ _) (by decide) <|
    .optional (fun _ _ => undoes_byteString _ _) (by decide) <|
    .optional (fun _ _ => undoes_byteString _ _) (by decide) <|
    .optional (fun _ _ => undoes_byteString _ _) (by decide) <|
    .optional (fun _ _ => undoes_boolean _ _) (by decide) <|
    .optional (fun _ _ => undoes_boolean _ _) (by decide) <|
    survives_notOversized _⟩

/-- Every payload that is kept is read back. -/
theorem RequestPayload.readBack {payload : RequestPayload}
    (kept : payload.Kept version) : payload.ReadBack version := by
  cases payload with
  | create => exact readBack_create kept
  | createKeyPair => exact readBack_createKeyPair kept
  | register => exact readBack_register kept
  | deriveKey => exact readBack_deriveKey kept
  | rekey => exact readBack_rekey kept
  | rekeyKeyPair => exact readBack_rekeyKeyPair kept
  | locate => exact readBack_locate kept
  | check => exact readBack_check
  | get => exact readBack_get
  | getAttributes => exact readBack_getAttributes
  | getAttributeList =>
      exact ⟨_, rfl, undoes_struct rfl <|
        .optional (fun _ _ => undoes_text _ _) (by decide) <|
        survives_notOversized _⟩
  | deleteAttribute => exact readBack_deleteAttribute kept
  | setAttribute => exact readBack_setAttribute kept
  | modifyAttribute => exact readBack_modifyAttribute kept
  | destroy =>
      exact ⟨_, rfl, undoes_struct rfl <|
        .optional (fun _ _ => undoes_text _ _) (by decide) <|
        survives_notOversized _⟩
  | query =>
      exact ⟨_, rfl, undoes_struct rfl <| .checked fun present =>
        .many (fun _ _ => undoes_enumeration _ _) (by decide) <|
        survives_unless present <| survives_notOversized _⟩
  | discoverVersions =>
      exact ⟨_, rfl, undoes_struct rfl <|
        .many (fun version _ => undoes_protocolVersion version) (by decide) <|
        survives_notOversized _⟩
  | activate => exact readBack_activate kept
  | revoke => exact readBack_revoke kept
  | mac => exact readBack_mac
  | encrypt => exact readBack_encrypt kept
  | decrypt => exact readBack_decrypt kept
  | sign =>
      exact ⟨_, rfl, undoes_struct rfl <|
        .optional (fun _ _ => undoes_text _ _) (by decide) <|
        .optional (fun _ _ => undoes_cryptographicParameters _) (by decide) <|
        .demanded (undoes_byteString _ _) <| survives_pure _⟩
  | signatureVerify => exact readBack_signatureVerify

end Payloads

section Messages

variable {version : KmipVersion}

/-- The payload of an item is that of its operation. -/
structure RequestBatchItem.Kept (version : KmipVersion)
    (item : RequestBatchItem) : Prop where
  operation : item.requestPayload.operation = item.operation
  payload : item.requestPayload.Kept version
  ephemeral : .kmip20 ≤ version ∨ item.ephemeral = none

/-- A message that its reader gives back: the header tells the version and how
many items there are. -/
structure RequestMessage.WellFormed (version : KmipVersion)
    (message : RequestMessage) : Prop where
  tells : protocolVersionToKmipVersion message.requestHeader.protocolVersion =
    some version
  counted : message.requestHeader.batchCount = message.batchItems.length
  matched : message.requestHeader.Matched
  kept : ∀ item ∈ message.batchItems, item.Kept version

theorem undoes_messageExtension (length : Nat) :
    messageExtension.Undoes nextTag writeMessageExtension length := by
  intro bytes written
  obtain ⟨reads, shows⟩ := reads_readHeader written
  exact ⟨shows, fun rest _ _ => congrArg some (reads rest)⟩

theorem tag_of_createPayload {operation : Operation} {reader : PayloadReader}
    (created : createPayload operation = .ok reader) :
    (reader version).tag = .requestPayload := by
  cases operation <;> cases created <;> rfl

theorem undoes_requestBatchItem {item : RequestBatchItem}
    (kept : item.Kept version) :
    (requestBatchItem (some version)).Undoes nextTag
      (RequestBatchItem.write version) item := by
  obtain ⟨reader, created, undoes⟩ := RequestPayload.readBack kept.payload
  rw [kept.operation] at created
  have distinct : Tag.ephemeral ∉
      [Tag.uniqueBatchItemId, (reader version).tag] := by
    rw [tag_of_createPayload created]
    decide
  have apart : Tag.uniqueBatchItemId ∉ [(reader version).tag] := by
    rw [tag_of_createPayload created]
    decide
  exact undoes_struct rfl <| .always (undoes_enumeration _ _) <|
    .returned <|
    survives_since (fun _ _ => undoes_boolean _ _) distinct kept.ephemeral <|
    .optional (fun _ _ => undoes_byteString _ _) apart <|
    survives_ofExcept created <| .always undoes <|
    .optional (fun length _ => undoes_messageExtension length)
      List.not_mem_nil <|
    survives_notOversized item

theorem gives_requestMessage {message : RequestMessage} {bytes : Bytes}
    (wellFormed : message.WellFormed version)
    (written : writeAll
      [writeRequestHeader message.requestHeader,
       writeAll (message.batchItems.map (RequestBatchItem.write version))] =
      .ok bytes) (rest : Bytes) :
    requestMessage.Gives (bytes ++ rest) message rest := by
  obtain ⟨header, others, writtenHeader, writtenOthers, rfl⟩ :=
    writeAll_cons written
  obtain ⟨items, nothing, writtenItems, writtenNothing, rfl⟩ :=
    writeAll_cons writtenOthers
  cases writtenNothing
  rw [List.append_nil, List.append_assoc]
  obtain ⟨_, readsHeader⟩ :=
    undoes_requestHeader message.requestHeader wellFormed.matched header
      writtenHeader
  have givesHeader : requestHeader.always.Gives (header ++ (items ++ rest))
      message.requestHeader (items ++ rest) := readsHeader (items ++ rest)
  have givesItems := Field.gives_times
    (fun item member => undoes_requestBatchItem (wellFormed.kept item member))
    writtenItems rest
  refine givesHeader.bind ?_
  rw [wellFormed.tells, wellFormed.counted]
  exact givesItems.bind (.pure message rest)

theorem RequestMessage.read_write
    {message : RequestMessage} {bytes : Bytes}
    (wellFormed : message.WellFormed version)
    (written : message.write version = .ok bytes) (told : KmipVersion)
    (rest : Bytes) {fuel : Nat} (enough : (bytes ++ rest).length < fuel) :
    (RequestMessage.read told fuel (bytes ++ rest)).outcome =
      some (.ok (message, rest)) := by
  obtain ⟨localStream, fields, written⟩ := bind_eq_ok written
  obtain ⟨header, heads, written⟩ := bind_eq_ok written
  cases written
  obtain ⟨reads, _⟩ := reads_readHeader heads
  rw [List.append_assoc] at enough ⊢
  rw [List.length_append] at enough
  have gives := gives_requestMessage wellFormed fields rest fuel (by omega)
  unfold RequestMessage.read
  rw [Tracer.inPlace_reads (reads (localStream ++ rest)),
    Run.outcome_enclosed, gives]
  rfl

/-- What is written of a message is read as that message, whatever follows it
and whatever version the reader is told. -/
theorem request_messages_survive_the_wire
    {message : RequestMessage} {bytes : Bytes}
    (wellFormed : message.WellFormed version)
    (written : message.write version = .ok bytes) (told : KmipVersion)
    (rest : Bytes) {fuel : Nat} (enough : (bytes ++ rest).length < fuel) :
    (RequestMessage.read told fuel (bytes ++ rest)).outcome =
      some (.ok (message, rest)) :=
  RequestMessage.read_write wellFormed written told rest enough

/-- A client that logs in, creates a key and activates an object. -/
def createAndActivate : RequestMessage where
  requestHeader :=
    { protocolVersion := ⟨1, 2⟩
      maximumResponseSize := some 256
      asynchronousIndicator := none
      authentication := some
        [⟨.usernameAndPassword, .usernamePassword "a" (some "b")⟩]
      batchErrorContOption := none
      batchOrderOption := some true
      timeStamp := none
      batchCount := 2 }
  batchItems :=
    [{ operation := .create
       ephemeral := none
       uniqueBatchItemId := some [1]
       requestPayload := .create .symmetricKey
         { attributes :=
             [⟨"Cryptographic Length", none, ⟨.integer, (128 : Int)⟩⟩] }
         none
       messageExtension := none },
     { operation := .activate
       ephemeral := none
       uniqueBatchItemId := some [2]
       requestPayload := .activate (some "1")
       messageExtension := none }]

theorem wellFormed_createAndActivate : createAndActivate.WellFormed .kmip12 where
  tells := rfl
  counted := rfl
  matched := by
    rintro credentials ⟨rfl⟩ credential member
    rw [List.mem_singleton.mp member]
    rfl
  kept := by
    refine List.forall_mem_cons.mpr ⟨⟨rfl, ⟨⟨rfl, ?_, ?_⟩, .inr rfl⟩, .inr rfl⟩,
      List.forall_mem_singleton.mpr ⟨rfl, rfl, .inr rfl⟩⟩
    · decide
    · exact fun recent => absurd recent (by decide)

theorem request_messages_survive_the_wire_createAndActivate :
    ∃ bytes, createAndActivate.write .kmip12 = .ok bytes ∧
      (RequestMessage.read .kmip20 (bytes.length + 1) bytes).outcome =
        some (.ok (createAndActivate, [])) := by
  have ok : (createAndActivate.write .kmip12).isOk = true := by
    decide +kernel
  cases written : createAndActivate.write .kmip12 with
  | error exception =>
      rw [written] at ok
      cases ok
  | ok bytes =>
      have survives := @request_messages_survive_the_wire .kmip12
        createAndActivate bytes wellFormed_createAndActivate written .kmip20 []
        (bytes.length + 1) (by rw [List.append_nil]; exact Nat.lt_succ_self _)
      rw [List.append_nil] at survives
      exact ⟨bytes, rfl, survives⟩

end Messages

end PyKMIP.Wire
