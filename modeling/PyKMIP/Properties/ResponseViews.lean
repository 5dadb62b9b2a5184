import PyKMIP.Properties.ResponseRoundTrip
import PyKMIP.Transactions.Answers
import PyKMIP.Wire.EngineResponses

/-!
# What clients see of the responses of the engine

A response of the engine has a form that its reader gives back: the payload is
that of the operation, the secret that of the object type, and the factory has
made every attribute value.
-/

namespace PyKMIP.Wire

open Formats Traces

section Views

/-! An encoding of version 2.0 has no attribute indices, and one before version
1.4 has no authentication tag. -/

def Attribute.unindexed (entry : Attribute) : Attribute :=
  { entry with attributeIndex := none }

/-- A big integer that has been read: its length is that of its bits. -/
def Secret.seen : Secret → Secret
  | .splitKey splitKeyParts keyPartIdentifier splitKeyThreshold splitKeyMethod
      primeFieldSize keyBlock =>
      .splitKey splitKeyParts keyPartIdentifier splitKeyThreshold splitKeyMethod
        (primeFieldSize.map fun object => countedBigInteger object.value)
        keyBlock
  | secret => secret

/-- What a client sees of a payload. -/
def ResponsePayload.seen (version : KmipVersion) :
    ResponsePayload → ResponsePayload
  | .get objectType uniqueIdentifier secret =>
      .get objectType uniqueIdentifier secret.seen
  | .getAttributes uniqueIdentifier attributes =>
      .getAttributes uniqueIdentifier
        (if .kmip20 ≤ version then attributes.map Attribute.unindexed
        else attributes)
  | .encrypt uniqueIdentifier data ivCounterNonce authTag =>
      .encrypt uniqueIdentifier data ivCounterNonce
        (if .kmip14 ≤ version then authTag else none)
  | payload => payload

def ResponseBatchItem.seen (version : KmipVersion) (item : ResponseBatchItem) :
    ResponseBatchItem :=
  { item with
    responsePayload := item.responsePayload.map (ResponsePayload.seen version) }

def ResponseMessage.seen (version : KmipVersion) (message : ResponseMessage) :
    ResponseMessage :=
  { message with
    batchItems := message.batchItems.map (ResponseBatchItem.seen version) }

variable {version : KmipVersion}

/-- The indices are no part of the attributes structure. -/
theorem writeTemplate_unindexed (recent : .kmip20 ≤ version)
    (attributes : List Attribute) :
    writeTemplate version { attributes := attributes.map Attribute.unindexed } =
      writeTemplate version { attributes } := by
  have same : convertTemplateAttributeToAttributes
      { attributes := attributes.map Attribute.unindexed } =
      convertTemplateAttributeToAttributes { attributes } := by
    unfold convertTemplateAttributeToAttributes
    rw [List.mapM_map]
    rfl
  unfold writeTemplate
  rw [if_pos recent, if_pos recent, same]

theorem Secret.write_seen (secret : Secret) :
    writeSecret secret.seen = writeSecret secret := by
  cases secret with
  | splitKey first second third method primeFieldSize keyBlock =>
      cases primeFieldSize <;> rfl
  | _ => rfl

theorem Secret.objectType_seen (secret : Secret) :
    secret.seen.objectType = secret.objectType := by
  cases secret <;> rfl

/-- The encoding only depends on what the client sees. -/
theorem ResponsePayload.write_seen (payload : ResponsePayload) :
    (payload.seen version).write version = payload.write version := by
  cases payload with
  | get objectType uniqueIdentifier secret =>
      change writeResponsePayload _ = writeResponsePayload _
      rw [secret.write_seen]
  | getAttributes uniqueIdentifier attributes =>
      change writeResponsePayload _ = writeResponsePayload _
      by_cases recent : .kmip20 ≤ version
      · simp only [recent, if_true, ne_eq, List.map_eq_nil_iff,
          writeTemplate_unindexed recent]
      · simp only [recent, if_false]
  | encrypt uniqueIdentifier data ivCounterNonce authTag =>
      change writeResponsePayload _ = writeResponsePayload _
      unfold since
      by_cases recent : .kmip14 ≤ version
      · simp only [recent, if_true]
      · simp only [recent, if_false]
  | _ => rfl

theorem ResponseBatchItem.write_seen (item : ResponseBatchItem) :
    (item.seen version).write version = item.write version := by
  unfold ResponseBatchItem.write ResponseBatchItem.seen
  cases item.responsePayload with
  | none => rfl
  | some payload =>
      have same := @ResponsePayload.write_seen version payload
      simp only [Option.map_some, writePresent, same]

theorem ResponseMessage.write_seen (message : ResponseMessage) :
    (message.seen version).write version = message.write version := by
  have same : (message.batchItems.map (ResponseBatchItem.seen version)).map
      (ResponseBatchItem.write version) =
      message.batchItems.map (ResponseBatchItem.write version) := by
    rw [List.map_map]
    exact List.map_congr_left fun item _ => item.write_seen
  unfold ResponseMessage.write ResponseMessage.seen
  simp only [same]

end Views

section Attributes

variable {version : KmipVersion}

theorem toOption_eq_some {outcome : Except ε α} {value : α}
    (present : outcome.toOption = some value) : outcome = .ok value := by
  cases outcome with
  | ok other => exact congrArg Except.ok (Option.some.inj present)
  | error exception => cases present

theorem isCustomName_value (type : AttributeType) :
    isCustomName type.value = false := by
  cases type <;> decide

/-- What the factory has made, of an attribute with a standard name. -/
theorem Attribute.ofEngine_created {entry : PyKMIP.Attribute}
    {made : Attribute} (makes : Attribute.ofEngine entry = some made) :
    made.Created ∧ isCustomName made.attributeName = false ∧
      made.attributeName = entry.attributeName.text := by
  obtain ⟨type, found, makes⟩ := Option.bind_eq_some_iff.mp makes
  obtain ⟨value, created, makes⟩ := Option.bind_eq_some_iff.mp makes
  cases makes
  have same := List.find?_some (p := fun type : AttributeType =>
    decide (type.value = entry.attributeName.text)) found
  exact ⟨.inl ⟨0, type, _, rfl, toOption_eq_some created⟩,
    isCustomName_value type, of_decide_eq_true same⟩

theorem Attribute.ofEngine_wellNamed {entry : PyKMIP.Attribute}
    {made : Attribute} (makes : Attribute.ofEngine entry = some made) :
    made.wellNamed :=
  (ofEngine_created makes).1.wellNamed

theorem forall₂_of_mapM {f : α → Option β} {values : List α} {results : List β}
    (mapped : values.mapM f = some results) :
    List.Forall₂ (fun value result => f value = some result) values results := by
  induction values generalizing results with
  | nil =>
      cases mapped
      exact .nil
  | cons value rest ih =>
      rw [List.mapM_cons] at mapped
      obtain ⟨first, isFirst, mapped⟩ := Option.bind_eq_some_iff.mp mapped
      obtain ⟨others, areOthers, returned⟩ := Option.bind_eq_some_iff.mp mapped
      cases returned
      exact .cons isFirst (ih areOthers)

/-- Everything in the results has been made of something. -/
theorem exists_of_mapM {f : α → Option β} {values : List α} {results : List β}
    (mapped : values.mapM f = some results) {result : β}
    (member : result ∈ results) : ∃ value ∈ values, f value = some result := by
  have pairs := forall₂_of_mapM mapped
  clear mapped
  induction pairs with
  | nil => cases member
  | cons made _ ih =>
      rcases List.mem_cons.mp member with rfl | later
      · exact ⟨_, List.mem_cons_self, made⟩
      · obtain ⟨value, found, made⟩ := ih later
        exact ⟨value, List.mem_cons_of_mem _ found, made⟩

end Attributes

section Secrets

theorem KeyBlock.ofEngine_kept {block : PyKMIP.KeyBlock}
    {made : KeyBlock Attribute} (makes : KeyBlock.ofEngine block = some made) :
    made.Kept := by
  obtain ⟨attributes, translated, returned⟩ := Option.bind_eq_some_iff.mp makes
  cases returned
  have named : attributes.all Attribute.wellNamed = true := by
    refine List.all_eq_true.mpr fun entry member => ?_
    obtain ⟨_, _, made⟩ := exists_of_mapM translated member
    exact Attribute.ofEngine_wellNamed made
  exact named

/-- The secret of an object type, whose key value has no attributes. -/
theorem Secret.ofEngine_kept {coreSecret : CoreSecret} {objectType : ObjectType}
    {secret : Secret} (plain : coreSecret.plainType = some objectType)
    (makes : Secret.ofEngine coreSecret = some secret) :
    secret.seen.Kept ∧ secret.objectType = objectType := by
  have same : ∀ {keyBlock : PyKMIP.KeyBlock} {type : ObjectType},
      CoreSecret.plainType.ofPlain keyBlock type = some objectType →
      type = objectType := by
    intro keyBlock type isPlain
    unfold CoreSecret.plainType.ofPlain at isPlain
    split at isPlain
    · exact Option.some.inj isPlain
    · cases isPlain
  cases coreSecret with
  | certificate type value =>
      cases makes
      exact ⟨trivial, Option.some.inj plain⟩
  | opaqueObject type value =>
      cases makes
      exact ⟨trivial, Option.some.inj plain⟩
  | template => cases makes
  | symmetricKey keyBlock | publicKey keyBlock | privateKey keyBlock
  | secretData type keyBlock =>
      obtain ⟨block, translated, rfl⟩ := Option.map_eq_some_iff.mp makes
      exact ⟨KeyBlock.ofEngine_kept translated, same plain⟩
  | splitKey fields keyBlock =>
      obtain ⟨_, _, makes⟩ := Option.bind_eq_some_iff.mp makes
      obtain ⟨_, _, makes⟩ := Option.bind_eq_some_iff.mp makes
      obtain ⟨_, _, makes⟩ := Option.bind_eq_some_iff.mp makes
      obtain ⟨_, _, makes⟩ := Option.bind_eq_some_iff.mp makes
      obtain ⟨block, translated, returned⟩ := Option.bind_eq_some_iff.mp makes
      cases returned
      refine ⟨⟨KeyBlock.ofEngine_kept translated, fun object present => ?_⟩,
        same plain⟩
      obtain ⟨_, _, rfl⟩ := Option.map_eq_some_iff.mp present
      rfl

end Secrets

section Payloads

variable {version : KmipVersion} {protocolVersion : ProtocolVersion}

/-- Both orders have version 2.0 at the same place. -/
theorem recent_iff
    (told : protocolVersionToKmipVersion protocolVersion = some version) :
    version20 ≤ protocolVersion ↔ .kmip20 ≤ version := by
  obtain ⟨major, minor⟩ := protocolVersion
  unfold protocolVersionToKmipVersion at told
  split at told
  case h_7 => cases told
  all_goals
    rename_i isMajor isMinor
    change major = _ at isMajor
    change minor = _ at isMinor
    subst isMajor isMinor
    cases told
    decide

/-- A client cannot create the value of a Certificate Type attribute from its
tag. -/
theorem decodable_of_suits {entry : PyKMIP.Attribute} (suits : entry.Suits)
    (other : entry.attributeName ≠ .certificateType) :
    entry.attributeName.text ∉ undecodableNames := by
  obtain ⟨attributeName, attributeIndex, attributeValue⟩ := entry
  dsimp only at other ⊢
  unfold PyKMIP.Attribute.Suits AttributeValue.suits at suits
  dsimp only at suits
  split at suits
  case h_6 => exact absurd rfl other
  case h_14 => cases suits
  all_goals decide

/-- The attributes of an answer come back, from version 2.0 on without their
indices. -/
theorem attributes_kept {attributes : List PyKMIP.Attribute}
    {made : List Attribute} (suit : ∀ entry ∈ attributes, entry.Suits)
    (shown : .kmip20 ≤ version → ∀ entry ∈ attributes,
      entry.attributeName ≠ .certificateType)
    (makes : attributes.mapM Attribute.ofEngine = some made) :
    TemplateAttribute.Kept version .templateAttribute
      { attributes := if .kmip20 ≤ version then made.map Attribute.unindexed
                      else made } where
  tagged := rfl
  named := by
    intro entry member
    dsimp only at member
    split at member
    · obtain ⟨original, found, rfl⟩ := List.mem_map.mp member
      obtain ⟨_, _, makes⟩ := exists_of_mapM makes found
      have named : original.wellNamed := Attribute.ofEngine_wellNamed makes
      exact named
    · obtain ⟨_, _, makes⟩ := exists_of_mapM makes member
      exact Attribute.ofEngine_wellNamed makes
  form20 := by
    intro recent
    refine ⟨rfl, fun entry member => ?_⟩
    dsimp only at member
    rw [if_pos recent] at member
    obtain ⟨original, found, rfl⟩ := List.mem_map.mp member
    obtain ⟨source, listed, makes⟩ := exists_of_mapM makes found
    obtain ⟨created, standard, name⟩ := Attribute.ofEngine_created makes
    refine ⟨created, standard, ?_, rfl⟩
    change original.attributeName ∉ _
    rw [name]
    exact decodable_of_suits (suit source listed) (shown recent source listed)

/-- What the engine answers under the version of its request is read back as
the client sees it. -/
theorem ResponsePayload.ofEngine_kept {operation : Operation}
    {response : PyKMIP.ResponsePayload} {payload : ResponsePayload}
    (told : protocolVersionToKmipVersion protocolVersion = some version)
    (answers : response.Answers protocolVersion operation)
    (shown : .kmip20 ≤ version → ¬response.ShowsCertificateType)
    (makes : ResponsePayload.ofEngine response = some payload) :
    (payload.seen version).operation = operation ∧
      (payload.seen version).Kept version := by
  obtain ⟨rfl, consistent⟩ := answers
  have untemplated : ∀ {tag : Tag}, KeptTemplate version tag none :=
    ⟨fun _ => rfl, fun _ absent => absurd absent.symm (Option.some_ne_none _)⟩
  have changed : ∀ {entry : Option PyKMIP.Attribute} {made : Option Attribute},
      (version20 ≤ protocolVersion → entry = none) →
      entry.mapM Attribute.ofEngine = some made →
      (.kmip20 ≤ version → made = none) ∧
        ∀ given, made = some given → given.wellNamed := by
    intro entry made absent makes
    cases entry with
    | none =>
        cases makes
        exact ⟨fun _ => rfl, fun _ same => absurd same.symm (Option.some_ne_none _)⟩
    | some entry =>
        obtain ⟨given, translated, rfl⟩ := Option.map_eq_some_iff.mp makes
        refine ⟨fun recent => ?_, ?_⟩
        · cases absent ((recent_iff told).mpr recent)
        · rintro _ ⟨rfl⟩
          exact Attribute.ofEngine_wellNamed translated
  cases response with
  | create objectType uniqueIdentifier | register uniqueIdentifier
  | deriveKey uniqueIdentifier =>
      cases makes
      exact ⟨rfl, untemplated⟩
  | createKeyPair privateKeyUniqueIdentifier publicKeyUniqueIdentifier =>
      cases makes
      exact ⟨rfl, untemplated, untemplated⟩
  | deleteAttribute uniqueIdentifier entry
  | modifyAttribute uniqueIdentifier entry =>
      obtain ⟨_, _, makes⟩ := Option.bind_eq_some_iff.mp makes
      obtain ⟨_, translated, makes⟩ := Option.bind_eq_some_iff.mp makes
      cases makes
      exact ⟨rfl, changed consistent.1 translated⟩
  | setAttribute uniqueIdentifier | activate uniqueIdentifier
  | revoke uniqueIdentifier | destroy uniqueIdentifier =>
      obtain ⟨_, _, rfl⟩ := Option.map_eq_some_iff.mp makes
      exact ⟨rfl, trivial⟩
  | locate uniqueIdentifiers | discoverVersions protocolVersions =>
      cases makes
      exact ⟨rfl, trivial⟩
  | get objectType uniqueIdentifier secret =>
      obtain ⟨_, _, makes⟩ := Option.bind_eq_some_iff.mp makes
      obtain ⟨_, translated, makes⟩ := Option.bind_eq_some_iff.mp makes
      cases makes
      obtain ⟨kept, same⟩ := Secret.ofEngine_kept consistent translated
      exact ⟨rfl, kept, (Secret.objectType_seen _).trans same⟩
  | getAttributes uniqueIdentifier attributes =>
      obtain ⟨_, _, makes⟩ := Option.bind_eq_some_iff.mp makes
      obtain ⟨_, translated, makes⟩ := Option.bind_eq_some_iff.mp makes
      cases makes
      refine ⟨rfl, attributes_kept consistent (fun recent entry member same =>
        shown recent ⟨entry, member, same⟩) translated⟩
  | query operations vendorIdentification =>
      cases makes
      refine ⟨rfl, .inr rfl, .inr rfl, .inr ⟨rfl, rfl, rfl, rfl, rfl⟩,
        .inr ⟨rfl, rfl⟩, ?_, ?_⟩
      · exact fun _ member => absurd member List.not_mem_nil
      · exact fun _ absent => absurd absent.symm (Option.some_ne_none _)
  | encrypt uniqueIdentifier data ivCounterNonce authTag =>
      obtain ⟨_, _, makes⟩ := Option.bind_eq_some_iff.mp makes
      cases makes
      refine ⟨rfl, ?_⟩
      change _ ∨ ite _ _ _ = _
      by_cases recent : .kmip14 ≤ version
      · exact .inl recent
      · exact .inr (if_neg recent)
  | getAttributeList uniqueIdentifier attributeNames
  | decrypt uniqueIdentifier data
  | signatureVerify uniqueIdentifier validityIndicator
  | mac uniqueIdentifier macData | sign uniqueIdentifier signatureData =>
      obtain ⟨_, _, makes⟩ := Option.bind_eq_some_iff.mp makes
      cases makes
      exact ⟨rfl, trivial⟩

end Payloads

section Messages

variable {version : KmipVersion} {protocolVersion : ProtocolVersion}

/-- Both factories know the same operations. -/
theorem createResponsePayload_of_createPayload {operation : Operation}
    {reader : PayloadReader} (created : createPayload operation = .ok reader) :
    ∃ reader, createResponsePayload operation = .ok reader := by
  cases operation <;> cases created <;> exact ⟨_, rfl⟩

/-- An item of an answer, for an operation of a request that has been read. -/
structure Answering (version : KmipVersion) (protocolVersion : ProtocolVersion)
    (item : PyKMIP.ResponseBatchItem) : Prop where
  known : ∀ operation, item.operation = some operation →
    ∃ reader, createPayload operation = .ok reader
  answers : ∀ response, item.responsePayload = some response →
    ∃ operation, item.operation = some operation ∧
      response.Answers protocolVersion operation
  shown : .kmip20 ≤ version → ∀ response,
    item.responsePayload = some response → ¬response.ShowsCertificateType

theorem ResponseBatchItem.ofEngine_kept
    {item : PyKMIP.ResponseBatchItem} {made : ResponseBatchItem}
    (told : protocolVersionToKmipVersion protocolVersion = some version)
    (answering : Answering version protocolVersion item)
    (makes : ResponseBatchItem.ofEngine item = some made) :
    (made.seen version).Kept version := by
  obtain ⟨payload, translated, returned⟩ := Option.bind_eq_some_iff.mp makes
  cases returned
  have kept : ∀ seen, payload.map (ResponsePayload.seen version) = some seen →
      item.operation = some seen.operation ∧ seen.Kept version := by
    intro seen present
    obtain ⟨original, rfl, rfl⟩ := Option.map_eq_some_iff.mp present
    cases source : item.responsePayload with
    | none =>
        rw [source] at translated
        cases translated
    | some response =>
        rw [source] at translated
        obtain ⟨_, makes, same⟩ := Option.map_eq_some_iff.mp translated
        cases same
        obtain ⟨operation, named, answers⟩ := answering.answers response source
        obtain ⟨same, kept⟩ := ResponsePayload.ofEngine_kept told answers
          (fun recent => answering.shown recent response source) makes
        exact ⟨named.trans (congrArg some same.symm), kept⟩
  constructor
  · intro operation named
    obtain ⟨_, created⟩ := answering.known operation named
    exact createResponsePayload_of_createPayload created
  · exact fun seen present => (kept seen present).1
  · exact fun seen present => (kept seen present).2

theorem ResponseMessage.ofEngine_wellFormed
    {message : PyKMIP.ResponseMessage} {made : ResponseMessage}
    (told : protocolVersionToKmipVersion
      message.responseHeader.protocolVersion = some version)
    (counted : message.responseHeader.batchCount = message.batchItems.length)
    (answering : ∀ item ∈ message.batchItems,
      Answering version message.responseHeader.protocolVersion item)
    (makes : ResponseMessage.ofEngine message = some made) :
    (made.seen version).WellFormed version := by
  obtain ⟨items, translated, returned⟩ := Option.bind_eq_some_iff.mp makes
  cases returned
  constructor
  · exact told
  · have same := (forall₂_of_mapM translated).length_eq
    change (message.responseHeader.batchCount : Int) =
      ((items.map (ResponseBatchItem.seen version)).length : Int)
    rw [List.length_map, ← same, counted]
  · rfl
  · exact .inr rfl
  · intro item member
    obtain ⟨original, found, rfl⟩ := List.mem_map.mp member
    obtain ⟨source, listed, makes⟩ := exists_of_mapM translated found
    exact ResponseBatchItem.ofEngine_kept told (answering source listed) makes

end Messages

end PyKMIP.Wire
