import PyKMIP.Engine.AttributeOperations

/-!
# Spellings of a template

Versions 1.x send a template of named and numbered attributes, version 2.0 a
structure of tagged values, which decodes to a template without indices.
-/

namespace PyKMIP

open StatefulExcept AttributePolicy

section Decoding

/-- The attributes for which `create_attribute_value` raises
`NotImplementedError`. -/
def unimplementedAttributes : List AttributeName :=
  [.cryptographicDomainParameters, .x509CertificateIdentifier,
    .x509CertificateSubject, .x509CertificateIssuer, .certificateIdentifier,
    .certificateSubject, .certificateIssuer, .digitalSignatureAlgorithm,
    .usageLimits, .revocationReason, .link]

/-- `create_attribute_value_by_enum` has no class for one more. -/
def unimplementedTags : List AttributeName :=
  .certificateType :: unimplementedAttributes

/-- The attributes of the rule table that `is_attribute` does not list for
version 2.0. -/
def removedAttributes : List AttributeName :=
  [.certificateIdentifier, .certificateSubject, .certificateIssuer,
    .operationPolicyName, .customAttribute]

/-- `Attribute.read` decodes the value; it passes the names of no known class
on as custom attributes or fails, and the attribute policy refuses them. -/
def createAttributeValue (attributeName : AttributeName) : Bool :=
  attributeName ∉ unimplementedAttributes

/-- `Attributes.read` decodes the value under its tag. -/
def createAttributeValueByEnum : AttributeName → Bool
  | .other _ _ => false
  | attributeName =>
      attributeName ∉ removedAttributes ∧ attributeName ∉ unimplementedTags

/-- The template of a 1.x message, unless a value cannot be decoded. -/
def readTemplateAttribute (attributes : List Attribute) :
    Option TemplateAttribute :=
  if ∀ entry ∈ attributes, createAttributeValue entry.attributeName then
    some { attributes := attributes }
  else none

/-- The tag names the attribute; the structure has no place for an index. -/
def convertAttributesToTemplateAttribute (attributes : List TaggedAttribute) :
    TemplateAttribute where
  attributes := attributes.map fun entry =>
    { attributeName := entry.attributeName
      attributeValue := entry.attributeValue }

/-- The template of a 2.0 message, unless a value cannot be decoded. -/
def readAttributes (attributes : List TaggedAttribute) :
    Option TemplateAttribute :=
  if ∀ entry ∈ attributes,
      createAttributeValueByEnum entry.attributeName then
    some (convertAttributesToTemplateAttribute attributes)
  else none

end Decoding

section Spelling

/-- Several instances of the attribute are permitted. -/
def permitsSeveral (attributeName : AttributeName) : Bool :=
  (attributeRuleSet attributeName).any
    AttributeRuleSet.multipleInstancesPermitted

/-- The instances of a multivalued attribute are numbered from zero, after the
names that have been seen; other attributes have no index or zero. -/
def WellIndexedAfter : List AttributeName → List Attribute → Prop
  | _, [] => True
  | seen, entry :: rest =>
      (if permitsSeveral entry.attributeName then
        entry.attributeIndex = some (seen.count entry.attributeName : Int)
      else entry.attributeIndex = none ∨ entry.attributeIndex = some 0) ∧
      WellIndexedAfter (entry.attributeName :: seen) rest

def WellIndexed (attributes : List Attribute) : Prop :=
  WellIndexedAfter [] attributes

instance instDecidableWellIndexedAfter :
    (seen : List AttributeName) → (attributes : List Attribute) →
      Decidable (WellIndexedAfter seen attributes)
  | _, [] => .isTrue trivial
  | seen, entry :: rest =>
      have := instDecidableWellIndexedAfter (entry.attributeName :: seen) rest
      inferInstanceAs (Decidable (
        (if permitsSeveral entry.attributeName then
          entry.attributeIndex = some (seen.count entry.attributeName : Int)
        else
          entry.attributeIndex = none ∨ entry.attributeIndex = some 0) ∧
        WellIndexedAfter (entry.attributeName :: seen) rest))

instance (attributes : List Attribute) : Decidable (WellIndexed attributes) :=
  inferInstanceAs (Decidable (WellIndexedAfter _ _))

/-- The same attribute as a tagged value. -/
def Attribute.tagged (entry : Attribute) : TaggedAttribute where
  attributeName := entry.attributeName
  attributeValue := entry.attributeValue

/-- What becomes of the attribute when its tagged value is decoded. -/
def Attribute.unindexed (entry : Attribute) : Attribute :=
  { entry with attributeIndex := none }

/-- A list of attributes that loses nothing in version 2.0: no multivalued
attribute has two instances, and no Certificate Type is among them. -/
structure Convertible (attributes : List Attribute) : Prop where
  single : ((attributes.map Attribute.attributeName).filter permitsSeveral).Nodup
  decodes : .certificateType ∉ attributes.map Attribute.attributeName

instance (attributes : List Attribute) : Decidable (Convertible attributes) :=
  decidable_of_iff
    (((attributes.map Attribute.attributeName).filter permitsSeveral).Nodup ∧
      .certificateType ∉ attributes.map Attribute.attributeName)
    ⟨fun parts => ⟨parts.1, parts.2⟩, fun whole => ⟨whole.1, whole.2⟩⟩

def version14 : ProtocolVersion := ⟨1, 4⟩

theorem isAttributeSupported_version20 (attributeName : AttributeName) :
    isAttributeSupported version20 attributeName =
      isAttributeSupported version14 attributeName := by
  cases attributeName <;> rfl

theorem isAttributeMultivalued_of_supported
    {version : ProtocolVersion} {attributeName : AttributeName}
    (supported : isAttributeSupported version attributeName = true) :
    isAttributeMultivalued attributeName =
      .ok (permitsSeveral attributeName) := by
  unfold isAttributeSupported at supported
  unfold isAttributeMultivalued ruleSetOf permitsSeveral
  cases ruleSet : attributeRuleSet attributeName with
  | some ruleSet => rfl
  | none =>
      rw [ruleSet] at supported
      cases supported

end Spelling

section Entries

theorem ObjectAttributes.get?_append_of_absent
    {attributes : ObjectAttributes} {attributeName : AttributeName}
    (absent : attributeName ∉ attributes.map Prod.fst)
    (others : ObjectAttributes) :
    ObjectAttributes.get? (attributes ++ others) attributeName =
      others.get? attributeName := by
  unfold ObjectAttributes.get?
  induction attributes with
  | nil => rfl
  | cons entry rest ih =>
      rw [List.map_cons, List.mem_cons, not_or] at absent
      rw [List.cons_append, List.lookup_cons, beq_false_of_ne absent.1]
      exact ih absent.2

theorem ObjectAttributes.get?_update_self
    (attributes : ObjectAttributes) (attributeName : AttributeName)
    (value : TemplateValue) :
    (attributes.update attributeName value).get? attributeName = some value := by
  unfold ObjectAttributes.update
  split
  · rename_i present
    induction attributes with
    | nil => cases present
    | cons entry rest ih =>
        obtain ⟨key, old⟩ := entry
        rw [List.map_cons]
        unfold ObjectAttributes.get?
        by_cases same : key = attributeName
        · rw [if_pos same, List.lookup_cons_self]
        · rw [if_neg same, List.lookup_cons, beq_false_of_ne (Ne.symm same)]
          apply ih
          simpa [Ne.symm same] using present
  · rename_i absent
    rw [get?_append_of_absent (by simpa using absent)]
    exact List.lookup_cons_self

theorem ObjectAttributes.get?_update_of_ne
    (attributes : ObjectAttributes) (value : TemplateValue)
    {attributeName other : AttributeName} (different : other ≠ attributeName) :
    (attributes.update attributeName value).get? other =
      attributes.get? other := by
  unfold ObjectAttributes.update ObjectAttributes.get?
  split
  · clear * - different
    induction attributes with
    | nil => rfl
    | cons entry rest ih =>
        obtain ⟨key, old⟩ := entry
        rw [List.map_cons, List.lookup_cons, ih]
        by_cases same : key = attributeName
        · rw [if_pos same, List.lookup_cons, same,
            beq_false_of_ne different]
        · rw [if_neg same, List.lookup_cons]
  · clear * - different
    induction attributes with
    | nil =>
        rw [List.nil_append, List.lookup_cons, beq_false_of_ne different]
    | cons entry rest ih =>
        rw [List.cons_append, List.lookup_cons, List.lookup_cons, ih]

variable {version : ProtocolVersion} {attributes after : ObjectAttributes}
  {entry : Attribute}

/-- What a round of the loop does, in the order of its checks. -/
theorem processTemplateEntry_eq
    (version : ProtocolVersion) (attributes : ObjectAttributes)
    (entry : Attribute) :
    processTemplateEntry version attributes entry =
      if isAttributeSupported version entry.attributeName = false then
        .error (invalidField
          ("The " ++ entry.attributeName.text ++ " attribute is unsupported."))
      else if permitsSeveral entry.attributeName = true then
        ((attributes.get? entry.attributeName).elim (.ok [])
          TemplateValue.asMultiple).bind fun values =>
          if entry.attributeIndex.isNone && !values.isEmpty then
            .error (invalidField
              "Attribute index missing from multivalued attribute.")
          else
            .ok (attributes.update entry.attributeName
              (.multiple (values ++ [entry.attributeValue])))
      else if entry.attributeIndex.any (· ≠ 0) then
        .error (invalidField
          "Non-zero attribute index found for single-valued attribute.")
      else if (attributes.get? entry.attributeName).isSome then
        .error (indexOutOfBounds
          ("Cannot set multiple instances of the " ++
            entry.attributeName.text ++ " attribute."))
      else
        .ok (attributes.update entry.attributeName
          (.single entry.attributeValue)) := by
  unfold processTemplateEntry
  by_cases unsupported :
      isAttributeSupported version entry.attributeName = false
  · rw [if_pos unsupported, if_pos unsupported]
    rfl
  · rw [if_neg unsupported, if_neg unsupported,
      isAttributeMultivalued_of_supported (Bool.not_eq_false _ ▸ unsupported)]
    cases permitsSeveral entry.attributeName with
    | true =>
        cases attributes.get? entry.attributeName <;> rfl
    | false => rfl

/-- An entry that loses nothing is processed alike in both versions. -/
theorem processTemplateEntry_unindexed
    (unseen : permitsSeveral entry.attributeName = true →
      attributes.get? entry.attributeName = none)
    (unnumbered : permitsSeveral entry.attributeName = false →
      entry.attributeIndex = none ∨ entry.attributeIndex = some 0) :
    processTemplateEntry version20 attributes entry.unindexed =
      processTemplateEntry version14 attributes entry := by
  obtain ⟨attributeName, attributeIndex, attributeValue⟩ := entry
  unfold Attribute.unindexed
  rw [processTemplateEntry_eq, processTemplateEntry_eq]
  simp only [isAttributeSupported_version20] at *
  by_cases several : permitsSeveral attributeName = true
  · rw [if_pos several, if_pos several, unseen several]
    simp [Except.bind]
  · rw [if_neg several, if_neg several]
    rcases unnumbered (Bool.not_eq_true _ ▸ several) with absent | zero
    · simp [absent]
    · simp [zero]

theorem processTemplateEntry_keeps
    (processed : processTemplateEntry version attributes entry = .ok after)
    {other : AttributeName} (different : other ≠ entry.attributeName) :
    after.get? other = attributes.get? other := by
  rw [processTemplateEntry_eq] at processed
  split at processed
  · cases processed
  · split at processed
    · obtain ⟨values, _, processed⟩ := except_bind_ok_iff.mp processed
      split at processed
      · cases processed
      · cases processed
        exact attributes.get?_update_of_ne _ different
    · split at processed
      · cases processed
      · split at processed
        · cases processed
        · cases processed
          exact attributes.get?_update_of_ne _ different

/-- An instance of a multivalued attribute is there for all later rounds. -/
theorem processTemplateEntry_records
    (processed : processTemplateEntry version attributes entry = .ok after)
    (several : permitsSeveral entry.attributeName = true) :
    ∃ values, values ≠ [] ∧
      after.get? entry.attributeName = some (.multiple values) := by
  rw [processTemplateEntry_eq, if_pos several] at processed
  split at processed
  · cases processed
  · obtain ⟨values, _, processed⟩ := except_bind_ok_iff.mp processed
    split at processed
    · cases processed
    · cases processed
      refine ⟨_, ?_, attributes.get?_update_self _ _⟩
      simp

/-- A further instance without an index is refused. -/
theorem processTemplateEntry_refuses
    (version : ProtocolVersion)
    (several : permitsSeveral entry.attributeName = true)
    (unindexed : entry.attributeIndex = none)
    {values : List AttributeValue} (recorded : values ≠ [])
    (seen : attributes.get? entry.attributeName = some (.multiple values)) :
    ∃ exception,
      processTemplateEntry version attributes entry = .error exception := by
  rw [processTemplateEntry_eq, if_pos several, seen, unindexed]
  split
  · exact ⟨_, rfl⟩
  · cases values with
    | nil => exact absurd rfl recorded
    | cons value rest => exact ⟨_, rfl⟩

end Entries

section Templates

theorem names_unindexed (entries : List Attribute) :
    (entries.map Attribute.unindexed).map Attribute.attributeName =
      entries.map Attribute.attributeName := by
  rw [List.map_map]
  rfl

theorem convertAttributes_tagged (entries : List Attribute) :
    convertAttributesToTemplateAttribute (entries.map Attribute.tagged) =
      { attributes := entries.map Attribute.unindexed } := by
  unfold convertAttributesToTemplateAttribute
  rw [List.map_map]
  rfl

theorem processTemplateAttribute_entries
    (version : ProtocolVersion) (entries : List Attribute) :
    processTemplateAttribute version { attributes := entries } =
      entries.foldlM (processTemplateEntry version) [] := rfl

/-- A template that loses nothing is processed alike in both versions. -/
theorem foldlM_processTemplateEntry_unindexed
    (entries : List Attribute) {seen : List AttributeName}
    {attributes : ObjectAttributes}
    (single : ((entries.map Attribute.attributeName).filter
      permitsSeveral).Nodup)
    (unseen : ∀ entry ∈ entries, permitsSeveral entry.attributeName = true →
      attributes.get? entry.attributeName = none)
    (indexed : WellIndexedAfter seen entries) :
    (entries.map Attribute.unindexed).foldlM
        (processTemplateEntry version20) attributes =
      entries.foldlM (processTemplateEntry version14) attributes := by
  induction entries generalizing attributes seen with
  | nil => rfl
  | cons entry rest ih =>
      obtain ⟨numbered, indexedRest⟩ := indexed
      have unnumbered : permitsSeveral entry.attributeName = false →
          entry.attributeIndex = none ∨ entry.attributeIndex = some 0 := by
        intro alone
        rwa [if_neg (by simp [alone])] at numbered
      rw [List.map_cons, List.foldlM_cons, List.foldlM_cons,
        processTemplateEntry_unindexed (unseen entry List.mem_cons_self)
          unnumbered]
      cases processed : processTemplateEntry version14 attributes entry with
      | error exception => rfl
      | ok after =>
          rw [List.map_cons, List.filter_cons] at single
          apply ih _ _ indexedRest
          · split at single
            · exact (List.nodup_cons.mp single).2
            · exact single
          · intro other member several
            have different : other.attributeName ≠ entry.attributeName := by
              intro same
              rw [if_pos (same ▸ several)] at single
              apply (List.nodup_cons.mp single).1
              rw [← same]
              exact List.mem_filter.mpr
                ⟨List.mem_map_of_mem member, several⟩
            rw [processTemplateEntry_keeps processed different]
            exact unseen other (List.mem_cons_of_mem _ member) several

/-- A further instance of a recorded attribute is refused. -/
theorem foldlM_error_of_mem
    {version : ProtocolVersion} {attributeName : AttributeName}
    (several : permitsSeveral attributeName = true)
    (entries : List Attribute) {attributes : ObjectAttributes}
    (seen : ∃ values, values ≠ [] ∧
      attributes.get? attributeName = some (.multiple values))
    (unindexed : ∀ entry ∈ entries, entry.attributeIndex = none)
    (again : attributeName ∈ entries.map Attribute.attributeName) :
    ∃ exception, entries.foldlM (processTemplateEntry version) attributes =
      .error exception := by
  induction entries generalizing attributes with
  | nil => cases again
  | cons entry rest ih =>
      rw [List.foldlM_cons]
      by_cases same : attributeName = entry.attributeName
      · obtain ⟨values, recorded, seen⟩ := seen
        subst same
        obtain ⟨exception, refused⟩ := processTemplateEntry_refuses
          version several (unindexed entry List.mem_cons_self)
          recorded seen
        rw [refused]
        exact ⟨exception, rfl⟩
      · cases processed : processTemplateEntry version attributes entry with
        | error exception => exact ⟨exception, rfl⟩
        | ok after =>
            apply ih
            · rw [processTemplateEntry_keeps processed same]
              exact seen
            · exact fun other member =>
                unindexed other (List.mem_cons_of_mem _ member)
            · rw [List.map_cons, List.mem_cons] at again
              exact again.resolve_left same

theorem processTemplateAttribute_unindexed
    {entries : List Attribute} (convertible : Convertible entries)
    (indexed : WellIndexed entries) :
    processTemplateAttribute version20
        (convertAttributesToTemplateAttribute
          (entries.map Attribute.tagged)) =
      processTemplateAttribute version14 { attributes := entries } := by
  rw [convertAttributes_tagged, processTemplateAttribute_entries,
    processTemplateAttribute_entries]
  exact foldlM_processTemplateEntry_unindexed entries convertible.single
    (fun _ _ _ => rfl) indexed

/-- A second instance of a multivalued attribute refuses the 2.0 form. -/
theorem processTemplateAttribute_refuses
    (entries : List Attribute)
    (repeated : ¬((entries.map Attribute.attributeName).filter
      permitsSeveral).Nodup) :
    ∃ exception, processTemplateAttribute version20
      (convertAttributesToTemplateAttribute
        (entries.map Attribute.tagged)) = .error exception := by
  rw [convertAttributes_tagged, processTemplateAttribute_entries]
  generalize ([] : ObjectAttributes) = attributes
  induction entries generalizing attributes with
  | nil => exact absurd List.nodup_nil repeated
  | cons entry rest ih =>
      rw [List.map_cons, List.foldlM_cons]
      cases processed : processTemplateEntry version20 attributes
          entry.unindexed with
      | error exception => exact ⟨exception, rfl⟩
      | ok after =>
          rw [List.map_cons, List.filter_cons] at repeated
          split at repeated
          · rename_i several
            rw [List.nodup_cons, not_and_or, not_not] at repeated
            rcases repeated with again | repeated
            · apply foldlM_error_of_mem several
              · have recorded := processTemplateEntry_records processed several
                exact recorded
              · intro other member
                obtain ⟨original, _, rfl⟩ := List.mem_map.mp member
                rfl
              · rw [names_unindexed]
                exact (List.mem_filter.mp again).1
            · exact ih repeated after
          · exact ih repeated after

/-- A name outside the rule table refuses the template in every version. -/
theorem processTemplateAttribute_unlisted
    (version : ProtocolVersion) (entries : List Attribute)
    {entry : Attribute} (member : entry ∈ entries) {text : String}
    {unlisted : text ∉ listedNames}
    (named : entry.attributeName = .other text unlisted) :
    ∃ exception, processTemplateAttribute version { attributes := entries } =
      .error exception := by
  rw [processTemplateAttribute_entries]
  generalize ([] : ObjectAttributes) = attributes
  induction entries generalizing attributes with
  | nil => cases member
  | cons first rest ih =>
      rw [List.foldlM_cons]
      rcases List.mem_cons.mp member with rfl | member
      · rw [processTemplateEntry_eq, if_pos (by rw [named]; rfl)]
        exact ⟨_, rfl⟩
      · cases processTemplateEntry version attributes first with
        | error exception => exact ⟨exception, rfl⟩
        | ok after => exact ih member after

end Templates

end PyKMIP
