import Mathlib.Algebra.Order.BigOperators.Group.List
import Mathlib.Algebra.Order.Group.Nat
import PyKMIP.Wire.Attributes

/-!
# The two forms of attribute lists

Template attributes are read back as they were written.  In the form of
version 2.0, a list is refused, or read back under the names that it had, only
if the two factories and the converter know all of its attributes and their
values have encodings.
-/

namespace PyKMIP.Wire

open Formats

section Names

/-- The tag of an attribute in the form of version 2.0. -/
def attributeTag : AttributeType → Tag
  | .uniqueIdentifier => .uniqueIdentifier
  | .name => .name
  | .objectType => .objectType
  | .cryptographicAlgorithm => .cryptographicAlgorithm
  | .cryptographicLength => .cryptographicLength
  | .cryptographicParameters => .cryptographicParameters
  | .cryptographicDomainParameters => .cryptographicDomainParameters
  | .certificateType => .certificateType
  | .certificateLength => .certificateLength
  | .x509CertificateIdentifier => .x509CertificateIdentifier
  | .x509CertificateSubject => .x509CertificateSubject
  | .x509CertificateIssuer => .x509CertificateIssuer
  | .certificateIdentifier => .certificateIdentifier
  | .certificateSubject => .certificateSubject
  | .certificateIssuer => .certificateIssuer
  | .digitalSignatureAlgorithm => .digitalSignatureAlgorithm
  | .digest => .digest
  | .operationPolicyName => .operationPolicyName
  | .cryptographicUsageMask => .cryptographicUsageMask
  | .leaseTime => .leaseTime
  | .usageLimits => .usageLimits
  | .state => .state
  | .initialDate => .initialDate
  | .activationDate => .activationDate
  | .processStartDate => .processStartDate
  | .protectStopDate => .protectStopDate
  | .deactivationDate => .deactivationDate
  | .destroyDate => .destroyDate
  | .compromiseOccurrenceDate => .compromiseOccurrenceDate
  | .compromiseDate => .compromiseDate
  | .revocationReason => .revocationReason
  | .archiveDate => .archiveDate
  | .objectGroup => .objectGroup
  | .fresh => .fresh
  | .link => .link
  | .applicationSpecificInformation => .applicationSpecificInformation
  | .contactInformation => .contactInformation
  | .lastChangeDate => .lastChangeDate
  | .customAttribute => .customAttribute
  | .alternativeName => .alternativeName
  | .keyValuePresent => .keyValuePresent
  | .keyValueLocation => .keyValueLocation
  | .originalCreationDate => .originalCreationDate
  | .sensitive => .sensitive
  | .alwaysSensitive => .alwaysSensitive
  | .extractable => .extractable
  | .neverExtractable => .neverExtractable

theorem convertAttributeNameToTag_value (type : AttributeType) :
    convertAttributeNameToTag type.value = some (attributeTag type) := by
  cases type <;> rfl

theorem convertAttributeTagToName_tag (type : AttributeType) :
    convertAttributeTagToName (attributeTag type) = some type.value := by
  cases type <;> rfl

theorem isAttribute_tag (type : AttributeType) :
    isAttribute (attributeTag type) none = true := by
  cases type <;> rfl

theorem value_injective : Function.Injective AttributeType.value := by
  intro first second same
  have found := attributeTypeOf?_value first
  rw [same, attributeTypeOf?_value] at found
  exact (Option.some.inj found).symm

/-- No name of the table is that of a custom attribute. -/
theorem convertAttributeNameToTag_custom
    {name : String} (custom : isCustomName name) :
    convertAttributeNameToTag name = none := by
  have others : ∀ entry ∈ attributeNameTagTable,
      isCustomName entry.1 = false := by decide
  have absent : attributeNameTagTable.find? (·.1 = name) = none := by
    apply List.find?_eq_none.mpr
    intro entry member same
    have other := others entry member
    rw [of_decide_eq_true same, custom] at other
    cases other
  unfold convertAttributeNameToTag
  rw [absent]
  rfl

/-- The attributes that only the factory for names can create. -/
def undecodableTypes : List AttributeType :=
  [.certificateType, .alwaysSensitive, .extractable, .neverExtractable,
   .originalCreationDate]

def undecodableNames : List String := undecodableTypes.map AttributeType.value

theorem value_mem_undecodableNames {type : AttributeType} :
    type.value ∈ undecodableNames ↔ type ∈ undecodableTypes := by
  constructor
  · intro member
    obtain ⟨other, found, same⟩ := List.mem_map.mp member
    rwa [← value_injective same]
  · exact List.mem_map_of_mem

theorem tagValueClass_of_decodable
    {type : AttributeType} {valueClass : ValueClass}
    (known : attributeValueClass type = .ok valueClass)
    (decodable : type.value ∉ undecodableNames) :
    tagValueClass (attributeTag type) = .ok valueClass := by
  have agree : ∀ type ∉ undecodableTypes,
      (attributeValueClass type).toOption =
        (tagValueClass (attributeTag type)).toOption := by
    intro type
    cases type <;> decide
  have same := agree type (value_mem_undecodableNames.not.mp decodable)
  rw [known] at same
  cases found : tagValueClass (attributeTag type) with
  | ok other =>
      rw [found] at same
      cases same
      rfl
  | error exception =>
      rw [found] at same
      cases same

theorem tagValueClass_of_undecodable
    {type : AttributeType} (undecodable : type.value ∈ undecodableNames) :
    ∃ exception, tagValueClass (attributeTag type) = .error exception := by
  have refused : ∀ type ∈ undecodableTypes,
      (tagValueClass (attributeTag type)).toOption = none := by
    decide
  have absent := refused type (value_mem_undecodableNames.mp undecodable)
  cases found : tagValueClass (attributeTag type) with
  | error exception => exact ⟨exception, rfl⟩
  | ok valueClass =>
      rw [found] at absent
      cases absent

end Names

section Creation

/-- The factory creates the value for the name. -/
def Attribute.Created (entry : Attribute) : Prop :=
  (∃ now type argument, entry.attributeName = AttributeType.value type ∧
    createAttributeValue now type argument = .ok entry.attributeValue) ∨
  ∃ argument, createCustomAttributeValue entry.attributeName argument =
    .ok (some entry.attributeValue)

/-- The class of a created value, and what kind of name it has. -/
theorem Attribute.Created.kind {entry : Attribute} (created : entry.Created) :
    (∃ type, entry.attributeName = AttributeType.value type ∧
      attributeValueClass type = .ok entry.attributeValue.valueClass) ∨
    isCustomName entry.attributeName ∧
      entry.attributeValue.valueClass = .text := by
  rcases created with ⟨now, type, argument, name, made⟩ | ⟨argument, made⟩
  · left
    obtain ⟨valueClass, known, made⟩ := bind_eq_ok made
    obtain ⟨data, creates, made⟩ := bind_eq_ok made
    have value := Except.ok.inj made
    rw [← value]
    exact ⟨type, name, known⟩
  · right
    unfold createCustomAttributeValue at made
    split at made
    · rename_i custom
      obtain ⟨data, creates, made⟩ := bind_eq_ok made
      have value := Option.some.inj (Except.ok.inj made)
      rw [← value]
      exact ⟨custom, rfl⟩
    · cases made

theorem Attribute.Created.wellNamed
    {entry : Attribute} (created : entry.Created) : entry.wellNamed := by
  apply wellNamed_iff.mpr
  rcases created.kind with ⟨type, name, known⟩ | ⟨custom, text⟩
  · rw [name, nameValueClass_value, known]
  · rw [nameValueClass_custom custom, text]

end Creation

section Writing

variable {version : KmipVersion}

def supported (version : KmipVersion) (tagged : Tag × ValueObject) : Bool :=
  isAttribute tagged.1 (some version)

theorem yields_writeTagged (tag : Tag) (value : ValueObject) :
    Yields (writeTagged tag value) value.fits value.size := by
  have yields := value.yields_write tag
  unfold writeTagged
  cases written : value.write tag with
  | ok bytes =>
      rw [written] at yields
      exact yields
  | error exception =>
      rw [written] at yields
      exact yields

/-- What an outcome of the writer's loop tells about the values. -/
def Tells (version : KmipVersion) (values : List (Tag × ValueObject)) :
    Except AttributesError Bytes → Prop
  | .ok bytes => (∀ tagged ∈ values, supported version tagged) ∧
      (∀ tagged ∈ values, tagged.2.fits) ∧
      bytes.length = (values.map (·.2.size)).sum
  | .error (.attributeNotSupported _ refused) => refused = version ∧
      (∃ tagged ∈ values, supported version tagged = false) ∧
      ∀ tagged ∈ values.takeWhile (supported version), tagged.2.fits
  | .error (.codec _) =>
      ∃ tagged ∈ values.takeWhile (supported version), tagged.2.fits = false
  | .error (.versionNotSupported _) => False

theorem Tells.cons
    {tagged : Tag × ValueObject} {values : List (Tag × ValueObject)}
    {bytes : Bytes} {outcome : Except AttributesError Bytes}
    (known : supported version tagged) (fits : tagged.2.fits)
    (length : bytes.length = tagged.2.size) (tells : Tells version values outcome) :
    Tells version (tagged :: values)
      (do let others ← outcome; return bytes ++ others) := by
  have taken : (tagged :: values).takeWhile (supported version) =
      tagged :: values.takeWhile (supported version) := by
    rw [List.takeWhile_cons, known]
    rfl
  cases outcome with
  | ok others =>
      obtain ⟨allKnown, allFit, otherLength⟩ := tells
      refine ⟨List.forall_mem_cons.mpr ⟨known, allKnown⟩,
        List.forall_mem_cons.mpr ⟨fits, allFit⟩, ?_⟩
      rw [List.length_append, length, otherLength, List.map_cons, List.sum_cons]
  | error exception =>
      cases exception with
      | attributeNotSupported tag refused =>
          obtain ⟨same, ⟨other, member, unknown⟩, allFit⟩ := tells
          refine ⟨same, ⟨other, List.mem_cons_of_mem _ member, unknown⟩, ?_⟩
          rw [taken]
          exact List.forall_mem_cons.mpr ⟨fits, allFit⟩
      | codec exception =>
          obtain ⟨other, member, unfit⟩ := tells
          refine ⟨other, ?_, unfit⟩
          rw [taken]
          exact List.mem_cons_of_mem _ member
      | versionNotSupported refused => exact tells

theorem tells_writeValues
    (version : KmipVersion) (values : List (Tag × ValueObject)) :
    Tells version values (writeValues version values) := by
  induction values with
  | nil => exact ⟨List.forall_mem_nil _, List.forall_mem_nil _, rfl⟩
  | cons tagged values ih =>
      obtain ⟨tag, value⟩ := tagged
      unfold writeValues
      by_cases known : isAttribute tag (some version)
      · have yields := yields_writeTagged tag value
        rw [if_pos known]
        cases written : value.write tag with
        | ok bytes =>
            have tagged : writeTagged tag value = .ok bytes := by
              unfold writeTagged
              rw [written]
              rfl
            rw [tagged] at yields ⊢
            exact ih.cons known yields.1 yields.2
        | error exception =>
            have tagged : writeTagged tag value = .error (.codec exception) := by
              unfold writeTagged
              rw [written]
              rfl
            rw [tagged] at yields ⊢
            refine ⟨(tag, value), ?_, yields⟩
            rw [List.takeWhile_cons, show supported version (tag, value) = true
              from known]
            exact List.mem_cons_self
      · have unknown : supported version (tag, value) = false :=
          Bool.of_not_eq_true known
        rw [if_neg known]
        refine ⟨rfl, ⟨_, List.mem_cons_self, unknown⟩, ?_⟩
        rw [List.takeWhile_cons, unknown]
        exact List.forall_mem_nil _

end Writing

section Reading

variable {version : KmipVersion}

theorem writeValues_cons
    {tag : Tag} {value : ValueObject} {values : List (Tag × ValueObject)}
    {bytes : Bytes} (written : writeValues version ((tag, value) :: values) = .ok bytes) :
    isAttribute tag (some version) ∧ ∃ first others,
      value.write tag = .ok first ∧ writeValues version values = .ok others ∧
      bytes = first ++ others := by
  unfold writeValues at written
  split at written
  · rename_i known
    obtain ⟨first, writtenFirst, written⟩ := bind_eq_ok written
    obtain ⟨others, writtenOthers, written⟩ := bind_eq_ok written
    cases written
    refine ⟨known, first, others, ?_, writtenOthers, rfl⟩
    unfold writeTagged at writtenFirst
    cases wrote : value.write tag with
    | ok bytes =>
        rw [wrote] at writtenFirst
        exact congrArg Except.ok (Except.ok.inj writtenFirst)
    | error exception =>
        rw [wrote] at writtenFirst
        cases writtenFirst
  · cases written

theorem run_liftReader
    {reader : Reader α} {input rest : Bytes} {value : α}
    (ran : reader.run input = .ok (value, rest)) :
    (liftReader reader).run input = .ok (value, rest) := by
  change (reader.run input).mapError AttributesError.codec = _
  rw [ran]
  rfl

theorem reads_readTagged
    {tag : Tag} {value : ValueObject} {bytes : Bytes}
    (known : tagValueClass tag = .ok value.valueClass)
    (written : value.write tag = .ok bytes) :
    Reads (readTagged tag) bytes value := by
  intro rest
  have looked : (liftM (tagValueClass tag) : Reader ValueClass).run
      (bytes ++ rest) = .ok (value.valueClass, bytes ++ rest) := by
    rw [known]
    rfl
  unfold readTagged
  rw [run_bind_ok looked]
  exact ValueObject.reads_write written rest

theorem readTagged_of_unknown
    {tag : Tag} {exception : CodecError}
    (unknown : tagValueClass tag = .error exception) (input : Bytes) :
    (liftReader (readTagged tag)).run input = .error (.codec exception) := by
  change ((readTagged tag).run input).mapError AttributesError.codec = _
  unfold readTagged
  rw [unknown]
  rfl

/-- One round of the reader's loop. -/
theorem run_readValues_succ
    {tag : Tag} {input : Bytes} (shown : nextTag input = some tag)
    (known : isAttribute tag (some version)) (fuel : Nat) :
    (readValues version (fuel + 1)).run input = (do
      let value ← liftReader (readTagged tag)
      let others ← readValues version fuel
      return (tag, value) :: others).run input := by
  rw [readValues, run_get_bind, shown]
  dsimp only
  rw [if_pos known]

theorem length_of_write
    {tag : Tag} {value : ValueObject} {bytes : Bytes}
    (written : value.write tag = .ok bytes) : 0 < bytes.length := by
  have shown := ValueObject.shows_write written []
  apply List.length_pos_iff.mpr
  rintro rfl
  rw [List.append_nil, nextTag_nil] at shown
  cases shown

/-- The loop reads what the loop of the writer wrote, if the factory knows the
tags, -/
theorem run_readValues
    {values : List (Tag × ValueObject)} {bytes : Bytes}
    (written : writeValues version values = .ok bytes)
    (known : ∀ tagged ∈ values,
      tagValueClass tagged.1 = .ok tagged.2.valueClass)
    {fuel : Nat} (enough : bytes.length ≤ fuel) :
    (readValues version fuel).run bytes = .ok (values, []) := by
  induction values generalizing bytes fuel with
  | nil =>
      cases written
      cases fuel <;> rfl
  | cons tagged values ih =>
      obtain ⟨tag, value⟩ := tagged
      obtain ⟨isKnown, first, others, wrote, writtenOthers, rfl⟩ :=
        writeValues_cons written
      obtain ⟨knownFirst, knownOthers⟩ := List.forall_mem_cons.mp known
      have nonempty := length_of_write wrote
      rw [List.length_append] at enough
      obtain ⟨fuel, rfl⟩ : ∃ less, fuel = less + 1 := ⟨fuel - 1, by omega⟩
      have shown := ValueObject.shows_write wrote others
      have reads := reads_readTagged knownFirst wrote others
      rw [run_readValues_succ shown isKnown, run_bind_ok (run_liftReader reads),
        run_bind_ok (ih writtenOthers knownOthers (by omega))]
      rfl

/-- and fails at the first tag that the factory does not know. -/
theorem run_readValues_of_unknown
    {values : List (Tag × ValueObject)} {bytes : Bytes}
    (written : writeValues version values = .ok bytes)
    (known : ∀ tagged ∈ values,
      tagValueClass tagged.1 = .ok tagged.2.valueClass ∨
        ∃ exception, tagValueClass tagged.1 = .error exception)
    (unknown : ∃ tagged ∈ values, ∃ exception,
      tagValueClass tagged.1 = .error exception)
    {fuel : Nat} (enough : bytes.length ≤ fuel) :
    ∃ exception, (readValues version fuel).run bytes = .error exception := by
  induction values generalizing bytes fuel with
  | nil =>
      obtain ⟨tagged, member, _⟩ := unknown
      cases member
  | cons tagged values ih =>
      obtain ⟨tag, value⟩ := tagged
      obtain ⟨isKnown, first, others, wrote, writtenOthers, rfl⟩ :=
        writeValues_cons written
      obtain ⟨knownFirst, knownOthers⟩ := List.forall_mem_cons.mp known
      have nonempty := length_of_write wrote
      rw [List.length_append] at enough
      obtain ⟨fuel, rfl⟩ : ∃ less, fuel = less + 1 := ⟨fuel - 1, by omega⟩
      have shown := ValueObject.shows_write wrote others
      rw [run_readValues_succ shown isKnown]
      rcases knownFirst with same | ⟨exception, refused⟩
      · have reads := reads_readTagged same wrote others
        have later : ∃ tagged ∈ values, ∃ exception,
            tagValueClass tagged.1 = .error exception := by
          obtain ⟨tagged, member, exception, refused⟩ := unknown
          rcases List.mem_cons.mp member with rfl | member
          · rw [same] at refused
            cases refused
          · exact ⟨tagged, member, exception, refused⟩
        obtain ⟨exception, failed⟩ :=
          ih writtenOthers knownOthers later (by omega : others.length ≤ fuel)
        refine ⟨exception, ?_⟩
        rw [run_bind_ok (run_liftReader reads), StateT.run_bind, failed]
        rfl
      · refine ⟨.codec exception, ?_⟩
        rw [StateT.run_bind, readTagged_of_unknown refused]
        rfl

end Reading

section Structure

variable {version : KmipVersion}

theorem Attributes.write_cases
    {attributes : Attributes} {bytes : Bytes}
    (written : attributes.write version = .ok bytes) :
    .kmip20 ≤ version ∧ ∃ header localStream,
      writeValues version attributes.attributes = .ok localStream ∧
      writeBase attributes.tag .struct localStream.length = .ok header ∧
      bytes = header ++ localStream := by
  unfold Attributes.write at written
  split at written
  · rename_i recent
    obtain ⟨localStream, values, written⟩ := bind_eq_ok written
    obtain ⟨header, writtenHeader, written⟩ := bind_eq_ok written
    cases written
    refine ⟨recent, header, localStream, values, ?_, rfl⟩
    cases wrote : writeBase attributes.tag .struct localStream.length with
    | ok bytes =>
        rw [wrote] at writtenHeader
        exact congrArg Except.ok (Except.ok.inj writtenHeader)
    | error exception =>
        rw [wrote] at writtenHeader
        cases writtenHeader
  · cases written

/-- The fields of the structure are those of the local stream. -/
theorem Attributes.run_read
    {attributes : Attributes} {header localStream : Bytes}
    (recent : .kmip20 ≤ version)
    (written : writeBase attributes.tag .struct localStream.length = .ok header)
    (rest : Bytes) :
    (Attributes.read attributes.tag version).run
        ((header ++ localStream) ++ rest) =
      match (readAllValues version).run localStream with
      | .ok (values, _) => .ok ({ attributes with attributes := values }, rest)
      | .error exception => .error exception := by
  have base := run_liftReader (reads_readBase written (localStream ++ rest))
  unfold Attributes.read
  rw [if_pos recent, List.append_assoc, run_bind_ok base,
    run_bind_ok (reads_take localStream rest)]
  cases (readAllValues version).run localStream with
  | ok result => rfl
  | error exception => rfl

theorem Attributes.reads_write
    {attributes : Attributes} {bytes : Bytes}
    (written : attributes.write version = .ok bytes)
    (known : ∀ tagged ∈ attributes.attributes,
      tagValueClass tagged.1 = .ok tagged.2.valueClass) :
    Reads (Attributes.read attributes.tag version) bytes attributes := by
  obtain ⟨recent, header, localStream, values, writtenHeader, rfl⟩ :=
    write_cases written
  have ran : (readAllValues version).run localStream =
      .ok (attributes.attributes, []) := by
    unfold readAllValues
    rw [run_get_bind, run_bind_ok (run_readValues values known (Nat.le_refl _))]
    rfl
  intro rest
  rw [run_read recent writtenHeader, ran]

theorem Attributes.not_reads_write
    {attributes : Attributes} {bytes : Bytes}
    (written : attributes.write version = .ok bytes)
    (known : ∀ tagged ∈ attributes.attributes,
      tagValueClass tagged.1 = .ok tagged.2.valueClass ∨
        ∃ exception, tagValueClass tagged.1 = .error exception)
    (unknown : ∃ tagged ∈ attributes.attributes, ∃ exception,
      tagValueClass tagged.1 = .error exception)
    (other : Attributes) :
    ¬Reads (Attributes.read attributes.tag version) bytes other := by
  obtain ⟨recent, header, localStream, values, writtenHeader, rfl⟩ :=
    write_cases written
  obtain ⟨exception, failed⟩ :=
    run_readValues_of_unknown values known unknown (Nat.le_refl _)
  have raised : (readAllValues version).run localStream = .error exception := by
    unfold readAllValues
    rw [run_get_bind, StateT.run_bind, failed]
    rfl
  intro reads
  have ran := reads []
  rw [run_read recent writtenHeader, raised] at ran
  cases ran

end Structure

section Conversion

/-- The value of an attribute under the tag of its name. -/
def Attribute.form20 (entry : Attribute) : Tag × ValueObject :=
  ((convertAttributeNameToTag entry.attributeName).getD .default,
    entry.attributeValue)

theorem Attribute.Created.form20
    {entry : Attribute} (created : entry.Created)
    (standard : isCustomName entry.attributeName = false) :
    ∃ type, entry.attributeName = AttributeType.value type ∧
      attributeValueClass type = .ok entry.attributeValue.valueClass ∧
      entry.form20 = (attributeTag type, entry.attributeValue) := by
  rcases created.kind with ⟨type, name, known⟩ | ⟨custom, text⟩
  · refine ⟨type, name, known, ?_⟩
    unfold Attribute.form20
    rw [name, convertAttributeNameToTag_value]
    rfl
  · rw [standard] at custom
    cases custom

theorem Attribute.Created.tagged
    {entry : Attribute} (created : entry.Created)
    (standard : isCustomName entry.attributeName = false) :
    entry.tagged = .ok entry.form20 := by
  obtain ⟨type, name, known, form⟩ := created.form20 standard
  unfold Attribute.tagged
  rw [form, name, convertAttributeNameToTag_value]

theorem mapM_tagged
    {entries : List Attribute} (created : ∀ entry ∈ entries, entry.Created)
    (standard : ∀ entry ∈ entries, isCustomName entry.attributeName = false) :
    entries.mapM Attribute.tagged = .ok (entries.map Attribute.form20) := by
  induction entries with
  | nil => rfl
  | cons entry entries ih =>
      obtain ⟨createdFirst, createdOthers⟩ := List.forall_mem_cons.mp created
      obtain ⟨standardFirst, standardOthers⟩ := List.forall_mem_cons.mp standard
      rw [List.mapM_cons, createdFirst.tagged standardFirst,
        ih createdOthers standardOthers]
      rfl

/-- The names are found again; the indices are not part of the form. -/
theorem mapM_named
    {entries : List Attribute} (created : ∀ entry ∈ entries, entry.Created)
    (standard : ∀ entry ∈ entries, isCustomName entry.attributeName = false) :
    (entries.map Attribute.form20).mapM named =
      .ok (entries.map fun entry => { entry with attributeIndex := none }) := by
  induction entries with
  | nil => rfl
  | cons entry entries ih =>
      obtain ⟨createdFirst, createdOthers⟩ := List.forall_mem_cons.mp created
      obtain ⟨standardFirst, standardOthers⟩ := List.forall_mem_cons.mp standard
      obtain ⟨type, name, known, form⟩ := createdFirst.form20 standardFirst
      have back : named entry.form20 =
          .ok { entry with attributeIndex := none } := by
        unfold named
        rw [form, convertAttributeTagToName_tag, name]
      rw [List.map_cons, List.mapM_cons, back, ih createdOthers standardOthers]
      rfl

theorem mapM_tagged_of_custom
    {entries : List Attribute}
    (custom : ∃ entry ∈ entries, isCustomName entry.attributeName) :
    ∃ exception, entries.mapM Attribute.tagged = .error exception := by
  induction entries with
  | nil =>
      obtain ⟨entry, member, _⟩ := custom
      cases member
  | cons entry entries ih =>
      rw [List.mapM_cons]
      cases tagged : entry.tagged with
      | error exception => exact ⟨exception, rfl⟩
      | ok value =>
          obtain ⟨found, member, custom⟩ := custom
          rcases List.mem_cons.mp member with rfl | member
          · unfold Attribute.tagged at tagged
            rw [convertAttributeNameToTag_custom custom] at tagged
            cases tagged
          · obtain ⟨exception, failed⟩ := ih ⟨found, member, custom⟩
            refine ⟨exception, ?_⟩
            rw [failed]
            rfl

/-- The structure for the form of version 2.0 of created attributes. -/
def TemplateAttribute.form20 (template : TemplateAttribute) : Attributes where
  attributes := template.attributes.map Attribute.form20
  tag := attributesTag template.tag

theorem convertTemplateAttributeToAttributes_of_standard
    {template : TemplateAttribute}
    (created : ∀ entry ∈ template.attributes, entry.Created)
    (standard : ∀ entry ∈ template.attributes,
      isCustomName entry.attributeName = false) :
    convertTemplateAttributeToAttributes template = .ok template.form20 := by
  have attributes : (template.attributes.map Attribute.form20).all
      (fun entry => isAttribute entry.1 none) = true := by
    rw [List.all_map, List.all_eq_true]
    intro entry member
    obtain ⟨type, name, known, form⟩ :=
      (created entry member).form20 (standard entry member)
    rw [Function.comp_apply, form]
    exact isAttribute_tag type
  unfold convertTemplateAttributeToAttributes
  rw [mapM_tagged created standard]
  exact if_pos attributes

theorem convertAttributesToTemplateAttribute_form20
    {template : TemplateAttribute}
    (created : ∀ entry ∈ template.attributes, entry.Created)
    (standard : ∀ entry ∈ template.attributes,
      isCustomName entry.attributeName = false) :
    convertAttributesToTemplateAttribute template.form20 =
      .ok { attributes := template.attributes.map fun entry =>
              { entry with attributeIndex := none }
            tag := templateTag (attributesTag template.tag) } := by
  unfold convertAttributesToTemplateAttribute
  change (List.mapM named (template.attributes.map _) >>= _) = _
  rw [mapM_named created standard]
  rfl

end Conversion

section Survival

/-- The template is written and read back as it was. -/
def SurvivesForm10 (template : TemplateAttribute) : Prop :=
  ∃ bytes, template.write = .ok bytes ∧
    Reads (TemplateAttribute.read template.tag) bytes template

/-- The attributes structure of a template is refused as not supported by
version 2.0, or read back with the same names and values. -/
def SurvivesForm20 (template : TemplateAttribute) : Prop :=
  ∃ attributes, convertTemplateAttributeToAttributes template = .ok attributes ∧
    ((∃ tag, attributes.write .kmip20 =
        .error (.attributeNotSupported tag .kmip20)) ∨
      ∃ bytes found back, attributes.write .kmip20 = .ok bytes ∧
        Reads (Attributes.read attributes.tag .kmip20) bytes found ∧
        convertAttributesToTemplateAttribute found = .ok back ∧
        back.attributes.map
            (fun entry => (entry.attributeName, entry.attributeValue)) =
          template.attributes.map
            (fun entry => (entry.attributeName, entry.attributeValue)))

/-- A list of attributes survives both forms. -/
def AttributeListSurvives (template : TemplateAttribute) : Prop :=
  SurvivesForm10 template ∧ SurvivesForm20 template

def supportedIn20 (entry : Attribute) : Bool :=
  supported .kmip20 entry.form20

/-- What an attribute list must fulfil in the form of version 2.0: it has no
custom attributes, its values up to the first that is not supported have
encodings, and if all are supported, then the factory for tags can create all
of them and their encodings fit into a structure. -/
structure FitsForm20 (entries : List Attribute) : Prop where
  standard : ∀ entry ∈ entries, isCustomName entry.attributeName = false
  encodable : ∀ entry ∈ entries.takeWhile supportedIn20,
    entry.attributeValue.fits
  decodable : (∀ entry ∈ entries, supportedIn20 entry) →
    ∀ entry ∈ entries, entry.attributeName ∉ undecodableNames
  small : (∀ entry ∈ entries, supportedIn20 entry) →
    (entries.map (·.attributeValue.size)).sum < 256 ^ 4

/-- What a template must fulfil in both forms: all of its names, indices and
values have encodings, which fit into one structure, it has no custom
attributes, and if version 2.0 supports all attributes, then the factory for
tags can create all of them. -/
structure FitsForms (template : TemplateAttribute) : Prop where
  encodable : template.fits
  standard : ∀ entry ∈ template.attributes,
    isCustomName entry.attributeName = false
  decodable : (∀ entry ∈ template.attributes, supportedIn20 entry) →
    ∀ entry ∈ template.attributes, entry.attributeName ∉ undecodableNames

variable {template : TemplateAttribute}

theorem TemplateAttribute.fits_iff :
    template.fits ↔
      (∀ entry ∈ template.attributes, attributeItem.fits entry) ∧
        (∀ name ∈ template.names, (nameItem .name).fits name) ∧
        (template.names.map (nameItem .name).size).sum +
          (template.attributes.map attributeItem.size).sum < 256 ^ 4 := by
  unfold TemplateAttribute.fits templateFields
  simp only [Fields.fits, Fields.size, Bool.and_true, Bool.and_eq_true,
    List.all_eq_true, Nat.add_zero]
  constructor
  · rintro ⟨⟨names, entries⟩, small⟩
    exact ⟨entries, names, of_decide_eq_true small⟩
  · rintro ⟨entries, names, small⟩
    exact ⟨⟨names, entries⟩, decide_eq_true small⟩

theorem value_fits {entry : Attribute} (fits : attributeItem.fits entry) :
    entry.attributeValue.fits := by
  simp only [attributeItem, Bool.and_eq_true] at fits
  exact fits.1.2.2

theorem value_size_le (entry : Attribute) :
    entry.attributeValue.size ≤ attributeItem.size entry := by
  unfold attributeItem
  dsimp only
  omega

theorem takeWhile_form20 (entries : List Attribute) :
    (entries.map Attribute.form20).takeWhile (supported .kmip20) =
      (entries.takeWhile supportedIn20).map Attribute.form20 :=
  List.takeWhile_map ..

theorem sizes_form20 (entries : List Attribute) :
    ((entries.map Attribute.form20).map (·.2.size)).sum =
      (entries.map (·.attributeValue.size)).sum := by
  rw [List.map_map]
  rfl

theorem tagValueClass_form20
    {entry : Attribute} (created : entry.Created)
    (standard : isCustomName entry.attributeName = false) :
    if entry.attributeName ∈ undecodableNames then
      ∃ exception, tagValueClass entry.form20.1 = .error exception
    else tagValueClass entry.form20.1 = .ok entry.form20.2.valueClass := by
  obtain ⟨type, name, known, form⟩ := created.form20 standard
  rw [form, name]
  split
  · rename_i undecodable
    exact tagValueClass_of_undecodable undecodable
  · rename_i decodable
    exact tagValueClass_of_decodable known decodable

theorem allSupported_of
    {entries : List Attribute} (unsupported : ∃ tagged ∈
      entries.map Attribute.form20, supported .kmip20 tagged = false) :
    ¬∀ entry ∈ entries, supportedIn20 entry := by
  intro all
  obtain ⟨tagged, member, refused⟩ := unsupported
  obtain ⟨entry, found, rfl⟩ := List.mem_map.mp member
  have known := all entry found
  unfold supportedIn20 at known
  rw [refused] at known
  cases known

/-- The refusal of a version 2.0 structure comes from its values. -/
theorem Attributes.write_refused
    {attributes : Attributes} {tag : Tag}
    (refused : attributes.write .kmip20 =
      .error (.attributeNotSupported tag .kmip20)) :
    writeValues .kmip20 attributes.attributes =
      .error (.attributeNotSupported tag .kmip20) := by
  unfold Attributes.write at refused
  rw [if_pos (by decide)] at refused
  cases written : writeValues .kmip20 attributes.attributes with
  | error exception =>
      rw [written] at refused
      exact congrArg Except.error (Except.error.inj refused)
  | ok localStream =>
      rw [written] at refused
      change ((writeBase attributes.tag .struct localStream.length).mapError _
        >>= _) = _ at refused
      cases header : writeBase attributes.tag .struct localStream.length with
      | ok bytes =>
          rw [header] at refused
          cases refused
      | error exception =>
          rw [header] at refused
          cases refused

theorem Attributes.write_of_values
    {attributes : Attributes} {localStream : Bytes}
    (written : writeValues .kmip20 attributes.attributes = .ok localStream)
    (small : localStream.length < 256 ^ 4) :
    ∃ bytes, attributes.write .kmip20 = .ok bytes := by
  obtain ⟨header, wrote, _⟩ :=
    (yields_header attributes.tag .struct small).of_fits
  refine ⟨header ++ localStream, ?_⟩
  unfold Attributes.write
  rw [if_pos (by decide), written]
  change ((writeBase attributes.tag .struct localStream.length).mapError _ >>= _) =
    _
  rw [wrote]
  rfl

theorem Attributes.write_of_refused
    {attributes : Attributes} {exception : AttributesError}
    (refused : writeValues .kmip20 attributes.attributes = .error exception) :
    attributes.write .kmip20 = .error exception := by
  unfold Attributes.write
  rw [if_pos (by decide), refused]
  rfl

theorem FitsForm20.of_survives
    (created : ∀ entry ∈ template.attributes, entry.Created)
    (survives : SurvivesForm20 template) :
    FitsForm20 template.attributes := by
  obtain ⟨attributes, converted, outcome⟩ := survives
  have standard : ∀ entry ∈ template.attributes,
      isCustomName entry.attributeName = false := by
    intro entry member
    by_contra custom
    obtain ⟨exception, failed⟩ := mapM_tagged_of_custom
      ⟨entry, member, Bool.of_not_eq_false custom⟩
    unfold convertTemplateAttributeToAttributes at converted
    rw [failed] at converted
    cases converted
  rw [convertTemplateAttributeToAttributes_of_standard created standard]
    at converted
  cases converted
  have tells := tells_writeValues .kmip20 template.form20.attributes
  rcases outcome with ⟨tag, refused⟩ | ⟨bytes, found, back, written, reads, _⟩
  · rw [Attributes.write_refused refused] at tells
    obtain ⟨_, unsupported, fit⟩ := tells
    have some := allSupported_of unsupported
    refine ⟨standard, ?_, fun all => (some all).elim, fun all => (some all).elim⟩
    intro entry member
    apply fit entry.form20
    change entry.form20 ∈ (template.attributes.map _).takeWhile _
    rw [takeWhile_form20]
    exact List.mem_map_of_mem member
  · obtain ⟨_, header, localStream, values, writtenHeader, rfl⟩ :=
      Attributes.write_cases written
    rw [values] at tells
    obtain ⟨_, fit, length⟩ := tells
    refine ⟨standard, ?_, ?_, ?_⟩
    · intro entry member
      apply fit entry.form20
      exact List.mem_map_of_mem (List.takeWhile_subset _ member)
    · intro _ entry member undecodable
      have unknown := tagValueClass_form20 (created entry member)
        (standard entry member)
      rw [if_pos undecodable] at unknown
      apply Attributes.not_reads_write written ?_
        ⟨entry.form20, List.mem_map_of_mem member, unknown⟩ found reads
      intro tagged member
      obtain ⟨entry, held, rfl⟩ := List.mem_map.mp member
      have known := tagValueClass_form20 (created entry held)
        (standard entry held)
      split at known
      · exact .inr known
      · exact .inl known
    · intro _
      have small := ((yields_writeBase _ _ _).of_ok writtenHeader).1
      rw [← sizes_form20]
      exact lt_of_eq_of_lt length.symm (of_decide_eq_true small)

theorem FitsForm20.survives
    (created : ∀ entry ∈ template.attributes, entry.Created)
    (fits : FitsForm20 template.attributes) :
    SurvivesForm20 template := by
  refine ⟨template.form20,
    convertTemplateAttributeToAttributes_of_standard created fits.standard, ?_⟩
  have tells := tells_writeValues .kmip20 template.form20.attributes
  have encodable : ∀ tagged ∈ template.form20.attributes.takeWhile
      (supported .kmip20), tagged.2.fits := by
    intro tagged member
    change tagged ∈ (template.attributes.map _).takeWhile _ at member
    rw [takeWhile_form20] at member
    obtain ⟨entry, taken, rfl⟩ := List.mem_map.mp member
    exact fits.encodable entry taken
  cases written : writeValues .kmip20 template.form20.attributes with
  | error exception =>
      rw [written] at tells
      cases exception with
      | attributeNotSupported tag version =>
          obtain ⟨rfl, _⟩ := tells
          exact .inl ⟨tag, Attributes.write_of_refused written⟩
      | codec exception =>
          obtain ⟨tagged, member, unfit⟩ := tells
          rw [encodable tagged member] at unfit
          cases unfit
      | versionNotSupported version => exact tells.elim
  | ok localStream =>
      rw [written] at tells
      obtain ⟨known, _, length⟩ := tells
      have all : ∀ entry ∈ template.attributes, supportedIn20 entry :=
        fun entry member => known _ (List.mem_map_of_mem member)
      have small : localStream.length < 256 ^ 4 := by
        rw [length]
        exact lt_of_eq_of_lt (sizes_form20 _) (fits.small all)
      obtain ⟨bytes, wrote⟩ := Attributes.write_of_values written small
      have reads := Attributes.reads_write wrote (by
        intro tagged member
        obtain ⟨entry, held, rfl⟩ := List.mem_map.mp member
        have known := tagValueClass_form20 (created entry held)
          (fits.standard entry held)
        rwa [if_neg (fits.decodable all entry held)] at known)
      refine .inr ⟨bytes, template.form20, _, wrote, reads,
        convertAttributesToTemplateAttribute_form20 created fits.standard, ?_⟩
      rw [List.map_map]
      rfl

theorem survivesForm10_iff
    (created : ∀ entry ∈ template.attributes, entry.Created) :
    SurvivesForm10 template ↔ template.fits := by
  have yields := template.yields_write
  constructor
  · rintro ⟨bytes, written, _⟩
    exact (yields.of_ok written).1
  · intro fits
    rw [fits] at yields
    obtain ⟨bytes, written, _⟩ := yields.of_fits
    exact ⟨bytes, written, TemplateAttribute.reads_write
      (fun entry member => (created entry member).wellNamed) written⟩

/-- What has an encoding in a template has one in an attributes structure. -/
theorem FitsForms.fitsForm20 (fits : FitsForms template) :
    FitsForm20 template.attributes := by
  obtain ⟨entries, _, small⟩ := TemplateAttribute.fits_iff.mp fits.encodable
  refine ⟨fits.standard, ?_, fits.decodable, fun _ => ?_⟩
  · intro entry member
    exact value_fits (entries entry (List.takeWhile_subset _ member))
  · have shorter : (template.attributes.map (·.attributeValue.size)).sum ≤
        (template.attributes.map attributeItem.size).sum :=
      List.sum_le_sum fun entry _ => value_size_le entry
    omega

theorem attribute_list_survives_iff
    (template : TemplateAttribute)
    (created : ∀ entry ∈ template.attributes, entry.Created) :
    AttributeListSurvives template ↔ FitsForms template := by
  constructor
  · rintro ⟨survives10, survives20⟩
    have fits20 := FitsForm20.of_survives created survives20
    exact ⟨(survivesForm10_iff created).mp survives10, fits20.standard,
      fits20.decodable⟩
  · intro fits
    exact ⟨(survivesForm10_iff created).mpr fits.encodable,
      FitsForm20.survives created fits.fitsForm20⟩

/-- A name, a state and a lease time. -/
def mixedTemplate : TemplateAttribute where
  attributes :=
    [{ attributeName := "Name"
       attributeIndex := some 0
       attributeValue := ⟨.name, (⟨some "key", some .uninterpretedTextString⟩ :
         NameStructure)⟩ },
     { attributeName := "State"
       attributeIndex := none
       attributeValue := ⟨.state, some State.active⟩ },
     { attributeName := "Lease Time"
       attributeIndex := none
       attributeValue := ⟨.interval, some 3600⟩ }]

theorem created_mixedTemplate :
    ∀ entry ∈ mixedTemplate.attributes, entry.Created := by
  simp only [mixedTemplate, List.forall_mem_cons]
  refine ⟨.inl ⟨0, .name, .text "key", rfl, rfl⟩,
    .inl ⟨0, .state, .state .active, rfl, rfl⟩,
    .inl ⟨0, .leaseTime, .integer 3600, rfl, rfl⟩, ?_⟩
  exact List.forall_mem_nil _

theorem attribute_list_survives_mixedTemplate :
    AttributeListSurvives mixedTemplate := by
  apply (attribute_list_survives_iff mixedTemplate created_mixedTemplate).mpr
  constructor
  · decide
  · decide
  · decide

/-- A certificate type is written in version 2.0, but not read. -/
def certificateTemplate : TemplateAttribute where
  attributes :=
    [{ attributeName := "Certificate Type"
       attributeIndex := none
       attributeValue := ⟨.certificateType, some CertificateType.x509⟩ }]

theorem certificateTemplate_does_not_survive :
    (∀ entry ∈ certificateTemplate.attributes, entry.Created) ∧
      ¬AttributeListSurvives certificateTemplate := by
  have created : ∀ entry ∈ certificateTemplate.attributes, entry.Created := by
    refine List.forall_mem_cons.mpr
      ⟨.inl ⟨0, .certificateType, .certificateType .x509, rfl, rfl⟩,
      List.forall_mem_nil _⟩
  refine ⟨created, fun survives => ?_⟩
  have fits := FitsForm20.of_survives created survives.2
  exact fits.decodable (by decide) _ List.mem_cons_self (by decide)

end Survival

end PyKMIP.Wire
