import PyKMIP.Properties.RegisterGet
import PyKMIP.Spellings

/-!
# Attributes given at creation are read back

A template reaches an object through a dictionary and one setter per attribute,
and comes back through one getter per attribute and a factory.  What it goes
through is the part of the object that templates can set.
-/

namespace PyKMIP

open EStateM StatefulExcept AttributePolicy History

section Fields

/-- The part of an object that a template can set. -/
structure TemplateFields where
  names : List String
  appSpecificInfo : List ApplicationSpecificInformation
  objectGroups : List String
  cryptographicAlgorithm : Option CryptographicAlgorithm
  cryptographicLength : Option Int
  cryptographicUsageMasks : Option (List CryptographicUsageMask)
  operationPolicyName : Option String
  sensitive : Bool

def ManagedObject.templateFields (managedObject : ManagedObject) :
    TemplateFields where
  names := managedObject.names
  appSpecificInfo := managedObject.appSpecificInfo
  objectGroups := managedObject.objectGroups
  cryptographicAlgorithm :=
    managedObject.keyFields?.map KeyFields.cryptographicAlgorithm
  cryptographicLength :=
    managedObject.keyFields?.map KeyFields.cryptographicLength
  cryptographicUsageMasks := managedObject.cryptographicUsageMasks?
  operationPolicyName := managedObject.operationPolicyName
  sensitive := managedObject.sensitive

/-- A name as it is read from an object, which stores only its value. -/
def storedName (name : Name) : Name :=
  { name with nameType := .uninterpretedTextString }

/-- What is read of an attribute that a template can set. -/
def TemplateFields.read (fields : TemplateFields) :
    AttributeName → Option ObjectAttribute
  | .name => some (.names (fields.names.map fun name =>
      { nameValue := name, nameType := .uninterpretedTextString }))
  | .applicationSpecificInformation =>
      some (.applicationSpecificInformation fields.appSpecificInfo)
  | .objectGroup => some (.objectGroups fields.objectGroups)
  | .cryptographicAlgorithm =>
      fields.cryptographicAlgorithm.map .cryptographicAlgorithm
  | .cryptographicLength => fields.cryptographicLength.map .integer
  | .cryptographicUsageMask => fields.cryptographicUsageMasks.map .usageMasks
  | .operationPolicyName => fields.operationPolicyName.map .text
  | .sensitive => some (.boolean fields.sensitive)
  | _ => none

theorem getAttribute_of_read
    {storedObject : StoredObject} {attributeName : AttributeName}
    {value : ObjectAttribute}
    (isRead : storedObject.managedObject.templateFields.read attributeName =
      some value) :
    getAttributeFromManagedObject storedObject attributeName =
      .ok (some value) := by
  cases attributeName with
  | name | applicationSpecificInformation | objectGroup | sensitive =>
      cases isRead
      rfl
  | cryptographicAlgorithm | cryptographicLength =>
      obtain ⟨_, fields, rfl⟩ := Option.map_eq_some_iff.mp isRead
      obtain ⟨keyFields, present, rfl⟩ := Option.map_eq_some_iff.mp fields
      simp only [getAttributeFromManagedObject, present]
      rfl
  | cryptographicUsageMask =>
      obtain ⟨masks, present, rfl⟩ := Option.map_eq_some_iff.mp isRead
      have stored : storedObject.managedObject.cryptographicUsageMasks? =
          some masks := present
      simp only [getAttributeFromManagedObject, stored]
      rfl
  | operationPolicyName =>
      obtain ⟨text, present, rfl⟩ := Option.map_eq_some_iff.mp isRead
      have stored : storedObject.managedObject.operationPolicyName =
          some text := present
      simp only [getAttributeFromManagedObject, stored]
      rfl
  | _ => cases isRead

/-- What setting one entry of a template does to the fields. -/
inductive Assigns : AttributeName × TemplateValue →
    TemplateFields → TemplateFields → Prop where
  | names {values : List AttributeValue} {names : List Name} :
      values = names.map .name →
      Assigns (.name, .multiple values) fields
        { fields with names := fields.names ++ names.map Name.nameValue }
  | infos {values : List AttributeValue}
      {infos : List ApplicationSpecificInformation} :
      values = infos.map .applicationSpecificInformation →
      Assigns (.applicationSpecificInformation, .multiple values) fields
        { fields with appSpecificInfo := fields.appSpecificInfo ++ infos }
  | groups {values : List AttributeValue} {groups : List String} :
      values = groups.map .text →
      Assigns (.objectGroup, .multiple values) fields
        { fields with objectGroups := fields.objectGroups ++ groups }
  | algorithm {algorithm : CryptographicAlgorithm} :
      fields.cryptographicAlgorithm = some algorithm →
      Assigns (.cryptographicAlgorithm,
        .single (.cryptographicAlgorithm algorithm)) fields fields
  | length {length : Int} :
      Assigns (.cryptographicLength, .single (.integer length)) fields
        { fields with cryptographicLength := some length }
  | masks {mask : Int} :
      Assigns (.cryptographicUsageMask, .single (.integer mask)) fields
        { fields with cryptographicUsageMasks := some (masksOf mask) }
  | policyName {text : String} :
      Assigns (.operationPolicyName, .single (.text text)) fields
        { fields with operationPolicyName := some text }
  | sensitive {sensitive : Bool} :
      Assigns (.sensitive, .single (.boolean sensitive)) fields
        { fields with sensitive := sensitive }

theorem Assigns.read_of_ne
    {entry : AttributeName × TemplateValue} {before after : TemplateFields}
    (assigns : Assigns entry before after) {other : AttributeName}
    (different : other ≠ entry.1) :
    after.read other = before.read other := by
  cases assigns <;> cases other <;> first | rfl | exact absurd rfl different

/-- What an entry of a template is read back as. -/
inductive ReadsBack : AttributeName × TemplateValue → ObjectAttribute → Prop where
  | names (names : List Name) :
      ReadsBack (.name, .multiple (names.map .name))
        (.names (names.map storedName))
  | infos (infos : List ApplicationSpecificInformation) :
      ReadsBack (.applicationSpecificInformation,
          .multiple (infos.map .applicationSpecificInformation))
        (.applicationSpecificInformation infos)
  | groups (groups : List String) :
      ReadsBack (.objectGroup, .multiple (groups.map .text))
        (.objectGroups groups)
  | algorithm (algorithm : CryptographicAlgorithm) :
      ReadsBack (.cryptographicAlgorithm,
        .single (.cryptographicAlgorithm algorithm))
        (.cryptographicAlgorithm algorithm)
  | length (length : Int) :
      ReadsBack (.cryptographicLength, .single (.integer length))
        (.integer length)
  | masks (mask : Int) :
      ReadsBack (.cryptographicUsageMask, .single (.integer mask))
        (.usageMasks (masksOf mask))
  | policyName (text : String) :
      ReadsBack (.operationPolicyName, .single (.text text)) (.text text)
  | sensitive (sensitive : Bool) :
      ReadsBack (.sensitive, .single (.boolean sensitive)) (.boolean sensitive)

/-- The instances of a multivalued attribute that are read before it is set. -/
def TemplateFields.Unset (fields : TemplateFields)
    (attributeName : AttributeName) : Prop :=
  permitsSeveral attributeName = true →
    ∀ value, fields.read attributeName = some value →
      AttributeFactory.instances value = []

theorem Assigns.readsBack
    {entry : AttributeName × TemplateValue} {before after : TemplateFields}
    (assigns : Assigns entry before after) (unset : before.Unset entry.1) :
    ∃ value, after.read entry.1 = some value ∧ ReadsBack entry value := by
  cases assigns with
  | @names _ values names isNames =>
      have empty := List.map_eq_nil_iff.mp (List.map_eq_nil_iff.mp
        (unset rfl _ rfl))
      subst isNames
      refine ⟨_, rfl, ?_⟩
      simp only [empty, List.nil_append, List.map_map]
      exact .names names
  | @infos _ values infos isInfos =>
      have empty := List.map_eq_nil_iff.mp (unset rfl _ rfl)
      subst isInfos
      refine ⟨_, rfl, ?_⟩
      simp only [empty, List.nil_append]
      exact .infos infos
  | @groups _ values groups isGroups =>
      have empty := List.map_eq_nil_iff.mp (unset rfl _ rfl)
      subst isGroups
      refine ⟨_, rfl, ?_⟩
      simp only [empty, List.nil_append]
      exact .groups groups
  | algorithm stored =>
      refine ⟨_, ?_, .algorithm _⟩
      simp only [TemplateFields.read, stored]
      rfl
  | length => exact ⟨_, rfl, .length _⟩
  | masks => exact ⟨_, rfl, .masks _⟩
  | policyName => exact ⟨_, rfl, .policyName _⟩
  | sensitive => exact ⟨_, rfl, .sensitive _⟩

/-- What setting the entries one after the other does to the fields. -/
inductive AssignsAll : ObjectAttributes → TemplateFields → TemplateFields → Prop
    where
  | nil : AssignsAll [] fields fields
  | cons : Assigns entry before between → AssignsAll rest between after →
      AssignsAll (entry :: rest) before after

theorem AssignsAll.read_of_absent
    {attributes : ObjectAttributes} {before after : TemplateFields}
    (assigns : AssignsAll attributes before after)
    {attributeName : AttributeName}
    (absent : attributeName ∉ attributes.map Prod.fst) :
    after.read attributeName = before.read attributeName := by
  induction assigns with
  | nil => rfl
  | cons first _ ih =>
      rw [List.map_cons, List.mem_cons, not_or] at absent
      rw [ih absent.2, first.read_of_ne absent.1]

/-- Every entry of a dictionary is read back from what it has been set on. -/
theorem AssignsAll.readsBack
    {attributes : ObjectAttributes} {before after : TemplateFields}
    (assigns : AssignsAll attributes before after)
    (distinct : (attributes.map Prod.fst).Nodup)
    (unset : ∀ entry ∈ attributes, before.Unset entry.1) :
    ∀ entry ∈ attributes, ∃ value,
      after.read entry.1 = some value ∧ ReadsBack entry value := by
  induction assigns with
  | nil => exact fun _ member => absurd member List.not_mem_nil
  | @cons first before between rest after now later ih =>
      rw [List.map_cons, List.nodup_cons] at distinct
      intro entry member
      rcases List.mem_cons.mp member with rfl | member
      · rw [later.read_of_absent distinct.1]
        exact now.readsBack (unset entry List.mem_cons_self)
      · apply ih distinct.2 _ entry member
        intro other listed several value isRead
        have different : other.1 ≠ first.1 := by
          intro same
          apply distinct.1
          rw [← same]
          exact List.mem_map_of_mem listed
        rw [now.read_of_ne different] at isRead
        exact unset other (List.mem_cons_of_mem _ listed) several value isRead

end Fields

section Setting

variable {managedObject : ManagedObject}

theorem eq_map_of_mapM
    {narrow : AttributeValue → Except PyError α} {wrap : α → AttributeValue}
    (inverts : ∀ value result, narrow value = .ok result → value = wrap result)
    (values : List AttributeValue) {results : List α}
    (narrowed : values.mapM narrow = .ok results) :
    values = results.map wrap := by
  induction values generalizing results with
  | nil =>
      cases narrowed
      rfl
  | cons value rest ih =>
      rw [List.mapM_cons] at narrowed
      obtain ⟨first, isFirst, narrowed⟩ := except_bind_ok_iff.mp narrowed
      obtain ⟨others, areOthers, returned⟩ := except_bind_ok_iff.mp narrowed
      cases returned
      rw [List.map_cons, ← ih areOthers, ← inverts value first isFirst]

theorem setField_returnsIn
    [DecidableEq τ] {allowed : ManagedObject → Prop}
    {attributeName : AttributeName}
    {existing : ManagedObject → Except PyError τ} {truthy : τ → Bool}
    {assign : τ → ManagedObject → ManagedObject} {value : τ}
    (kept : existing managedObject = .ok value → allowed managedObject)
    (assigned : ∀ old, existing managedObject = .ok old → truthy old = false →
      allowed (assign value managedObject)) :
    ReturnsIn allowed managedObject
      (setField attributeName existing truthy assign value) := by
  unfold setField
  apply ReturnsIn.get
  apply ReturnsIn.fromExcept
  intro old isOld
  apply ReturnsIn.ite
  · intro _
    apply ReturnsIn.raiseIfLast
    intro same
    rw [not_not] at same
    rw [same] at isOld
    exact kept isOld
  · intro falsy
    exact .set (assigned old isOld (Bool.not_eq_true _ ▸ falsy))

theorem getattr_map_eq_ok
    {present : Option α} {project : α → β} {value : β}
    (isRead : project <$> getattr present = .ok value) :
    present.map project = some value := by
  cases present with
  | none => cases isRead
  | some field =>
      cases isRead
      rfl

theorem templateFields_setLength
    {length old : Int} (present : managedObject.keyFields?.map
      KeyFields.cryptographicLength = some old) :
    (managedObject.mapKeyFields fun fields =>
      { fields with cryptographicLength := length }).templateFields =
        { managedObject.templateFields with
          cryptographicLength := some length } := by
  rcases managedObject with ⟨_, _, _, _, _, _, _, _, ⟨_, _, _⟩ | _ | _ | _⟩
  · rfl
  all_goals cases present

theorem templateFields_setMasks
    {masks old : List CryptographicUsageMask}
    (present : managedObject.cryptographicUsageMasks? = some old) :
    (managedObject.mapCryptographic fun fields =>
      { fields with cryptographicUsageMasks := masks }).templateFields =
        { managedObject.templateFields with
          cryptographicUsageMasks := some masks } := by
  rcases managedObject with ⟨_, _, _, _, _, _, _, _, ⟨_, _, _⟩ | _ | _ | _⟩
  · rfl
  · rfl
  · rfl
  · cases present

theorem setSingleValuedAttribute_assigns
    (attributeName : AttributeName) (attributeValue : AttributeValue) :
    ReturnsIn (fun after => Assigns (attributeName, .single attributeValue)
        managedObject.templateFields after.templateFields) managedObject
      (setSingleValuedAttribute attributeName attributeValue) := by
  unfold setSingleValuedAttribute
  split
  · apply ReturnsIn.fromExcept
    intro algorithm named
    cases attributeValue <;> cases named
    apply setField_returnsIn
    · exact fun stored => .algorithm (getattr_map_eq_ok stored)
    · exact fun old _ falsy => absurd falsy nofun
  · apply ReturnsIn.fromExcept
    intro length named
    cases attributeValue <;> cases named
    apply setField_returnsIn
    · intro stored
      have present := getattr_map_eq_ok stored
      have same : managedObject.templateFields =
          { managedObject.templateFields with
            cryptographicLength := some length } := by
        rw [← present]
        rfl
      nth_rewrite 2 [same]
      exact .length
    · intro old stored _
      rw [templateFields_setLength (getattr_map_eq_ok stored)]
      exact .length
  · apply ReturnsIn.fromExcept
    intro mask named
    cases attributeValue <;> cases named
    apply setField_returnsIn
    · intro stored
      have present := getattr_eq_ok stored
      have same : managedObject.templateFields =
          { managedObject.templateFields with
            cryptographicUsageMasks := some (masksOf mask) } := by
        rw [← present]
        rfl
      nth_rewrite 2 [same]
      exact .masks
    · intro old stored _
      rw [templateFields_setMasks (getattr_eq_ok stored)]
      exact .masks
  · apply ReturnsIn.fromExcept
    intro text named
    cases attributeValue <;> cases named
    apply setField_returnsIn
    · intro stored
      have same : managedObject.templateFields =
          { managedObject.templateFields with
            operationPolicyName := some text } := by
        rw [← Except.ok.inj stored]
        rfl
      nth_rewrite 2 [same]
      exact .policyName
    · exact fun _ _ _ => .policyName
  · apply ReturnsIn.fromExcept
    intro sensitive named
    cases attributeValue <;> cases named
    apply setField_returnsIn
    · intro stored
      have same : managedObject.templateFields =
          { managedObject.templateFields with sensitive := sensitive } := by
        rw [← Except.ok.inj stored]
        rfl
      nth_rewrite 2 [same]
      exact .sensitive
    · exact fun _ _ _ => .sensitive
  · exact .raise _

theorem setMultivaluedAttribute_assigns
    (attributeName : AttributeName) (values : List AttributeValue) :
    ReturnsIn (fun after => Assigns (attributeName, .multiple values)
        managedObject.templateFields after.templateFields) managedObject
      (setMultivaluedAttribute attributeName values) := by
  unfold setMultivaluedAttribute
  split
  · apply ReturnsIn.fromExcept
    intro names narrowed
    have same : values = names.map .name := by
      apply eq_map_of_mapM _ values narrowed
      rintro ⟨⟩ result isName <;> cases isName
      rfl
    have extended : ReturnsIn (fun after => Assigns (.name, .multiple values)
        managedObject.templateFields after.templateFields) managedObject
        (modify fun managedObject => { managedObject with
          names := managedObject.names ++ names.map Name.nameValue } : ObjectM _) :=
      .modify (.names same)
    exact .bind extended fun _ _ assigns => .get (.raiseIfLast fun _ => assigns)
  · apply ReturnsIn.fromExcept
    intro infos narrowed
    have same : values = infos.map .applicationSpecificInformation := by
      apply eq_map_of_mapM _ values narrowed
      rintro ⟨⟩ result isInfo <;> cases isInfo
      rfl
    exact .modify (.infos same)
  · apply ReturnsIn.fromExcept
    intro groups narrowed
    have same : values = groups.map .text := by
      apply eq_map_of_mapM _ values narrowed
      rintro ⟨⟩ result isText <;> cases isText
      rfl
    exact .modify (.groups same)
  · exact .raise _

theorem setApplicableAttribute_assigns (entry : AttributeName × TemplateValue) :
    ReturnsIn (fun after =>
        Assigns entry managedObject.templateFields after.templateFields ∧
        isAttributeApplicableToObjectType entry.1 managedObject.objectType =
          .ok true) managedObject
      (setApplicableAttribute entry) := by
  rcases entry with ⟨attributeName, attributeValue⟩
  unfold setApplicableAttribute setAttributeOnManagedObject
  apply ReturnsIn.get
  apply ReturnsIn.fromExcept
  intro applicable applies
  refine .ite (fun isApplicable => ?_) fun _ => .raise _
  rw [isApplicable] at applies
  apply ReturnsIn.fromExcept
  intro multivalued _
  apply ReturnsIn.ite
  · intro _
    apply ReturnsIn.fromExcept
    intro values isMultiple
    cases attributeValue <;> cases isMultiple
    exact fun result after ran =>
      ⟨setMultivaluedAttribute_assigns attributeName values result after ran,
        applies⟩
  · intro _
    apply ReturnsIn.fromExcept
    intro value isSingle
    cases attributeValue <;> cases isSingle
    exact fun result after ran =>
      ⟨setSingleValuedAttribute_assigns attributeName value result after ran,
        applies⟩

/-- Setting a dictionary assigns its entries, each of them to an object type
that it applies to. -/
theorem setAttributesOnManagedObject_assigns (attributes : ObjectAttributes) :
    ReturnsIn (fun after =>
        AssignsAll attributes managedObject.templateFields
          after.templateFields ∧
        ∀ entry ∈ attributes, isAttributeApplicableToObjectType entry.1
          managedObject.objectType = .ok true) managedObject
      (setAttributesOnManagedObject attributes) := by
  unfold setAttributesOnManagedObject
  induction attributes generalizing managedObject with
  | nil =>
      apply ReturnsIn.pure
      exact ⟨.nil, fun _ member => absurd member List.not_mem_nil⟩
  | cons entry rest ih =>
      intro result after ran
      obtain ⟨_, middle, first, later⟩ := bind_ok_iff.mp ran
      obtain ⟨assigns, applies⟩ :=
        setApplicableAttribute_assigns entry _ _ first
      have kept := setApplicableAttribute_preserves_origin entry managedObject
      rw [first] at kept
      have sameType : middle.objectType = managedObject.objectType :=
        congrArg ManagedObject.Origin.objectType kept
      obtain ⟨assignsRest, appliesRest⟩ := ih result after later
      rw [sameType] at appliesRest
      exact ⟨.cons assigns assignsRest,
        List.forall_mem_cons.mpr ⟨applies, appliesRest⟩⟩

end Setting

section Collecting

/-- The values of the instances of an attribute, in their order. -/
def valuesOf (attributeName : AttributeName) (entries : List Attribute) :
    List AttributeValue :=
  (entries.filter (·.attributeName = attributeName)).map Attribute.attributeValue

/-- The dictionary has one entry for each attribute that has been given, with
all values of a multivalued one. -/
structure Collects (entries : List Attribute) (attributes : ObjectAttributes) :
    Prop where
  distinct : (attributes.map Prod.fst).Nodup
  absent : ∀ attributeName, valuesOf attributeName entries = [] →
    attributes.get? attributeName = none
  several : ∀ attributeName, permitsSeveral attributeName = true →
    valuesOf attributeName entries ≠ [] →
    attributes.get? attributeName =
      some (.multiple (valuesOf attributeName entries))
  single : ∀ attributeName, permitsSeveral attributeName = false →
    valuesOf attributeName entries ≠ [] →
    ∃ value, valuesOf attributeName entries = [value] ∧
      attributes.get? attributeName = some (.single value)

theorem valuesOf_append_self (entries : List Attribute) (entry : Attribute) :
    valuesOf entry.attributeName (entries ++ [entry]) =
      valuesOf entry.attributeName entries ++ [entry.attributeValue] := by
  unfold valuesOf
  simp

theorem valuesOf_append_of_ne
    {attributeName : AttributeName} {entry : Attribute}
    (different : attributeName ≠ entry.attributeName)
    (entries : List Attribute) :
    valuesOf attributeName (entries ++ [entry]) =
      valuesOf attributeName entries := by
  unfold valuesOf
  simp [Ne.symm different]

theorem keys_update_nodup
    {attributes : ObjectAttributes} (distinct : (attributes.map Prod.fst).Nodup)
    (attributeName : AttributeName) (value : TemplateValue) :
    ((attributes.update attributeName value).map Prod.fst).Nodup := by
  unfold ObjectAttributes.update
  split
  · have same : (attributes.map fun entry =>
        if entry.1 = attributeName then (attributeName, value) else entry).map
          Prod.fst = attributes.map Prod.fst := by
      rw [List.map_map]
      apply List.map_congr_left
      intro entry _
      simp only [Function.comp]
      split
      · exact Eq.symm ‹_›
      · rfl
    rw [same]
    exact distinct
  · rename_i absent
    rw [List.map_append, List.map_cons, List.map_nil]
    apply List.Nodup.append distinct (List.nodup_singleton _)
    intro taken member isNew
    rw [List.mem_singleton] at isNew
    subst isNew
    exact absent (List.contains_iff_mem.mpr member)

variable {version : ProtocolVersion} {entries : List Attribute}
  {attributes after : ObjectAttributes} {entry : Attribute}

theorem processTemplateEntry_eq_update
    (processed : processTemplateEntry version attributes entry = .ok after) :
    isAttributeSupported version entry.attributeName = true ∧
    ∃ value, after = attributes.update entry.attributeName value ∧
      (permitsSeveral entry.attributeName = true ∧
          (∃ values, (attributes.get? entry.attributeName).elim (.ok [])
              TemplateValue.asMultiple = .ok values ∧
            value = .multiple (values ++ [entry.attributeValue])) ∨
        permitsSeveral entry.attributeName = false ∧
          attributes.get? entry.attributeName = none ∧
          value = .single entry.attributeValue) := by
  rw [processTemplateEntry_eq] at processed
  by_cases supported :
      isAttributeSupported version entry.attributeName = true
  · rw [if_neg (by simp [supported])] at processed
    refine ⟨supported, ?_⟩
    by_cases several : permitsSeveral entry.attributeName = true
    · rw [if_pos several] at processed
      obtain ⟨values, collected, processed⟩ := except_bind_ok_iff.mp processed
      split at processed
      · cases processed
      · cases processed
        exact ⟨_, rfl, .inl ⟨several, values, collected, rfl⟩⟩
    · rw [if_neg several] at processed
      split at processed
      · cases processed
      · split at processed
        · cases processed
        · rename_i unset
          cases processed
          refine ⟨_, rfl, .inr ⟨Bool.not_eq_true _ ▸ several, ?_, rfl⟩⟩
          simpa using unset
  · rw [if_pos (by simpa using supported)] at processed
    cases processed

theorem Collects.step
    (collects : Collects entries attributes)
    (processed : processTemplateEntry version attributes entry = .ok after) :
    Collects (entries ++ [entry]) after := by
  have keeps : ∀ {other : AttributeName}, other ≠ entry.attributeName →
      after.get? other = attributes.get? other :=
    processTemplateEntry_keeps processed
  obtain ⟨_, value, rfl, sets⟩ := processTemplateEntry_eq_update processed
  have recorded := attributes.get?_update_self entry.attributeName value
  constructor
  · exact keys_update_nodup collects.distinct _ _
  · intro attributeName none
    by_cases same : attributeName = entry.attributeName
    · subst same
      rw [valuesOf_append_self] at none
      simp at none
    · rw [valuesOf_append_of_ne same] at none
      rw [keeps same]
      exact collects.absent attributeName none
  · intro attributeName isSeveral some
    by_cases same : attributeName = entry.attributeName
    · subst same
      rcases sets with ⟨_, values, collected, rfl⟩ | ⟨alone, _⟩
      · have before : values = valuesOf entry.attributeName entries := by
          by_cases given : valuesOf entry.attributeName entries = []
          · rw [collects.absent _ given] at collected
            cases collected
            exact given.symm
          · rw [collects.several _ isSeveral given] at collected
            cases collected
            rfl
        rw [recorded, valuesOf_append_self, before]
      · rw [alone] at isSeveral
        cases isSeveral
    · rw [valuesOf_append_of_ne same] at some ⊢
      rw [keeps same]
      exact collects.several attributeName isSeveral some
  · intro attributeName isSingle some
    by_cases same : attributeName = entry.attributeName
    · subst same
      rcases sets with ⟨many, _⟩ | ⟨_, unset, rfl⟩
      · rw [many] at isSingle
        cases isSingle
      · have before : valuesOf entry.attributeName entries = [] := by
          by_contra given
          obtain ⟨old, _, set⟩ := collects.single _ isSingle given
          rw [unset] at set
          cases set
        rw [valuesOf_append_self, before]
        exact ⟨_, rfl, recorded⟩
    · rw [valuesOf_append_of_ne same] at some ⊢
      rw [keeps same]
      exact collects.single attributeName isSingle some

/-- A template is processed into the dictionary of its attributes, all of which
the version supports. -/
theorem collects_of_processed
    (processed : processTemplateAttribute version { attributes := entries } =
      .ok attributes) :
    Collects entries attributes ∧ ∀ entry ∈ entries,
      isAttributeSupported version entry.attributeName = true := by
  rw [processTemplateAttribute_entries] at processed
  have start : Collects [] [] := by
    constructor
    · exact List.nodup_nil
    · exact fun _ _ => rfl
    · exact fun _ _ given => absurd rfl given
    · exact fun _ _ given => absurd rfl given
  suffices general : ∀ prior between, Collects prior between →
      entries.foldlM (processTemplateEntry version) between = .ok attributes →
      Collects (prior ++ entries) attributes ∧ ∀ entry ∈ entries,
        isAttributeSupported version entry.attributeName = true from
    general [] [] start processed
  clear processed
  induction entries with
  | nil =>
      intro prior between collects processed
      cases processed
      rw [List.append_nil]
      exact ⟨collects, fun _ member => absurd member List.not_mem_nil⟩
  | cons entry rest ih =>
      intro prior between collects processed
      rw [List.foldlM_cons] at processed
      obtain ⟨next, first, later⟩ := except_bind_ok_iff.mp processed
      obtain ⟨collectsAll, supported⟩ := ih _ next (collects.step first) later
      rw [List.append_assoc] at collectsAll
      exact ⟨collectsAll, List.forall_mem_cons.mpr
        ⟨(processTemplateEntry_eq_update first).1, supported⟩⟩

end Collecting

section Reporting

/-- The value that is read back for a given one.  An object stores the values of
its names and the members of its usage mask. -/
def reportedValue : AttributeName → AttributeValue → AttributeValue
  | _, .name name => .name (storedName name)
  | .cryptographicUsageMask, .integer mask =>
      .integer (combinedMask (masksOf mask))
  | _, value => value

/-- All instances of an attribute in the given order, numbered from zero if
several are permitted. -/
def instancesOf (attributeName : AttributeName) (entries : List Attribute) :
    List Attribute :=
  if permitsSeveral attributeName then
    (valuesOf attributeName entries).zipIdx.map fun (value, index) =>
      { attributeName := attributeName
        attributeIndex := some index
        attributeValue := value }
  else
    (valuesOf attributeName entries).map fun value =>
      { attributeName := attributeName
        attributeValue := value }

def Attribute.readBack (entry : Attribute) : Attribute :=
  { entry with
    attributeValue := reportedValue entry.attributeName entry.attributeValue }

variable {attributeName : AttributeName}

theorem createAttributes_several
    {values : List AttributeValue} {value : ObjectAttribute}
    (reads : ReadsBack (attributeName, .multiple values) value) :
    AttributeFactory.createAttributes attributeName true value =
      values.zipIdx.map fun (value, index) =>
        { attributeName := attributeName
          attributeIndex := some index
          attributeValue := reportedValue attributeName value } := by
  unfold AttributeFactory.createAttributes
  rw [if_pos rfl]
  cases reads with
  | names names =>
      simp only [AttributeFactory.instances, List.map_map, List.zipIdx_map]
      rfl
  | infos infos =>
      simp only [AttributeFactory.instances, List.map_map, List.zipIdx_map]
      rfl
  | groups groups =>
      simp only [AttributeFactory.instances, List.map_map, List.zipIdx_map]
      rfl

theorem createAttributes_single
    {given : AttributeValue} {value : ObjectAttribute}
    (reads : ReadsBack (attributeName, .single given) value) :
    AttributeFactory.createAttributes attributeName false value =
      [{ attributeName := attributeName
         attributeValue := reportedValue attributeName given }] := by
  cases reads <;> rfl

theorem createAttributes_name
    (attributeName : AttributeName) (multivalued : Bool)
    (value : ObjectAttribute) :
    ∀ entry ∈ AttributeFactory.createAttributes attributeName multivalued value,
      entry.attributeName = attributeName := by
  intro entry member
  unfold AttributeFactory.createAttributes at member
  split at member
  · obtain ⟨_, _, rfl⟩ := List.mem_map.mp member
    rfl
  · obtain ⟨_, _, rfl⟩ := List.mem_map.mp member
    rfl

theorem isAttributeDeprecated_of_supported
    {version : ProtocolVersion}
    (supported : isAttributeSupported version attributeName = true) :
    ∃ deprecated, isAttributeDeprecated version attributeName =
      .ok deprecated := by
  unfold isAttributeSupported at supported
  unfold isAttributeDeprecated ruleSetOf
  cases found : attributeRuleSet attributeName with
  | none =>
      rw [found] at supported
      cases supported
  | some ruleSet =>
      cases limit : ruleSet.versionDeprecated with
      | none => exact ⟨false, by simp [bind, Except.bind, limit]; rfl⟩
      | some version' =>
          exact ⟨decide (version' ≤ version),
            by simp [bind, Except.bind, limit]; rfl⟩

theorem isAttributeApplicable_of_supported
    {version : ProtocolVersion} (objectType : ObjectType)
    (supported : isAttributeSupported version attributeName = true) :
    ∃ applicable, isAttributeApplicableToObjectType attributeName objectType =
      .ok applicable := by
  unfold isAttributeSupported at supported
  unfold isAttributeApplicableToObjectType ruleSetOf
  cases found : attributeRuleSet attributeName with
  | none =>
      rw [found] at supported
      cases supported
  | some ruleSet => exact ⟨_, rfl⟩

variable {version : ProtocolVersion} {storedObject : StoredObject}

/-- Retrieving one attribute never fails, and answers with instances of it. -/
theorem retrievedAttributes_total
    (version : ProtocolVersion) (storedObject : StoredObject)
    (attributeName : AttributeName) :
    ∃ entries, retrievedAttributes version storedObject attributeName =
        .ok entries ∧
      ∀ entry ∈ entries, entry.attributeName = attributeName := by
  have empty : ∀ entry ∈ ([] : List Attribute),
      entry.attributeName = attributeName :=
    fun _ member => absurd member List.not_mem_nil
  unfold retrievedAttributes
  by_cases supported : isAttributeSupported version attributeName = false
  · rw [if_pos supported]
    exact ⟨[], rfl, empty⟩
  · rw [if_neg supported]
    rw [Bool.not_eq_false] at supported
    obtain ⟨deprecated, isDeprecated⟩ :=
      isAttributeDeprecated_of_supported supported
    obtain ⟨applicable, applies⟩ := isAttributeApplicable_of_supported
      storedObject.managedObject.objectType supported
    rw [isDeprecated, applies,
      isAttributeMultivalued_of_supported supported]
    cases deprecated with
    | true => exact ⟨[], rfl, empty⟩
    | false =>
        cases applicable with
        | false => exact ⟨[], rfl, empty⟩
        | true =>
            cases getAttributeFromManagedObject storedObject attributeName with
            | error exception => exact ⟨[], rfl, empty⟩
            | ok value =>
                cases value with
                | none => exact ⟨[], rfl, empty⟩
                | some value =>
                    exact ⟨_, rfl, createAttributes_name _ _ value⟩

theorem retrievedAttributes_of_read
    {value : ObjectAttribute}
    (supported : isAttributeSupported version attributeName = true)
    (current : isAttributeDeprecated version attributeName = .ok false)
    (applies : isAttributeApplicableToObjectType attributeName
      storedObject.managedObject.objectType = .ok true)
    (isRead : storedObject.managedObject.templateFields.read attributeName =
      some value) :
    retrievedAttributes version storedObject attributeName =
      .ok (AttributeFactory.createAttributes attributeName
        (permitsSeveral attributeName) value) := by
  unfold retrievedAttributes
  rw [if_neg (by simp [supported]), current, applies,
    isAttributeMultivalued_of_supported supported, getAttribute_of_read isRead]
  rfl

theorem mapM_eq_ok_map
    {narrow : α → Except PyError β} {result : α → β}
    (total : ∀ value, narrow value = .ok (result value)) (values : List α) :
    values.mapM narrow = .ok (values.map result) := by
  induction values with
  | nil => rfl
  | cons value rest ih =>
      rw [List.mapM_cons, total, ih]
      rfl

theorem filter_flatten_of_nodup
    {listed : AttributeName → List Attribute}
    (named : ∀ attributeName, ∀ entry ∈ listed attributeName,
      entry.attributeName = attributeName)
    {names : List AttributeName} (distinct : names.Nodup)
    (member : attributeName ∈ names) :
    (names.map listed).flatten.filter (·.attributeName = attributeName) =
      listed attributeName := by
  have whole : (listed attributeName).filter
      (·.attributeName = attributeName) = listed attributeName :=
    List.filter_eq_self.mpr fun entry inside =>
      decide_eq_true (named _ entry inside)
  have others : ∀ other : AttributeName, other ≠ attributeName →
      (listed other).filter (·.attributeName = attributeName) = [] := by
    intro other different
    apply List.filter_eq_nil_iff.mpr
    intro entry inside same
    exact different ((named other entry inside).symm.trans
      (of_decide_eq_true same))
  induction names with
  | nil => cases member
  | cons first rest ih =>
      rw [List.nodup_cons] at distinct
      rw [List.map_cons, List.flatten_cons, List.filter_append]
      rcases List.mem_cons.mp member with rfl | later
      · have none : (rest.map listed).flatten.filter
            (·.attributeName = attributeName) = [] := by
          apply List.filter_eq_nil_iff.mpr
          intro entry inside same
          obtain ⟨list, isListed, inside⟩ := List.mem_flatten.mp inside
          obtain ⟨other, isOther, rfl⟩ := List.mem_map.mp isListed
          apply distinct.1
          rw [← of_decide_eq_true same, named other entry inside]
          exact isOther
        rw [whole, none, List.append_nil]
      · have different : first ≠ attributeName := by
          rintro rfl
          exact distinct.1 later
        rw [others first different, List.nil_append, ih distinct.2 later]

/-- What GetAttributes without a list of names answers about one attribute. -/
theorem getAttributes_filter
    (version : ProtocolVersion) (storedObject : StoredObject) :
    ∃ answered, getAttributesFromManagedObject version storedObject [] =
        .ok answered ∧
      ∀ attributeName ∈ getAllAttributeNames,
        retrievedAttributes version storedObject attributeName =
          .ok (answered.filter (·.attributeName = attributeName)) := by
  choose listed retrieved named using
    retrievedAttributes_total version storedObject
  refine ⟨(getAllAttributeNames.map listed).flatten, ?_, ?_⟩
  · unfold getAttributesFromManagedObject
    rw [if_pos rfl]
    simp only
    rw [mapM_eq_ok_map retrieved]
    rfl
  · intro attributeName member
    rw [filter_flatten_of_nodup named (by decide) member]
    exact retrieved attributeName

end Reporting

section Storing

/-- A new object on which no template has been set. -/
structure ManagedObject.Bare (managedObject : ManagedObject) : Prop where
  appSpecificInfo : managedObject.appSpecificInfo = []
  objectGroups : managedObject.objectGroups = []

theorem newSymmetricKey_bare
    {algorithm : CryptographicAlgorithm} {length : Int} {value : Bytes}
    {wrapping : KeyWrappingColumns} {managedObject : ManagedObject}
    (built : newSymmetricKey algorithm length value wrapping =
      .ok managedObject) : managedObject.Bare := by
  unfold newSymmetricKey at built
  split at built
  · cases built
  · cases built
    exact ⟨rfl, rfl⟩

theorem newPublicKey_bare
    {algorithm : CryptographicAlgorithm} {length : Int} {value : Bytes}
    {format : KeyFormatType} {wrapping : KeyWrappingColumns}
    {managedObject : ManagedObject}
    (built : newPublicKey algorithm length value format wrapping =
      .ok managedObject) : managedObject.Bare := by
  unfold newPublicKey at built
  split at built
  · cases built
    exact ⟨rfl, rfl⟩
  · cases built

theorem newPrivateKey_bare
    {algorithm : CryptographicAlgorithm} {length : Int} {value : Bytes}
    {format : KeyFormatType} {wrapping : KeyWrappingColumns}
    {managedObject : ManagedObject}
    (built : newPrivateKey algorithm length value format wrapping =
      .ok managedObject) : managedObject.Bare := by
  unfold newPrivateKey at built
  split at built
  · cases built
    exact ⟨rfl, rfl⟩
  · cases built

theorem convert_bare
    {secret : CoreSecret} {managedObject : ManagedObject}
    (built : convert secret = .ok managedObject) : managedObject.Bare := by
  cases secret with
  | symmetricKey keyBlock =>
      obtain ⟨fields, _, built⟩ := except_bind_ok_iff.mp built
      obtain ⟨key, constructed, built⟩ := except_bind_ok_iff.mp built
      split at built
      · cases built
        exact newSymmetricKey_bare constructed
      · cases built
  | publicKey keyBlock =>
      obtain ⟨fields, _, built⟩ := except_bind_ok_iff.mp built
      exact newPublicKey_bare built
  | privateKey keyBlock =>
      obtain ⟨fields, _, built⟩ := except_bind_ok_iff.mp built
      exact newPrivateKey_bare built
  | splitKey fields keyBlock =>
      obtain ⟨blockFields, _, built⟩ := except_bind_ok_iff.mp built
      cases built
      exact ⟨rfl, rfl⟩
  | certificate certificateType certificateValue =>
      by_cases typed : certificateType = .x509
      · rw [convert, if_pos typed] at built
        cases built
        exact ⟨rfl, rfl⟩
      · rw [convert, if_neg typed] at built
        cases built
  | secretData | opaqueObject =>
      cases built
      exact ⟨rfl, rfl⟩
  | template => cases built

theorem derivedObject_bare
    {objectType : ObjectType} {algorithm : Option CryptographicAlgorithm}
    {length : Int} {value : Bytes} {attributes remaining : ObjectAttributes}
    {derived : ManagedObject}
    (built : derivedObject objectType algorithm length value attributes =
      .ok (derived, remaining)) : derived.Bare := by
  unfold derivedObject at built
  split at built
  · obtain ⟨present, _, built⟩ := except_bind_ok_iff.mp built
    obtain ⟨symmetricKey, constructed, returned⟩ := except_bind_ok_iff.mp built
    cases returned
    exact newSymmetricKey_bare constructed
  · cases built
    exact ⟨rfl, rfl⟩

theorem ManagedObject.Bare.unset
    {managedObject : ManagedObject} (bare : managedObject.Bare)
    (attributeName : AttributeName) :
    ({ managedObject with names := [] } :
      ManagedObject).templateFields.Unset attributeName := by
  intro several value isRead
  cases attributeName with
  | name =>
      cases isRead
      rfl
  | applicationSpecificInformation =>
      cases isRead
      simp [AttributeFactory.instances, templateFields, bare.appSpecificInfo]
  | objectGroup =>
      cases isRead
      simp [AttributeFactory.instances, templateFields, bare.objectGroups]
  | cryptographicAlgorithm | cryptographicLength | cryptographicUsageMask
  | operationPolicyName | sensitive => cases several
  | _ => cases isRead

theorem mem_getAllAttributeNames
    {version : ProtocolVersion} {attributeName : AttributeName}
    (supported : isAttributeSupported version attributeName = true) :
    attributeName ∈ getAllAttributeNames := by
  cases attributeName with
  | other text unlisted => cases supported
  | _ => decide

theorem read_withColumnDefaults
    {managedObject : ManagedObject} {attributeName : AttributeName}
    {value : ObjectAttribute}
    (isRead : managedObject.templateFields.read attributeName = some value) :
    (DataStore.withColumnDefaults managedObject).templateFields.read
      attributeName = some value := by
  cases attributeName with
  | operationPolicyName =>
      obtain ⟨text, stored, rfl⟩ := Option.map_eq_some_iff.mp isRead
      have present : managedObject.operationPolicyName = some text := stored
      simp [DataStore.withColumnDefaults, ManagedObject.templateFields,
        TemplateFields.read, present]
  | _ => exact isRead

theorem mem_of_get?
    {attributes : ObjectAttributes} {attributeName : AttributeName}
    {value : TemplateValue}
    (found : attributes.get? attributeName = some value) :
    (attributeName, value) ∈ attributes := by
  unfold ObjectAttributes.get? at found
  induction attributes with
  | nil => cases found
  | cons entry rest ih =>
      obtain ⟨key, stored⟩ := entry
      rw [List.lookup_cons] at found
      by_cases same : attributeName = key
      · rw [same, beq_self_eq_true] at found
        cases found
        rw [same]
        exact List.mem_cons_self
      · rw [beq_false_of_ne same] at found
        exact List.mem_cons_of_mem _ (ih found)

variable {world : World} {clientIdentity : ClientIdentity}
  {version : ProtocolVersion} {entries : List Attribute}
  {attributes remaining : ObjectAttributes} {base completed : ManagedObject}
  {attributeName : AttributeName} {key : Nat}

/-- The instances of an attribute that has been set are read back from the
row. -/
theorem retrieved_of_completed
    (processed : processTemplateAttribute version { attributes := entries } =
      .ok attributes)
    (distinct : (remaining.map Prod.fst).Nodup)
    (stays : ∀ value, (attributeName, value) ∈ attributes →
      (attributeName, value) ∈ remaining)
    (bare : base.Bare)
    (completes : completeObject world clientIdentity remaining base =
      .ok completed)
    (given : attributeName ∈ entries.map Attribute.attributeName)
    (current : isAttributeDeprecated version attributeName = .ok false) :
    retrievedAttributes version ⟨key, DataStore.withColumnDefaults completed⟩
        attributeName =
      .ok ((instancesOf attributeName entries).map Attribute.readBack) := by
  obtain ⟨collects, supports⟩ := collects_of_processed processed
  obtain ⟨entry, listed, rfl⟩ := List.mem_map.mp given
  have supported := supports entry listed
  have nonempty : valuesOf entry.attributeName entries ≠ [] := by
    intro empty
    have absent := List.filter_eq_nil_iff.mp (List.map_eq_nil_iff.mp empty)
    exact absent entry listed (decide_eq_true rfl)
  have origin := completeObject_origin completes
  unfold completeObject onNewObject at completes
  split at completes
  · rename_i changed setAll
    cases completes
    obtain ⟨assigns, applies⟩ :=
      setAttributesOnManagedObject_assigns remaining _ _ setAll
    have readBack : ∀ value, attributes.get? entry.attributeName = some value →
        ∃ read, ReadsBack (entry.attributeName, value) read ∧
          retrievedAttributes version
              ⟨key, DataStore.withColumnDefaults
                { changed with
                  owner := clientIdentity.user
                  initialDate := world.now }⟩ entry.attributeName =
            .ok (AttributeFactory.createAttributes entry.attributeName
              (permitsSeveral entry.attributeName) read) := by
      intro value found
      have member := stays value (mem_of_get? found)
      obtain ⟨read, isRead, reads⟩ := assigns.readsBack distinct
        (fun other _ => bare.unset other.1) _ member
      refine ⟨read, reads, retrievedAttributes_of_read supported current ?_
        (read_withColumnDefaults isRead)⟩
      have sameType := congrArg ManagedObject.Origin.objectType origin
      change changed.objectType = base.objectType at sameType
      show isAttributeApplicableToObjectType _ changed.objectType = _
      rw [sameType]
      exact applies _ member
    unfold instancesOf
    cases several : permitsSeveral entry.attributeName with
    | true =>
        obtain ⟨read, reads, retrieved⟩ :=
          readBack _ (collects.several _ several nonempty)
        rw [retrieved, several, createAttributes_several reads, if_pos rfl,
          List.map_map]
        rfl
    | false =>
        obtain ⟨value, alone, found⟩ := collects.single _ several nonempty
        obtain ⟨read, reads, retrieved⟩ := readBack _ found
        rw [retrieved, several, createAttributes_single reads, alone]
        rfl
  · cases completes

end Storing

section Creating

/-- The attributes that the payload of a creating operation gives. -/
def RequestPayload.givenAttributes : RequestPayload → List Attribute
  | .create payload =>
      (payload.templateAttribute.map TemplateAttribute.attributes).getD []
  | .register payload =>
      (payload.templateAttribute.map TemplateAttribute.attributes).getD []
  | .deriveKey payload =>
      (payload.templateAttribute.map TemplateAttribute.attributes).getD []
  | _ => []

/-- The length of derived secret data is cut to size and not stored. -/
def RequestPayload.Drops (attributeName : AttributeName) :
    RequestPayload → Prop
  | .deriveKey payload =>
      payload.objectType ≠ .symmetricKey ∧
        attributeName = .cryptographicLength
  | _ => False

theorem processed_of_optional
    {version : ProtocolVersion} {template : Option TemplateAttribute}
    {attributes : ObjectAttributes}
    (processed : processOptionalTemplate version template = .ok attributes) :
    processTemplateAttribute version
      { attributes := (template.map TemplateAttribute.attributes).getD [] } =
        .ok attributes := by
  cases template with
  | none => exact processed
  | some template =>
      have whole : processTemplateAttribute version template = .ok attributes :=
        processed
      unfold processTemplateAttribute at whole
      split at whole
      · cases whole
      · exact whole

/-- What remains of the dictionary for a derived object. -/
theorem derivedObject_remaining
    {payload : DeriveKeyRequestPayload}
    {algorithm : Option CryptographicAlgorithm} {length : Int} {value : Bytes}
    {attributes remaining : ObjectAttributes} {derived : ManagedObject}
    (built : derivedObject payload.objectType algorithm length value attributes =
      .ok (derived, remaining)) :
    ((attributes.map Prod.fst).Nodup → (remaining.map Prod.fst).Nodup) ∧
    ∀ attributeName value,
      ¬RequestPayload.Drops attributeName (.deriveKey payload) →
      (attributeName, value) ∈ attributes →
      (attributeName, value) ∈ remaining := by
  unfold derivedObject at built
  by_cases symmetric : payload.objectType = .symmetricKey
  · rw [if_pos symmetric] at built
    obtain ⟨present, _, built⟩ := except_bind_ok_iff.mp built
    obtain ⟨symmetricKey, _, returned⟩ := except_bind_ok_iff.mp built
    cases returned
    exact ⟨id, fun _ _ _ => id⟩
  · rw [if_neg symmetric] at built
    cases built
    constructor
    · intro distinct
      exact distinct.sublist (List.filter_sublist.map _)
    · intro attributeName value kept member
      refine List.mem_filter.mpr ⟨member, decide_eq_true ?_⟩
      exact fun isLength => kept ⟨symmetric, isLength⟩

/-- The row that a creating item adds reports the attributes that it gave. -/
structure AddsReported (execution : Execution) (response : ResponsePayload) :
    Prop where
  identifies : response.producedIdentifier =
    some (toString execution.rowsBefore.next)
  active : execution.after.dataStore.active = true
  reports : ∃ managedObject,
    execution.rowsAfter.lookup execution.rowsBefore.next =
      some managedObject ∧
    ∀ attributeName ∈
        execution.payload.givenAttributes.map Attribute.attributeName,
      isAttributeDeprecated execution.before.protocolVersion attributeName =
        .ok false →
      ¬execution.payload.Drops attributeName →
      retrievedAttributes execution.before.protocolVersion
          ⟨execution.rowsBefore.next, managedObject⟩ attributeName =
        .ok ((instancesOf attributeName
          execution.payload.givenAttributes).map Attribute.readBack)

variable {execution : Execution} {response : ResponsePayload}

theorem addsReported_of_flush
    (clean : execution.before.Clean) {state : EngineState}
    {attributes remaining : ObjectAttributes} {base completed : ManagedObject}
    {reply : ResponsePayload}
    (identifies : reply.producedIdentifier =
      some (toString execution.before.dataStore.session.next))
    (processed : processTemplateAttribute execution.before.protocolVersion
      { attributes := execution.payload.givenAttributes } = .ok attributes)
    (distinct : (attributes.map Prod.fst).Nodup →
      (remaining.map Prod.fst).Nodup)
    (stays : ∀ attributeName value, ¬execution.payload.Drops attributeName →
      (attributeName, value) ∈ attributes →
      (attributeName, value) ∈ remaining)
    (bare : base.Bare)
    (completes : completeObject execution.world
      execution.before.context.clientIdentity remaining base = .ok completed)
    (flushes : state.flush (execution.before.dataStore.add completed)
      (some (toString execution.before.dataStore.session.next)) reply =
        .ok response execution.after) :
    AddsReported execution response := by
  obtain ⟨rfl, commits, _⟩ := flush_eq_ok flushes
  have session : execution.before.dataStore.session = execution.rowsBefore :=
    clean
  constructor
  · rw [identifies, session]
  · exact commits.active
  · refine ⟨DataStore.withColumnDefaults completed, ?_, ?_⟩
    · unfold Execution.rowsAfter
      rw [commits.committed]
      show (execution.before.dataStore.session.insert _).lookup _ = _
      rw [session]
      exact Table.lookup_insert_next _ _
    · intro attributeName given current kept
      exact retrieved_of_completed processed
        (distinct (collects_of_processed processed).1.distinct)
        (fun value => stays attributeName value kept) bare completes given
        current

theorem addsReported_of_succeeded
    (clean : execution.before.Clean)
    (creates : execution.payload.operation ∈
      [Operation.create, .register, .deriveKey])
    (outcome : execution.outcome = .ok response) :
    AddsReported execution response := by
  have ran := Execution.result_of_outcome_ok outcome
  unfold Execution.result at ran
  rw [processOperation_follows] at ran
  cases payload_eq : execution.payload with
  | create payload =>
      rw [payload_eq] at ran
      obtain ⟨_, ran⟩ := Plan.run_refuseIf_ok (Plan.run_supportedSince_ok ran)
      obtain ⟨attributes, processed, ran⟩ := Plan.run_ofExcept_ok ran
      obtain ⟨required, _, ran⟩ := Plan.run_ofExcept_ok ran
      obtain ⟨value, _, ran⟩ := Plan.run_ofExcept_ok ran
      obtain ⟨symmetricKey, _, ran⟩ := Plan.run_ofExcept_ok ran
      have bare := newSymmetricKey_bare symmetricKey.2
      split at ran
      · rw [Plan.run] at ran
        unfold SecretCreation.run at ran
        split at ran
        · cases ran
        · simp only at ran
          split at ran
          · cases ran
          · rename_i secretRef _ _ completed built
            have completes : completeObject execution.world
                execution.before.context.clientIdentity attributes
                { symmetricKey.1 with value := encodeUtf8 secretRef } =
                  .ok completed := built
            have refers : ManagedObject.Bare
                { symmetricKey.1 with value := encodeUtf8 secretRef } :=
              ⟨bare.1, bare.2⟩
            exact addsReported_of_flush clean (by rfl)
              (by rw [payload_eq]; exact processed_of_optional processed)
              id (fun _ _ _ => id) refers completes ran
      · obtain ⟨completed, _, ran⟩ := Plan.run_ofExcept_ok ran
        exact addsReported_of_flush clean rfl
          (by rw [payload_eq]; exact processed_of_optional processed)
          id (fun _ _ _ => id) bare completed.2 ran
  | register payload =>
      rw [payload_eq] at ran
      obtain ⟨_, ran⟩ := Plan.run_refuseIf_ok (Plan.run_supportedSince_ok ran)
      obtain ⟨_, _, ran⟩ := Plan.run_ofExcept_ok ran
      obtain ⟨attributes, processed, ran⟩ := Plan.run_ofExcept_ok ran
      obtain ⟨converted, _, ran⟩ := Plan.run_ofExcept_ok ran
      obtain ⟨completed, _, ran⟩ := Plan.run_ofExcept_ok ran
      exact addsReported_of_flush clean rfl
        (by rw [payload_eq]; exact processed_of_optional processed)
        id (fun _ _ _ => id) (convert_bare converted.2) completed.2 ran
  | deriveKey payload =>
      rw [payload_eq] at ran
      obtain ⟨attributes, processed, ran⟩ :=
        Plan.run_ofExcept_ok (Plan.run_supportedSince_ok ran)
      obtain ⟨_, ran⟩ := Plan.run_refuseIf_ok ran
      obtain ⟨_, ran⟩ := Plan.run_refuseIf_ok ran
      obtain ⟨_, _, ran⟩ := planSources_ok _ ran
      obtain ⟨_, _, ran⟩ := Plan.run_ofExcept_ok ran
      obtain ⟨_, _, ran⟩ := Plan.run_ofExcept_ok ran
      obtain ⟨_, _, ran⟩ := Plan.run_ofExcept_ok ran
      obtain ⟨_, _, ran⟩ := Plan.run_ofExcept_ok ran
      obtain ⟨derived, _, ran⟩ := Plan.run_ofExcept_ok ran
      obtain ⟨completed, _, ran⟩ := Plan.run_ofExcept_ok ran
      obtain ⟨⟨base, remaining⟩, built⟩ := derived
      have leaves := derivedObject_remaining built
      exact addsReported_of_flush clean rfl
        (by rw [payload_eq]; exact processed_of_optional processed)
        leaves.1 (by rw [payload_eq]; exact leaves.2)
        (derivedObject_bare built) completed.2 ran
  | unsupported operation undispatched =>
      rw [payload_eq] at creates
      change operation ∈ _ at creates
      apply absurd _ undispatched
      revert creates
      cases operation <;> decide
  | _ =>
      rw [payload_eq] at creates
      simp [RequestPayload.operation] at creates

end Creating

section Following

/-- The executions of a request follow one another without a gap. -/
theorem Exchange.linked_states (exchange : Exchange) (state : EngineState) :
    ∃ final, Linked Execution.before Execution.after (exchange.entering state)
      (exchange.executions state) final := by
  unfold executions
  split
  · rename_i handling _
    obtain ⟨final, linked, _⟩ := @run_processItems exchange.world.items
      exchange.several handling 0 exchange.items (exchange.entering state)
    exact ⟨final, linked⟩
  · exact ⟨_, rfl⟩

/-- The first item of a history runs in a new session. -/
theorem active_of_history_cons
    {start : EngineState} {exchanges : List Exchange} {next : Execution}
    {later : List Execution} (divides : history start exchanges = next :: later) :
    next.before.dataStore.active = true := by
  induction exchanges generalizing start with
  | nil => cases divides
  | cons exchange rest ih =>
      obtain ⟨final, linked⟩ := exchange.linked_states start
      rw [history] at divides
      cases executed : exchange.executions start with
      | nil =>
          rw [executed] at divides
          exact ih divides
      | cons first others =>
          rw [executed] at divides linked
          cases divides
          rw [linked.1]
          rfl

/-- The session is active in the item after one that has left it so. -/
theorem active_of_next
    {start : EngineState} {exchanges : List Exchange}
    {prior later : List Execution} {execution next : Execution}
    (divides : history start exchanges = prior ++ execution :: next :: later)
    (active : execution.after.dataStore.active = true) :
    next.before.dataStore.active = true := by
  induction exchanges generalizing start prior with
  | nil =>
      have empty := congrArg List.length divides
      simp [history] at empty
  | cons exchange rest ih =>
      obtain ⟨final, linked⟩ := exchange.linked_states start
      rw [history, List.append_cons] at divides
      rcases List.append_eq_append_iff.mp divides with
        ⟨middle, isPrior, isRest⟩ | ⟨middle, isHere, isRest⟩
      · rcases List.eq_nil_or_concat middle with rfl | ⟨others, last, rfl⟩
        · exact active_of_history_cons isRest
        · rw [List.concat_eq_append, ← List.append_assoc] at isPrior
          obtain ⟨_, same⟩ := List.append_inj' isPrior rfl
          cases same
          rw [List.concat_eq_append, List.append_assoc] at isRest
          exact ih isRest
      · cases middle with
        | nil =>
            rw [List.nil_append] at isRest
            exact active_of_history_cons isRest.symm
        | cons following others =>
            cases isRest
            rw [isHere, List.append_assoc] at linked
            have entered := linked.at.2.1
            rw [entered]
            exact active

variable {next : Execution} {request : GetAttributesRequestPayload}
  {stored : StoredObject}

/-- How a permitted GetAttributes without a list of names answers. -/
theorem outcome_getAttributes
    (asks : next.payload = .getAttributes request)
    (all : request.attributeNames = [])
    (listed : ⟨1, 0⟩ ≤ next.before.protocolVersion)
    (active : next.before.dataStore.active = true)
    (found : next.finds next.target = some stored)
    (permitted : next.Permits stored.managedObject)
    {answered : List Attribute}
    (answers : getAttributesFromManagedObject next.before.protocolVersion stored
      [] = .ok answered) :
    next.outcome = .ok (.getAttributes next.target answered) := by
  have target : next.before.context.payloadOrPlaceholder
      request.uniqueIdentifier = next.target := by
    unfold Execution.target
    rw [asks]
    rfl
  have located : findObject next.world next.before next.target = some stored :=
    found
  have permits : isPermitted next.world next.before.clientIdentity
      .getAttributes stored.managedObject = true := by
    unfold Execution.Permits at permitted
    rwa [asks] at permitted
  have loads : access next.world next.before next.target .getAttributes =
      .ok stored := by
    unfold access
    rw [if_neg (by simp [active]), located]
    simp [loadedCopy, bind, Except.bind, permits, pure, Except.pure]
  have version : next.before.context.protocolVersion =
      next.before.protocolVersion := rfl
  unfold Execution.outcome Execution.result
  rw [asks, processOperation_follows]
  simp only [plan, planGetAttributes, Plan.supportedSince, Plan.refuseIf,
    version, listed, not_true, if_false, target, Plan.run,
    RequestPayload.accessCode, RequestPayload.operation, loads, all, answers,
    Plan.ofExcept]
  rfl

end Following

section Claims

/-- The situation of a GetAttributes right after an item that creates an object:
it is about this object, under the same version, by a client that may read the
attributes. -/
structure ReadsNext (execution next : Execution) (response : ResponsePayload) :
    Prop where
  creates : execution.payload.operation ∈
    [Operation.create, .register, .deriveKey]
  accepted : execution.outcome = .ok response
  asks : ∃ request, next.payload = .getAttributes request ∧
    request.attributeNames = []
  target : next.target = response.producedIdentifier
  version : next.before.protocolVersion = execution.before.protocolVersion
  permitted : ∀ stored, next.finds next.target = some stored →
    next.Permits stored.managedObject

/-- The attributes of the template that the version still has. -/
def RequestPayload.currentNames (payload : RequestPayload)
    (version : ProtocolVersion) : List AttributeName :=
  (payload.givenAttributes.map Attribute.attributeName).filter
    fun attributeName =>
      (isAttributeDeprecated version attributeName).toOption = some false

/-- GetAttributes answers with all instances of every attribute that has been
given, in their order: the names as the uninterpreted texts that the object
stores, the usage mask with the members that it stores.  Only the length from
which secret data is derived is not an attribute of the object. -/
theorem attributes_are_read_back
    {start : EngineState} {exchanges : List Exchange}
    {prior later : List Execution} {execution next : Execution}
    {response : ResponsePayload}
    (divides : history start exchanges = prior ++ execution :: next :: later)
    (reads : ReadsNext execution next response) :
    ∃ answered, next.outcome = .ok (.getAttributes next.target answered) ∧
      ∀ attributeName ∈ execution.payload.currentNames
          execution.before.protocolVersion,
        ¬execution.payload.Drops attributeName →
        answered.filter (·.attributeName = attributeName) =
          (instancesOf attributeName execution.payload.givenAttributes).map
            Attribute.readBack := by
  have creating : execution ∈ history start exchanges := by
    rw [divides]
    exact List.mem_append_right _ (.head _)
  have reading : next ∈ history start exchanges := by
    rw [divides]
    exact List.mem_append_right _ (.tail _ (.head _))
  have adds := addsReported_of_succeeded (clean_of_mem_history creating)
    reads.creates reads.accepted
  obtain ⟨managedObject, stored, reports⟩ := adds.reports
  -- the row is still there, as nothing happens in between
  have rows : next.rowsBefore = execution.rowsAfter := by
    have linked := history_linked start exchanges
    rw [divides] at linked
    exact congrArg Durable.rows linked.at.2.1
  have found : next.finds next.target =
      some ⟨execution.rowsBefore.next, managedObject⟩ := by
    have session : next.before.dataStore.session = execution.rowsAfter :=
      (clean_of_mem_history reading).trans rows
    rw [reads.target, adds.identifies]
    unfold Execution.finds findObject
    simp only [Option.bind_eq_bind, Option.bind_some,
      next.world.identifierColumn.rowOf_toString, session, stored]
    rfl
  obtain ⟨request, asks, all⟩ := reads.asks
  have listed : ⟨1, 0⟩ ≤ next.before.protocolVersion := by
    have supported := version_of_mem_history reading
    revert supported
    generalize next.before.protocolVersion = version
    revert version
    decide
  obtain ⟨answered, answers, filtered⟩ := getAttributes_filter
    next.before.protocolVersion ⟨execution.rowsBefore.next, managedObject⟩
  refine ⟨answered, ?_, ?_⟩
  · exact outcome_getAttributes asks all listed
      (active_of_next divides adds.active) found
      (reads.permitted _ found) answers
  · intro attributeName member kept
    obtain ⟨given, current⟩ := List.mem_filter.mp member
    have deprecation : isAttributeDeprecated
        execution.before.protocolVersion attributeName = .ok false := by
      have isCurrent := of_decide_eq_true current
      cases asked : isAttributeDeprecated execution.before.protocolVersion
          attributeName with
      | error exception =>
          rw [asked] at isCurrent
          cases isCurrent
      | ok deprecated =>
          rw [asked] at isCurrent
          cases isCurrent
          rfl
    have retrieved := reports attributeName given deprecation kept
    have everyName : attributeName ∈ getAllAttributeNames := by
      have ruled : ∃ ruleSet, attributeRuleSet attributeName = some ruleSet := by
        unfold isAttributeDeprecated ruleSetOf at deprecation
        cases found : attributeRuleSet attributeName with
        | none =>
            rw [found] at deprecation
            cases deprecation
        | some ruleSet => exact ⟨ruleSet, rfl⟩
      obtain ⟨ruleSet, found⟩ := ruled
      cases attributeName with
      | other text unlisted => cases found
      | _ => decide
    have answer := filtered attributeName everyName
    rw [reads.version, retrieved] at answer
    exact (Except.ok.inj answer).symm

end Claims

section Samples

/-- An item with an identifier that succeeds is executed before the rest. -/
theorem executions_of_succeeded
    {worlds : Nat → World} {several : Bool}
    {handling : BatchErrorContinuationOption} {index : Nat}
    {item : RequestBatchItem} {rest : List RequestBatchItem}
    {state : EngineState} (identified : item.uniqueBatchItemId ≠ none)
    (succeeded : Execution.Succeeded ⟨worlds index, item, state⟩) :
    executions worlds several handling index (item :: rest) state =
      ⟨worlds index, item, state⟩ ::
        executions worlds several handling (index + 1) rest
          (Execution.after ⟨worlds index, item, state⟩) := by
  rw [executions, if_neg (fun missing => identified missing.2)]
  apply if_neg
  rintro ⟨failed, _⟩
  rw [succeeded] at failed
  cases failed

variable (start : EngineState) (world : World) (payload : RequestPayload)

/-- A batch that creates an object and reads its attributes. -/
def creationBatch : Exchange :=
  sampleExchange world "alice"
    [{ uniqueBatchItemId := some [1], requestPayload := payload },
      { uniqueBatchItemId := some [2]
        requestPayload := .getAttributes { uniqueIdentifier := none } }]

def creatingItem : Execution :=
  ⟨world, { uniqueBatchItemId := some [1], requestPayload := payload },
    (creationBatch world payload).entering start⟩

def readingItem : Execution :=
  ⟨world, { uniqueBatchItemId := some [2]
            requestPayload := .getAttributes { uniqueIdentifier := none } },
    (creatingItem start world payload).after⟩

variable {start world payload}

theorem history_creationBatch
    (creates : (creatingItem start world payload).Succeeded)
    (reads : (readingItem start world payload).Succeeded) :
    history start [creationBatch world payload] =
      [] ++ creatingItem start world payload ::
        readingItem start world payload :: [] := by
  have second : executions (fun _ => world) true .stop 1
      [(readingItem start world payload).item]
      (creatingItem start world payload).after =
        [readingItem start world payload] :=
    executions_of_succeeded (Option.some_ne_none _) reads
  have first : executions (fun _ => world) true .stop 0
      [(creatingItem start world payload).item,
        (readingItem start world payload).item]
      (creatingItem start world payload).before =
        creatingItem start world payload ::
          executions (fun _ => world) true .stop 1
            [(readingItem start world payload).item]
            (creatingItem start world payload).after := by
    apply executions_of_succeeded
    · exact Option.some_ne_none _
    · exact creates
  rw [second] at first
  exact (List.append_nil _).trans first

/-- Every attribute of the template is answered as it was given. -/
def ReadBackAsGiven (execution next : Execution) : Prop :=
  (match next.outcome with
  | .ok (.getAttributes _ answered) =>
      (execution.payload.currentNames execution.before.protocolVersion).all
        fun attributeName =>
          answered.filter (·.attributeName = attributeName) =
            instancesOf attributeName execution.payload.givenAttributes
  | _ => false) = true

instance (execution next : Execution) :
    Decidable (ReadBackAsGiven execution next) :=
  inferInstanceAs (Decidable (_ = true))

/-- A request for a symmetric key with a usage mask and names. -/
def maskedCreation (mask : Int) (names : List Name) : RequestPayload :=
  .create {
    objectType := .symmetricKey
    templateAttribute := some {
      attributes :=
        [{ attributeName := .cryptographicAlgorithm
           attributeValue := .cryptographicAlgorithm .aes },
          { attributeName := .cryptographicLength
            attributeValue := .integer 128 },
          { attributeName := .cryptographicUsageMask
            attributeValue := .integer mask }] ++
        names.zipIdx.map fun (name, index) =>
          { attributeName := .name
            attributeIndex := some index
            attributeValue := .name name } } }

def secretDataWorld : World :=
  { sampleWorld with
    operationPolicies := [("default", {
      preset := some [
        (.symmetricKey, [(.get, .allowOwner), (.getAttributes, .allowOwner)]),
        (.secretData, [(.getAttributes, .allowOwner)])] })] }

/-- A request to derive secret data of eight bytes from the first key. -/
def secretDataDerivation : RequestPayload :=
  .deriveKey {
    objectType := .secretData
    uniqueIdentifiers := ["1"]
    derivationMethod := .hash
    derivationParameters := { cryptographicParameters := some {} }
    templateAttribute := some {
      attributes := [{ attributeName := .cryptographicLength
                       attributeValue := .integer 64 }] } }

theorem forall_of_all
    {present : Option α} {property : α → Prop} [DecidablePred property]
    (all : present.all property = true) :
    ∀ value, present = some value → property value := by
  rintro value rfl
  simpa using all

theorem readsNext_of_decided
    {response : ResponsePayload}
    (creates : payload.operation ∈ [Operation.create, .register, .deriveKey])
    (accepted : (creatingItem start world payload).outcome = .ok response)
    (target : (readingItem start world payload).target =
      response.producedIdentifier)
    (version : (readingItem start world payload).before.protocolVersion =
      (creatingItem start world payload).before.protocolVersion)
    (permitted : ((readingItem start world payload).finds
        (readingItem start world payload).target).all fun stored =>
      (readingItem start world payload).Permits stored.managedObject) :
    ReadsNext (creatingItem start world payload)
      (readingItem start world payload) response :=
  ⟨creates, accepted, ⟨_, rfl, rfl⟩, target, version, forall_of_all permitted⟩

/-- A request for a key with two names. -/
def namedKey : RequestPayload :=
  maskedCreation 12 [⟨"first", .uninterpretedTextString⟩,
    ⟨"second", .uninterpretedTextString⟩]

theorem attributes_are_read_back_names :
    ∃ answered,
      (readingItem (newEngine .empty []) sampleWorld namedKey).outcome =
        .ok (.getAttributes (some "1") answered) ∧
      answered.filter (·.attributeName = .name) =
        [⟨.name, some 0, .name ⟨"first", .uninterpretedTextString⟩⟩,
          ⟨.name, some 1, .name ⟨"second", .uninterpretedTextString⟩⟩] := by
  have reads : ReadsNext (creatingItem (newEngine .empty []) sampleWorld namedKey)
      (readingItem (newEngine .empty []) sampleWorld namedKey)
      (.create .symmetricKey "1") :=
    readsNext_of_decided (by decide) (by decide) (by decide) (by decide)
      (by decide)
  obtain ⟨answered, outcome, filtered⟩ := attributes_are_read_back
    (history_creationBatch (by decide) (by decide)) reads
  exact ⟨answered, outcome, filtered .name (by decide) id⟩

/-- An accepted creation of which an attribute is not read back as given. -/
def Loses (start : EngineState) (world : World) (payload : RequestPayload)
    (response : ResponsePayload) : Prop :=
  history start [creationBatch world payload] =
      [] ++ creatingItem start world payload ::
        readingItem start world payload :: [] ∧
    ReadsNext (creatingItem start world payload)
      (readingItem start world payload) response ∧
    ¬ReadBackAsGiven (creatingItem start world payload)
      (readingItem start world payload)

/-- The type of a name, the bits of a mask that no member has, and the length of
derived secret data are not read back. -/
theorem attributes_are_not_read_back :
    Loses (newEngine .empty []) sampleWorld
        (maskedCreation 12 [⟨"https://keys/1", .uri⟩])
        (.create .symmetricKey "1") ∧
      Loses (newEngine .empty []) sampleWorld (maskedCreation (2 ^ 30 + 12) [])
        (.create .symmetricKey "1") ∧
      Loses
        (run (newEngine .empty []) [sampleExchange sampleWorld "alice"
          [{ requestPayload := maskedCreation 0x200 [] }]])
        secretDataWorld secretDataDerivation (.deriveKey "2") := by
  refine ⟨⟨?_, ?_, ?_⟩, ⟨?_, ?_, ?_⟩, ?_, ?_, ?_⟩
  · exact history_creationBatch (by decide) (by decide)
  · exact readsNext_of_decided (by decide) (by decide) (by decide) (by decide)
      (by decide)
  · decide
  · exact history_creationBatch (by decide) (by decide)
  · exact readsNext_of_decided (by decide) (by decide) (by decide) (by decide)
      (by decide)
  · decide
  · exact history_creationBatch (by decide) (by decide)
  · exact readsNext_of_decided (by decide) (by decide) (by decide) (by decide)
      (by decide)
  · decide

end Samples

end PyKMIP
