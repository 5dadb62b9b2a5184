import PyKMIP.Properties.AttributeReadBack
import PyKMIP.Reaches

/-!
# Lists of attributes and of their names

GetAttributes without a list of names is the reference for the other requests
that read attributes: GetAttributeList answers with its names, and a list of
names selects its instances.
-/

namespace PyKMIP

open EStateM StatefulExcept
open AttributePolicy

section Retrieval

variable {version : ProtocolVersion} {storedObject : StoredObject}
  {attributeName : AttributeName}

theorem retrievedAttributes_of_unsupported
    (unsupported : isAttributeSupported version attributeName = false) :
    retrievedAttributes version storedObject attributeName = .ok [] := by
  unfold retrievedAttributes
  rw [if_pos unsupported]
  rfl

/-- The instances of any name, listed or not, are those that GetAttributes
without a list of names answers. -/
theorem getAttributes_selects
    (version : ProtocolVersion) (storedObject : StoredObject) :
    ∃ answered, getAttributesFromManagedObject version storedObject [] =
        .ok answered ∧
      ∀ attributeName, retrievedAttributes version storedObject attributeName =
        .ok (answered.filter (·.attributeName = attributeName)) := by
  obtain ⟨answered, answers, selects⟩ :=
    getAttributes_filter version storedObject
  refine ⟨answered, answers, fun attributeName => ?_⟩
  by_cases listed : attributeName ∈ getAllAttributeNames
  · exact selects attributeName listed
  · have unsupported : isAttributeSupported version attributeName = false := by
      rw [Bool.eq_false_iff]
      exact fun supported => listed (mem_getAllAttributeNames supported)
    rw [retrievedAttributes_of_unsupported unsupported]
    choose retrieved retrieves named using
      retrievedAttributes_total version storedObject
    unfold getAttributesFromManagedObject at answers
    rw [if_pos rfl] at answers
    simp only at answers
    rw [mapM_eq_ok_map retrieves] at answers
    cases answers
    apply congrArg Except.ok
    symm
    apply List.filter_eq_nil_iff.mpr
    intro entry inside same
    obtain ⟨list, isListed, inside⟩ := List.mem_flatten.mp inside
    obtain ⟨other, isOther, rfl⟩ := List.mem_map.mp isListed
    apply listed
    rw [← of_decide_eq_true same, named other entry inside]
    exact isOther

theorem getAttributes_of_names
    {answered : List Attribute}
    (selects : ∀ attributeName,
      retrievedAttributes version storedObject attributeName =
        .ok (answered.filter (·.attributeName = attributeName)))
    {names : List AttributeName} (some : names ≠ []) :
    getAttributesFromManagedObject version storedObject names =
      .ok (names.flatMap fun attributeName =>
        answered.filter (·.attributeName = attributeName)) := by
  unfold getAttributesFromManagedObject
  rw [if_neg some]
  simp only
  rw [mapM_eq_ok_map selects, List.flatMap_def]
  rfl

/-- The attribute is read for the response: the version has it, the object may
have it, and it has a value. -/
structure Reported (version : ProtocolVersion) (storedObject : StoredObject)
    (attributeName : AttributeName) (value : ObjectAttribute) : Prop where
  supported : isAttributeSupported version attributeName = true
  current : isAttributeDeprecated version attributeName = .ok false
  applicable : isAttributeApplicableToObjectType attributeName
    storedObject.managedObject.objectType = .ok true
  isSet : getAttributeFromManagedObject storedObject attributeName =
    .ok (some value)

theorem retrievedAttributes_of_reported
    {value : ObjectAttribute}
    (reported : Reported version storedObject attributeName value) :
    retrievedAttributes version storedObject attributeName =
      .ok (AttributeFactory.createAttributes attributeName
        (permitsSeveral attributeName) value) :=
  retrievedAttributes_eq_ok reported.supported reported.current
    reported.applicable
    (isAttributeMultivalued_of_supported reported.supported) reported.isSet

/-- Nothing is retrieved of an attribute that is not reported. -/
theorem retrievedAttributes_of_not_reported
    (unreported : ∀ value,
      ¬Reported version storedObject attributeName value) :
    retrievedAttributes version storedObject attributeName = .ok [] := by
  unfold retrievedAttributes
  by_cases supported : isAttributeSupported version attributeName = false
  · rw [if_pos supported]
    rfl
  · rw [if_neg supported]
    rw [Bool.not_eq_false] at supported
    obtain ⟨deprecated, isDeprecated⟩ :=
      isAttributeDeprecated_of_supported supported
    obtain ⟨applicable, applies⟩ := isAttributeApplicable_of_supported
      storedObject.managedObject.objectType supported
    rw [isDeprecated, applies]
    cases deprecated with
    | true => rfl
    | false =>
        cases applicable with
        | false => rfl
        | true =>
            cases isRead : getAttributeFromManagedObject storedObject
                attributeName with
            | error exception => rfl
            | ok value =>
                cases value with
                | none => rfl
                | some value =>
                    exact absurd ⟨supported, isDeprecated, applies, isRead⟩
                      (unreported value)

/-- Several instances are numbered from zero. -/
theorem createAttributes_index
    {attributeName : AttributeName} {value : ObjectAttribute} {position : Nat}
    {entry : Attribute}
    (found : (AttributeFactory.createAttributes attributeName true
      value)[position]? = some entry) :
    entry.attributeIndex = some (position : Int) := by
  unfold AttributeFactory.createAttributes at found
  rw [if_pos rfl, List.getElem?_map, List.getElem?_zipIdx] at found
  cases isInstance : (AttributeFactory.instances value)[position]? with
  | none =>
      rw [isInstance] at found
      cases found
  | some instance_ =>
      rw [isInstance] at found
      cases found
      simp

theorem createAttributes_no_index
    (attributeName : AttributeName) (value : ObjectAttribute) :
    ∀ entry ∈ AttributeFactory.createAttributes attributeName false value,
      entry.attributeIndex = none := by
  intro entry member
  unfold AttributeFactory.createAttributes at member
  rw [if_neg (by decide)] at member
  obtain ⟨_, _, rfl⟩ := List.mem_map.mp member
  rfl

theorem length_createAttributes_single
    (attributeName : AttributeName) {value : ObjectAttribute}
    (isSet : getAttributeFromManagedObject storedObject attributeName =
      .ok (some value))
    (single : permitsSeveral attributeName = false) :
    (AttributeFactory.createAttributes attributeName false value).length = 1 := by
  unfold AttributeFactory.createAttributes
  rw [if_neg (by decide), List.length_map]
  cases attributeName
  case name => cases single
  case objectGroup => cases single
  case applicationSpecificInformation => cases single
  case cryptographicAlgorithm =>
      obtain ⟨fields, _, isRead⟩ := except_bind_ok_iff.mp isSet
      cases isRead
      rfl
  case cryptographicLength =>
      obtain ⟨fields, _, isRead⟩ := except_bind_ok_iff.mp isSet
      cases isRead
      rfl
  case certificateType =>
      obtain ⟨certificateType, _, isRead⟩ := except_bind_ok_iff.mp isSet
      cases isRead
      rfl
  case cryptographicUsageMask =>
      obtain ⟨masks, _, isRead⟩ := except_bind_ok_iff.mp isSet
      cases isRead
      rfl
  case state =>
      obtain ⟨state, _, isRead⟩ := except_bind_ok_iff.mp isSet
      cases isRead
      rfl
  case operationPolicyName =>
      obtain ⟨text, _, rfl⟩ :=
        Option.map_eq_some_iff.mp (Except.ok.inj isSet)
      rfl
  all_goals
    cases isSet
  all_goals rfl

end Retrieval

section Requests

variable {execution : Execution} {stored : StoredObject}
  {version : ProtocolVersion}

theorem Execution.Reaches.outcome_getAttributes
    (reaches : execution.Reaches stored version)
    {request : GetAttributesRequestPayload}
    (asks : execution.payload = .getAttributes request)
    {answered : List Attribute}
    (answers : getAttributesFromManagedObject version stored
      request.attributeNames = .ok answered) :
    execution.outcome = .ok (.getAttributes execution.target answered) := by
  have loads := reaches.access (by rw [asks]; exact Operation.noConfusion)
  have target : execution.before.context.payloadOrPlaceholder
      request.uniqueIdentifier = execution.target := by
    unfold Execution.target
    rw [asks]
    rfl
  have same : execution.before.context.protocolVersion = version :=
    reaches.sameVersion
  unfold Execution.outcome Execution.result
  rw [asks] at loads ⊢
  rw [processOperation_follows]
  simp only [PyKMIP.plan, planGetAttributes, Plan.supportedSince,
    Plan.refuseIf, same, reaches.listed, not_true, if_false, target, Plan.run,
    loads, answers, Plan.ofExcept]
  rfl

theorem Execution.Reaches.outcome_getAttributeList
    (reaches : execution.Reaches stored version) {uniqueIdentifier : Option String}
    (asks : execution.payload = .getAttributeList uniqueIdentifier)
    {answered : List Attribute}
    (answers : getAttributesFromManagedObject version stored [] =
      .ok answered) :
    execution.outcome = .ok (.getAttributeList execution.target
      (answered.map Attribute.attributeName).eraseDups) := by
  have loads := reaches.access (by rw [asks]; exact Operation.noConfusion)
  have target : execution.before.context.payloadOrPlaceholder
      uniqueIdentifier = execution.target := by
    unfold Execution.target
    rw [asks]
    rfl
  have same : execution.before.context.protocolVersion = version :=
    reaches.sameVersion
  unfold Execution.outcome Execution.result
  rw [asks] at loads ⊢
  rw [processOperation_follows]
  simp only [PyKMIP.plan, planGetAttributeList, Plan.supportedSince,
    Plan.refuseIf, same, reaches.listed, not_true, if_false, target, Plan.run,
    loads, answers, Plan.ofExcept]
  rfl

/-- What GetAttributes without a list of names answers has the attributes that
are reported, and numbers their instances. -/
structure Enumerates (version : ProtocolVersion) (stored : StoredObject)
    (answered : List Attribute) : Prop where
  unreported : ∀ attributeName,
    (∀ value, ¬Reported version stored attributeName value) →
      answered.filter (·.attributeName = attributeName) = []
  several : ∀ attributeName, permitsSeveral attributeName = true →
    ∀ (position : Nat) entry,
      (answered.filter (·.attributeName = attributeName))[position]? =
          some entry →
        entry.attributeIndex = some (position : Int)
  single : ∀ attributeName, permitsSeveral attributeName = false →
    (answered.filter (·.attributeName = attributeName)).length ≤ 1 ∧
      ∀ entry ∈ answered, entry.attributeName = attributeName →
        entry.attributeIndex = none

theorem enumerates_of_selects
    {answered : List Attribute}
    (selects : ∀ attributeName, retrievedAttributes version stored attributeName =
      .ok (answered.filter (·.attributeName = attributeName))) :
    Enumerates version stored answered := by
  have created : ∀ attributeName,
      answered.filter (·.attributeName = attributeName) = [] ∨
        ∃ value, getAttributeFromManagedObject stored attributeName =
            .ok (some value) ∧
          answered.filter (·.attributeName = attributeName) =
            AttributeFactory.createAttributes attributeName
              (permitsSeveral attributeName) value := by
    intro attributeName
    by_cases reported : ∃ value, Reported version stored attributeName value
    · obtain ⟨value, reported⟩ := reported
      have retrieved := retrievedAttributes_of_reported reported
      rw [selects attributeName] at retrieved
      exact .inr ⟨value, reported.isSet, Except.ok.inj retrieved⟩
    · have nothing := retrievedAttributes_of_not_reported
        (not_exists.mp reported)
      rw [selects attributeName] at nothing
      exact .inl (Except.ok.inj nothing)
  constructor
  · intro attributeName unreported
    have nothing := retrievedAttributes_of_not_reported unreported
    rw [selects attributeName] at nothing
    exact Except.ok.inj nothing
  · intro attributeName permits position entry found
    rcases created attributeName with empty | ⟨value, _, isCreated⟩
    · rw [empty] at found
      cases found
    · rw [isCreated, permits] at found
      exact createAttributes_index found
  · intro attributeName permits
    rcases created attributeName with empty | ⟨value, isSet, isCreated⟩
    · refine ⟨by rw [empty]; exact Nat.zero_le _, ?_⟩
      intro entry member named
      have inside : entry ∈
          answered.filter (·.attributeName = attributeName) :=
        List.mem_filter.mpr ⟨member, decide_eq_true named⟩
      rw [empty] at inside
      cases inside
    · rw [permits] at isCreated
      refine ⟨?_, ?_⟩
      · rw [isCreated, length_createAttributes_single attributeName isSet permits]
      · intro entry member named
        have inside : entry ∈
            answered.filter (·.attributeName = attributeName) :=
          List.mem_filter.mpr ⟨member, decide_eq_true named⟩
        rw [isCreated] at inside
        exact createAttributes_no_index attributeName value entry inside

/-- GetAttributeList and GetAttributes, with and without names, answer about an
object from one list of attributes. -/
theorem attribute_lists_agree
    (stored : StoredObject) (version : ProtocolVersion) :
    ∃ answered : List Attribute, Enumerates version stored answered ∧
      ∀ execution : Execution, execution.Reaches stored version →
        (∀ uniqueIdentifier,
          execution.payload = .getAttributeList uniqueIdentifier →
            execution.outcome = .ok (.getAttributeList execution.target
              (answered.map Attribute.attributeName).eraseDups)) ∧
        ∀ request, execution.payload = .getAttributes request →
          execution.outcome = .ok (.getAttributes execution.target
            (if request.attributeNames = [] then answered
            else request.attributeNames.flatMap fun attributeName =>
              answered.filter (·.attributeName = attributeName))) := by
  obtain ⟨answered, answers, selects⟩ := getAttributes_selects version stored
  refine ⟨answered, enumerates_of_selects selects, fun execution reaches => ?_⟩
  constructor
  · intro uniqueIdentifier asks
    exact reaches.outcome_getAttributeList asks answers
  · intro request asks
    apply reaches.outcome_getAttributes asks
    split
    · rename_i all
      rw [all]
      exact answers
    · rename_i some
      exact getAttributes_of_names selects some

end Requests

section Samples

/-- A request about the key that an earlier request has created. -/
def asksAbout (payload : RequestPayload) : Execution where
  world := sampleWorld
  item := { requestPayload := payload }
  before := (sampleExchange sampleWorld "alice"
    [{ requestPayload := sampleCreation }]).after (newEngine .empty [])

/-- The three requests about the attributes of a key. -/
def attributeRequests : List RequestPayload :=
  [.getAttributeList (some "1"),
   .getAttributes { uniqueIdentifier := some "1" },
   .getAttributes { uniqueIdentifier := some "1"
                    attributeNames := [.state, .cryptographicLength] }]

theorem attribute_lists_agree_key :
    ∃ answered : List Attribute,
      (asksAbout (.getAttributeList (some "1"))).outcome =
          .ok (.getAttributeList (some "1")
            (answered.map Attribute.attributeName).eraseDups) ∧
        (asksAbout (.getAttributes { uniqueIdentifier := some "1" })).outcome =
          .ok (.getAttributes (some "1") answered) ∧
        (asksAbout (.getAttributes {
            uniqueIdentifier := some "1"
            attributeNames := [.state, .cryptographicLength] })).outcome =
          .ok (.getAttributes (some "1")
            ([.state, .cryptographicLength].flatMap fun attributeName =>
              answered.filter (·.attributeName = attributeName))) := by
  have found : ((asksAbout (.getAttributeList (some "1"))).finds
      (some "1")).isSome := by
    decide +kernel
  obtain ⟨stored, isStored⟩ := Option.isSome_iff_exists.mp found
  have reaches : ∀ stored ∈
      (asksAbout (.getAttributeList (some "1"))).finds (some "1"),
      ∀ payload ∈ attributeRequests,
        (asksAbout payload).Reaches stored ⟨1, 2⟩ := by
    decide +kernel
  obtain ⟨answered, -, agrees⟩ := attribute_lists_agree stored ⟨1, 2⟩
  refine ⟨answered, ?_, ?_, ?_⟩
  · exact (agrees _ (reaches stored isStored _ (.head _))).1 _ rfl
  · exact (agrees _ (reaches stored isStored _ (.tail _ (.head _)))).2 _ rfl
  · exact (agrees _ (reaches stored isStored _
      (.tail _ (.tail _ (.head _))))).2 _ rfl

end Samples

end PyKMIP
