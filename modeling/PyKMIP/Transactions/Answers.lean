import PyKMIP.Transactions.Refinement

/-!
# What the engine answers

The payload of a response belongs to the operation of its item, the secret in
it to the object type, and the attributes in it are instances of their names.
Before version 2.0 only, a response shows the attribute that has been changed.
-/

namespace PyKMIP

open EStateM StatefulExcept

section Payloads

/-- The value is of the class that the engine reads under the name. -/
def AttributeValue.suits : AttributeName → AttributeValue → Bool
  | .uniqueIdentifier, .text _ => true
  | .name, .name _ => true
  | .objectType, .objectType _ => true
  | .cryptographicAlgorithm, .cryptographicAlgorithm _ => true
  | .cryptographicLength, .integer _ => true
  | .certificateType, .certificateType _ => true
  | .operationPolicyName, .text _ => true
  | .cryptographicUsageMask, .integer _ => true
  | .state, .state _ => true
  | .initialDate, .dateTime _ => true
  | .objectGroup, .text _ => true
  | .applicationSpecificInformation, .applicationSpecificInformation _ => true
  | .sensitive, .boolean _ => true
  | _, _ => false

def Attribute.Suits (entry : Attribute) : Prop :=
  entry.attributeValue.suits entry.attributeName = true

/-- The object type that a secret has, if the key values in it have no
attributes of their own. -/
def CoreSecret.plainType : CoreSecret → Option ObjectType
  | .certificate .. => some .certificate
  | .symmetricKey keyBlock => ofPlain keyBlock .symmetricKey
  | .publicKey keyBlock => ofPlain keyBlock .publicKey
  | .privateKey keyBlock => ofPlain keyBlock .privateKey
  | .splitKey _ keyBlock => ofPlain keyBlock .splitKey
  | .template => none
  | .secretData _ keyBlock => ofPlain keyBlock .secretData
  | .opaqueObject .. => some .opaqueData
where
  ofPlain (keyBlock : KeyBlock) (objectType : ObjectType) : Option ObjectType :=
    if keyBlock.keyValue.attributes = [] then some objectType else none

def ResponsePayload.operation : ResponsePayload → Operation
  | .create .. => .create
  | .createKeyPair .. => .createKeyPair
  | .deleteAttribute .. => .deleteAttribute
  | .setAttribute _ => .setAttribute
  | .modifyAttribute .. => .modifyAttribute
  | .register _ => .register
  | .deriveKey _ => .deriveKey
  | .locate _ => .locate
  | .get .. => .get
  | .getAttributes .. => .getAttributes
  | .getAttributeList .. => .getAttributeList
  | .activate _ => .activate
  | .revoke _ => .revoke
  | .destroy _ => .destroy
  | .query .. => .query
  | .discoverVersions _ => .discoverVersions
  | .encrypt .. => .encrypt
  | .decrypt .. => .decrypt
  | .signatureVerify .. => .signatureVerify
  | .mac .. => .mac
  | .sign .. => .sign

/-- What the parts of a response have to do with each other and with the
version. -/
def ResponsePayload.Consistent (version : ProtocolVersion) :
    ResponsePayload → Prop
  | .get objectType _ secret => secret.plainType = some objectType
  | .getAttributes _ attributes => ∀ entry ∈ attributes, entry.Suits
  | .deleteAttribute _ entry | .modifyAttribute _ entry =>
      (version20 ≤ version → entry = none) ∧
        ∀ shown, entry = some shown → shown.Suits
  | _ => True

/-- Whether an answer shows the type of a certificate among the attributes. -/
def ResponsePayload.ShowsCertificateType : ResponsePayload → Prop
  | .getAttributes _ attributes =>
      ∃ entry ∈ attributes, entry.attributeName = .certificateType
  | _ => False

/-- The answer to an operation. -/
structure ResponsePayload.Answers (version : ProtocolVersion)
    (operation : Operation) (response : ResponsePayload) : Prop where
  same : response.operation = operation
  consistent : response.Consistent version

end Payloads

section Attributes

variable {version : ProtocolVersion} {storedObject : StoredObject}

theorem instances_suit {attributeName : AttributeName} {value : ObjectAttribute}
    (read : getAttributeFromManagedObject storedObject attributeName =
      .ok (some value)) :
    ∀ instance_ ∈ AttributeFactory.instances value,
      instance_.suits attributeName = true := by
  intro instance_ member
  cases attributeName
  case name | objectGroup | applicationSpecificInformation =>
    cases read
    obtain ⟨_, _, rfl⟩ := List.mem_map.mp member
    rfl
  case operationPolicyName =>
    obtain ⟨_, _, rfl⟩ := Option.map_eq_some_iff.mp (Except.ok.inj read)
    rw [List.mem_singleton.mp member]
    rfl
  case cryptographicAlgorithm | cryptographicLength | certificateType
      | cryptographicUsageMask | state =>
    obtain ⟨_, _, returned⟩ := except_bind_ok_iff.mp read
    cases returned
    rw [List.mem_singleton.mp member]
    rfl
  case uniqueIdentifier | objectType | initialDate | sensitive =>
    cases read
    rw [List.mem_singleton.mp member]
    rfl
  all_goals cases read

theorem createAttributes_suit {attributeName : AttributeName} {several : Bool}
    {value : ObjectAttribute}
    (suits : ∀ instance_ ∈ AttributeFactory.instances value,
      instance_.suits attributeName = true) :
    ∀ entry ∈ AttributeFactory.createAttributes attributeName several value,
      entry.Suits := by
  intro entry member
  unfold AttributeFactory.createAttributes at member
  cases several with
  | true =>
      obtain ⟨⟨instance_, count⟩, found, rfl⟩ := List.mem_map.mp member
      exact suits instance_ (List.fst_mem_of_mem_zipIdx found)
  | false =>
      obtain ⟨instance_, found, rfl⟩ := List.mem_map.mp member
      exact suits instance_ found

theorem retrievedAttributes_suit {attributeName : AttributeName}
    {attributes : List Attribute}
    (retrieved : retrievedAttributes version storedObject attributeName =
      .ok attributes) :
    ∀ entry ∈ attributes, entry.Suits := by
  have none_suit : ∀ entry ∈ ([] : List Attribute), entry.Suits :=
    fun _ member => absurd member List.not_mem_nil
  unfold retrievedAttributes at retrieved
  split at retrieved
  · cases retrieved
    exact none_suit
  obtain ⟨deprecated, _, retrieved⟩ := except_bind_ok_iff.mp retrieved
  split at retrieved
  · cases retrieved
    exact none_suit
  obtain ⟨applicable, _, retrieved⟩ := except_bind_ok_iff.mp retrieved
  split at retrieved
  · split at retrieved
    · rename_i value read
      obtain ⟨several, _, returned⟩ := except_bind_ok_iff.mp retrieved
      cases returned
      exact createAttributes_suit (instances_suit read)
    · cases retrieved
      exact none_suit
  · cases retrieved
    exact none_suit

theorem retrievals_suit {attributeNames : List AttributeName}
    {retrieved : List (List Attribute)}
    (read : attributeNames.mapM (retrievedAttributes version storedObject) =
      .ok retrieved) :
    ∀ entry ∈ retrieved.flatten, entry.Suits := by
  induction attributeNames generalizing retrieved with
  | nil =>
      cases read
      exact fun _ member => absurd member List.not_mem_nil
  | cons attributeName rest ih =>
      rw [List.mapM_cons] at read
      obtain ⟨first, isFirst, read⟩ := except_bind_ok_iff.mp read
      obtain ⟨others, areOthers, returned⟩ := except_bind_ok_iff.mp read
      cases returned
      intro entry member
      rw [List.flatten_cons] at member
      rcases List.mem_append.mp member with here | later
      · exact retrievedAttributes_suit isFirst entry here
      · exact ih areOthers entry later

theorem getAttributesFromManagedObject_suit
    {attributeNames : List AttributeName} {attributes : List Attribute}
    (got : getAttributesFromManagedObject version storedObject attributeNames =
      .ok attributes) :
    ∀ entry ∈ attributes, entry.Suits := by
  obtain ⟨retrieved, read, returned⟩ := except_bind_ok_iff.mp got
  cases returned
  exact retrievals_suit read

theorem elementAt_mem {values : List α} {index : Int} {value : α}
    (found : elementAt values index = .ok value) : value ∈ values := by
  unfold elementAt at found
  split at found
  · rename_i located
    cases found
    obtain ⟨position, _, inside⟩ := Option.bind_eq_some_iff.mp located
    exact List.mem_of_getElem? inside
  · cases found

theorem deletedAttribute_suits
    {attributes : List Attribute} {index : Int} {deleted : Option Attribute}
    (suit : ∀ entry ∈ attributes, entry.Suits)
    (found : deletedAttribute attributes index = .ok deleted) :
    ∀ shown, deleted = some shown → shown.Suits := by
  rintro shown rfl
  have located : ∀ position,
      some <$> elementAt attributes position = .ok (some shown) →
      shown.Suits := by
    intro position taken
    cases element : elementAt attributes position with
    | error exception =>
        rw [element] at taken
        cases taken
    | ok value =>
        rw [element] at taken
        cases taken
        exact suit shown (elementAt_mem element)
  unfold deletedAttribute at found
  split at found
  · cases found
  · split at found
    · exact located 0 found
    · split at found
      · exact located index found
      · cases found

theorem addressedAttribute_consistent
    {payload : DeleteAttributeRequestPayload}
    {answer : AddressedAttribute × Option Attribute}
    (addressed : addressedAttribute version storedObject payload = .ok answer) :
    (version20 ≤ version → answer.2 = none) ∧
      ∀ shown, answer.2 = some shown → shown.Suits := by
  unfold addressedAttribute at addressed
  split at addressed
  · obtain ⟨_, _, returned⟩ := except_bind_ok_iff.mp addressed
    cases returned
    exact ⟨fun _ => rfl, fun _ same => absurd same.symm (Option.some_ne_none _)⟩
  · rename_i early
    obtain ⟨_, _, addressed⟩ := except_bind_ok_iff.mp addressed
    obtain ⟨attributes, got, addressed⟩ := except_bind_ok_iff.mp addressed
    obtain ⟨deleted, found, returned⟩ := except_bind_ok_iff.mp addressed
    cases returned
    exact ⟨fun recent => absurd recent early,
      deletedAttribute_suits (getAttributesFromManagedObject_suit got) found⟩

theorem modifiedAttribute_suits
    {attributeName : AttributeName} {index : Nat} {modified : Attribute}
    (found : modifiedAttribute version storedObject attributeName index =
      .ok modified) : modified.Suits := by
  obtain ⟨attributes, got, found⟩ := except_bind_ok_iff.mp found
  exact getAttributesFromManagedObject_suit got modified (elementAt_mem found)

end Attributes

section Secrets

theorem buildCoreObject_plainType (managedObject : ManagedObject) :
    (buildCoreObject managedObject).plainType =
      some managedObject.objectType := by
  unfold buildCoreObject ManagedObject.objectType
  split <;> simp_all [CoreSecret.plainType, CoreSecret.plainType.ofPlain,
    KeyFields.keyBlock]

/-- The wrapping data is no part of the key value. -/
theorem withKeyWrappingData_plainType
    {keyWrappingData : KeyWrappingData} {coreSecret wrapped : CoreSecret}
    (wraps : coreSecret.withKeyWrappingData keyWrappingData = .ok wrapped) :
    wrapped.plainType = coreSecret.plainType := by
  cases coreSecret <;> cases wraps <;> rfl

theorem wrappedSecret_plainType
    {world : World} {specification : KeyWrappingSpecification}
    {information : KeyInformation} {managedObject key : ManagedObject}
    {coreSecret : CoreSecret}
    (wraps : wrappedSecret world specification information managedObject key =
      .ok coreSecret) :
    coreSecret.plainType = some managedObject.objectType := by
  obtain ⟨_, _, wraps⟩ := except_bind_ok_iff.mp wraps
  obtain ⟨wrapped, _, wraps⟩ := except_bind_ok_iff.mp wraps
  rw [withKeyWrappingData_plainType wraps]
  exact buildCoreObject_plainType { managedObject with value := wrapped }

end Secrets

section Plans

variable {world : World} {context : ItemContext} {payload : RequestPayload}
  {claim : ResponsePayload → Prop}

/-- A claim about the response of a plan that succeeds. -/
def Plan.Replies (claim : ResponsePayload → Prop) : Plan context payload → Prop
  | .refuse _ => True
  | .reply _ response => claim response
  | .lookup _ _ next => ∀ storedObject, (next storedObject).Replies claim
  | .list next => ∀ storedObjects, (next storedObjects).Replies claim
  | .update _ decide => ∀ target written,
      decide target = .ok written → claim written.reply
  | .create creation => ∀ key, claim (creation.reply key)
  | .createSecret creation => ∀ key, claim (creation.reply key)

theorem Plan.Replies.ofExcept
    {outcome : Except PyError α} {next : α → Plan context payload}
    (replies : ∀ value, outcome = .ok value → (next value).Replies claim) :
    (Plan.ofExcept outcome next).Replies claim := by
  cases outcome with
  | ok value => exact replies value rfl
  | error exception => exact trivial

theorem Plan.Replies.refuseIf
    {condition : Prop} [Decidable condition] {exception : PyError}
    {plan : Plan context payload} (replies : plan.Replies claim) :
    (Plan.refuseIf condition exception plan).Replies claim := by
  unfold Plan.refuseIf
  split
  · exact trivial
  · exact replies

theorem Plan.Replies.supportedSince
    {supported : ProtocolVersion} {operation : String}
    {plan : Plan context payload} (replies : plan.Replies claim) :
    (Plan.supportedSince supported operation plan).Replies claim :=
  .refuseIf replies

theorem planSources_replies
    {payload : DeriveKeyRequestPayload} (uniqueIdentifiers : List String)
    {next : List StoredObject → Plan context (.deriveKey payload)}
    (replies : ∀ storedObjects, (next storedObjects).Replies claim) :
    (planSources uniqueIdentifiers next).Replies claim := by
  induction uniqueIdentifiers generalizing next with
  | nil => exact replies []
  | cons uniqueIdentifier rest ih =>
      intro storedObject
      refine .refuseIf <| .ofExcept fun _ _ => .refuseIf ?_
      exact ih fun others => replies (storedObject :: others)

/-- A target that is changed is answered with what the reply makes of the
result. -/
theorem changing_replies {target : StoredObject} {body : ObjectM α}
    {atomic : AtomicAt (Evolves payload target.managedObject)
      target.managedObject body}
    {reply : α → Except PyError ResponsePayload}
    {written : Update payload target}
    (replies : ∀ value response, reply value = .ok response → claim response)
    (changes : changing target body atomic reply = .ok written) :
    claim written.reply := by
  unfold changing at changes
  split at changes
  · obtain ⟨response, replied, returned⟩ := except_bind_ok_iff.mp changes
    cases returned
    exact replies _ response replied
  · cases changes

theorem removing_replies {target : StoredObject}
    {destroys : payload.operation = .destroy} {reply : ResponsePayload}
    {written : Update payload target} (replies : claim reply)
    (removes : removing target destroys reply = .ok written) :
    claim written.reply := by
  unfold removing at removes
  split at removes
  · cases removes
  · cases removes
    exact replies

/-- The response of a run is one that the plan claims something about. -/
theorem Plan.Replies.of_run
    {plan : Plan context payload} (replies : plan.Replies claim)
    {before after : EngineState} {response : ResponsePayload}
    (ran : plan.run world before = .ok response after) : claim response := by
  induction plan with
  | refuse exception => cases ran
  | reply reads =>
      cases ran
      exact replies
  | lookup uniqueIdentifier disguise next ih =>
      rw [Plan.run] at ran
      split at ran
      · exact ih _ (replies _) ran
      · cases ran
  | list next ih =>
      rw [Plan.run] at ran
      split at ran
      · cases ran
      · exact ih _ (replies _) ran
  | update writes decide =>
      rw [Plan.run] at ran
      split at ran
      · cases ran
      · rename_i target accessed
        split at ran
        · cases ran
        · rename_i written decided
          have same : response = written.reply := by
            cases written with
            | change => exact (flush_eq_ok ran).1
            | remove => exact (flush_eq_ok ran).1
          rw [same]
          exact replies target written decided
  | create creation =>
      rw [(flush_eq_ok ran).1]
      exact replies _
  | createSecret creation =>
      rw [Plan.run, SecretCreation.run] at ran
      split at ran
      · cases ran
      · split at ran
        · cases ran
        · rw [(flush_eq_ok ran).1]
          exact replies _

end Plans

section Operations

variable {world : World} {context : ItemContext}

/-- The responses of a plan answer the operation of its payload. -/
def Plan.Answers {payload : RequestPayload} (plan : Plan context payload) :
    Prop :=
  plan.Replies fun response =>
    response.Answers context.protocolVersion payload.operation

theorem planCreate_answers (payload : CreateRequestPayload) :
    (planCreate world context payload).Answers := by
  refine .supportedSince <| .refuseIf <| .ofExcept fun _ _ =>
    .ofExcept fun _ _ => .ofExcept fun _ _ => .ofExcept fun _ _ => ?_
  split
  · exact fun _ => ⟨rfl, trivial⟩
  · exact .ofExcept fun _ _ _ => ⟨rfl, trivial⟩

theorem planCreateKeyPair_answers (payload : CreateKeyPairRequestPayload) :
    (planCreateKeyPair world context payload).Answers :=
  .supportedSince <| .ofExcept fun _ _ => .ofExcept fun _ _ =>
    .ofExcept fun _ _ => .ofExcept fun _ _ => .ofExcept fun _ _ =>
    .refuseIf <| .refuseIf <| .ofExcept fun _ _ => .ofExcept fun _ _ =>
    .ofExcept fun _ _ => .ofExcept fun _ _ => .ofExcept fun _ _ _ =>
    ⟨rfl, trivial⟩

theorem planRegister_answers (payload : RegisterRequestPayload) :
    (planRegister world context payload).Answers :=
  .supportedSince <| .refuseIf <| .ofExcept fun _ _ => .ofExcept fun _ _ =>
    .ofExcept fun _ _ => .ofExcept fun _ _ _ => ⟨rfl, trivial⟩

theorem planDeriveKey_answers (payload : DeriveKeyRequestPayload) :
    (planDeriveKey world context payload).Answers :=
  .supportedSince <| .ofExcept fun _ _ => .refuseIf <| .refuseIf <|
    planSources_replies _ fun _ => .ofExcept fun _ _ => .ofExcept fun _ _ =>
    .ofExcept fun _ _ => .ofExcept fun _ _ => .ofExcept fun _ _ =>
    .ofExcept fun _ _ _ => ⟨rfl, trivial⟩

theorem planGet_answers (payload : GetRequestPayload) :
    (planGet world context payload).Answers := by
  refine .supportedSince <| .refuseIf fun storedObject =>
    .ofExcept fun _ _ => ?_
  split
  · refine .refuseIf ?_
    split
    · exact fun key => .ofExcept fun _ _ => .ofExcept fun _ wraps =>
        ⟨rfl, wrappedSecret_plainType wraps⟩
    · exact trivial
  · exact ⟨rfl, buildCoreObject_plainType _⟩

theorem planGetAttributes_answers (payload : GetAttributesRequestPayload) :
    (planGetAttributes context payload).Answers :=
  .supportedSince fun _ => .ofExcept fun _ got =>
    ⟨rfl, getAttributesFromManagedObject_suit got⟩

theorem planDeleteAttribute_answers (payload : DeleteAttributeRequestPayload) :
    (planDeleteAttribute context payload).Answers := by
  refine .supportedSince fun target written decided => ?_
  obtain ⟨answer, addressed, changes⟩ := except_bind_ok_iff.mp decided
  refine changing_replies (fun _ _ replied => ?_) changes
  cases replied
  exact ⟨rfl, addressedAttribute_consistent addressed⟩

theorem planSetAttribute_answers (payload : SetAttributeRequestPayload) :
    (planSetAttribute context payload).Answers := by
  refine .supportedSince fun target written decided => ?_
  obtain ⟨_, _, decided⟩ := except_bind_ok_iff.mp decided
  obtain ⟨_, _, changes⟩ := except_bind_ok_iff.mp decided
  refine changing_replies (fun _ _ replied => ?_) changes
  cases replied
  exact ⟨rfl, trivial⟩

theorem planModifyAttribute_answers (payload : ModifyAttributeRequestPayload) :
    (planModifyAttribute context payload).Answers := by
  refine .supportedSince fun target written decided => ?_
  dsimp only at decided
  split at decided
  · refine changing_replies (fun _ _ replied => ?_) decided
    cases replied
    exact ⟨rfl, fun _ => rfl, fun _ same => absurd same.symm (Option.some_ne_none _)⟩
  · rename_i early
    obtain ⟨modification, _, changes⟩ := except_bind_ok_iff.mp decided
    refine changing_replies (fun answer _ replied => ?_) changes
    obtain ⟨modified, found, returned⟩ := except_bind_ok_iff.mp replied
    cases returned
    refine ⟨rfl, fun recent => absurd recent early, ?_⟩
    rintro shown ⟨⟩
    exact modifiedAttribute_suits found

/-- Every plan answers its operation.  The operations that use a key all check
the use and then call the cryptographic back end. -/
theorem plan_answers (payload : RequestPayload) :
    (plan world context payload).Answers := by
  cases payload with
  | create payload => exact planCreate_answers payload
  | createKeyPair payload => exact planCreateKeyPair_answers payload
  | deleteAttribute payload => exact planDeleteAttribute_answers payload
  | register payload => exact planRegister_answers payload
  | deriveKey payload => exact planDeriveKey_answers payload
  | locate payload =>
      exact .supportedSince fun _ => .ofExcept fun _ _ => ⟨rfl, trivial⟩
  | get payload => exact planGet_answers payload
  | getAttributes payload => exact planGetAttributes_answers payload
  | getAttributeList uniqueIdentifier =>
      exact .supportedSince fun _ => .ofExcept fun _ _ => ⟨rfl, trivial⟩
  | activate uniqueIdentifier =>
      refine .supportedSince fun target written decided => ?_
      refine changing_replies (fun _ _ replied => ?_) decided
      cases replied
      exact ⟨rfl, trivial⟩
  | revoke payload =>
      refine .supportedSince ?_
      split
      · exact trivial
      · intro target written decided
        refine changing_replies (fun _ _ replied => ?_) decided
        cases replied
        exact ⟨rfl, trivial⟩
  | destroy uniqueIdentifier =>
      refine .supportedSince fun target written decided => ?_
      have answers : ResponsePayload.Answers context.protocolVersion .destroy
          (.destroy (context.valueOrPlaceholder uniqueIdentifier)) :=
        ⟨rfl, trivial⟩
      exact removing_replies answers decided
  | query queryFunctions => exact .supportedSince <| .refuseIf ⟨rfl, trivial⟩
  | discoverVersions requested =>
      refine .supportedSince ?_
      exact ⟨rfl, trivial⟩
  | setAttribute payload => exact planSetAttribute_answers payload
  | modifyAttribute payload => exact planModifyAttribute_answers payload
  | encrypt payload | decrypt payload | signatureVerify payload | mac payload
  | sign payload =>
      exact .supportedSince fun _ => .ofExcept fun _ _ => .ofExcept fun _ _ =>
        ⟨rfl, trivial⟩
  | unsupported operation undispatched => exact trivial

/-- A response of the engine answers the operation that it has processed. -/
theorem processOperation_answers
    {payload : RequestPayload} {before after : EngineState}
    {response : ResponsePayload}
    (ran : (processOperation world payload).run before = .ok response after) :
    response.Answers before.protocolVersion payload.operation := by
  rw [processOperation_follows] at ran
  exact (plan_answers payload).of_run ran

end Operations

end PyKMIP
