import PyKMIP.Runs
import PyKMIP.Spellings
import PyKMIP.Transactions.Lookups

/-!
# Agreement of the spellings of a request

A request that creates objects means the same with a 1.x template and with a
2.0 structure, as long as the structure can carry its attributes: a handler
reads the version of the request only to process the templates.
-/

namespace PyKMIP

open EStateM StatefulExcept

section Requests

/-- A request that creates objects, with its attributes in any form. -/
inductive CreationRequest (α : Type) where
  | create (objectType : ObjectType) (attributes : Option α)
  | createKeyPair (common privateKey publicKey : Option α)
  | register (objectType : ObjectType) (attributes : Option α)
      (managedObject : Option CoreSecret)
  | deriveKey (objectType : ObjectType) (uniqueIdentifiers : List String)
      (derivationMethod : DerivationMethod)
      (derivationParameters : DerivationParameters) (attributes : Option α)

namespace CreationRequest

/-- The attribute structures of the request. -/
def structures : CreationRequest α → List α
  | .create _ attributes | .register _ attributes _
  | .deriveKey _ _ _ _ attributes => attributes.toList
  | .createKeyPair common privateKey publicKey =>
      common.toList ++ privateKey.toList ++ publicKey.toList

/-- The payload of the request once its structures are templates. -/
def payload (template : α → TemplateAttribute) :
    CreationRequest α → RequestPayload
  | .create objectType attributes =>
      .create {
        objectType := objectType
        templateAttribute := attributes.map template }
  | .createKeyPair common privateKey publicKey =>
      .createKeyPair {
        commonTemplateAttribute := common.map template
        privateKeyTemplateAttribute := privateKey.map template
        publicKeyTemplateAttribute := publicKey.map template }
  | .register objectType attributes managedObject =>
      .register {
        objectType := objectType
        templateAttribute := attributes.map template
        managedObject := managedObject }
  | .deriveKey objectType uniqueIdentifiers derivationMethod
      derivationParameters attributes =>
      .deriveKey {
        objectType := objectType
        uniqueIdentifiers := uniqueIdentifiers
        derivationMethod := derivationMethod
        derivationParameters := derivationParameters
        templateAttribute := attributes.map template }

/-- The payload of a request whose structures can all be decoded. -/
def read (decode : α → Option TemplateAttribute) (request : CreationRequest α) :
    Option RequestPayload :=
  if ∀ attributes ∈ request.structures, (decode attributes).isSome then
    some (request.payload fun attributes => (decode attributes).getD {})
  else none

variable (request : CreationRequest (List Attribute))

/-- The request as a 1.4 message. -/
def named : Option RequestPayload := request.read readTemplateAttribute

/-- The request as a 2.0 message. -/
def tagged : Option RequestPayload :=
  request.read fun entries => readAttributes (entries.map Attribute.tagged)

end CreationRequest

end Requests

section Versions

def EngineState.speaking (state : EngineState) (version : ProtocolVersion) :
    EngineState :=
  { state with protocolVersion := version }

/-- One state, as requests of the two versions see it. -/
def Respelled (first second : EngineState) : Prop :=
  ∃ state : EngineState,
    first = state.speaking version14 ∧ second = state.speaking version20

/-- The computations end alike under the two versions. -/
def SpellsAlike (first second : EngineM α) : Prop :=
  Simulates Respelled Eq Eq first second

theorem SpellsAlike.of_speaking
    {first second : EngineM α}
    (alike : ∀ state : EngineState, Alike Respelled Eq Eq
      (first.run (state.speaking version14))
      (second.run (state.speaking version20))) :
    SpellsAlike first second := by
  rintro _ _ ⟨state, rfl, rfl⟩
  exact alike state

theorem SpellsAlike.pure (value : α) :
    SpellsAlike (Pure.pure value) (Pure.pure value) :=
  Simulates.pure rfl

theorem SpellsAlike.bind
    {first second : EngineM α} {firstNext secondNext : α → EngineM β}
    (alike : SpellsAlike first second)
    (next : ∀ value, SpellsAlike (firstNext value) (secondNext value)) :
    SpellsAlike (first >>= firstNext) (second >>= secondNext) := by
  apply Simulates.bind alike
  rintro value _ rfl
  exact next value

theorem SpellsAlike.raiseIf
    {condition : Prop} [Decidable condition] {exception : PyError} :
    SpellsAlike (StatefulExcept.raiseIf condition exception)
      (StatefulExcept.raiseIf condition exception) :=
  Simulates.raiseIf rfl

theorem SpellsAlike.fromExcept
    {first second : Except PyError α} (same : second = first) :
    SpellsAlike (StatefulExcept.fromExcept first)
      (StatefulExcept.fromExcept second) := by
  rw [same]
  cases first with
  | ok value => exact .pure value
  | error exception => exact Simulates.raise rfl

/-- What follows may read every field of the state but the version. -/
theorem SpellsAlike.get
    {first second : EngineState → EngineM α}
    (alike : ∀ state : EngineState,
      SpellsAlike (first (state.speaking version14))
        (second (state.speaking version20))) :
    SpellsAlike (MonadState.get >>= first) (MonadState.get >>= second) := by
  apply SpellsAlike.of_speaking
  intro state
  exact alike state _ _ ⟨state, rfl, rfl⟩

theorem SpellsAlike.ite
    {condition : Prop} [Decidable condition]
    {firstYes firstNo secondYes secondNo : EngineM α}
    (yes : SpellsAlike firstYes secondYes)
    (no : SpellsAlike firstNo secondNo) :
    SpellsAlike (if condition then firstYes else firstNo)
      (if condition then secondYes else secondNo) :=
  Simulates.ite (fun _ => yes) fun _ => no

theorem SpellsAlike.kmipVersionSupported (operation : String) :
    SpellsAlike (PyKMIP.kmipVersionSupported ⟨1, 0⟩ operation)
      (PyKMIP.kmipVersionSupported ⟨1, 0⟩ operation) := by
  apply SpellsAlike.get
  intro state
  apply SpellsAlike.of_speaking
  intro other
  rw [run_raiseIf, run_raiseIf, if_neg, if_neg]
  · exact .ok rfl ⟨other, rfl, rfl⟩
  · exact not_not.mpr (by decide : (⟨1, 0⟩ : ProtocolVersion) ≤ version20)
  · exact not_not.mpr (by decide : (⟨1, 0⟩ : ProtocolVersion) ≤ version14)

variable (world : World)

theorem SpellsAlike.getObjectWithAccessControls
    (uniqueIdentifier : Option String) (operation : Operation) :
    SpellsAlike
      (PyKMIP.getObjectWithAccessControls world uniqueIdentifier operation)
      (PyKMIP.getObjectWithAccessControls world uniqueIdentifier operation) := by
  apply SpellsAlike.of_speaking
  intro state
  rw [run_getObjectWithAccessControls, run_getObjectWithAccessControls]
  exact SpellsAlike.fromExcept rfl _ _ ⟨state, rfl, rfl⟩

theorem SpellsAlike.addObject (managedObject : ManagedObject) :
    SpellsAlike (PyKMIP.addObject managedObject)
      (PyKMIP.addObject managedObject) := by
  apply SpellsAlike.of_speaking
  intro state
  exact .ok rfl
    ⟨{ state with dataStore := state.dataStore.add managedObject }, rfl, rfl⟩

theorem SpellsAlike.commitSession :
    SpellsAlike PyKMIP.commitSession PyKMIP.commitSession := by
  apply SpellsAlike.of_speaking
  intro state
  rw [run_commitSession, run_commitSession]
  have first : (state.speaking version14).dataStore = state.dataStore := rfl
  have second : (state.speaking version20).dataStore = state.dataStore := rfl
  rw [first, second]
  rcases state.dataStore.commit with ⟨outcome, flushed⟩
  cases outcome with
  | ok _ => exact .ok rfl ⟨{ state with dataStore := flushed }, rfl, rfl⟩
  | error exception =>
      exact .error rfl ⟨{ state with dataStore := flushed }, rfl, rfl⟩

theorem SpellsAlike.setIdPlaceholder (uniqueIdentifier : Option String) :
    SpellsAlike (PyKMIP.setIdPlaceholder uniqueIdentifier)
      (PyKMIP.setIdPlaceholder uniqueIdentifier) := by
  apply SpellsAlike.of_speaking
  intro state
  exact .ok rfl ⟨{ state with idPlaceholder := uniqueIdentifier }, rfl, rfl⟩

theorem SpellsAlike.storeInBarbican (managedObject : ManagedObject) :
    SpellsAlike (PyKMIP.storeInBarbican world managedObject)
      (PyKMIP.storeInBarbican world managedObject) := by
  apply SpellsAlike.ite
  · apply SpellsAlike.bind _ fun _ => .pure _
    apply SpellsAlike.of_speaking
    intro state
    rw [run_createSecret, run_createSecret]
    cases world.createdSecret with
    | none => exact .error rfl ⟨state, rfl, rfl⟩
    | some secretRef =>
        exact .ok rfl ⟨{ state with
          barbican := state.barbican.createSecret secretRef
            managedObject.value }, rfl, rfl⟩
  · exact .pure _

theorem SpellsAlike.derivationObjects (uniqueIdentifiers : List String) :
    SpellsAlike (PyKMIP.derivationObjects world uniqueIdentifiers)
      (PyKMIP.derivationObjects world uniqueIdentifiers) := by
  induction uniqueIdentifiers with
  | nil => exact .pure _
  | cons uniqueIdentifier rest ih =>
      exact .bind (.getObjectWithAccessControls world _ _) fun _ =>
        .bind .raiseIf fun _ => .bind (.fromExcept rfl) fun _ =>
        .bind .raiseIf fun _ => .bind ih fun _ => .pure _

/-- Adding one object and leaving its identifier behind. -/
theorem SpellsAlike.store
    (managedObject : ManagedObject) (reply : Nat → ResponsePayload) :
    SpellsAlike
      (PyKMIP.addObject managedObject >>= fun key =>
        PyKMIP.commitSession >>= fun _ =>
        PyKMIP.setIdPlaceholder (some (toString key)) >>= fun _ =>
        Pure.pure (reply key))
      (PyKMIP.addObject managedObject >>= fun key =>
        PyKMIP.commitSession >>= fun _ =>
        PyKMIP.setIdPlaceholder (some (toString key)) >>= fun _ =>
        Pure.pure (reply key)) :=
  .bind (.addObject managedObject) fun _ => .bind .commitSession fun _ =>
    .bind (.setIdPlaceholder _) fun _ => .pure _

end Versions

section Handlers

variable (world : World) {first second : α → TemplateAttribute}

theorem processOptionalTemplate_alike
    {structures : Option α}
    (same : ∀ attributes ∈ structures,
      processTemplateAttribute version20 (second attributes) =
        processTemplateAttribute version14 (first attributes)) :
    processOptionalTemplate version20 (structures.map second) =
      processOptionalTemplate version14 (structures.map first) := by
  cases structures with
  | none => rfl
  | some attributes => exact same attributes rfl

/-- Templates that are processed alike make requests that end alike. -/
theorem CreationRequest.alike
    (request : CreationRequest α)
    (same : ∀ attributes ∈ request.structures,
      processTemplateAttribute version20 (second attributes) =
        processTemplateAttribute version14 (first attributes)) :
    SpellsAlike (processOperation world (request.payload first))
      (processOperation world (request.payload second)) := by
  cases request with
  | create objectType attributes =>
      have template := processOptionalTemplate_alike
        fun entries member => same entries (Option.mem_toList.mpr member)
      exact .bind (.kmipVersionSupported _) fun _ => .bind .raiseIf fun _ =>
        .get fun _ => .bind (.fromExcept template) fun _ =>
        .bind (.fromExcept rfl) fun _ => .bind (.fromExcept rfl) fun _ =>
        .bind (.fromExcept rfl) fun _ => .bind (.storeInBarbican world _)
        fun _ => .bind (.fromExcept rfl) fun _ => .store _ _
  | createKeyPair common privateKey publicKey =>
      have publicTemplate := processOptionalTemplate_alike fun entries member =>
        same entries (List.mem_append_right _ (Option.mem_toList.mpr member))
      have privateTemplate := processOptionalTemplate_alike fun entries member =>
        same entries (List.mem_append_left _
          (List.mem_append_right _ (Option.mem_toList.mpr member)))
      have commonTemplate := processOptionalTemplate_alike fun entries member =>
        same entries (List.mem_append_left _
          (List.mem_append_left _ (Option.mem_toList.mpr member)))
      exact .bind (.kmipVersionSupported _) fun _ => .get fun _ =>
        .bind (.fromExcept publicTemplate) fun _ =>
        .bind (.fromExcept privateTemplate) fun _ =>
        .bind (.fromExcept commonTemplate) fun _ =>
        .bind (.fromExcept rfl) fun _ => .bind (.fromExcept rfl) fun _ =>
        .bind .raiseIf fun _ => .bind .raiseIf fun _ =>
        .bind (.fromExcept rfl) fun _ => .bind (.fromExcept rfl) fun _ =>
        .bind (.fromExcept rfl) fun _ => .bind (.fromExcept rfl) fun _ =>
        .bind (.fromExcept rfl) fun _ => .bind (.addObject _) fun _ =>
        .bind (.addObject _) fun _ => .bind .commitSession fun _ =>
        .bind (.setIdPlaceholder _) fun _ => .pure _
  | register objectType attributes managedObject =>
      have template := processOptionalTemplate_alike
        fun entries member => same entries (Option.mem_toList.mpr member)
      exact .bind (.kmipVersionSupported _) fun _ => .bind .raiseIf fun _ =>
        .bind (.fromExcept rfl) fun _ => .get fun _ =>
        .bind (.fromExcept template) fun _ => .bind (.fromExcept rfl) fun _ =>
        .bind (.fromExcept rfl) fun _ => .store _ _
  | deriveKey objectType uniqueIdentifiers derivationMethod
      derivationParameters attributes =>
      have template := processOptionalTemplate_alike
        fun entries member => same entries (Option.mem_toList.mpr member)
      exact .bind (.kmipVersionSupported _) fun _ => .get fun _ =>
        .bind (.fromExcept template) fun _ => .bind .raiseIf fun _ =>
        .bind .raiseIf fun _ => .bind (.derivationObjects world _) fun _ =>
        .bind (.fromExcept rfl) fun _ => .bind (.fromExcept rfl) fun _ =>
        .bind (.fromExcept rfl) fun _ => .bind (.fromExcept rfl) fun _ =>
        .bind (.fromExcept rfl) fun _ => .bind (.fromExcept rfl) fun _ =>
        .store _ _

variable {world} {template : α → TemplateAttribute}

theorem processOptionalTemplate_ok
    {version : ProtocolVersion} {structures : Option α}
    {values : ObjectAttributes}
    (processed : processOptionalTemplate version (structures.map template) =
      .ok values) :
    ∀ attributes ∈ structures, ∃ values,
      processTemplateAttribute version (template attributes) = .ok values := by
  rintro attributes member
  cases member
  exact ⟨values, processed⟩

/-- A request that succeeds has processed all of its templates. -/
theorem CreationRequest.processed
    {request : CreationRequest α} {before after : EngineState}
    {response : ResponsePayload}
    (ran : (processOperation world (request.payload template)).run before =
      .ok response after) :
    ∀ attributes ∈ request.structures, ∃ values,
      processTemplateAttribute before.protocolVersion (template attributes) =
        .ok values := by
  rw [processOperation_follows world _ before] at ran
  cases request with
  | create objectType attributes =>
      obtain ⟨_, ran⟩ := Plan.run_refuseIf_ok (Plan.run_supportedSince_ok ran)
      obtain ⟨_, processed, _⟩ := Plan.run_ofExcept_ok ran
      exact fun entries member =>
        processOptionalTemplate_ok processed entries (Option.mem_toList.mp member)
  | createKeyPair common privateKey publicKey =>
      obtain ⟨_, publicly, ran⟩ :=
        Plan.run_ofExcept_ok (Plan.run_supportedSince_ok ran)
      obtain ⟨_, privately, ran⟩ := Plan.run_ofExcept_ok ran
      obtain ⟨_, commonly, _⟩ := Plan.run_ofExcept_ok ran
      intro entries member
      rcases List.mem_append.mp member with member | member
      · rcases List.mem_append.mp member with member | member
        · exact processOptionalTemplate_ok commonly entries
            (Option.mem_toList.mp member)
        · exact processOptionalTemplate_ok privately entries
            (Option.mem_toList.mp member)
      · exact processOptionalTemplate_ok publicly entries
          (Option.mem_toList.mp member)
  | register objectType attributes managedObject =>
      obtain ⟨_, ran⟩ := Plan.run_refuseIf_ok (Plan.run_supportedSince_ok ran)
      obtain ⟨_, _, ran⟩ := Plan.run_ofExcept_ok ran
      obtain ⟨_, processed, _⟩ := Plan.run_ofExcept_ok ran
      exact fun entries member =>
        processOptionalTemplate_ok processed entries (Option.mem_toList.mp member)
  | deriveKey objectType uniqueIdentifiers derivationMethod
      derivationParameters attributes =>
      obtain ⟨_, processed, _⟩ :=
        Plan.run_ofExcept_ok (Plan.run_supportedSince_ok ran)
      exact fun entries member =>
        processOptionalTemplate_ok processed entries (Option.mem_toList.mp member)

end Handlers

section Agreement

/-- The response to a message and the state that it leaves, if it can be decoded
and its item succeeds. -/
def served (world : World) (version : ProtocolVersion)
    (message : Option RequestPayload) (state : EngineState) :
    Option (ResponsePayload × EngineState) :=
  message.bind fun payload =>
    match (processOperation world payload).run (state.speaking version) with
    | .ok response after => some (response, after)
    | .error _ _ => none

namespace CreationRequest

variable (world : World) (state : EngineState)
  (request : CreationRequest (List Attribute))

/-- Both messages fail, or both succeed and leave the same store. -/
def Agrees : Prop :=
  match served world version14 request.named state,
      served world version20 request.tagged state with
  | none, none => True
  | some (response, after), some (otherResponse, otherAfter) =>
      otherResponse = response ∧ otherAfter.dataStore = after.dataStore ∧
        otherAfter.barbican = after.barbican
  | _, _ => False

/-- The server accepts the request as a 1.4 message. -/
def Accepted : Prop := (served world version14 request.named state).isSome

variable {world state request} {entries : List Attribute}

theorem createAttributeValue_of_byEnum
    {attributeName : AttributeName}
    (decodes : createAttributeValueByEnum attributeName = true) :
    createAttributeValue attributeName = true := by
  cases attributeName with
  | other text unlisted => cases decodes
  | _ => revert decodes; decide

/-- The values that `Attributes.read` does not decode. -/
theorem undecoded_of_byEnum
    {attributeName : AttributeName}
    (fails : createAttributeValueByEnum attributeName = false) :
    attributeName ∈ removedAttributes ∨ attributeName = .certificateType ∨
      createAttributeValue attributeName = false ∨
      ∃ text unlisted, attributeName = .other text unlisted := by
  cases attributeName with
  | other text unlisted => exact .inr (.inr (.inr ⟨text, unlisted, rfl⟩))
  | certificateType => exact .inr (.inl rfl)
  | operationPolicyName | customAttribute | certificateIdentifier
  | certificateSubject | certificateIssuer => exact .inl (by decide)
  | _ => exact .inr (.inr (.inl (by revert fails; decide)))

theorem readTemplateAttribute_of_decodes
    (decodes : ∀ entry ∈ entries, createAttributeValue entry.attributeName) :
    readTemplateAttribute entries = some { attributes := entries } :=
  if_pos decodes

theorem readAttributes_isSome_iff :
    (readAttributes (entries.map Attribute.tagged)).isSome = true ↔
      ∀ entry ∈ entries,
        createAttributeValueByEnum entry.attributeName = true := by
  unfold readAttributes
  split
  · rename_i decodes
    exact ⟨fun _ => List.forall_mem_map.mp decodes, fun _ => rfl⟩
  · rename_i fails
    exact ⟨nofun, fun decodes => absurd (List.forall_mem_map.mpr decodes) fails⟩

theorem readAttributes_of_isSome
    (decodes : (readAttributes (entries.map Attribute.tagged)).isSome = true) :
    readAttributes (entries.map Attribute.tagged) =
      some (convertAttributesToTemplateAttribute
        (entries.map Attribute.tagged)) := by
  unfold readAttributes at *
  split at decodes
  · exact if_pos ‹_›
  · cases decodes

/-- What a message that succeeds has decoded and processed. -/
theorem of_served_read
    {decode : α → Option TemplateAttribute} {message : CreationRequest α}
    {version : ProtocolVersion} {outcome : ResponsePayload × EngineState}
    (serves : served world version (message.read decode) state =
      some outcome) :
    ∀ attributes ∈ message.structures, ∃ template values,
      decode attributes = some template ∧
      processTemplateAttribute version template = .ok values := by
  intro attributes member
  unfold served read at serves
  split at serves
  · rename_i decodes
    obtain ⟨template, decoded⟩ :=
      Option.isSome_iff_exists.mp (decodes attributes member)
    rw [Option.bind_some] at serves
    split at serves
    · rename_i ran
      obtain ⟨values, processed⟩ := CreationRequest.processed ran attributes
        member
      rw [decoded] at processed
      exact ⟨template, values, decoded, processed⟩
    · cases serves
  · cases serves

theorem decodes_of_served
    {outcome : ResponsePayload × EngineState}
    (serves : served world version20 request.tagged state = some outcome) :
    ∀ entries ∈ request.structures,
      (readAttributes (entries.map Attribute.tagged)).isSome = true := by
  intro entries member
  obtain ⟨template, _, decoded, _⟩ := of_served_read serves entries member
  rw [decoded]
  rfl

/-- What version 2.0 serves loses nothing. -/
theorem convertible_of_served
    {outcome : ResponsePayload × EngineState}
    (serves : served world version20 request.tagged state = some outcome) :
    ∀ entries ∈ request.structures, Convertible entries := by
  intro entries member
  obtain ⟨template, values, decoded, processed⟩ :=
    of_served_read serves entries member
  have decodes := decodes_of_served serves entries member
  rw [readAttributes_of_isSome decodes] at decoded
  cases decoded
  constructor
  · by_contra repeated
    obtain ⟨exception, refused⟩ :=
      processTemplateAttribute_refuses entries repeated
    rw [refused] at processed
    cases processed
  · intro typed
    obtain ⟨entry, listed, named⟩ := List.mem_map.mp typed
    have byEnum := readAttributes_isSome_iff.mp decodes entry listed
    rw [named] at byEnum
    cases byEnum

/-- What version 2.0 cannot decode is not served in version 1.4 either. -/
theorem decodes_of_accepted
    (expressible : ∀ entries ∈ request.structures, ∀ entry ∈ entries,
      entry.attributeName ∉ removedAttributes)
    (convertible : ∀ entries ∈ request.structures, Convertible entries)
    {outcome : ResponsePayload × EngineState}
    (serves : served world version14 request.named state = some outcome) :
    ∀ entries ∈ request.structures,
      (readAttributes (entries.map Attribute.tagged)).isSome = true := by
  intro entries member
  obtain ⟨template, values, decoded, processed⟩ :=
    of_served_read serves entries member
  rw [readAttributes_isSome_iff]
  intro entry listed
  by_contra undecoded
  unfold readTemplateAttribute at decoded
  split at decoded
  · rename_i decodes
    cases decoded
    rcases undecoded_of_byEnum (Bool.not_eq_true _ ▸ undecoded) with
      removed | typed | unimplemented | ⟨text, unlisted, named⟩
    · exact expressible entries member entry listed removed
    · apply (convertible entries member).decodes
      rw [← typed]
      exact List.mem_map_of_mem listed
    · rw [decodes entry listed] at unimplemented
      cases unimplemented
    · obtain ⟨exception, refused⟩ := processTemplateAttribute_unlisted
        version14 entries listed named
      rw [refused] at processed
      cases processed
  · cases decoded

/-- Requests whose structures decode and lose nothing are served alike. -/
theorem agrees_of_convertible
    (indexed : ∀ entries ∈ request.structures, WellIndexed entries)
    (convertible : ∀ entries ∈ request.structures, Convertible entries)
    (decodes : ∀ entries ∈ request.structures,
      (readAttributes (entries.map Attribute.tagged)).isSome = true) :
    request.Agrees world state := by
  have named : ∀ entries ∈ request.structures,
      readTemplateAttribute entries = some { attributes := entries } :=
    fun entries member => readTemplateAttribute_of_decodes fun entry listed =>
      createAttributeValue_of_byEnum
        (readAttributes_isSome_iff.mp (decodes entries member) entry listed)
  have same : ∀ entries ∈ request.structures,
      processTemplateAttribute version20
          ((readAttributes (entries.map Attribute.tagged)).getD {}) =
        processTemplateAttribute version14
          ((readTemplateAttribute entries).getD {}) := by
    intro entries member
    rw [named entries member, readAttributes_of_isSome (decodes entries member)]
    exact processTemplateAttribute_unindexed (convertible entries member)
      (indexed entries member)
  have alike := request.alike world same _ _ ⟨state, rfl, rfl⟩
  unfold Agrees served CreationRequest.named CreationRequest.tagged read
  rw [if_pos (by
    intro entries member
    rw [named entries member]
    rfl), if_pos decodes, Option.bind_some, Option.bind_some]
  revert alike
  generalize (processOperation world _).run (state.speaking version14) = first
  generalize (processOperation world _).run (state.speaking version20) = second
  intro alike
  cases alike with
  | ok values states =>
      obtain ⟨shared, rfl, rfl⟩ := states
      cases values
      exact ⟨rfl, rfl, rfl⟩
  | error exceptions states => trivial

end CreationRequest

/-- The spellings of a request that version 1.4 accepts agree exactly when the
structure of version 2.0 can carry its attributes. -/
theorem spellings_agree_iff
    (world : World) (state : EngineState)
    (request : CreationRequest (List Attribute))
    (indexed : ∀ entries ∈ request.structures, WellIndexed entries)
    (expressible : ∀ entries ∈ request.structures, ∀ entry ∈ entries,
      entry.attributeName ∉ removedAttributes) :
    request.Agrees world state ↔
      (request.Accepted world state →
        ∀ entries ∈ request.structures, Convertible entries) := by
  constructor
  · intro agrees accepted
    unfold CreationRequest.Agrees at agrees
    obtain ⟨outcome, accepts⟩ := Option.isSome_iff_exists.mp accepted
    rw [accepts] at agrees
    cases serves : served world version20 request.tagged state with
    | none =>
        rw [serves] at agrees
        cases agrees
    | some other => exact CreationRequest.convertible_of_served serves
  · intro lossless
    cases accepts : served world version14 request.named state with
    | none =>
        cases serves : served world version20 request.tagged state with
        | none =>
            unfold CreationRequest.Agrees
            rw [accepts, serves]
            trivial
        | some other =>
            exact CreationRequest.agrees_of_convertible indexed
              (CreationRequest.convertible_of_served serves)
              (CreationRequest.decodes_of_served serves)
    | some outcome =>
        have convertible := lossless (by
          unfold CreationRequest.Accepted
          rw [accepts]
          rfl)
        exact CreationRequest.agrees_of_convertible indexed convertible
          (CreationRequest.decodes_of_accepted expressible convertible accepts)

end Agreement

section Samples

/-- A request for a symmetric key with names, which are numbered in the 1.x
form. -/
def namedCreation (names : List String) : CreationRequest (List Attribute) :=
  .create .symmetricKey (some
    ([{ attributeName := .cryptographicAlgorithm
        attributeValue := .cryptographicAlgorithm .aes },
      { attributeName := .cryptographicLength
        attributeValue := .integer 128 },
      { attributeName := .cryptographicUsageMask
        attributeValue := .integer 12 }] ++
    names.zipIdx.map fun (nameValue, index) =>
      { attributeName := .name
        attributeIndex := some index
        attributeValue := .name {
          nameValue := nameValue
          nameType := .uninterpretedTextString } }))

def sampleState : EngineState :=
  (newEngine .empty []).entering ⟨1, 2⟩ { user := some "alice" }

/-- One name means the same in both forms. -/
theorem spellings_agree_iff_oneName :
    (namedCreation ["first"]).Agrees sampleWorld sampleState :=
  (spellings_agree_iff _ _ _ (by decide) (by decide)).mpr fun _ => by decide

/-- Two names are accepted in version 1.4 and refused in version 2.0. -/
theorem spellings_disagree :
    ¬∀ (world : World) (state : EngineState)
      (request : CreationRequest (List Attribute)),
      (∀ entries ∈ request.structures, WellIndexed entries) →
      (∀ entries ∈ request.structures, ∀ entry ∈ entries,
        entry.attributeName ∉ removedAttributes) →
      request.Agrees world state := by
  intro agree
  have agrees := agree sampleWorld sampleState
    (namedCreation ["first", "second"]) (by decide) (by decide)
  have accepted : (served sampleWorld version14
      (namedCreation ["first", "second"]).named sampleState).isSome = true := by
    decide
  have refused : served sampleWorld version20
      (namedCreation ["first", "second"]).tagged sampleState = none := by
    decide
  obtain ⟨outcome, accepts⟩ := Option.isSome_iff_exists.mp accepted
  unfold CreationRequest.Agrees at agrees
  rw [accepts, refused] at agrees
  exact agrees

end Samples

end PyKMIP
