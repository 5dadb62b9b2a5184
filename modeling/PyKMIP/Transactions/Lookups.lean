import PyKMIP.Transactions.Refinement

/-!
# What a successful item has looked up

A plan has no way round its lookups, so an item that succeeds has found every
object that it needs, and has checked every key that it uses.
-/

namespace PyKMIP

open EStateM StatefulExcept

section Inversions

variable {world : World} {context : ItemContext} {payload : RequestPayload}
  {before after : EngineState} {response : ResponsePayload}

theorem Plan.run_ofExcept_ok
    {outcome : Except PyError α} {next : α → Plan context payload}
    (ran : (Plan.ofExcept outcome next).run world before =
      .ok response after) :
    ∃ value, outcome = .ok value ∧
      (next value).run world before = .ok response after :=
  Plan.run_ofExcept_ok_iff.mp ran

theorem Plan.run_refuseIf_ok
    {condition : Prop} [Decidable condition] {exception : PyError}
    {plan : Plan context payload}
    (ran : (Plan.refuseIf condition exception plan).run world before =
      .ok response after) :
    ¬condition ∧ plan.run world before = .ok response after :=
  Plan.run_refuseIf_ok_iff.mp ran

theorem Plan.run_reply_ok
    {reads : readingOperations.contains payload.operation}
    {reply : ResponsePayload}
    (ran : (Plan.reply reads reply : Plan context payload).run world before =
      .ok response after) : response = reply := by
  obtain ⟨replies, _⟩ := EStateM.Result.ok.inj
    (show EStateM.Result.ok _ _ = EStateM.Result.ok _ _ from ran)
  exact replies.symm

theorem Plan.run_supportedSince_ok
    {supported : ProtocolVersion} {operation : String}
    {plan : Plan context payload}
    (ran : (Plan.supportedSince supported operation plan).run world before =
      .ok response after) :
    plan.run world before = .ok response after :=
  (Plan.run_refuseIf_ok ran).2

theorem Plan.run_lookup_ok
    {uniqueIdentifier : Option String} {disguise : Option PyError}
    {next : StoredObject → Plan context payload}
    (ran : (Plan.lookup uniqueIdentifier disguise next).run world before =
      .ok response after) :
    ∃ storedObject,
      access world before uniqueIdentifier payload.accessCode =
        .ok storedObject ∧
      (next storedObject).run world before = .ok response after := by
  rw [Plan.run] at ran
  split at ran
  · exact ⟨_, ‹_›, ran⟩
  · cases ran

theorem Plan.run_update_ok
    {writes : writingOperations.contains payload.operation}
    {decide : (target : StoredObject) → Except PyError (Update payload target)}
    (ran : (Plan.update writes decide : Plan context payload).run world before =
      .ok response after) :
    ∃ storedObject, access world before (context.target payload)
      payload.accessCode = .ok storedObject := by
  rw [Plan.run] at ran
  split at ran
  · cases ran
  · exact ⟨_, ‹_›⟩

end Inversions

section Needs

/-- The identifier of the key that the object of a Get is wrapped with. -/
def GetRequestPayload.wrappingKey (payload : GetRequestPayload) :
    Option (Option String) :=
  (payload.keyWrappingSpecification.bind
    KeyWrappingSpecification.encryptionKeyInformation).map
      KeyInformation.uniqueIdentifier

/-- The identifiers of the existing objects that an item cannot do without. -/
def ItemContext.needs (context : ItemContext) :
    RequestPayload → List (Option String)
  | .create _ | .createKeyPair _ | .register _ | .locate _ | .query _
  | .discoverVersions _ | .unsupported _ _ => []
  | .deriveKey payload => payload.uniqueIdentifiers.map some
  | .get payload =>
      context.target (.get payload) :: payload.wrappingKey.toList
  | payload => [context.target payload]

/-- The keys that an item uses, and the bit of the usage mask for each use. -/
def ItemContext.keyUses (context : ItemContext) :
    RequestPayload → List (Option String × CryptographicUsageMask)
  | .encrypt payload => [(context.target (.encrypt payload), .encrypt)]
  | .decrypt payload => [(context.target (.decrypt payload), .decrypt)]
  | .sign payload => [(context.target (.sign payload), .sign)]
  | .signatureVerify payload =>
      [(context.target (.signatureVerify payload), .verify)]
  | .mac payload => [(context.target (.mac payload), .macGenerate)]
  | .get payload => payload.wrappingKey.toList.map (·, .wrapKey)
  | _ => []

/-- An active key with a bit in its usage mask. -/
def ManagedObject.Usable (managedObject : ManagedObject)
    (mask : CryptographicUsageMask) : Prop :=
  managedObject.state? = some .active ∧
    ∃ masks, managedObject.cryptographicUsageMasks? = some masks ∧ mask ∈ masks

theorem getattr_eq_ok
    {field : Option α} {value : α} (present : getattr field = .ok value) :
    field = some value := by
  cases field with
  | none => cases present
  | some actual =>
      cases present
      rfl

/-- The two checks that every use of a key makes. -/
theorem usable_of_checks
    {managedObject : ManagedObject} {mask : CryptographicUsageMask}
    {notActive maskMissing : PyError} {rest : Except PyError α} {result : α}
    (checked : (do
      let state ← getattr managedObject.state?
      if state ≠ State.active then throw notActive
      let masks ← getattr managedObject.cryptographicUsageMasks?
      if mask ∉ masks then throw maskMissing
      rest) = .ok result) :
    managedObject.Usable mask := by
  obtain ⟨state, stateful, checked⟩ := except_bind_ok_iff.mp checked
  split at checked
  · cases checked
  · rename_i isActive
    obtain ⟨masks, masked, checked⟩ := except_bind_ok_iff.mp checked
    split at checked
    · cases checked
    · rename_i hasMask
      exact ⟨(getattr_eq_ok stateful).trans
        (congrArg some (not_not.mp isActive)), masks,
        getattr_eq_ok masked, not_not.mp hasMask⟩

theorem checkKeyUse_usable
    {use : KeyUse} {cryptographicParameters : Option CryptographicParameters}
    {managedObject : ManagedObject} {parameters : CryptographicParameters}
    (checked : checkKeyUse use cryptographicParameters managedObject =
      .ok parameters) :
    managedObject.Usable use.mask := by
  unfold checkKeyUse at checked
  cases cryptographicParameters with
  | none => cases checked
  | some given =>
      simp only at checked
      split at checked
      · cases checked
      · exact usable_of_checks checked

theorem checkMacUse_usable
    {payload : MACRequestPayload} {managedObject : ManagedObject}
    {result : CryptographicAlgorithm × Bytes}
    (checked : checkMacUse payload managedObject = .ok result) :
    managedObject.Usable .macGenerate := by
  unfold checkMacUse at checked
  simp only at checked
  split at checked
  · cases checked
  · split at checked
    · cases checked
    · split at checked
      · cases checked
      · exact usable_of_checks checked

theorem checkWrappingKey_usable
    {specification : KeyWrappingSpecification}
    {uniqueIdentifier : Option String} {key : ManagedObject}
    (checked : checkWrappingKey specification uniqueIdentifier key =
      .ok ()) :
    key.Usable .wrapKey := by
  unfold checkWrappingKey at checked
  simp only at checked
  split at checked
  · cases checked
  · exact usable_of_checks checked

end Needs

section Successes

/-- A lookup only replaces the value of what it has found. -/
theorem access_eq_found
    {world : World} {state : EngineState} {uniqueIdentifier : Option String}
    {operation : Operation} {loaded : StoredObject}
    (accessed : access world state uniqueIdentifier operation = .ok loaded) :
    ∃ found value, findObject world state uniqueIdentifier = some found ∧
      loaded = { found with
        managedObject := { found.managedObject with value := value } } ∧
      isPermitted world state.clientIdentity operation
        found.managedObject = true := by
  obtain ⟨found, located, copied, permitted⟩ := access_eq_ok accessed
  unfold loadedCopy retrievedCopy at copied
  split at copied
  · split at copied
    · split at copied
      · obtain ⟨value, _, returned⟩ := except_bind_ok_iff.mp copied
        cases returned
        exact ⟨found, value, located, rfl, permitted⟩
      · cases copied
    · cases copied
      exact ⟨loaded, loaded.managedObject.value, located, rfl, permitted⟩
  · cases copied
    exact ⟨loaded, loaded.managedObject.value, located, rfl, permitted⟩

variable {world : World} {before after : EngineState}
  {response : ResponsePayload}

/-- The handlers that look one object up and check it. -/
theorem Plan.run_checkedLookup_ok
    {payload : RequestPayload} {context : ItemContext}
    {supported : ProtocolVersion} {operation : String}
    {uniqueIdentifier : Option String} {check : ManagedObject → Except PyError α}
    {next : StoredObject → α → Plan context payload}
    (ran : (Plan.supportedSince supported operation <|
        .lookup uniqueIdentifier none fun storedObject =>
        .ofExcept (check storedObject.managedObject) (next storedObject)).run
      world before = .ok response after) :
    ∃ storedObject value,
      access world before uniqueIdentifier payload.accessCode =
        .ok storedObject ∧
      check storedObject.managedObject = .ok value := by
  obtain ⟨storedObject, accessed, ran⟩ :=
    Plan.run_lookup_ok (Plan.run_supportedSince_ok ran)
  obtain ⟨value, checked, _⟩ := Plan.run_ofExcept_ok ran
  exact ⟨storedObject, value, accessed, checked⟩

theorem planWrapping_ok
    {context : ItemContext} {payload : GetRequestPayload}
    {specification : KeyWrappingSpecification} {managedObject : ManagedObject}
    {reply : CoreSecret → ResponsePayload}
    (ran : (planWrapping world specification managedObject reply :
      Plan context (.get payload)).run world before = .ok response after) :
    ∃ information key,
      specification.encryptionKeyInformation = some information ∧
      access world before information.uniqueIdentifier .get = .ok key ∧
      checkWrappingKey specification information.uniqueIdentifier
        key.managedObject = .ok () := by
  obtain ⟨_, ran⟩ := Plan.run_refuseIf_ok ran
  split at ran
  · rename_i information given
    obtain ⟨key, accessed, ran⟩ := Plan.run_lookup_ok ran
    obtain ⟨_, checked, _⟩ := Plan.run_ofExcept_ok ran
    exact ⟨information, key, given, accessed, checked⟩
  · cases ran

theorem planGet_ok
    {context : ItemContext} {payload : GetRequestPayload}
    (ran : (planGet world context payload).run world before =
      .ok response after) :
    (∃ storedObject, access world before (context.target (.get payload)) .get =
      .ok storedObject) ∧
    ∀ uniqueIdentifier ∈ payload.wrappingKey, ∃ key,
      access world before uniqueIdentifier .get = .ok key ∧
      key.managedObject.Usable .wrapKey := by
  obtain ⟨_, ran⟩ := Plan.run_refuseIf_ok (Plan.run_supportedSince_ok ran)
  obtain ⟨storedObject, accessed, ran⟩ := Plan.run_lookup_ok ran
  obtain ⟨_, _, ran⟩ := Plan.run_ofExcept_ok ran
  refine ⟨⟨storedObject, accessed⟩, ?_⟩
  unfold GetRequestPayload.wrappingKey
  cases specified : payload.keyWrappingSpecification with
  | none => exact nofun
  | some specification =>
      rw [specified] at ran
      obtain ⟨information, key, given, accessed, checked⟩ := planWrapping_ok ran
      intro uniqueIdentifier named
      rw [Option.bind_some, given] at named
      cases named
      exact ⟨key, accessed, checkWrappingKey_usable checked⟩

theorem planSources_ok
    {context : ItemContext} {payload : DeriveKeyRequestPayload}
    (uniqueIdentifiers : List String)
    {next : List StoredObject → Plan context (.deriveKey payload)}
    (ran : (planSources uniqueIdentifiers next).run world before =
      .ok response after) :
    ∃ storedObjects,
      List.Forall₂ (fun uniqueIdentifier storedObject =>
        access world before (some uniqueIdentifier) .get = .ok storedObject ∧
          storedObject.managedObject.objectType ∈ derivableTypes)
        uniqueIdentifiers storedObjects ∧
      (next storedObjects).run world before = .ok response after := by
  induction uniqueIdentifiers generalizing next with
  | nil => exact ⟨[], .nil, ran⟩
  | cons uniqueIdentifier rest ih =>
      obtain ⟨storedObject, accessed, ran⟩ := Plan.run_lookup_ok ran
      obtain ⟨suitable, ran⟩ := Plan.run_refuseIf_ok ran
      obtain ⟨_, _, ran⟩ := Plan.run_ofExcept_ok ran
      obtain ⟨_, ran⟩ := Plan.run_refuseIf_ok ran
      obtain ⟨others, accesses, ran⟩ := ih ran
      exact ⟨storedObject :: others,
        .cons ⟨accessed, not_not.mp suitable⟩ accesses, ran⟩

theorem planDeriveKey_ok
    {context : ItemContext} {payload : DeriveKeyRequestPayload}
    (ran : (planDeriveKey world context payload).run world before =
      .ok response after) :
    ∃ storedObjects,
      List.Forall₂ (fun uniqueIdentifier storedObject =>
        access world before (some uniqueIdentifier) .get = .ok storedObject ∧
          storedObject.managedObject.objectType ∈ derivableTypes)
        payload.uniqueIdentifiers storedObjects := by
  obtain ⟨_, _, ran⟩ := Plan.run_ofExcept_ok (Plan.run_supportedSince_ok ran)
  obtain ⟨_, ran⟩ := Plan.run_refuseIf_ok ran
  obtain ⟨_, ran⟩ := Plan.run_refuseIf_ok ran
  obtain ⟨storedObjects, accesses, _⟩ := planSources_ok _ ran
  exact ⟨storedObjects, accesses⟩

/-- An item that succeeds has found every object that it needs. -/
theorem processOperation_needs
    {payload : RequestPayload}
    (ran : (processOperation world payload).run before =
      .ok response after) :
    ∀ uniqueIdentifier ∈ before.context.needs payload, ∃ storedObject,
      access world before uniqueIdentifier payload.accessCode =
        .ok storedObject := by
  rw [processOperation_follows world payload before] at ran
  have single : ∀ uniqueIdentifier,
      (∃ storedObject, access world before uniqueIdentifier
        payload.accessCode = .ok storedObject) →
      ∀ needed ∈ [uniqueIdentifier], ∃ storedObject,
        access world before needed payload.accessCode = .ok storedObject := by
    intro uniqueIdentifier accessed needed member
    rw [List.mem_singleton.mp member]
    exact accessed
  cases payload
  case deriveKey payload =>
    obtain ⟨storedObjects, accesses⟩ := planDeriveKey_ok ran
    intro needed member
    obtain ⟨uniqueIdentifier, listed, rfl⟩ := List.mem_map.mp member
    obtain ⟨position, inside, rfl⟩ := List.getElem_of_mem listed
    exact ⟨_, (accesses.get inside (accesses.length_eq ▸ inside)).1⟩
  case get payload =>
    obtain ⟨target, wrapping⟩ := planGet_ok ran
    intro needed member
    rcases List.mem_cons.mp member with rfl | wraps
    · exact target
    · obtain ⟨key, accessed, _⟩ := wrapping needed (Option.mem_toList.mp wraps)
      exact ⟨key, accessed⟩
  case revoke payload =>
    have ran := Plan.run_supportedSince_ok ran
    split at ran
    · cases ran
    · exact single _ (Plan.run_update_ok ran)
  case getAttributes | getAttributeList | encrypt | decrypt | signatureVerify |
      mac | sign =>
    obtain ⟨storedObject, accessed, _⟩ :=
      Plan.run_lookup_ok (Plan.run_supportedSince_ok ran)
    exact single _ ⟨storedObject, accessed⟩
  case deleteAttribute | activate | destroy | setAttribute | modifyAttribute =>
    exact single _ (Plan.run_update_ok (Plan.run_supportedSince_ok ran))
  all_goals exact fun _ member => absurd member List.not_mem_nil

/-- The keys of an item that succeeds are active and permit the use. -/
theorem processOperation_keyUses
    {payload : RequestPayload}
    (ran : (processOperation world payload).run before =
      .ok response after) :
    ∀ use ∈ before.context.keyUses payload, ∃ storedObject,
      access world before use.1 .get = .ok storedObject ∧
      storedObject.managedObject.Usable use.2 := by
  rw [processOperation_follows world payload before] at ran
  have single : ∀ uniqueIdentifier mask,
      (∃ storedObject, access world before uniqueIdentifier .get =
          .ok storedObject ∧ storedObject.managedObject.Usable mask) →
      ∀ use ∈ [(uniqueIdentifier, mask)], ∃ storedObject,
        access world before use.1 .get = .ok storedObject ∧
        storedObject.managedObject.Usable use.2 := by
    intro uniqueIdentifier mask usable use member
    rw [List.mem_singleton.mp member]
    exact usable
  cases payload
  case encrypt | decrypt | signatureVerify | sign =>
    obtain ⟨storedObject, parameters, accessed, checked⟩ :=
      Plan.run_checkedLookup_ok ran
    exact single _ _ ⟨storedObject, accessed, checkKeyUse_usable checked⟩
  case mac payload =>
    obtain ⟨storedObject, use, accessed, checked⟩ :=
      Plan.run_checkedLookup_ok ran
    exact single _ _ ⟨storedObject, accessed, checkMacUse_usable checked⟩
  case get payload =>
    obtain ⟨_, wrapping⟩ := planGet_ok ran
    intro use member
    obtain ⟨uniqueIdentifier, wraps, rfl⟩ := List.mem_map.mp member
    exact wrapping uniqueIdentifier (Option.mem_toList.mp wraps)
  all_goals exact fun _ member => absurd member List.not_mem_nil

theorem mem_of_mem_pageOf
    {payload : LocateRequestPayload} {values : List α} {value : α}
    (member : value ∈ pageOf payload values) : value ∈ values := by
  have sliced : ∀ first last, value ∈ slice values first last →
      value ∈ values := fun _ _ inside =>
    List.mem_of_mem_take (List.mem_of_mem_drop inside)
  unfold pageOf at member
  split at member
  · exact sliced _ _ member
  · exact sliced _ _ member
  · exact sliced _ _ member
  · exact member

theorem filterObjects_subset
    {filters : List Attribute} {values filtered : List StoredObject}
    (ran : filterObjects filters values = .ok filtered) :
    ∀ storedObject ∈ filtered, storedObject ∈ values := by
  induction values generalizing filtered with
  | nil =>
      cases ran
      exact fun _ member => member
  | cons first rest ih =>
      rw [filterObjects] at ran
      obtain ⟨matched, _, ran⟩ := except_bind_ok_iff.mp ran
      obtain ⟨others, filteredRest, returned⟩ := except_bind_ok_iff.mp ran
      cases returned
      intro storedObject member
      cases matched with
      | true =>
          rcases List.mem_cons.mp member with rfl | later
          · exact .head _
          · exact .tail _ (ih filteredRest storedObject later)
      | false => exact .tail _ (ih filteredRest storedObject member)

/-- Locate only answers with objects on which the client has the permission. -/
theorem processOperation_located
    {payload : LocateRequestPayload} {uniqueIdentifiers : List String}
    (ran : (processOperation world (.locate payload)).run before =
      .ok (.locate uniqueIdentifiers) after) :
    ∀ uniqueIdentifier ∈ uniqueIdentifiers,
      ∃ storedObject ∈ permittedObjects world before .locate,
        uniqueIdentifier = toString storedObject.uniqueIdentifier := by
  rw [processOperation_follows world (.locate payload) before] at ran
  have ran := Plan.run_supportedSince_ok ran
  rw [Plan.run] at ran
  split at ran
  · cases ran
  · obtain ⟨filtered, filters, replied⟩ := Plan.run_ofExcept_ok ran
    cases replied
    intro uniqueIdentifier member
    obtain ⟨storedObject, paged, rfl⟩ := List.mem_map.mp member
    have sorted := mem_of_mem_pageOf paged
    unfold newestFirst at sorted
    have kept := (List.mem_insertionSort _).mp sorted
    refine ⟨storedObject, ?_, rfl⟩
    split at filters
    · cases filters
      exact kept
    · exact filterObjects_subset filters storedObject kept

end Successes

end PyKMIP
