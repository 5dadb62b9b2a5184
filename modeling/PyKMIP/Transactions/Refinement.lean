import PyKMIP.Engine.Requests
import PyKMIP.Transactions.Creating
import PyKMIP.Transactions.Reading
import PyKMIP.Transactions.Writing

/-!
# What an item can do

Every handler follows its plan, so an item that fails leaves the rows alone and
an item that succeeds has read, changed or removed one object on which the
client has the permission, or has added new ones.
-/

namespace PyKMIP

open EStateM StatefulExcept

section Dispatch

variable (world : World)

def plan (context : ItemContext) :
    (payload : RequestPayload) → Plan context payload
  | .create payload => planCreate world context payload
  | .createKeyPair payload => planCreateKeyPair world context payload
  | .deleteAttribute payload => planDeleteAttribute context payload
  | .register payload => planRegister world context payload
  | .deriveKey payload => planDeriveKey world context payload
  | .locate payload => planLocate context payload
  | .get payload => planGet world context payload
  | .getAttributes payload => planGetAttributes context payload
  | .getAttributeList payload => planGetAttributeList context payload
  | .activate payload => planActivate context payload
  | .revoke payload => planRevoke context payload
  | .destroy payload => planDestroy context payload
  | .query payload => planQuery context payload
  | .discoverVersions payload => planDiscoverVersions context payload
  | .encrypt payload => planEncrypt world context payload
  | .decrypt payload => planDecrypt world context payload
  | .signatureVerify payload => planSignatureVerify world context payload
  | .setAttribute payload => planSetAttribute context payload
  | .modifyAttribute payload => planModifyAttribute context payload
  | .mac payload => planMac world context payload
  | .sign payload => planSign world context payload
  | .unsupported operation _ =>
      .refuse (operationNotSupported
        (title operation.name ++ " operation is not supported by the server."))

/-- The engine refines the plans. -/
theorem processOperation_follows
    (payload : RequestPayload) (state : EngineState) :
    Follows world state (processOperation world payload)
      (plan world state.context payload) := by
  cases payload with
  | create payload => exact processCreate_follows world payload
  | createKeyPair payload => exact processCreateKeyPair_follows world payload
  | deleteAttribute payload =>
      exact processDeleteAttribute_follows world payload
  | register payload => exact processRegister_follows world payload
  | deriveKey payload => exact processDeriveKey_follows world payload
  | locate payload => exact processLocate_follows world payload
  | get payload => exact processGet_follows world payload
  | getAttributes payload => exact processGetAttributes_follows world payload
  | getAttributeList payload =>
      exact processGetAttributeList_follows world payload
  | activate payload => exact processActivate_follows world payload
  | revoke payload => exact processRevoke_follows world payload
  | destroy payload => exact processDestroy_follows world payload
  | query payload => exact processQuery_follows world payload
  | discoverVersions payload =>
      exact processDiscoverVersions_follows world payload
  | encrypt payload => exact processEncrypt_follows world payload
  | decrypt payload => exact processDecrypt_follows world payload
  | signatureVerify payload =>
      exact processSignatureVerify_follows world payload
  | setAttribute payload => exact processSetAttribute_follows world payload
  | modifyAttribute payload =>
      exact processModifyAttribute_follows world payload
  | mac payload => exact processMac_follows world payload
  | sign payload => exact processSign_follows world payload
  | unsupported operation undispatched => exact .raise _

end Dispatch

section Outcomes

/-- Between items the session holds the committed rows. -/
def EngineState.Clean (state : EngineState) : Prop :=
  state.dataStore.session = state.dataStore.committed

/-- The rows are committed, and the rest of the engine is as it was but for the
placeholder and Barbican. -/
structure Commits (before : EngineState) (rows : Table ManagedObject)
    (after : EngineState) : Prop where
  committed : after.dataStore.committed = rows
  session : after.dataStore.session = rows
  active : after.dataStore.active = true
  protocolVersion : after.protocolVersion = before.protocolVersion
  clientIdentity : after.clientIdentity = before.clientIdentity

/-- The rows, with new ones under the next keys. -/
def addRows (rows : Table ManagedObject) (objects : List ManagedObject) :
    Table ManagedObject :=
  objects.foldl
    (fun rows managedObject =>
      rows.insert (DataStore.withColumnDefaults managedObject))
    rows

/-- What a successful item does. -/
inductive Transaction (world : World) (context : ItemContext)
    (payload : RequestPayload) (before : EngineState) :
    ResponsePayload → EngineState → Prop where
  | read (reads : readingOperations.contains payload.operation) :
      Transaction world context payload before response before
  | change (target : StoredObject) (changed : ManagedObject)
      (writes : writingOperations.contains payload.operation)
      (found : findObject world before (context.target payload) = some target)
      (permitted : isPermitted world before.clientIdentity payload.accessCode
        target.managedObject = true)
      (evolves : Evolves payload target.managedObject changed)
      (commits : Commits before
        (before.dataStore.session.update target.uniqueIdentifier
          fun _ => changed) after)
      (barbican : after.barbican = before.barbican)
      (idPlaceholder : after.idPlaceholder = before.idPlaceholder) :
      Transaction world context payload before response after
  | remove (target : StoredObject)
      (destroys : payload.operation = .destroy)
      (found : findObject world before (context.target payload) = some target)
      (permitted : isPermitted world before.clientIdentity payload.accessCode
        target.managedObject = true)
      (inactive : target.managedObject.state? ≠ some .active)
      (commits : Commits before
        (before.dataStore.session.remove target.uniqueIdentifier) after)
      (barbican : after.barbican = before.barbican)
      (idPlaceholder : after.idPlaceholder = before.idPlaceholder) :
      Transaction world context payload before response after
  | create (others : List ManagedObject) (last : ManagedObject)
      (producing : producingOperations.contains payload.operation)
      (new : ∀ managedObject ∈ others ++ [last], managedObject.IsNew)
      (commits : Commits before
        (addRows before.dataStore.session (others ++ [last])) after)
      (barbican : after.barbican = before.barbican)
      (idPlaceholder : after.idPlaceholder =
        some (toString (before.dataStore.session.next + others.length)))
      (identifies : response.producedIdentifier = after.idPlaceholder) :
      Transaction world context payload before response after
  | createSecret (value : Bytes) (secretRef : String)
      (managedObject : ManagedObject)
      (creating : payload.operation = .create)
      (new : managedObject.IsNew)
      (symmetric : managedObject.objectType = .symmetricKey)
      (refers : managedObject.value = encodeUtf8 secretRef)
      (created : world.createdSecret = some secretRef)
      (commits : Commits before
        (addRows before.dataStore.session [managedObject]) after)
      (barbican : after.barbican =
        before.barbican.createSecret secretRef value)
      (idPlaceholder : after.idPlaceholder =
        some (toString before.dataStore.session.next))
      (identifies : response.producedIdentifier = after.idPlaceholder) :
      Transaction world context payload before response after

/-- What a failed item leaves behind. -/
structure Untouched (world : World) (payload : RequestPayload)
    (before after : EngineState) : Prop where
  committed : after.dataStore.committed = before.dataStore.committed
  session : after.dataStore.session = before.dataStore.committed
  idPlaceholder : after.idPlaceholder = before.idPlaceholder
  protocolVersion : after.protocolVersion = before.protocolVersion
  clientIdentity : after.clientIdentity = before.clientIdentity
  barbican : after.barbican = before.barbican ∨
    payload.operation = .create ∧ ∃ secretRef value,
      world.createdSecret = some secretRef ∧
      after.barbican = before.barbican.createSecret secretRef value

variable {world : World} {context : ItemContext} {payload : RequestPayload}
  {before after : EngineState} {response : ResponsePayload}
  {exception : PyError}

theorem DataStore.commit_eq_ok
    {dataStore flushed : DataStore} {result : Unit}
    (committed : dataStore.commit = (.ok result, flushed)) :
    flushed.committed = dataStore.session ∧
      flushed.session = dataStore.session ∧ flushed.active = true := by
  unfold DataStore.commit at committed
  split at committed
  · cases committed
  · rename_i active
    split at committed
    · cases committed
      exact ⟨rfl, rfl, by simpa using active⟩
    · cases committed

theorem DataStore.commit_eq_error
    {dataStore dropped : DataStore}
    (failed : dataStore.commit = (.error exception, dropped)) :
    dropped.committed = dataStore.committed ∧
      dropped.session = dataStore.committed := by
  unfold DataStore.commit at failed
  split at failed
  · cases failed
    exact ⟨rfl, rfl⟩
  · split at failed
    · cases failed
    · cases failed
      exact ⟨rfl, rfl⟩

theorem flush_eq_ok
    {dataStore : DataStore} {idPlaceholder : Option String}
    {reply : ResponsePayload}
    (flushes : before.flush dataStore idPlaceholder reply =
      .ok response after) :
    response = reply ∧ Commits before dataStore.session after ∧
      after.barbican = before.barbican ∧
      after.idPlaceholder = idPlaceholder := by
  unfold EngineState.flush at flushes
  split at flushes
  · rename_i flushed committed
    cases flushes
    obtain ⟨rows, session, active⟩ := DataStore.commit_eq_ok committed
    exact ⟨rfl, ⟨rows, session, active, rfl, rfl⟩, rfl, rfl⟩
  · cases flushes

theorem flush_eq_error
    {dataStore : DataStore} {idPlaceholder : Option String}
    {reply : ResponsePayload}
    (flushes : before.flush dataStore idPlaceholder reply =
      .error exception after) :
    ∃ dropped : DataStore, after = { before with dataStore := dropped } ∧
      dropped.committed = dataStore.committed ∧
      dropped.session = dataStore.committed := by
  unfold EngineState.flush at flushes
  split at flushes
  · cases flushes
  · rename_i dropped failed
    cases flushes
    exact ⟨dropped, rfl, DataStore.commit_eq_error failed⟩

theorem Untouched.of_flush
    {dataStore : DataStore} {idPlaceholder : Option String}
    {reply : ResponsePayload}
    (flushes : before.flush dataStore idPlaceholder reply =
      .error exception after)
    (sameRows : dataStore.committed = before.dataStore.committed) :
    Untouched world payload before after := by
  obtain ⟨dropped, rfl, committed, session⟩ := flush_eq_error flushes
  exact ⟨committed.trans sameRows, session.trans sameRows, rfl, rfl, rfl,
    .inl rfl⟩

theorem Untouched.refl (clean : before.Clean) :
    Untouched world payload before before :=
  ⟨rfl, clean, rfl, rfl, rfl, .inl rfl⟩

theorem session_addAll (dataStore : DataStore) (objects : List ManagedObject) :
    (objects.foldl DataStore.add dataStore).session =
      addRows dataStore.session objects := by
  induction objects generalizing dataStore with
  | nil => rfl
  | cons first rest ih => exact ih (dataStore.add first)

theorem committed_addAll (dataStore : DataStore) (objects : List ManagedObject) :
    (objects.foldl DataStore.add dataStore).committed =
      dataStore.committed := by
  induction objects generalizing dataStore with
  | nil => rfl
  | cons first rest ih => exact ih (dataStore.add first)

theorem forall_addRows
    {property : ManagedObject → Prop} {rows : Table ManagedObject}
    {objects : List ManagedObject} (holds : rows.Forall property)
    (added : ∀ managedObject ∈ objects,
      property (DataStore.withColumnDefaults managedObject)) :
    (addRows rows objects).Forall property := by
  induction objects generalizing rows with
  | nil => exact holds
  | cons managedObject rest ih =>
      exact ih (holds.insert (added managedObject (.head _)))
        fun other member => added other (.tail _ member)

theorem Plan.transaction
    (plan : Plan context payload)
    (ran : plan.run world before = .ok response after) :
    Transaction world context payload before response after := by
  induction plan with
  | refuse exception => cases ran
  | reply reads reply =>
      cases ran
      exact .read reads
  | lookup uniqueIdentifier disguise next ih =>
      rw [Plan.run] at ran
      split at ran
      · exact ih _ ran
      · cases ran
  | list next ih =>
      rw [Plan.run] at ran
      split at ran
      · cases ran
      · exact ih _ ran
  | update writes decide =>
      rw [Plan.run] at ran
      split at ran
      · cases ran
      · rename_i target accessed
        obtain ⟨found, located, loaded, permitted⟩ := access_eq_ok accessed
        rw [loadedCopy, if_neg (accessCode_ne_get writes)] at loaded
        cases loaded
        split at ran
        · cases ran
        · rename_i written decided
          cases written with
          | change changed evolves reply =>
              obtain ⟨_, commits, barbican, idPlaceholder⟩ := flush_eq_ok ran
              exact .change target changed writes located permitted evolves
                commits barbican idPlaceholder
          | remove destroys inactive reply =>
              obtain ⟨_, commits, barbican, idPlaceholder⟩ := flush_eq_ok ran
              exact .remove target destroys located permitted inactive commits
                barbican idPlaceholder
  | create creation =>
      obtain ⟨rfl, commits, barbican, idPlaceholder⟩ := flush_eq_ok ran
      refine .create creation.others creation.last creation.producing
        creation.new ?_ barbican idPlaceholder
        ((creation.identifies _).trans idPlaceholder.symm)
      rw [← session_addAll, List.foldl_append]
      exact commits
  | createSecret creation =>
      rw [Plan.run, SecretCreation.run] at ran
      split at ran
      · cases ran
      · rename_i secretRef created
        split at ran
        · cases ran
        · rename_i managedObject built
          obtain ⟨rfl, commits, barbican, idPlaceholder⟩ := flush_eq_ok ran
          obtain ⟨symmetric, refers⟩ := creation.refers _ _ built
          exact .createSecret creation.value secretRef managedObject
            creation.creating (creation.new _ _ built) symmetric refers created
            { commits with } barbican idPlaceholder
            ((creation.identifies _).trans idPlaceholder.symm)

theorem Plan.untouched
    (plan : Plan context payload) (clean : before.Clean)
    (ran : plan.run world before = .error exception after) :
    Untouched world payload before after := by
  induction plan with
  | refuse exception =>
      cases ran
      exact .refl clean
  | reply reads reply => cases ran
  | lookup uniqueIdentifier disguise next ih =>
      rw [Plan.run] at ran
      split at ran
      · exact ih _ ran
      · cases ran
        exact .refl clean
  | list next ih =>
      rw [Plan.run] at ran
      split at ran
      · cases ran
        exact .refl clean
      · exact ih _ ran
  | update writes decide =>
      rw [Plan.run] at ran
      split at ran
      · cases ran
        exact .refl clean
      · split at ran
        · cases ran
          exact .refl clean
        · rename_i written decided
          cases written with
          | change changed evolves reply => exact .of_flush ran rfl
          | remove destroys inactive reply => exact .of_flush ran rfl
  | create creation =>
      exact .of_flush ran (committed_addAll _ creation.others)
  | createSecret creation =>
      rw [Plan.run, SecretCreation.run] at ran
      split at ran
      · cases ran
        exact .refl clean
      · rename_i secretRef created
        split at ran
        · cases ran
          exact ⟨rfl, clean, rfl, rfl, rfl, .inr
            ⟨creation.creating, secretRef, creation.value, created, rfl⟩⟩
        · obtain ⟨dropped, rfl, committed, session⟩ := flush_eq_error ran
          exact ⟨committed, session, rfl, rfl, rfl, .inr
            ⟨creation.creating, secretRef, creation.value, created, rfl⟩⟩

theorem Transaction.clean
    (transaction : Transaction world context payload before response after)
    (clean : before.Clean) : after.Clean := by
  cases transaction with
  | read => exact clean
  | change _ _ _ _ _ _ commits => exact commits.session.trans commits.committed.symm
  | remove _ _ _ _ _ commits => exact commits.session.trans commits.committed.symm
  | create _ _ _ _ commits => exact commits.session.trans commits.committed.symm
  | createSecret _ _ _ _ _ _ _ _ commits =>
      exact commits.session.trans commits.committed.symm

theorem Transaction.client
    (transaction : Transaction world context payload before response after) :
    after.clientIdentity = before.clientIdentity ∧
      after.protocolVersion = before.protocolVersion := by
  cases transaction with
  | read => exact ⟨rfl, rfl⟩
  | change _ _ _ _ _ _ commits =>
      exact ⟨commits.clientIdentity, commits.protocolVersion⟩
  | remove _ _ _ _ _ commits =>
      exact ⟨commits.clientIdentity, commits.protocolVersion⟩
  | create _ _ _ _ commits =>
      exact ⟨commits.clientIdentity, commits.protocolVersion⟩
  | createSecret _ _ _ _ _ _ _ _ commits =>
      exact ⟨commits.clientIdentity, commits.protocolVersion⟩

/-- What a successful item has done. -/
theorem processOperation_transaction
    (ran : (processOperation world payload).run before =
      .ok response after) :
    Transaction world before.context payload before response after := by
  rw [processOperation_follows world payload before] at ran
  exact (plan world before.context payload).transaction ran

/-- What a failed item has not done. -/
theorem processOperation_untouched
    (clean : before.Clean)
    (ran : (processOperation world payload).run before =
      .error exception after) :
    Untouched world payload before after := by
  rw [processOperation_follows world payload before] at ran
  exact (plan world before.context payload).untouched clean ran

end Outcomes

end PyKMIP
