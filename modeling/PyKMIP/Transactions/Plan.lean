import PyKMIP.Engine.State
import PyKMIP.Transactions.Evolution

/-!
# Plans of operations

Every operation first looks objects up, all under the one permission that it
needs, and then has at most one effect on the store.  A plan is the tree of
these lookups; running it says what the store, the client and Barbican see of
an operation.
-/

namespace PyKMIP

open EStateM StatefulExcept

section Contexts

/-- What an item reads of the engine before its lookups. -/
structure ItemContext where
  protocolVersion : ProtocolVersion
  clientIdentity : ClientIdentity
  idPlaceholder : Option String
deriving DecidableEq

def EngineState.context (state : EngineState) : ItemContext where
  protocolVersion := state.protocolVersion
  clientIdentity := state.clientIdentity
  idPlaceholder := state.idPlaceholder

namespace ItemContext

variable (context : ItemContext)

/-- The identifier of handlers that ignore an empty one. -/
def payloadOrPlaceholder (uniqueIdentifier : Option String) : Option String :=
  if truthyText uniqueIdentifier then uniqueIdentifier
  else context.idPlaceholder

/-- The identifier of handlers that use an empty one. -/
def valueOrPlaceholder (uniqueIdentifier : Option String) : Option String :=
  if uniqueIdentifier.isSome then uniqueIdentifier else context.idPlaceholder

/-- The identifier of the one object that an operation on one object is about. -/
def target : RequestPayload → Option String
  | .deleteAttribute payload =>
      context.payloadOrPlaceholder payload.uniqueIdentifier
  | .get payload => context.payloadOrPlaceholder payload.uniqueIdentifier
  | .getAttributes payload =>
      context.payloadOrPlaceholder payload.uniqueIdentifier
  | .getAttributeList uniqueIdentifier =>
      context.payloadOrPlaceholder uniqueIdentifier
  | .activate uniqueIdentifier => context.valueOrPlaceholder uniqueIdentifier
  | .revoke payload => context.valueOrPlaceholder payload.uniqueIdentifier
  | .destroy uniqueIdentifier => context.valueOrPlaceholder uniqueIdentifier
  | .encrypt payload => context.payloadOrPlaceholder payload.uniqueIdentifier
  | .decrypt payload => context.payloadOrPlaceholder payload.uniqueIdentifier
  | .signatureVerify payload =>
      context.payloadOrPlaceholder payload.uniqueIdentifier
  | .setAttribute payload =>
      context.payloadOrPlaceholder payload.uniqueIdentifier
  | .modifyAttribute payload =>
      context.payloadOrPlaceholder payload.uniqueIdentifier
  | .mac payload => context.valueOrPlaceholder payload.uniqueIdentifier
  | .sign payload => context.payloadOrPlaceholder payload.uniqueIdentifier
  | _ => none

end ItemContext

end Contexts

section Permissions

/-- The operation whose permission the lookups of a request need. -/
def RequestPayload.accessCode : RequestPayload → Operation
  | .encrypt _ => .get
  | .decrypt _ => .get
  | .sign _ => .get
  | .signatureVerify _ => .get
  | .mac _ => .get
  | .deriveKey _ => .get
  | payload => payload.operation

def readingOperations : List Operation :=
  [.locate, .get, .getAttributes, .getAttributeList, .query, .discoverVersions,
    .encrypt, .decrypt, .signatureVerify, .mac, .sign]

/-- The operations that write to the object they are about. -/
def writingOperations : List Operation :=
  [.deleteAttribute, .setAttribute, .modifyAttribute, .activate, .revoke,
    .destroy]

/-- The operations that leave the identifier of a new object in the
placeholder. -/
def producingOperations : List Operation :=
  [.create, .createKeyPair, .register, .deriveKey]

theorem not_producing_of_reading
    {operation : Operation}
    (reads : readingOperations.contains operation) :
    ¬producingOperations.contains operation := by
  cases operation <;> revert reads <;> decide

theorem not_writing_of_reading
    {operation : Operation}
    (reads : readingOperations.contains operation) :
    ¬writingOperations.contains operation := by
  cases operation <;> revert reads <;> decide

theorem not_producing_of_writing
    {operation : Operation}
    (writes : writingOperations.contains operation) :
    ¬producingOperations.contains operation := by
  cases operation <;> revert writes <;> decide

/-- The identifier that a producing operation leaves in the placeholder. -/
def ResponsePayload.producedIdentifier : ResponsePayload → Option String
  | .create _ uniqueIdentifier => some uniqueIdentifier
  | .createKeyPair privateKeyUniqueIdentifier _ => some privateKeyUniqueIdentifier
  | .register uniqueIdentifier => some uniqueIdentifier
  | .deriveKey uniqueIdentifier => some uniqueIdentifier
  | _ => none

end Permissions

section Plans

variable (payload : RequestPayload)

/-- What becomes of an object that an operation writes to. -/
inductive Update (target : StoredObject) where
  | change (changed : ManagedObject)
      (evolves : Evolves payload target.managedObject changed)
      (reply : ResponsePayload)
  | remove (destroys : payload.operation = .destroy)
      (inactive : target.managedObject.state? ≠ some .active)
      (reply : ResponsePayload)

/-- New objects, the last of which the placeholder will name, and the response
for the key of the first one. -/
structure Creation where
  others : List ManagedObject
  last : ManagedObject
  reply : Nat → ResponsePayload
  producing : producingOperations.contains payload.operation
  new : ∀ managedObject ∈ others ++ [last], managedObject.IsNew
  identifies : ∀ key, (reply key).producedIdentifier =
    some (toString (key + others.length))

/-- A new symmetric key whose value Barbican will hold; `build` makes the object
once the reference to the secret is known. -/
structure SecretCreation where
  value : Bytes
  build : String → Except PyError ManagedObject
  reply : Nat → ResponsePayload
  creating : payload.operation = .create
  new : ∀ secretRef managedObject, build secretRef = .ok managedObject →
    managedObject.IsNew
  refers : ∀ secretRef managedObject, build secretRef = .ok managedObject →
    managedObject.objectType = .symmetricKey ∧
      managedObject.value = encodeUtf8 secretRef
  identifies : ∀ key, (reply key).producedIdentifier = some (toString key)

/-- A failed lookup ends the plan, with the disguise as the exception if there
is one.  Only the object that the operation is about is written to. -/
inductive Plan (context : ItemContext) (payload : RequestPayload) where
  | refuse (exception : PyError)
  | reply (reads : readingOperations.contains payload.operation)
      (reply : ResponsePayload)
  | lookup (uniqueIdentifier : Option String) (disguise : Option PyError)
      (next : StoredObject → Plan context payload)
  | list (next : List StoredObject → Plan context payload)
  | update (writes : writingOperations.contains payload.operation)
      (decide : (target : StoredObject) →
        Except PyError (Update payload target))
  | create (creation : Creation payload)
  | createSecret (creation : SecretCreation payload)

end Plans

section Running

variable (world : World)

/-- The outcome of a single-object lookup. -/
def access (state : EngineState) (uniqueIdentifier : Option String)
    (operation : Operation) : Except PyError StoredObject :=
  if state.dataStore.active = false then
    .error (.python .pendingRollbackError)
  else
    match findObject world state uniqueIdentifier with
    | none => .error (itemNotFound (couldNotLocate uniqueIdentifier))
    | some storedObject => do
        let managedObject ← loadedCopy world state operation storedObject
        if isPermitted world state.clientIdentity operation
            managedObject.managedObject then
          return managedObject
        else .error (permissionDenied (couldNotLocate uniqueIdentifier))

/-- The objects on which the client has a permission. -/
def permittedObjects (state : EngineState) (operation : Operation) :
    List StoredObject :=
  (state.dataStore.session.rows.map fun row =>
    { uniqueIdentifier := row.1, managedObject := row.2 : StoredObject }).filter
      fun storedObject =>
        isPermitted world state.clientIdentity operation
          storedObject.managedObject

/-- Commit a working copy; the placeholder only changes when it succeeds. -/
def EngineState.flush (state : EngineState) (dataStore : DataStore)
    (idPlaceholder : Option String) (reply : ResponsePayload) :
    Result PyError EngineState ResponsePayload :=
  match dataStore.commit with
  | (.ok _, flushed) =>
      .ok reply
        { state with dataStore := flushed, idPlaceholder := idPlaceholder }
  | (.error exception, dropped) =>
      .error exception { state with dataStore := dropped }

def Update.reply {target : StoredObject} : Update payload target → ResponsePayload
  | .change _ _ reply => reply
  | .remove _ _ reply => reply

def Update.run {target : StoredObject} (state : EngineState) :
    Update payload target → Result PyError EngineState ResponsePayload
  | .change changed _ reply =>
      state.flush (state.dataStore.change target.uniqueIdentifier changed)
        state.idPlaceholder reply
  | .remove _ _ reply =>
      state.flush (state.dataStore.delete target.uniqueIdentifier)
        state.idPlaceholder reply

def Creation.run (creation : Creation payload) (state : EngineState) :
    Result PyError EngineState ResponsePayload :=
  let key := state.dataStore.session.next
  state.flush
    ((creation.others.foldl DataStore.add state.dataStore).add creation.last)
    (some (toString (key + creation.others.length))) (creation.reply key)

def SecretCreation.run (creation : SecretCreation payload)
    (state : EngineState) : Result PyError EngineState ResponsePayload :=
  match world.createdSecret with
  | none => .error (.python .runtimeError) state
  | some secretRef =>
      let created := { state with
        barbican := state.barbican.createSecret secretRef creation.value }
      match creation.build secretRef with
      | .error exception => .error exception created
      | .ok managedObject =>
          let key := state.dataStore.session.next
          created.flush (state.dataStore.add managedObject) (some (toString key))
            (creation.reply key)

def Plan.run : Plan context payload → EngineState →
    Result PyError EngineState ResponsePayload
  | .refuse exception, state => .error exception state
  | .reply _ response, state => .ok response state
  | .lookup uniqueIdentifier disguise next, state =>
      match access world state uniqueIdentifier payload.accessCode with
      | .ok storedObject => (next storedObject).run state
      | .error exception => .error (disguise.getD exception) state
  | .list next, state =>
      if state.dataStore.active = false then
        .error (.python .pendingRollbackError) state
      else (next (permittedObjects world state payload.accessCode)).run state
  | .update _ decide, state =>
      match access world state (context.target payload) payload.accessCode with
      | .error exception => .error exception state
      | .ok target =>
          match decide target with
          | .error exception => .error exception state
          | .ok written => written.run state
  | .create creation, state => creation.run state
  | .createSecret creation, state => creation.run world state

end Running

end PyKMIP
