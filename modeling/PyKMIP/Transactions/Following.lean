import PyKMIP.Transactions.InPlace
import PyKMIP.Transactions.Plan

/-!
# Handlers that follow a plan

A handler follows a plan from a state when both end alike.  The rules below
follow the shape of the handlers: a check, a lookup, a change in place and its
commit.
-/

namespace PyKMIP

open EStateM StatefulExcept

section Accesses

variable {world : World} {state : EngineState}

theorem run_kmipVersionSupported
    (supported : ProtocolVersion) (operation : String) :
    (kmipVersionSupported supported operation).run state =
      (raiseIf (¬ supported ≤ state.protocolVersion)
        (operationNotSupported (operation ++ " is not supported by KMIP " ++
          state.protocolVersion.text))).run state := rfl

theorem run_payloadOrPlaceholder (uniqueIdentifier : Option String) :
    (payloadOrPlaceholder uniqueIdentifier).run state =
      .ok (state.context.payloadOrPlaceholder uniqueIdentifier) state := by
  show (ite _ _ _ : EngineM (Option String)).run state = _
  unfold ItemContext.payloadOrPlaceholder
  split <;> rfl

theorem run_valueOrPlaceholder (uniqueIdentifier : Option String) :
    (valueOrPlaceholder uniqueIdentifier).run state =
      .ok (state.context.valueOrPlaceholder uniqueIdentifier) state := by
  show (ite _ _ _ : EngineM (Option String)).run state = _
  unfold ItemContext.valueOrPlaceholder
  split <;> rfl

theorem run_getStoredObject (uniqueIdentifier : Option String) :
    (getStoredObject world uniqueIdentifier).run state =
      if state.dataStore.active = false then
        .error (.python .pendingRollbackError) state
      else
        match findObject world state uniqueIdentifier with
        | none => .error (itemNotFound (couldNotLocate uniqueIdentifier)) state
        | some storedObject => .ok storedObject state := by
  show (raiseIf _ _ >>= fun _ => _ : EngineM StoredObject).run state = _
  rw [run_bind, run_raiseIf]
  cases state.dataStore.active with
  | false => rfl
  | true => cases findObject world state uniqueIdentifier <;> rfl

theorem run_getObjectWithAccessControls
    (uniqueIdentifier : Option String) (operation : Operation) :
    (getObjectWithAccessControls world uniqueIdentifier operation).run state =
      (fromExcept (access world state uniqueIdentifier operation)).run state := by
  unfold getObjectWithAccessControls access
  rw [run_bind, run_getStoredObject]
  cases state.dataStore.active with
  | false => rfl
  | true =>
      cases findObject world state uniqueIdentifier with
      | none => rfl
      | some storedObject =>
          simp only [Bool.true_eq_false, if_false, run_bind, run_get,
            run_fromExcept, run_raiseIf]
          cases loadedCopy world state operation storedObject with
          | error exception => rfl
          | ok managedObject =>
              simp only [bind, Except.bind]
              cases isPermitted world state.clientIdentity operation
                managedObject.managedObject <;> rfl

theorem run_listObjectsWithAccessControls (operation : Operation) :
    (listObjectsWithAccessControls world operation).run state =
      if state.dataStore.active = false then
        .error (.python .pendingRollbackError) state
      else .ok (permittedObjects world state operation) state := by
  show (raiseIf _ _ >>= fun _ => _ : EngineM (List StoredObject)).run state = _
  rw [run_bind, run_raiseIf]
  cases state.dataStore.active <;> rfl

theorem run_onManagedObject
    (storedObject : StoredObject) (body : ObjectM α) :
    (onManagedObject storedObject body).run state =
      match body.run storedObject.managedObject with
      | .ok value changed => .ok value { state with
          dataStore := state.dataStore.change storedObject.uniqueIdentifier
            changed }
      | .error exception changed => .error exception { state with
          dataStore := state.dataStore.change storedObject.uniqueIdentifier
            changed } := by
  unfold onManagedObject
  rw [run_focus]
  cases body.run storedObject.managedObject <;> rfl

theorem run_commitSession :
    commitSession.run state =
      match state.dataStore.commit with
      | (.ok _, dataStore) => .ok () { state with dataStore := dataStore }
      | (.error exception, dataStore) =>
          .error exception { state with dataStore := dataStore } := by
  show commitSession state = _
  unfold commitSession
  rcases state.dataStore.commit with ⟨outcome, dataStore⟩
  cases outcome <;> rfl

/-- Nothing after a commit raises. -/
theorem run_commitSession_bind
    (state : EngineState) (rest : Unit → EngineM ResponsePayload)
    {reply : ResponsePayload}
    (returns : ∀ after, (rest ()).run after = .ok reply after) :
    (commitSession >>= rest).run state =
      state.flush state.dataStore state.idPlaceholder reply := by
  rw [run_bind, run_commitSession]
  unfold EngineState.flush
  rcases state.dataStore.commit with ⟨outcome, flushed⟩
  cases outcome with
  | ok _ => exact returns _
  | error exception => rfl

theorem EngineState.flush_dataStore
    (replaced dataStore : DataStore) (idPlaceholder : Option String)
    (reply : ResponsePayload) :
    { state with dataStore := replaced }.flush dataStore idPlaceholder reply =
      state.flush dataStore idPlaceholder reply := by
  unfold EngineState.flush
  rcases dataStore.commit with ⟨outcome, flushed⟩
  cases outcome <;> rfl

/-- A lookup that succeeds has found a row on which the client has the
permission; only GET changes the value of the loaded copy. -/
theorem access_eq_ok
    {uniqueIdentifier : Option String} {operation : Operation}
    {storedObject : StoredObject}
    (accessed : access world state uniqueIdentifier operation =
      .ok storedObject) :
    ∃ found, findObject world state uniqueIdentifier = some found ∧
      loadedCopy world state operation found = .ok storedObject ∧
      isPermitted world state.clientIdentity operation
        storedObject.managedObject = true := by
  unfold access at accessed
  split at accessed
  · cases accessed
  · split at accessed
    · cases accessed
    · rename_i found located
      refine ⟨found, located, ?_⟩
      cases loaded : loadedCopy world state operation found with
      | error exception =>
          rw [loaded] at accessed
          cases accessed
      | ok managedObject =>
          rw [loaded] at accessed
          simp only [bind, Except.bind] at accessed
          split at accessed
          · rename_i permitted
            cases accessed
            exact ⟨rfl, permitted⟩
          · cases accessed

theorem findObject_eq_some
    {uniqueIdentifier : Option String} {storedObject : StoredObject}
    (found : findObject world state uniqueIdentifier = some storedObject) :
    state.dataStore.session.lookup storedObject.uniqueIdentifier =
      some storedObject.managedObject := by
  unfold findObject at found
  simp only [Option.bind_eq_bind, Option.bind_eq_some_iff] at found
  obtain ⟨text, _, key, _, managedObject, located, same⟩ := found
  cases same
  exact located

end Accesses

section Following

variable {world : World} {state : EngineState} {context : ItemContext}
  {payload : RequestPayload}

def Plan.ofExcept (outcome : Except PyError α) (next : α → Plan context payload) :
    Plan context payload :=
  match outcome with
  | .ok value => next value
  | .error exception => .refuse exception

def Plan.refuseIf (condition : Prop) [Decidable condition]
    (exception : PyError) (plan : Plan context payload) : Plan context payload :=
  if condition then .refuse exception else plan

def Plan.supportedSince (supported : ProtocolVersion) (operation : String)
    (plan : Plan context payload) : Plan context payload :=
  .refuseIf (¬ supported ≤ context.protocolVersion)
    (operationNotSupported (operation ++ " is not supported by KMIP " ++
      context.protocolVersion.text))
    plan

theorem Plan.run_ofExcept_ok_iff
    {outcome : Except PyError α} {next : α → Plan context payload}
    {after : EngineState} {response : ResponsePayload} :
    (Plan.ofExcept outcome next).run world state = .ok response after ↔
      ∃ value, outcome = .ok value ∧
        (next value).run world state = .ok response after := by
  cases outcome with
  | ok value => simp [Plan.ofExcept]
  | error exception => simp [Plan.ofExcept, Plan.run]

theorem Plan.run_refuseIf_ok_iff
    {condition : Prop} [Decidable condition] {exception : PyError}
    {plan : Plan context payload} {after : EngineState}
    {response : ResponsePayload} :
    (Plan.refuseIf condition exception plan).run world state =
        .ok response after ↔
      ¬condition ∧ plan.run world state = .ok response after := by
  unfold Plan.refuseIf
  by_cases holds : condition
  · simp [holds, Plan.run]
  · simp [holds]

/-- The handler ends as the plan does. -/
def Follows (world : World) (state : EngineState)
    (handler : EngineM ResponsePayload) (plan : Plan context payload) : Prop :=
  handler.run state = plan.run world state

theorem Follows.reply
    {reads : readingOperations.contains payload.operation}
    (reply : ResponsePayload) :
    Follows world state (pure reply)
      (.reply reads reply : Plan context payload) := rfl

theorem Follows.raise (exception : PyError) :
    Follows world state (throw exception)
      (.refuse exception : Plan context payload) := rfl

theorem Follows.fromExcept
    {outcome : Except PyError α} {next : α → EngineM ResponsePayload}
    {plan : α → Plan context payload}
    (follows : ∀ value, Follows world state (next value) (plan value)) :
    Follows world state (StatefulExcept.fromExcept outcome >>= next)
      (.ofExcept outcome plan) := by
  unfold Follows
  rw [run_bind, run_fromExcept]
  cases outcome with
  | ok value => exact follows value
  | error exception => rfl

theorem Follows.raiseIf
    {condition : Prop} [Decidable condition] {exception : PyError}
    {next : Unit → EngineM ResponsePayload} {plan : Plan context payload}
    (follows : ¬condition → Follows world state (next ()) plan) :
    Follows world state (StatefulExcept.raiseIf condition exception >>= next)
      (.refuseIf condition exception plan) := by
  unfold Follows Plan.refuseIf
  rw [run_bind, run_raiseIf]
  by_cases holds : condition
  · rw [if_pos holds, if_pos holds]
    rfl
  · rw [if_neg holds, if_neg holds]
    exact follows holds

theorem Follows.kmipVersionSupported
    {supported : ProtocolVersion} {operation : String}
    {next : Unit → EngineM ResponsePayload} {plan : Plan state.context payload}
    (follows : supported ≤ state.protocolVersion →
      Follows world state (next ()) plan) :
    Follows world state (kmipVersionSupported supported operation >>= next)
      (.supportedSince supported operation plan) := by
  show Follows world state (StatefulExcept.raiseIf _ _ >>= next) _
  exact .raiseIf fun notBefore => follows (not_not.mp notBefore)

theorem Follows.assoc
    {first : EngineM α} {second : α → EngineM β}
    {next : β → EngineM ResponsePayload} {plan : Plan context payload}
    (follows : Follows world state
      (first >>= fun value => second value >>= next) plan) :
    Follows world state ((first >>= second) >>= next) plan := by
  rwa [bind_assoc]

theorem Follows.get
    {next : EngineState → EngineM ResponsePayload} {plan : Plan context payload}
    (follows : Follows world state (next state) plan) :
    Follows world state (MonadState.get >>= next) plan := follows

theorem Follows.payloadOrPlaceholder
    {uniqueIdentifier : Option String}
    {next : Option String → EngineM ResponsePayload} {plan : Plan context payload}
    (follows : Follows world state
      (next (state.context.payloadOrPlaceholder uniqueIdentifier)) plan) :
    Follows world state (payloadOrPlaceholder uniqueIdentifier >>= next) plan := by
  unfold Follows
  rw [run_bind, run_payloadOrPlaceholder]
  exact follows

theorem Follows.valueOrPlaceholder
    {uniqueIdentifier : Option String}
    {next : Option String → EngineM ResponsePayload} {plan : Plan context payload}
    (follows : Follows world state
      (next (state.context.valueOrPlaceholder uniqueIdentifier)) plan) :
    Follows world state (valueOrPlaceholder uniqueIdentifier >>= next) plan := by
  unfold Follows
  rw [run_bind, run_valueOrPlaceholder]
  exact follows

theorem Follows.lookup
    {uniqueIdentifier : Option String}
    {next : StoredObject → EngineM ResponsePayload}
    {plan : StoredObject → Plan context payload}
    (follows : ∀ storedObject,
      Follows world state (next storedObject) (plan storedObject)) :
    Follows world state
      (getObjectWithAccessControls world uniqueIdentifier payload.accessCode >>=
        next)
      (.lookup uniqueIdentifier none plan) := by
  unfold Follows
  rw [run_bind, run_getObjectWithAccessControls, run_fromExcept, Plan.run]
  cases access world state uniqueIdentifier payload.accessCode with
  | ok storedObject => exact follows storedObject
  | error exception => rfl

/-- Whatever the lookup raises is replaced. -/
theorem Follows.disguisedLookup
    {uniqueIdentifier : Option String} {disguise : PyError}
    {next : StoredObject → EngineM ResponsePayload}
    {plan : StoredObject → Plan context payload}
    (follows : ∀ storedObject,
      Follows world state (next storedObject) (plan storedObject)) :
    Follows world state
      ((getObjectWithAccessControls world uniqueIdentifier
        payload.accessCode).adaptExcept (fun _ => disguise) >>= next)
      (.lookup uniqueIdentifier (some disguise) plan) := by
  unfold Follows
  rw [run_bind, run_adaptExcept, run_getObjectWithAccessControls,
    run_fromExcept, Plan.run]
  cases access world state uniqueIdentifier payload.accessCode with
  | ok storedObject => exact follows storedObject
  | error exception => rfl

theorem Follows.list
    {next : List StoredObject → EngineM ResponsePayload}
    {plan : List StoredObject → Plan context payload}
    (follows : ∀ storedObjects,
      Follows world state (next storedObjects) (plan storedObjects)) :
    Follows world state
      (listObjectsWithAccessControls world payload.accessCode >>= next)
      (.list plan) := by
  unfold Follows
  rw [run_bind, run_listObjectsWithAccessControls, Plan.run]
  cases state.dataStore.active with
  | false => rfl
  | true => exact follows _

end Following

section Writing

variable {world : World} {state : EngineState} {context : ItemContext}
  {payload : RequestPayload} {target : StoredObject}

/-- What remains of a handler ends as the decision about its target says. -/
def Writes (state : EngineState) (rest : EngineM ResponsePayload)
    (decision : Except PyError (Update payload target)) : Prop :=
  rest.run state =
    match decision with
    | .ok written => written.run state
    | .error exception => .error exception state

theorem accessCode_ne_get
    (writes : writingOperations.contains payload.operation) :
    payload.accessCode ≠ .get := by
  cases payload
  case unsupported operation undispatched =>
    intro isGet
    change operation = .get at isGet
    subst isGet
    cases writes
  all_goals cases writes
  all_goals exact nofun

theorem Follows.update
    {writes : writingOperations.contains payload.operation}
    {next : StoredObject → EngineM ResponsePayload}
    {decide : (target : StoredObject) → Except PyError (Update payload target)}
    (follows : ∀ target : StoredObject,
      state.dataStore.session.lookup target.uniqueIdentifier =
        some target.managedObject →
      Writes state (next target) (decide target)) :
    Follows world state
      (getObjectWithAccessControls world (context.target payload)
        payload.accessCode >>= next)
      (.update writes decide : Plan context payload) := by
  unfold Follows
  rw [run_bind, run_getObjectWithAccessControls, run_fromExcept, Plan.run]
  cases accessed : access world state (context.target payload)
      payload.accessCode with
  | error exception => rfl
  | ok target =>
      obtain ⟨found, located, loaded, _⟩ := access_eq_ok accessed
      rw [loadedCopy, if_neg (accessCode_ne_get writes)] at loaded
      cases loaded
      have written := follows target (findObject_eq_some located)
      unfold Writes at written
      simp only [written]
      cases decide target <;> rfl

theorem Writes.fromExcept
    {outcome : Except PyError α} {next : α → EngineM ResponsePayload}
    {decision : α → Except PyError (Update payload target)}
    (writes : ∀ value, outcome = .ok value →
      Writes state (next value) (decision value)) :
    Writes state (StatefulExcept.fromExcept outcome >>= next)
      (outcome >>= decision) := by
  unfold Writes
  rw [run_bind, run_fromExcept]
  cases outcome with
  | ok value => exact writes value rfl
  | error exception => rfl

theorem Writes.get
    {next : EngineState → EngineM ResponsePayload}
    {decision : Except PyError (Update payload target)}
    (writes : Writes state (next state) decision) :
    Writes state (MonadState.get >>= next) decision := writes

theorem Writes.ite
    {condition : Prop} [Decidable condition] {yes no : EngineM ResponsePayload}
    {yesDecision noDecision : Except PyError (Update payload target)}
    (yesWrites : condition → Writes state yes yesDecision)
    (noWrites : ¬condition → Writes state no noDecision) :
    Writes state (if condition then yes else no)
      (if condition then yesDecision else noDecision) := by
  by_cases holds : condition
  · rw [if_pos holds, if_pos holds]
    exact yesWrites holds
  · rw [if_neg holds, if_neg holds]
    exact noWrites holds

/-- An outcome together with the fact that it is one. -/
def witnessed (outcome : Except PyError α) :
    Except PyError { value // outcome = .ok value } :=
  match outcome with
  | .ok value => .ok ⟨value, rfl⟩
  | .error exception => .error exception

theorem Writes.witnessed
    {outcome : Except PyError α} {next : α → EngineM ResponsePayload}
    {decision : { value // outcome = .ok value } →
      Except PyError (Update payload target)}
    (writes : ∀ value : { value // outcome = .ok value },
      Writes state (next value) (decision value)) :
    Writes state (StatefulExcept.fromExcept outcome >>= next)
      (witnessed outcome >>= decision) := by
  unfold Writes
  rw [run_bind, run_fromExcept]
  cases outcome with
  | ok value => exact writes ⟨value, rfl⟩
  | error exception => rfl

/-- The decision to change the target in place. -/
def changing (target : StoredObject) (body : ObjectM α)
    (atomic : AtomicAt (Evolves payload target.managedObject)
      target.managedObject body)
    (reply : α → Except PyError ResponsePayload) :
    Except PyError (Update payload target) :=
  match ran : body.run target.managedObject with
  | .ok value changed => do
      return .change changed (by unfold AtomicAt at atomic; rwa [ran] at atomic)
        (← reply value)
  | .error exception _ => .error exception

theorem changing_of_ok
    {body : ObjectM α} {value : α} {changed : ManagedObject}
    (ran : body.run target.managedObject = .ok value changed)
    (evolves : Evolves payload target.managedObject changed)
    (atomic : AtomicAt (Evolves payload target.managedObject)
      target.managedObject body)
    {reply : α → Except PyError ResponsePayload} {answer : ResponsePayload}
    (replied : reply value = .ok answer) :
    changing target body atomic reply =
      .ok (.change changed evolves answer) := by
  unfold changing
  split
  · rename_i actual after actuallyRan
    rw [ran] at actuallyRan
    cases actuallyRan
    rw [replied]
    rfl
  · rename_i exception after actuallyRan
    rw [ran] at actuallyRan
    cases actuallyRan

theorem changing_of_error
    {body : ObjectM α} {exception : PyError} {after : ManagedObject}
    (ran : body.run target.managedObject = .error exception after)
    (atomic : AtomicAt (Evolves payload target.managedObject)
      target.managedObject body)
    (reply : α → Except PyError ResponsePayload) :
    changing target body atomic reply = .error exception := by
  unfold changing
  split
  · rename_i actual changed actuallyRan
    rw [ran] at actuallyRan
    cases actuallyRan
  · rename_i raised changed actuallyRan
    rw [ran] at actuallyRan
    cases actuallyRan
    rfl

/-- The decision to remove the target. -/
def removing (target : StoredObject) (destroys : payload.operation = .destroy)
    (reply : ResponsePayload) : Except PyError (Update payload target) :=
  if active : target.managedObject.state? = some .active then
    .error (permissionDenied "Object is active and cannot be destroyed.")
  else .ok (.remove destroys active reply)

theorem EngineState.change_self
    (found : state.dataStore.session.lookup target.uniqueIdentifier =
      some target.managedObject) :
    { state with
      dataStore := state.dataStore.change target.uniqueIdentifier
        target.managedObject } = state := by
  unfold DataStore.change
  rw [Table.update_eq_self found rfl]

/-- What a handler computes after its commit cannot raise. -/
theorem Writes.change
    (found : state.dataStore.session.lookup target.uniqueIdentifier =
      some target.managedObject)
    {body : ObjectM α}
    (atomic : AtomicAt (Evolves payload target.managedObject)
      target.managedObject body)
    {reply : α → Except PyError ResponsePayload}
    {rest : α → EngineM ResponsePayload}
    (replies : ∀ value changed,
      body.run target.managedObject = .ok value changed →
      ∃ answer, reply value = .ok answer ∧
        ∀ after, (rest value).run after = .ok answer after) :
    Writes state
      (onManagedObject target body >>= fun value =>
        commitSession >>= fun _ => rest value)
      (changing target body atomic reply) := by
  unfold Writes
  rw [run_bind, run_onManagedObject]
  cases ran : body.run target.managedObject with
  | ok value changed =>
      have evolves : Evolves payload target.managedObject changed := by
        unfold AtomicAt at atomic
        rwa [ran] at atomic
      obtain ⟨answer, replied, returns⟩ := replies value changed ran
      rw [changing_of_ok ran evolves atomic replied]
      exact (run_commitSession_bind _ _ returns).trans
        (EngineState.flush_dataStore ..)
  | error exception after =>
      have unchanged : after = target.managedObject := by
        unfold AtomicAt at atomic
        rwa [ran] at atomic
      rw [changing_of_error ran atomic, unchanged]
      simp only [EngineState.change_self found]

theorem Writes.remove
    (found : state.dataStore.session.lookup target.uniqueIdentifier =
      some target.managedObject)
    (destroys : payload.operation = .destroy) (reply : ResponsePayload) :
    Writes state
      (onManagedObject target prepareDestruction >>= fun _ =>
        deleteObject target.uniqueIdentifier >>= fun _ =>
        commitSession >>= fun _ => pure reply)
      (removing target destroys reply) := by
  obtain ⟨prepared, prepares⟩ := run_prepareDestruction target.managedObject
  unfold Writes removing
  rw [run_bind, run_onManagedObject, prepares]
  by_cases active : target.managedObject.state? = some .active
  · simp only [active, if_true, dite_true, EngineState.change_self found]
  · simp only [active, if_false, dite_false]
    have removed : (state.dataStore.change target.uniqueIdentifier
        prepared).delete target.uniqueIdentifier =
        state.dataStore.delete target.uniqueIdentifier := by
      unfold DataStore.delete DataStore.change
      simp only [Table.remove_update]
    have flushed := run_commitSession_bind
      { state with dataStore := (state.dataStore.change target.uniqueIdentifier
        prepared).delete target.uniqueIdentifier }
      (fun _ => pure reply) fun after => rfl
    rw [EngineState.flush_dataStore] at flushed
    refine Eq.trans flushed ?_
    rw [removed]
    rfl

end Writing

end PyKMIP
