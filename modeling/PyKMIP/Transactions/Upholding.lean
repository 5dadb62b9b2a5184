import PyKMIP.Transactions.Refinement

/-!
# Properties that plans uphold

A plan upholds a property of stored objects when every object that it may add
has it, and every change that it may make keeps it.  The rules below follow the
shape of the plans.
-/

namespace PyKMIP

open EStateM StatefulExcept

section Upholding

variable {world : World} {context : ItemContext} {payload : RequestPayload}
  {property : ManagedObject → Prop} {relevant : StoredObject → Prop}

/-- Only changes of relevant objects, which have the property, have to keep
it. -/
def Plan.Upholds (property : ManagedObject → Prop)
    (relevant : StoredObject → Prop) : Plan context payload → Prop
  | .refuse _ => True
  | .reply _ _ => True
  | .lookup _ _ next => ∀ storedObject, (next storedObject).Upholds property relevant
  | .list next => ∀ storedObjects, (next storedObjects).Upholds property relevant
  | .update _ decide => ∀ target changed evolves reply,
      relevant target → property target.managedObject →
      decide target = .ok (.change changed evolves reply) → property changed
  | .create creation =>
      ∀ managedObject ∈ creation.others ++ [creation.last],
        property managedObject
  | .createSecret creation => ∀ secretRef managedObject,
      creation.build secretRef = .ok managedObject → property managedObject

theorem Plan.Upholds.refuse {exception : PyError} :
    (Plan.refuse exception : Plan context payload).Upholds property relevant :=
  trivial

theorem Plan.Upholds.ofExcept
    {outcome : Except PyError α} {next : α → Plan context payload}
    (upholds : ∀ value, outcome = .ok value →
      (next value).Upholds property relevant) :
    (Plan.ofExcept outcome next).Upholds property relevant := by
  cases outcome with
  | ok value => exact upholds value rfl
  | error exception => exact .refuse

theorem Plan.Upholds.refuseIf
    {condition : Prop} [Decidable condition] {exception : PyError}
    {plan : Plan context payload} (upholds : plan.Upholds property relevant) :
    (Plan.refuseIf condition exception plan).Upholds property relevant := by
  unfold Plan.refuseIf
  split
  · exact .refuse
  · exact upholds

theorem Plan.Upholds.supportedSince
    {supported : ProtocolVersion} {operation : String}
    {plan : Plan context payload} (upholds : plan.Upholds property relevant) :
    (Plan.supportedSince supported operation plan).Upholds property relevant :=
  .refuseIf upholds

theorem changing_eq_change
    {target : StoredObject} {body : ObjectM α}
    {atomic : AtomicAt (Evolves payload target.managedObject)
      target.managedObject body}
    {reply : α → Except PyError ResponsePayload} {changed : ManagedObject}
    {evolves : Evolves payload target.managedObject changed}
    {answer : ResponsePayload}
    (decided : changing target body atomic reply =
      .ok (.change changed evolves answer)) :
    ∃ value, body.run target.managedObject = .ok value changed := by
  cases ran : body.run target.managedObject with
  | error exception after =>
      rw [changing_of_error ran] at decided
      cases decided
  | ok value after =>
      have reached : Evolves payload target.managedObject after := by
        unfold AtomicAt at atomic
        rwa [ran] at atomic
      cases replied : reply value with
      | ok answered =>
          rw [changing_of_ok ran reached atomic replied] at decided
          cases decided
          exact ⟨value, rfl⟩
      | error exception =>
          exfalso
          unfold changing at decided
          split at decided
          · rename_i actual changed actuallyRan
            rw [ran] at actuallyRan
            cases actuallyRan
            rw [replied] at decided
            cases decided
          · cases decided

/-- A change in place upholds what its computation returns in. -/
theorem changing_upholds
    {target : StoredObject} {body : ObjectM α}
    {atomic : AtomicAt (Evolves payload target.managedObject)
      target.managedObject body}
    {reply : α → Except PyError ResponsePayload} {changed : ManagedObject}
    {evolves : Evolves payload target.managedObject changed}
    {answer : ResponsePayload}
    (returns : ReturnsIn property target.managedObject body)
    (decided : changing target body atomic reply =
      .ok (.change changed evolves answer)) :
    property changed := by
  obtain ⟨value, ran⟩ := changing_eq_change decided
  exact returns value changed ran

end Upholding

section Running

variable {world : World} {context : ItemContext} {payload : RequestPayload}
  {property : ManagedObject → Prop} {relevant : StoredObject → Prop}
  {before after : EngineState} {response : ResponsePayload}

theorem flush_upholds
    {dataStore : DataStore} {idPlaceholder : Option String}
    {reply : ResponsePayload}
    (flushes : before.flush dataStore idPlaceholder reply =
      .ok response after)
    (holds : dataStore.session.Forall property) :
    after.dataStore.committed.Forall property := by
  obtain ⟨_, commits, _⟩ := flush_eq_ok flushes
  rw [commits.committed]
  exact holds

/-- A plan that upholds a property commits only rows that have it. -/
theorem Plan.Upholds.committed
    {plan : Plan context payload} (upholds : plan.Upholds property relevant)
    (defaults : ∀ managedObject, property managedObject →
      property (DataStore.withColumnDefaults managedObject))
    (clean : before.Clean)
    (targets : ∀ target, findObject world before (context.target payload) =
      some target → isPermitted world before.clientIdentity payload.accessCode
        target.managedObject = true → relevant target)
    (holds : before.dataStore.committed.Forall property)
    (ran : plan.run world before = .ok response after) :
    after.dataStore.committed.Forall property := by
  have session : before.dataStore.session.Forall property := by
    rw [clean]
    exact holds
  induction plan with
  | refuse exception => cases ran
  | reply reads reply =>
      cases ran
      exact holds
  | lookup uniqueIdentifier disguise next ih =>
      rw [Plan.run] at ran
      split at ran
      · exact ih _ (upholds _) ran
      · cases ran
  | list next ih =>
      rw [Plan.run] at ran
      split at ran
      · cases ran
      · exact ih _ (upholds _) ran
  | update writes decide =>
      rw [Plan.run] at ran
      split at ran
      · cases ran
      · rename_i target accessed
        obtain ⟨found, located, loaded, permitted⟩ := access_eq_ok accessed
        rw [loadedCopy, if_neg (accessCode_ne_get writes)] at loaded
        cases loaded
        have stored : property target.managedObject :=
          Table.forall_iff_lookup.mp session _ _ (findObject_eq_some located)
        split at ran
        · cases ran
        · rename_i written decided
          cases written with
          | change changed evolves reply =>
              exact flush_upholds ran (session.update fun _ _ =>
                upholds target changed evolves reply
                  (targets target located permitted) stored decided)
          | remove destroys inactive reply =>
              exact flush_upholds ran (session.remove _)
  | create creation =>
      refine flush_upholds ran ?_
      have added := forall_addRows session fun managedObject member =>
        defaults managedObject (upholds managedObject member)
      rw [← session_addAll, List.foldl_append] at added
      exact added
  | createSecret creation =>
      rw [Plan.run, SecretCreation.run] at ran
      split at ran
      · cases ran
      · split at ran
        · cases ran
        · rename_i managedObject built
          exact flush_upholds ran (session.insert
            (defaults managedObject (upholds _ _ built)))

end Running

end PyKMIP
