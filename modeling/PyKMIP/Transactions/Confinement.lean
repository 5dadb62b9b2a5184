import Mathlib.Data.Set.Defs
import PyKMIP.Transactions.Agreement
import PyKMIP.Transactions.Lookups

/-!
# Items that are confined to some keys

A plan that neither lists nor adds objects only depends on the rows under the
keys of the objects that it names, and it writes to no other row.
-/

namespace PyKMIP

open EStateM StatefulExcept

section Plans

variable {world : World} {context : ItemContext} {payload : RequestPayload}
  {named : Option String → Prop}

/-- A plan looks up only what is named, lists nothing and adds nothing. -/
def Plan.Confined (named : Option String → Prop) : Plan context payload → Prop
  | .refuse _ => True
  | .reply _ _ => True
  | .lookup uniqueIdentifier _ next =>
      named uniqueIdentifier ∧ ∀ storedObject, (next storedObject).Confined named
  | .list _ => False
  | .update _ _ => named (context.target payload)
  | .create _ => False
  | .createSecret _ => False

theorem Plan.Confined.ofExcept
    {outcome : Except PyError α} {next : α → Plan context payload}
    (confined : ∀ value, (next value).Confined named) :
    (Plan.ofExcept outcome next).Confined named := by
  cases outcome with
  | ok value => exact confined value
  | error exception => exact trivial

theorem Plan.Confined.refuseIf
    {condition : Prop} [Decidable condition] {exception : PyError}
    {plan : Plan context payload} (confined : plan.Confined named) :
    (Plan.refuseIf condition exception plan).Confined named := by
  unfold Plan.refuseIf
  split
  · exact trivial
  · exact confined

theorem Plan.Confined.supportedSince
    {supported : ProtocolVersion} {operation : String}
    {plan : Plan context payload} (confined : plan.Confined named) :
    (Plan.supportedSince supported operation plan).Confined named :=
  .refuseIf confined

theorem planGet_confined (payload : GetRequestPayload) :
    (planGet world context payload).Confined
      (· ∈ context.needs (.get payload)) := by
  refine .supportedSince (.refuseIf
    ⟨List.mem_cons_self, fun storedObject => .ofExcept fun _ => ?_⟩)
  split
  · rename_i specification wraps
    refine .refuseIf ?_
    split
    · rename_i information given
      refine ⟨List.mem_cons_of_mem _ ?_, fun _ => .ofExcept fun _ =>
        .ofExcept fun _ => trivial⟩
      simp [GetRequestPayload.wrappingKey, wraps, given]
    · exact trivial
  · exact trivial

theorem planRevoke_confined (payload : RevokeRequestPayload) :
    (planRevoke context payload).Confined
      (· ∈ context.needs (.revoke payload)) := by
  apply Plan.Confined.supportedSince
  split
  · exact trivial
  · exact List.mem_cons_self

/-- The operations whose items neither list nor add objects. -/
def RequestPayload.Local (payload : RequestPayload) : Prop :=
  ¬producingOperations.contains payload.operation ∧
    payload.operation ≠ .locate

instance (payload : RequestPayload) : Decidable payload.Local :=
  inferInstanceAs (Decidable (_ ∧ _))

theorem plan_confined (isLocal : payload.Local) :
    (plan world context payload).Confined (· ∈ context.needs payload) := by
  cases payload
  case get payload => exact planGet_confined payload
  case revoke payload => exact planRevoke_confined payload
  case activate | destroy | deleteAttribute | setAttribute | modifyAttribute =>
    exact Plan.Confined.supportedSince (List.mem_cons_self ..)
  case encrypt | decrypt | signatureVerify | mac | sign =>
    exact .supportedSince ⟨List.mem_cons_self, fun _ =>
      .ofExcept fun _ => .ofExcept fun _ => trivial⟩
  case getAttributes | getAttributeList =>
    exact .supportedSince ⟨List.mem_cons_self, fun _ =>
      .ofExcept fun _ => trivial⟩
  case query => exact .supportedSince (.refuseIf trivial)
  case discoverVersions => exact .supportedSince trivial
  case unsupported => exact trivial
  all_goals simp [RequestPayload.Local, RequestPayload.operation,
    producingOperations] at isLocal

end Plans

section Runs

variable {world : World} {context : ItemContext} {payload : RequestPayload}
  {keys : Set Nat} {first second : EngineState}

/-- States between items that agree on the rows under some keys, and on all
that is not a row. -/
structure AgreeOn (keys : Set Nat) (first second : EngineState) : Prop where
  context : second.context = first.context
  barbican : second.barbican = first.barbican
  active : second.dataStore.active = first.dataStore.active
  clean : first.Clean
  otherClean : second.Clean
  rows : ∀ key ∈ keys, second.dataStore.committed.lookup key =
    first.dataStore.committed.lookup key

/-- The keys of the objects that the identifiers may find. -/
def World.Resolves (world : World) (named : Option String → Prop)
    (keys : Set Nat) : Prop :=
  ∀ text key, named (some text) → world.identifierColumn.rowOf text = some key →
    key ∈ keys

theorem findObject_of_agreeOn (agree : AgreeOn keys first second)
    {named : Option String → Prop} (resolves : world.Resolves named keys)
    {uniqueIdentifier : Option String} (name : named uniqueIdentifier) :
    findObject world second uniqueIdentifier =
      findObject world first uniqueIdentifier := by
  cases uniqueIdentifier with
  | none => rfl
  | some text =>
      unfold findObject
      cases found : world.identifierColumn.rowOf text with
      | none => simp [found]
      | some key =>
          have same := agree.rows key (resolves text key name found)
          rw [← show second.dataStore.session = _ from agree.otherClean,
            ← show first.dataStore.session = _ from agree.clean] at same
          simp [found, same]

theorem access_of_agreeOn (agree : AgreeOn keys first second)
    {named : Option String → Prop} (resolves : world.Resolves named keys)
    {uniqueIdentifier : Option String} (name : named uniqueIdentifier)
    (operation : Operation) :
    access world second uniqueIdentifier operation =
      access world first uniqueIdentifier operation := by
  have client : second.clientIdentity = first.clientIdentity :=
    congrArg ItemContext.clientIdentity agree.context
  unfold access
  rw [findObject_of_agreeOn agree resolves name, agree.active, client]
  simp only [loadedCopy_of_barbican agree.barbican]

/-- A flush of the same change of a row, in both states. -/
theorem flush_of_agreeOn (agree : AgreeOn keys first second)
    (active : first.dataStore.active = true)
    (change : Table ManagedObject → Table ManagedObject)
    (flushes : (change first.dataStore.session).Forall fun managedObject =>
      managedObject.storable)
    (otherFlushes : (change second.dataStore.session).Forall
      fun managedObject => managedObject.storable)
    (alike : ∀ key ∈ keys,
      (change second.dataStore.committed).lookup key =
        (change first.dataStore.committed).lookup key)
    (reply : ResponsePayload) :
    Alike (AgreeOn keys) Eq Eq
      (first.flush { first.dataStore with
        session := change first.dataStore.session } first.idPlaceholder reply)
      (second.flush { second.dataStore with
        session := change second.dataStore.session } second.idPlaceholder
        reply) := by
  rw [flush_of_storable { first.dataStore with
      session := change first.dataStore.session } active flushes,
    flush_of_storable { second.dataStore with
      session := change second.dataStore.session }
      (agree.active.trans active) otherFlushes]
  refine .ok rfl ⟨agree.context, agree.barbican, agree.active, rfl, rfl, ?_⟩
  intro key member
  show (change second.dataStore.session).lookup key =
    (change first.dataStore.session).lookup key
  rw [show second.dataStore.session = _ from agree.otherClean,
    show first.dataStore.session = _ from agree.clean]
  exact alike key member

theorem Update.run_of_agreeOn (agree : AgreeOn keys first second)
    (active : first.dataStore.active = true) {target : StoredObject}
    (found : first.dataStore.session.lookup target.uniqueIdentifier =
      some target.managedObject)
    (otherFound : second.dataStore.session.lookup target.uniqueIdentifier =
      some target.managedObject)
    (written : Update payload target) :
    Alike (AgreeOn keys) Eq Eq (written.run first) (written.run second) := by
  cases written with
  | change changed evolves reply =>
      have flushes : ∀ state : EngineState, state.Clean →
          state.dataStore.session.lookup target.uniqueIdentifier =
            some target.managedObject →
          (state.dataStore.session.update target.uniqueIdentifier
            fun _ => changed).Forall fun managedObject =>
              managedObject.storable := by
        intro state clean stored
        apply clean.storable.update
        intro value located
        rw [evolves.storable]
        exact Table.forall_iff_lookup.mp clean.storable _ _ stored
      exact flush_of_agreeOn agree active
        (fun rows => rows.update target.uniqueIdentifier fun _ => changed)
        (flushes first agree.clean found)
        (flushes second agree.otherClean otherFound)
        (fun key member => by
          rw [Table.lookup_update, Table.lookup_update, agree.rows key member])
        reply
  | remove destroys inactive reply =>
      exact flush_of_agreeOn agree active
        (fun rows => rows.remove target.uniqueIdentifier)
        (agree.clean.storable.remove _) (agree.otherClean.storable.remove _)
        (fun key member => by
          rw [Table.lookup_remove, Table.lookup_remove, agree.rows key member])
        reply

/-- A confined plan ends alike in states that agree on its keys. -/
theorem Plan.Confined.run_of_agreeOn
    {named : Option String → Prop} {plan : Plan context payload}
    (confined : plan.Confined named) (resolves : world.Resolves named keys)
    (agree : AgreeOn keys first second) :
    Alike (AgreeOn keys) Eq Eq (plan.run world first)
      (plan.run world second) := by
  induction plan with
  | refuse exception => exact .error rfl agree
  | reply reads reply => exact .ok rfl agree
  | lookup uniqueIdentifier disguise next ih =>
      obtain ⟨name, rest⟩ := confined
      rw [Plan.run, Plan.run, access_of_agreeOn agree resolves name]
      split
      · exact ih _ (rest _)
      · exact .error rfl agree
  | list next => exact confined.elim
  | update writes decide =>
      rw [Plan.run, Plan.run, access_of_agreeOn agree resolves confined]
      split
      · exact .error rfl agree
      · rename_i target accessed
        obtain ⟨active, found, located, loaded, _⟩ :=
          access_eq_ok_iff.mp accessed
        rw [loadedCopy, if_neg (accessCode_ne_get writes)] at loaded
        cases loaded
        have otherLocated := findObject_of_agreeOn agree resolves confined
        rw [located] at otherLocated
        split
        · exact .error rfl agree
        · exact Update.run_of_agreeOn agree active
            (findObject_eq_some located) (findObject_eq_some otherLocated) _
  | create creation => exact confined.elim
  | createSecret creation => exact confined.elim

/-- The rows that a local item names are all that it depends on. -/
theorem processOperation_of_agreeOn (isLocal : payload.Local)
    (resolves : world.Resolves (· ∈ first.context.needs payload) keys)
    (agree : AgreeOn keys first second) :
    Alike (AgreeOn keys) Eq Eq ((processOperation world payload).run first)
      ((processOperation world payload).run second) := by
  rw [processOperation_follows, processOperation_follows, agree.context]
  exact (plan_confined isLocal).run_of_agreeOn resolves agree

end Runs

end PyKMIP
