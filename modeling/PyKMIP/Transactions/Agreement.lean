import PyKMIP.Transactions.Refinement

/-!
# Runs that differ in what the client may not touch

Two states agree for a client when they hold the same objects on which it has
the permission.  An item that succeeds in one of them succeeds alike in the
other one, since a plan only ever goes on with objects that the client has
the permission for.
-/

namespace PyKMIP

open EStateM StatefulExcept

section Agreement

variable {world : World} {operation : Operation}
  {first second : EngineState}

/-- Rows that hold the same objects on which a client has a permission. -/
def AgreeOnPermitted (world : World) (clientIdentity : ClientIdentity)
    (operation : Operation) (first second : Table ManagedObject) : Prop :=
  ∀ key managedObject,
    isPermitted world clientIdentity operation managedObject = true →
    (first.lookup key = some managedObject ↔
      second.lookup key = some managedObject)

/-- States that differ at most in the other objects. -/
structure Agree (world : World) (operation : Operation)
    (first second : EngineState) : Prop where
  context : second.context = first.context
  barbican : second.barbican = first.barbican
  active : second.dataStore.active = first.dataStore.active
  rows : AgreeOnPermitted world first.clientIdentity operation
    first.dataStore.session second.dataStore.session

theorem Agree.clientIdentity (agree : Agree world operation first second) :
    second.clientIdentity = first.clientIdentity :=
  congrArg ItemContext.clientIdentity agree.context

theorem isPermitted_value
    (clientIdentity : ClientIdentity) (managedObject : ManagedObject)
    (value : Bytes) :
    isPermitted world clientIdentity operation
        { managedObject with value := value } =
      isPermitted world clientIdentity operation managedObject := rfl

theorem isPermitted_loadedCopy
    {state : EngineState} {clientIdentity : ClientIdentity}
    {found loaded : StoredObject}
    (copied : loadedCopy world state operation found = .ok loaded) :
    isPermitted world clientIdentity operation loaded.managedObject =
      isPermitted world clientIdentity operation found.managedObject := by
  unfold loadedCopy retrievedCopy at copied
  split at copied
  · split at copied
    · split at copied
      · obtain ⟨value, _, returned⟩ := except_bind_ok_iff.mp copied
        cases returned
        exact isPermitted_value ..
      · cases copied
    · cases copied
      rfl
  · cases copied
    rfl

theorem loadedCopy_of_barbican
    {found : StoredObject} (same : second.barbican = first.barbican) :
    loadedCopy world second operation found =
      loadedCopy world first operation found := by
  unfold loadedCopy retrievedCopy
  rw [same]

theorem access_eq_ok_iff
    {state : EngineState} {uniqueIdentifier : Option String}
    {storedObject : StoredObject} :
    access world state uniqueIdentifier operation = .ok storedObject ↔
      state.dataStore.active = true ∧ ∃ found,
        findObject world state uniqueIdentifier = some found ∧
        loadedCopy world state operation found = .ok storedObject ∧
        isPermitted world state.clientIdentity operation
          found.managedObject = true := by
  constructor
  · intro accessed
    obtain ⟨found, located, copied, permitted⟩ := access_eq_ok accessed
    refine ⟨?_, found, located, copied,
      (isPermitted_loadedCopy copied) ▸ permitted⟩
    unfold access at accessed
    by_contra inactive
    rw [if_pos (by simpa using inactive)] at accessed
    cases accessed
  · rintro ⟨active, found, located, copied, permitted⟩
    rw [← isPermitted_loadedCopy copied] at permitted
    unfold access
    rw [active, located]
    simp only [Bool.true_eq_false, if_false, copied, bind, Except.bind,
      permitted, if_true]
    rfl

theorem findObject_of_agree
    (agree : Agree world operation first second)
    {uniqueIdentifier : Option String} {found : StoredObject}
    (located : findObject world first uniqueIdentifier = some found)
    (permitted : isPermitted world first.clientIdentity operation
      found.managedObject = true) :
    findObject world second uniqueIdentifier = some found := by
  unfold findObject at *
  simp only [Option.bind_eq_bind, Option.bind_eq_some_iff] at *
  obtain ⟨text, given, key, matched, managedObject, stored, same⟩ := located
  cases same
  exact ⟨text, given, key, matched, managedObject,
    (agree.rows key managedObject permitted).mp stored, rfl⟩

theorem access_of_agree
    (agree : Agree world operation first second)
    {uniqueIdentifier : Option String} {storedObject : StoredObject}
    (accessed : access world first uniqueIdentifier operation =
      .ok storedObject) :
    access world second uniqueIdentifier operation = .ok storedObject := by
  obtain ⟨active, found, located, copied, permitted⟩ :=
    access_eq_ok_iff.mp accessed
  refine access_eq_ok_iff.mpr ⟨agree.active.trans active, found,
    findObject_of_agree agree located permitted,
    (loadedCopy_of_barbican agree.barbican).trans copied, ?_⟩
  rwa [agree.clientIdentity]

theorem Agree.symm (agree : Agree world operation first second) :
    Agree world operation second first where
  context := agree.context.symm
  barbican := agree.barbican.symm
  active := agree.active.symm
  rows := by
    intro key managedObject permitted
    rw [agree.clientIdentity] at permitted
    exact (agree.rows key managedObject permitted).symm

theorem permittedObjects_of_agree
    (agree : Agree world operation first second) :
    permittedObjects world second operation =
      permittedObjects world first operation := by
  unfold permittedObjects
  rw [agree.clientIdentity, List.filter_map, List.filter_map]
  refine congrArg _ (Table.filter_rows_eq ?_).symm
  rintro ⟨key, managedObject⟩ permitted
  have same := agree.rows key managedObject permitted
  rwa [Table.lookup_eq_some_iff, Table.lookup_eq_some_iff] at same

end Agreement

section Successes

variable {world : World} {context : ItemContext} {payload : RequestPayload}
  {first second after : EngineState} {response : ResponsePayload}

/-- Two runs write the same rows, and nothing else. -/
structure SameWrites (first after second other : EngineState) : Prop where
  rows : ∀ key,
    after.dataStore.committed.lookup key =
        first.dataStore.committed.lookup key ∧
      other.dataStore.committed.lookup key =
        second.dataStore.committed.lookup key ∨
    after.dataStore.committed.lookup key =
      other.dataStore.committed.lookup key
  barbican : other.barbican = after.barbican
  idPlaceholder : other.idPlaceholder = after.idPlaceholder

theorem DataStore.commit_of_storable
    {dataStore : DataStore} (active : dataStore.active = true)
    (flushed : dataStore.session.Forall fun managedObject =>
      managedObject.storable) :
    dataStore.commit = (.ok (), { dataStore with
      committed := dataStore.session, stored := flushed }) := by
  unfold DataStore.commit
  rw [if_neg (by simp [active]), dif_pos flushed]

theorem DataStore.storable_of_commit
    {dataStore flushed : DataStore} {result : Unit}
    (committed : dataStore.commit = (.ok result, flushed)) :
    dataStore.active = true ∧
      dataStore.session.Forall fun managedObject => managedObject.storable := by
  unfold DataStore.commit at committed
  split at committed
  · cases committed
  · rename_i active
    split at committed
    · exact ⟨by simpa using active, ‹_›⟩
    · cases committed

theorem flush_of_storable
    (dataStore : DataStore) {idPlaceholder : Option String}
    {reply : ResponsePayload} (active : dataStore.active = true)
    (flushed : dataStore.session.Forall fun managedObject =>
      managedObject.storable) :
    second.flush dataStore idPlaceholder reply =
      .ok reply { second with
        dataStore := { dataStore with
          committed := dataStore.session, stored := flushed }
        idPlaceholder := idPlaceholder } := by
  unfold EngineState.flush
  rw [DataStore.commit_of_storable active flushed]

theorem storable_of_flush
    {dataStore : DataStore} {idPlaceholder : Option String}
    {reply : ResponsePayload}
    (flushes : first.flush dataStore idPlaceholder reply =
      .ok response after) :
    dataStore.active = true ∧
      dataStore.session.Forall fun managedObject => managedObject.storable := by
  unfold EngineState.flush at flushes
  split at flushes
  · exact DataStore.storable_of_commit ‹_›
  · cases flushes

theorem storable_of_symmetricKey
    {managedObject : ManagedObject}
    (symmetric : managedObject.objectType = .symmetricKey) :
    managedObject.storable = true := by
  unfold ManagedObject.objectType at symmetric
  unfold ManagedObject.storable
  split at symmetric <;> simp_all

theorem EngineState.Clean.storable {state : EngineState} (clean : state.Clean) :
    state.dataStore.session.Forall fun managedObject =>
      managedObject.storable := by
  rw [clean]
  exact state.dataStore.stored

theorem of_forall_addRows
    {property : ManagedObject → Prop} (rows : Table ManagedObject)
    {objects : List ManagedObject}
    (holds : (addRows rows objects).Forall property) :
    rows.Forall property ∧ ∀ managedObject ∈ objects,
      property (DataStore.withColumnDefaults managedObject) := by
  induction objects generalizing rows with
  | nil => exact ⟨holds, fun _ member => absurd member List.not_mem_nil⟩
  | cons managedObject rest ih =>
      obtain ⟨inserted, added⟩ :=
        ih (rows.insert (DataStore.withColumnDefaults managedObject)) holds
      refine ⟨fun row member => inserted row (List.mem_append_left _ member),
        fun other member => ?_⟩
      rcases List.mem_cons.mp member with rfl | later
      · exact inserted _ (List.mem_append_right _ (.head _))
      · exact added other later

/-- New rows are the same ones over tables that hand out the same keys. -/
theorem lookup_addRows_same
    (rows others : Table ManagedObject) (objects : List ManagedObject)
    (sameNext : others.next = rows.next) (key : Nat) :
    (addRows rows objects).lookup key = rows.lookup key ∧
        (addRows others objects).lookup key = others.lookup key ∨
      (addRows rows objects).lookup key = (addRows others objects).lookup key := by
  induction objects generalizing rows others with
  | nil => exact .inl ⟨rfl, rfl⟩
  | cons managedObject rest ih =>
      have inserted : ∀ table : Table ManagedObject,
          (table.insert (DataStore.withColumnDefaults managedObject)).lookup
            key = _ := fun table => Table.lookup_insert _ _ _
      have tail := ih
        (rows.insert (DataStore.withColumnDefaults managedObject))
        (others.insert (DataStore.withColumnDefaults managedObject))
        (by rw [Table.next_insert, Table.next_insert, sameNext])
      rcases tail with ⟨kept, othersKept⟩ | same
      · by_cases isNext : key = rows.next
        · right
          refine kept.trans (.trans ?_ othersKept.symm)
          rw [inserted, inserted, if_pos isNext, if_pos (isNext.trans
            sameNext.symm)]
        · left
          refine ⟨kept.trans ?_, othersKept.trans ?_⟩
          · rw [inserted, if_neg isNext]
          · rw [inserted, if_neg (sameNext ▸ isNext)]
      · exact .inr same

theorem active_addAll (dataStore : DataStore) (objects : List ManagedObject) :
    (objects.foldl DataStore.add dataStore).active = dataStore.active := by
  induction objects generalizing dataStore with
  | nil => rfl
  | cons managedObject rest ih => exact ih (dataStore.add managedObject)

/-- The rows that a permitted write leaves. -/
def Update.rows (rows : Table ManagedObject) {target : StoredObject} :
    Update payload target → Table ManagedObject
  | .change changed _ _ => rows.update target.uniqueIdentifier fun _ => changed
  | .remove _ _ _ => rows.remove target.uniqueIdentifier

/-- What is written to a stored object can always be flushed. -/
theorem Update.run_of_clean {state : EngineState}
    (clean : state.Clean) (active : state.dataStore.active = true)
    {target : StoredObject}
    (stored : state.dataStore.session.lookup target.uniqueIdentifier =
      some target.managedObject)
    (written : Update payload target) :
    ∃ after, written.run state = .ok written.reply after ∧
      after.dataStore.committed = written.rows state.dataStore.session := by
  cases written with
  | change changed evolves reply =>
      have flushed : (state.dataStore.change target.uniqueIdentifier
          changed).session.Forall fun managedObject =>
            managedObject.storable := by
        apply clean.storable.update
        intro value found
        rw [evolves.storable]
        exact Table.forall_iff_lookup.mp clean.storable _ _ stored
      exact ⟨_, flush_of_storable
        (state.dataStore.change target.uniqueIdentifier changed) active
        flushed, rfl⟩
  | remove destroys inactive reply =>
      exact ⟨_, flush_of_storable
        (state.dataStore.delete target.uniqueIdentifier) active
        (clean.storable.remove _), rfl⟩

/-- The target of an item that writes is the stored object itself. -/
theorem lookup_of_access
    (writes : writingOperations.contains payload.operation)
    {state : EngineState} {uniqueIdentifier : Option String}
    {target : StoredObject}
    (accessed : access world state uniqueIdentifier payload.accessCode =
      .ok target) :
    state.dataStore.session.lookup target.uniqueIdentifier =
      some target.managedObject := by
  obtain ⟨found, located, copied, _⟩ := access_eq_ok accessed
  rw [loadedCopy, if_neg (accessCode_ne_get writes)] at copied
  cases copied
  exact findObject_eq_some located

variable (cleanFirst : first.Clean) (cleanSecond : second.Clean)
include cleanFirst cleanSecond

theorem Update.run_agree
    {target : StoredObject} (written : Update payload target)
    (active : second.dataStore.active = first.dataStore.active)
    (barbican : second.barbican = first.barbican)
    (idPlaceholder : second.idPlaceholder = first.idPlaceholder)
    (stored : first.dataStore.session.lookup target.uniqueIdentifier =
      some target.managedObject)
    (alsoStored : second.dataStore.session.lookup target.uniqueIdentifier =
      some target.managedObject)
    (ran : written.run first = .ok response after) :
    ∃ other, written.run second = .ok response other ∧
      SameWrites first after second other := by
  cases written with
  | change changed evolves reply =>
      obtain ⟨rfl, commits, keptBarbican, keptPlaceholder⟩ := flush_eq_ok ran
      have storable := (storable_of_flush ran).2
      have isActive := (storable_of_flush ran).1
      have flushed : (second.dataStore.change target.uniqueIdentifier
          changed).session.Forall fun managedObject =>
            managedObject.storable := by
        refine cleanSecond.storable.update fun value found => ?_
        rw [evolves.storable]
        exact Table.forall_iff_lookup.mp cleanSecond.storable _ _ alsoStored
      refine ⟨_, flush_of_storable
        (second.dataStore.change target.uniqueIdentifier changed)
        (active.trans isActive) flushed, ?_, barbican.trans keptBarbican.symm,
        idPlaceholder.trans keptPlaceholder.symm⟩
      intro key
      rw [commits.committed]
      show (first.dataStore.session.update _ _).lookup key = _ ∧
        (second.dataStore.session.update _ _).lookup key = _ ∨
        (first.dataStore.session.update _ _).lookup key =
          (second.dataStore.session.update _ _).lookup key
      by_cases same : key = target.uniqueIdentifier
      · right
        rw [same, Table.lookup_update_self _ _ stored,
          Table.lookup_update_self _ _ alsoStored]
      · left
        rw [Table.lookup_update_of_ne _ _ same,
          Table.lookup_update_of_ne _ _ same, cleanFirst, cleanSecond]
        exact ⟨rfl, rfl⟩
  | remove destroys inactive reply =>
      obtain ⟨rfl, commits, keptBarbican, keptPlaceholder⟩ := flush_eq_ok ran
      have isActive := (storable_of_flush ran).1
      refine ⟨_, flush_of_storable
        (second.dataStore.delete target.uniqueIdentifier)
        (active.trans isActive) (cleanSecond.storable.remove _), ?_,
        barbican.trans keptBarbican.symm,
        idPlaceholder.trans keptPlaceholder.symm⟩
      intro key
      rw [commits.committed]
      show (first.dataStore.session.remove _).lookup key = _ ∧
        (second.dataStore.session.remove _).lookup key = _ ∨
        (first.dataStore.session.remove _).lookup key =
          (second.dataStore.session.remove _).lookup key
      rw [Table.lookup_remove, Table.lookup_remove]
      by_cases same : key = target.uniqueIdentifier
      · right
        rw [if_pos same, if_pos same]
      · left
        rw [if_neg same, if_neg same, cleanFirst, cleanSecond]
        exact ⟨rfl, rfl⟩

theorem flush_agree
    (objects : List ManagedObject) {idPlaceholder : Option String}
    {reply : ResponsePayload}
    (sameNext : second.dataStore.session.next = first.dataStore.session.next)
    (active : second.dataStore.active = first.dataStore.active)
    (barbican : second.barbican = first.barbican)
    (ran : first.flush (objects.foldl DataStore.add first.dataStore)
      idPlaceholder reply = .ok response after) :
    ∃ other, second.flush (objects.foldl DataStore.add second.dataStore)
        idPlaceholder reply = .ok response other ∧
      SameWrites first after second other := by
  obtain ⟨rfl, commits, keptBarbican, keptPlaceholder⟩ := flush_eq_ok ran
  obtain ⟨isActive, storable⟩ := storable_of_flush ran
  rw [active_addAll] at isActive
  rw [session_addAll] at storable
  have flushed : (objects.foldl DataStore.add second.dataStore).session.Forall
      fun managedObject => managedObject.storable := by
    rw [session_addAll]
    exact forall_addRows cleanSecond.storable (of_forall_addRows _ storable).2
  refine ⟨_, flush_of_storable (objects.foldl DataStore.add second.dataStore)
    ((active_addAll _ _).trans (active.trans isActive)) flushed, ?_,
    barbican.trans keptBarbican.symm, keptPlaceholder.symm⟩
  intro key
  rw [commits.committed]
  show (objects.foldl DataStore.add first.dataStore).session.lookup key = _ ∧
    (objects.foldl DataStore.add second.dataStore).session.lookup key = _ ∨
    (objects.foldl DataStore.add first.dataStore).session.lookup key =
      (objects.foldl DataStore.add second.dataStore).session.lookup key
  rw [session_addAll, session_addAll, ← cleanFirst, ← cleanSecond]
  exact lookup_addRows_same _ _ objects sameNext key

/-- An item that succeeds does the same over all stores that agree. -/
theorem Plan.run_agree
    (plan : Plan context payload)
    (agree : Agree world payload.accessCode first second)
    (sameNext : second.dataStore.session.next = first.dataStore.session.next)
    (ran : plan.run world first = .ok response after) :
    ∃ other, plan.run world second = .ok response other ∧
      SameWrites first after second other := by
  have idPlaceholder : second.idPlaceholder = first.idPlaceholder :=
    congrArg ItemContext.idPlaceholder agree.context
  induction plan with
  | refuse exception => cases ran
  | reply reads reply =>
      cases ran
      exact ⟨second, rfl, fun _ => .inl ⟨rfl, rfl⟩, agree.barbican,
        idPlaceholder⟩
  | lookup uniqueIdentifier disguise next ih =>
      rw [Plan.run] at ran
      split at ran
      · rename_i storedObject accessed
        obtain ⟨other, alsoRan, writes⟩ := ih _ ran
        refine ⟨other, ?_, writes⟩
        rw [Plan.run, access_of_agree agree accessed]
        exact alsoRan
      · cases ran
  | list next ih =>
      rw [Plan.run] at ran
      split at ran
      · cases ran
      · rename_i active
        obtain ⟨other, alsoRan, writes⟩ := ih _ ran
        refine ⟨other, ?_, writes⟩
        rw [Plan.run, if_neg (agree.active ▸ active),
          permittedObjects_of_agree agree]
        exact alsoRan
  | update writes decide =>
      rw [Plan.run] at ran
      split at ran
      · cases ran
      · rename_i target accessed
        split at ran
        · cases ran
        · rename_i written decided
          have alsoAccessed := access_of_agree agree accessed
          obtain ⟨other, alsoRan, same⟩ := written.run_agree cleanFirst
            cleanSecond agree.active agree.barbican idPlaceholder
            (lookup_of_access writes accessed)
            (lookup_of_access writes alsoAccessed) ran
          refine ⟨other, ?_, same⟩
          rw [Plan.run, alsoAccessed]
          simp only [decided]
          exact alsoRan
  | create creation =>
      have added : ∀ dataStore : DataStore,
          (creation.others.foldl DataStore.add dataStore).add creation.last =
            (creation.others ++ [creation.last]).foldl DataStore.add dataStore :=
        fun _ => by rw [List.foldl_append]; rfl
      rw [Plan.run, Creation.run, added] at ran
      rw [Plan.run, Creation.run, added, sameNext]
      exact flush_agree cleanFirst cleanSecond _ sameNext agree.active
        agree.barbican ran
  | createSecret creation =>
      rw [Plan.run, SecretCreation.run] at ran
      rw [Plan.run, SecretCreation.run]
      split at ran
      · cases ran
      · rename_i secretRef created
        simp only at ran ⊢
        cases built : creation.build secretRef with
        | error exception =>
            rw [built] at ran
            cases ran
        | ok managedObject =>
            rw [built] at ran
            rw [sameNext, agree.barbican]
            have createdFirst : EngineState.Clean
                { first with barbican :=
                    first.barbican.createSecret secretRef creation.value } :=
              cleanFirst
            have createdSecond : EngineState.Clean
                { second with barbican :=
                    first.barbican.createSecret secretRef creation.value } :=
              cleanSecond
            obtain ⟨other, alsoRan, writes⟩ := flush_agree createdFirst
              createdSecond [managedObject] sameNext agree.active rfl ran
            exact ⟨other, alsoRan, writes.rows, writes.barbican,
              writes.idPlaceholder⟩

end Successes

end PyKMIP
