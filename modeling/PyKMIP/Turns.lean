import PyKMIP.Rows
import PyKMIP.Transactions.Agreement

/-!
# Items that change nothing

An item leaves the rows alone when it only reads, when the checks of its plan
turn it down, or when it writes what the object holds already.  All three are
read off the item and the state in which its turn comes.
-/

namespace PyKMIP

open EStateM StatefulExcept

section Plans

variable {context : ItemContext} {payload : RequestPayload}

/-- The plan ends in a refusal: a check fails, an object is not there or not
permitted, a row would not fit its columns, or the session is inactive. -/
def Plan.Declines (world : World) (state : EngineState) :
    Plan context payload → Prop
  | .refuse _ => True
  | .reply _ _ => False
  | .lookup uniqueIdentifier _ next =>
      ∀ storedObject,
        access world state uniqueIdentifier payload.accessCode =
          .ok storedObject →
        (next storedObject).Declines world state
  | .list next =>
      state.dataStore.active = true →
        (next (permittedObjects world state payload.accessCode)).Declines world
          state
  | .update _ decide =>
      ∀ target,
        access world state (context.target payload) payload.accessCode =
          .ok target →
        (decide target).isOk = false
  | .create creation =>
      state.dataStore.active = true →
        ∃ managedObject ∈ creation.others ++ [creation.last],
          managedObject.storable = false
  | .createSecret creation =>
      state.dataStore.active = true → ∀ secretRef,
        world.createdSecret = some secretRef →
        (creation.build secretRef).isOk = false

/-- The plan writes to its target what the target holds already. -/
def Plan.Rewrites (world : World) (state : EngineState) :
    Plan context payload → Prop
  | .lookup uniqueIdentifier _ next =>
      ∃ storedObject,
        access world state uniqueIdentifier payload.accessCode =
          .ok storedObject ∧
        (next storedObject).Rewrites world state
  | .list next =>
      (next (permittedObjects world state payload.accessCode)).Rewrites world
        state
  | .update _ decide =>
      ∃ target evolves reply,
        access world state (context.target payload) payload.accessCode =
          .ok target ∧
        decide target = .ok (.change target.managedObject evolves reply)
  | .refuse _ | .reply _ _ | .create _ | .createSecret _ => False

end Plans

section Flushing

variable {payload : RequestPayload} {state : EngineState} {world : World}

theorem flush_raises
    {dataStore : DataStore} {idPlaceholder : Option String}
    {reply : ResponsePayload}
    (unflushable : dataStore.active = true →
      ¬dataStore.session.Forall fun managedObject => managedObject.storable) :
    ∃ exception after,
      state.flush dataStore idPlaceholder reply = .error exception after := by
  cases flushes : state.flush dataStore idPlaceholder reply with
  | ok response after =>
      obtain ⟨active, flushed⟩ := storable_of_flush flushes
      exact absurd flushed (unflushable active)
  | error exception after => exact ⟨exception, after, rfl⟩

/-- A write leaves the rows as they are if and only if it writes the object as
it is. -/
theorem Update.rows_eq_iff
    {rows : Table ManagedObject} {target : StoredObject}
    (stored : rows.lookup target.uniqueIdentifier =
      some target.managedObject)
    (written : Update payload target) :
    written.rows rows = rows ↔
      ∃ evolves reply, written = .change target.managedObject evolves reply := by
  cases written with
  | change changed evolves reply =>
      constructor
      · intro same
        have found := congrArg (Table.lookup · target.uniqueIdentifier) same
        simp only [Update.rows] at found
        rw [Table.lookup_update_self _ _ stored, stored] at found
        cases found
        exact ⟨evolves, reply, rfl⟩
      · rintro ⟨_, _, same⟩
        cases same
        exact @Table.update_eq_self _ rows _ _ (fun _ => target.managedObject)
          stored rfl
  | remove destroys inactive reply =>
      constructor
      · intro same
        have found := congrArg (Table.lookup · target.uniqueIdentifier) same
        simp only [Update.rows] at found
        rw [Table.lookup_remove, if_pos rfl, stored] at found
        cases found
      · rintro ⟨_, _, same⟩
        cases same

theorem Creation.run_raises
    {creation : Creation payload}
    (declines : state.dataStore.active = true →
      ∃ managedObject ∈ creation.others ++ [creation.last],
        managedObject.storable = false) :
    ∃ exception after, creation.run state = .error exception after := by
  apply flush_raises
  intro active flushed
  have opened : state.dataStore.active = true :=
    (active_addAll _ creation.others).symm.trans active
  obtain ⟨managedObject, member, unstorable⟩ := declines opened
  have added : (addRows state.dataStore.session
      (creation.others ++ [creation.last])).Forall fun managedObject =>
        managedObject.storable := by
    rw [← session_addAll, List.foldl_append]
    exact flushed
  have storable : managedObject.storable = true :=
    (of_forall_addRows _ added).2 managedObject member
  rw [unstorable] at storable
  cases storable

theorem Creation.run_of_clean
    {creation : Creation payload} (clean : state.Clean)
    (active : state.dataStore.active = true)
    (storable : ∀ managedObject ∈ creation.others ++ [creation.last],
      managedObject.storable = true) :
    ∃ reply after, creation.run state = .ok reply after := by
  have flushed : (addRows state.dataStore.session
      (creation.others ++ [creation.last])).Forall fun managedObject =>
        managedObject.storable :=
    forall_addRows clean.storable storable
  rw [← session_addAll, List.foldl_append] at flushed
  exact ⟨_, _, flush_of_storable
    ((creation.others.foldl DataStore.add state.dataStore).add creation.last)
    ((active_addAll _ creation.others).trans active) flushed⟩

theorem SecretCreation.run_raises
    {creation : SecretCreation payload}
    (declines : state.dataStore.active = true → ∀ secretRef,
      world.createdSecret = some secretRef →
      (creation.build secretRef).isOk = false) :
    ∃ exception after, creation.run world state = .error exception after := by
  unfold SecretCreation.run
  split
  · exact ⟨_, _, rfl⟩
  · rename_i secretRef created
    simp only
    split
    · exact ⟨_, _, rfl⟩
    · rename_i managedObject built
      apply flush_raises
      intro active
      have failed := declines active secretRef created
      rw [built] at failed
      cases failed

theorem SecretCreation.run_of_clean
    {creation : SecretCreation payload} (clean : state.Clean)
    (active : state.dataStore.active = true) {secretRef : String}
    (created : world.createdSecret = some secretRef)
    (builds : (creation.build secretRef).isOk = true) :
    ∃ reply after, creation.run world state = .ok reply after := by
  cases built : creation.build secretRef with
  | error exception =>
      rw [built] at builds
      cases builds
  | ok managedObject =>
      have flushed : (state.dataStore.add managedObject).session.Forall
          fun stored => stored.storable :=
        clean.storable.insert
          (storable_of_symmetricKey (creation.refers _ _ built).1)
      unfold SecretCreation.run
      rw [created]
      simp only [built]
      exact ⟨_, _, flush_of_storable (state.dataStore.add managedObject) active
        flushed⟩

end Flushing

theorem addRows_ne
    {rows : Table ManagedObject} {objects : List ManagedObject}
    (new : objects ≠ []) :
    addRows rows objects ≠ rows := by
  intro same
  have next := next_addRows rows objects
  rw [same] at next
  have longer := List.length_pos_of_ne_nil new
  omega

section Outcomes

variable {world : World} {context : ItemContext} {payload : RequestPayload}
  {before after : EngineState} {response : ResponsePayload}

theorem Plan.run_of_declines
    {plan : Plan context payload} (declines : plan.Declines world before) :
    ∃ exception after, plan.run world before = .error exception after := by
  induction plan with
  | refuse exception => exact ⟨_, _, rfl⟩
  | reply reads reply => exact declines.elim
  | lookup uniqueIdentifier disguise next ih =>
      rw [Plan.run]
      split
      · rename_i storedObject accessed
        exact ih storedObject (declines storedObject accessed)
      · exact ⟨_, _, rfl⟩
  | list next ih =>
      rw [Plan.run]
      split
      · exact ⟨_, _, rfl⟩
      · rename_i active
        exact ih _ (declines (by simpa using active))
  | update writes decide =>
      rw [Plan.run]
      split
      · exact ⟨_, _, rfl⟩
      · rename_i target accessed
        have refused := declines target accessed
        split
        · exact ⟨_, _, rfl⟩
        · rename_i written decided
          rw [decided] at refused
          cases refused
  | create creation => exact Creation.run_raises declines
  | createSecret creation => exact SecretCreation.run_raises declines

theorem Plan.run_of_not_declines
    {plan : Plan context payload} (clean : before.Clean)
    (accepts : ¬plan.Declines world before) :
    ∃ reply after, plan.run world before = .ok reply after := by
  induction plan with
  | refuse exception => exact absurd trivial accepts
  | reply reads reply => exact ⟨_, _, rfl⟩
  | lookup uniqueIdentifier disguise next ih =>
      simp only [Plan.Declines, not_forall] at accepts
      obtain ⟨storedObject, accessed, accepts⟩ := accepts
      rw [Plan.run, accessed]
      exact ih storedObject accepts
  | list next ih =>
      simp only [Plan.Declines, not_forall] at accepts
      obtain ⟨active, accepts⟩ := accepts
      rw [Plan.run, if_neg (by simp [active])]
      exact ih _ accepts
  | update writes decide =>
      simp only [Plan.Declines, not_forall, Bool.not_eq_false] at accepts
      obtain ⟨target, accessed, decides⟩ := accepts
      have active := (access_eq_ok_iff.mp accessed).1
      have stored := lookup_of_access writes accessed
      rw [Plan.run, accessed]
      cases decided : decide target with
      | error exception =>
          rw [decided] at decides
          cases decides
      | ok written =>
          obtain ⟨after, ran, _⟩ :=
            written.run_of_clean clean active stored
          refine ⟨written.reply, after, ?_⟩
          simp only [decided]
          exact ran
  | create creation =>
      simp only [Plan.Declines, not_forall, not_exists, not_and,
        Bool.not_eq_false] at accepts
      obtain ⟨active, storable⟩ := accepts
      exact Creation.run_of_clean clean active storable
  | createSecret creation =>
      simp only [Plan.Declines, not_forall, Bool.not_eq_false] at accepts
      obtain ⟨active, secretRef, created, builds⟩ := accepts
      exact SecretCreation.run_of_clean clean active created builds

/-- A successful item keeps the rows if and only if it reads, or writes what is
there already. -/
theorem Plan.keeps_iff_of_ok
    {plan : Plan context payload} (clean : before.Clean)
    (ran : plan.run world before = .ok response after) :
    after.dataStore.committed = before.dataStore.committed ↔
      readingOperations.contains payload.operation ∨
        plan.Rewrites world before := by
  induction plan with
  | refuse exception => cases ran
  | reply reads reply =>
      cases ran
      exact ⟨fun _ => .inl reads, fun _ => rfl⟩
  | lookup uniqueIdentifier disguise next ih =>
      rw [Plan.run] at ran
      split at ran
      · rename_i storedObject accessed
        refine (ih storedObject ran).trans (or_congr_right ?_)
        simp [Plan.Rewrites, accessed]
      · cases ran
  | list next ih =>
      rw [Plan.run] at ran
      split at ran
      · cases ran
      · exact ih _ ran
  | update writes decide =>
      rw [Plan.run] at ran
      split at ran
      · cases ran
      · rename_i target accessed
        split at ran
        · cases ran
        · rename_i written decided
          have active := (access_eq_ok_iff.mp accessed).1
          have stored := lookup_of_access writes accessed
          obtain ⟨flushed, succeeds, rows⟩ :=
            written.run_of_clean clean active stored
          rw [succeeds] at ran
          cases ran
          rw [rows, ← show before.dataStore.session = _ from clean,
            written.rows_eq_iff stored]
          have writing : ¬readingOperations.contains payload.operation :=
            fun reads => not_writing_of_reading reads writes
          rw [or_iff_right writing]
          simp [Plan.Rewrites, accessed, decided]
  | create creation =>
      have reading : ¬readingOperations.contains payload.operation :=
        fun reads => not_producing_of_reading reads creation.producing
      obtain ⟨_, commits, _, _⟩ := flush_eq_ok ran
      have rows : after.dataStore.committed =
          addRows before.dataStore.committed
            (creation.others ++ [creation.last]) := by
        rw [← show before.dataStore.session = _ from clean, ← session_addAll,
          List.foldl_append]
        exact commits.committed
      rw [rows, or_iff_right reading]
      exact iff_of_false (addRows_ne (by simp)) id
  | createSecret creation =>
      have reading : ¬readingOperations.contains payload.operation := by
        rw [creation.creating]
        decide
      rw [Plan.run, SecretCreation.run] at ran
      split at ran
      · cases ran
      · split at ran
        · cases ran
        · rename_i managedObject built
          obtain ⟨_, commits, _, _⟩ := flush_eq_ok ran
          have rows : after.dataStore.committed =
              addRows before.dataStore.committed [managedObject] := by
            rw [← show before.dataStore.session = _ from clean]
            exact commits.committed
          rw [rows, or_iff_right reading]
          exact iff_of_false (addRows_ne (by simp)) id

end Outcomes

section Turns

namespace Execution

variable (execution : Execution)

/-- The item is turned down in the state in which its turn comes. -/
def Declined : Prop :=
  (PyKMIP.plan execution.world execution.before.context
    execution.payload).Declines execution.world execution.before

/-- The item reads, is turned down, or writes what is there already. -/
def Idle : Prop :=
  readingOperations.contains execution.payload.operation ∨
    execution.Declined ∨
    (PyKMIP.plan execution.world execution.before.context
      execution.payload).Rewrites execution.world execution.before

variable {execution}

theorem result_eq_plan :
    execution.result =
      (PyKMIP.plan execution.world execution.before.context
        execution.payload).run execution.world execution.before :=
  processOperation_follows execution.world execution.payload execution.before

theorem succeeded_iff (clean : execution.before.Clean) :
    execution.Succeeded ↔ ¬execution.Declined := by
  unfold Succeeded outcome
  rw [result_eq_plan]
  constructor
  · intro succeeded declined
    obtain ⟨exception, after, ran⟩ := Plan.run_of_declines declined
    rw [ran] at succeeded
    cases succeeded
  · intro accepted
    obtain ⟨reply, after, ran⟩ := Plan.run_of_not_declines clean accepted
    rw [ran]
    rfl

/-- Whether an item changes the rows is decided before it runs. -/
theorem keeps_rows_iff (clean : execution.before.Clean) :
    execution.rowsAfter = execution.rowsBefore ↔ execution.Idle := by
  by_cases declined : execution.Declined
  · have failed : ¬execution.Succeeded := fun succeeded =>
      (succeeded_iff clean).mp succeeded declined
    exact ⟨fun _ => .inr (.inl declined),
      fun _ => rowsAfter_of_failed clean failed⟩
  · obtain ⟨reply, after, ran⟩ := Plan.run_of_not_declines clean declined
    have kept := Plan.keeps_iff_of_ok clean ran
    rw [← result_eq_plan] at ran
    unfold rowsAfter rowsBefore Execution.after Idle
    rw [ran]
    simp only [declined, false_or]
    exact kept

end Execution

/-- The items of a batch in the states in which their turns come, if none of
them stops it. -/
def turns (worlds : Nat → World) :
    Nat → List RequestBatchItem → EngineState → List Execution
  | _, [], _ => []
  | index, item :: rest, state =>
      let turn := ⟨worlds index, item, state⟩
      turn :: turns worlds (index + 1) rest turn.after

theorem map_item_turns
    (worlds : Nat → World) (index : Nat) (items : List RequestBatchItem)
    (state : EngineState) :
    (turns worlds index items state).map Execution.item = items := by
  induction items generalizing index state with
  | nil => rfl
  | cons item rest ih => rw [turns, List.map_cons, ih]

end Turns

end PyKMIP
