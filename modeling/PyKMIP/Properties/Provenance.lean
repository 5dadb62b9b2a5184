import PyKMIP.Properties.Immutability
import PyKMIP.Properties.PlaceholderIsolation

/-!
# Where stored objects come from

Only a producing item adds objects.  It stamps them with the user of its request
and with the time, and hands their identifiers out, which are the next keys of
the database.
-/

namespace PyKMIP

open EStateM StatefulExcept History

section Plans

variable {world : World} {context : ItemContext} {payload : RequestPayload}
  {claim : List ManagedObject → (Nat → ResponsePayload) → Prop}

/-- A claim about the objects that a plan may add, and about its response for
the key of the first one. -/
def Plan.Makes (claim : List ManagedObject → (Nat → ResponsePayload) → Prop) :
    Plan context payload → Prop
  | .refuse _ => True
  | .reply _ _ => True
  | .lookup _ _ next => ∀ storedObject, (next storedObject).Makes claim
  | .list next => ∀ storedObjects, (next storedObjects).Makes claim
  | .update _ _ => True
  | .create creation =>
      claim (creation.others ++ [creation.last]) creation.reply
  | .createSecret creation => ∀ secretRef managedObject,
      creation.build secretRef = .ok managedObject →
      claim [managedObject] creation.reply

theorem Plan.Makes.ofExcept
    {outcome : Except PyError α} {next : α → Plan context payload}
    (makes : ∀ value, outcome = .ok value → (next value).Makes claim) :
    (Plan.ofExcept outcome next).Makes claim := by
  cases outcome with
  | ok value => exact makes value rfl
  | error exception => exact trivial

theorem Plan.Makes.refuseIf
    {condition : Prop} [Decidable condition] {exception : PyError}
    {plan : Plan context payload} (makes : plan.Makes claim) :
    (Plan.refuseIf condition exception plan).Makes claim := by
  unfold Plan.refuseIf
  split
  · exact trivial
  · exact makes

theorem Plan.Makes.supportedSince
    {supported : ProtocolVersion} {operation : String}
    {plan : Plan context payload} (makes : plan.Makes claim) :
    (Plan.supportedSince supported operation plan).Makes claim :=
  .refuseIf makes

theorem planSources_makes
    {payload : DeriveKeyRequestPayload}
    {claim : List ManagedObject → (Nat → ResponsePayload) → Prop}
    (uniqueIdentifiers : List String)
    {next : List StoredObject → Plan context (.deriveKey payload)}
    (makes : ∀ storedObjects, (next storedObjects).Makes claim) :
    (planSources uniqueIdentifiers next).Makes claim := by
  induction uniqueIdentifiers generalizing next with
  | nil => exact makes []
  | cons uniqueIdentifier rest ih =>
      intro storedObject
      refine .refuseIf <| .ofExcept fun _ _ => .refuseIf ?_
      exact ih fun others => makes (storedObject :: others)

/-- A producing plan that succeeds has added objects of which its claim
holds. -/
theorem Plan.Makes.added
    {plan : Plan context payload} (makes : plan.Makes claim)
    {before after : EngineState} {response : ResponsePayload}
    (producing : producingOperations.contains payload.operation)
    (ran : plan.run world before = .ok response after) :
    ∃ objects reply, claim objects reply ∧
      response = reply before.dataStore.session.next ∧
      after.dataStore.committed =
        addRows before.dataStore.session objects := by
  induction plan with
  | refuse exception => cases ran
  | reply reads =>
      exact absurd producing (not_producing_of_reading reads)
  | lookup uniqueIdentifier disguise next ih =>
      rw [Plan.run] at ran
      split at ran
      · exact ih _ (makes _) ran
      · cases ran
  | list next ih =>
      rw [Plan.run] at ran
      split at ran
      · cases ran
      · exact ih _ (makes _) ran
  | update writes =>
      exact absurd producing (not_producing_of_writing writes)
  | create creation =>
      obtain ⟨replied, commits, _⟩ := flush_eq_ok ran
      refine ⟨_, _, makes, replied, ?_⟩
      rw [← session_addAll, List.foldl_append]
      exact commits.committed
  | createSecret creation =>
      rw [Plan.run, SecretCreation.run] at ran
      split at ran
      · cases ran
      · split at ran
        · cases ran
        · rename_i managedObject built
          obtain ⟨replied, commits, _⟩ := flush_eq_ok ran
          exact ⟨_, _, makes _ _ built, replied, commits.committed⟩

end Plans

section Stamps

/-- The identifiers that a response hands out, in the order of the keys. -/
def ResponsePayload.newIdentifiers : ResponsePayload → List String
  | .create _ uniqueIdentifier => [uniqueIdentifier]
  | .createKeyPair privateKeyUniqueIdentifier publicKeyUniqueIdentifier =>
      [publicKeyUniqueIdentifier, privateKeyUniqueIdentifier]
  | .register uniqueIdentifier => [uniqueIdentifier]
  | .deriveKey uniqueIdentifier => [uniqueIdentifier]
  | _ => []

/-- The numerals of consecutive keys. -/
def numerals (first count : Nat) : List String :=
  (List.range' first count).map toString

theorem numerals_append (first count more : Nat) :
    numerals first (count + more) =
      numerals first count ++ numerals (first + count) more := by
  unfold numerals
  rw [← List.map_append, List.range'_append_1]

theorem nodup_numerals (first count : Nat) : (numerals first count).Nodup := by
  refine List.Nodup.map (fun left right same => ?_) (List.nodup_range' ..)
  have found := decimalColumn.rowOf_toString left
  change toString left = toString right at same
  rw [same, decimalColumn.rowOf_toString] at found
  exact (Option.some.inj found).symm

theorem mem_numerals {first count key : Nat} (above : first ≤ key)
    (below : key < first + count) : toString key ∈ numerals first count :=
  List.mem_map_of_mem (List.mem_range'_1.mpr ⟨above, below⟩)

/-- Who has created an object, and when. -/
structure Stamped (world : World) (clientIdentity : ClientIdentity)
    (managedObject : ManagedObject) : Prop where
  owner : managedObject.owner = clientIdentity.user
  initialDate : managedObject.initialDate = world.now

/-- The new objects are stamped, and the response names them all. -/
structure Stamps (world : World) (clientIdentity : ClientIdentity)
    (objects : List ManagedObject) (reply : Nat → ResponsePayload) : Prop where
  stamped : ∀ managedObject ∈ objects,
    Stamped world clientIdentity managedObject
  names : ∀ key, (reply key).newIdentifiers = numerals key objects.length

variable {world : World} {context : ItemContext}

theorem completeObject_stamped
    {clientIdentity : ClientIdentity} {attributes : ObjectAttributes}
    {managedObject completed : ManagedObject}
    (ran : completeObject world clientIdentity attributes managedObject =
      .ok completed) :
    Stamped world clientIdentity completed := by
  obtain ⟨changed, _, returned⟩ := except_bind_ok_iff.mp ran
  cases returned
  exact ⟨rfl, rfl⟩

theorem Stamps.single
    {clientIdentity : ClientIdentity} {managedObject : ManagedObject}
    {reply : Nat → ResponsePayload}
    (stamped : Stamped world clientIdentity managedObject)
    (names : ∀ key, (reply key).newIdentifiers = [toString key]) :
    Stamps world clientIdentity [managedObject] reply where
  stamped := by simpa using stamped
  names := names

theorem planCreate_stamps (payload : CreateRequestPayload) :
    (planCreate world context payload).Makes
      (Stamps world context.clientIdentity) := by
  refine .supportedSince <| .refuseIf <| .ofExcept fun _ _ =>
    .ofExcept fun _ _ => .ofExcept fun _ _ => .ofExcept fun _ _ => ?_
  split
  · exact fun _ _ built => .single (completeObject_stamped built) fun _ => rfl
  · exact .ofExcept fun managedObject _ =>
      .single (completeObject_stamped managedObject.2) fun _ => rfl

theorem planCreateKeyPair_stamps (payload : CreateKeyPairRequestPayload) :
    (planCreateKeyPair world context payload).Makes
      (Stamps world context.clientIdentity) := by
  refine .supportedSince <| .ofExcept fun _ _ => .ofExcept fun _ _ =>
    .ofExcept fun _ _ => .ofExcept fun _ _ => .ofExcept fun _ _ =>
    .refuseIf <| .refuseIf <| .ofExcept fun _ _ => .ofExcept fun _ _ =>
    .ofExcept fun _ _ => .ofExcept fun publicObject _ =>
    .ofExcept fun privateObject _ => ?_
  refine ⟨fun managedObject member => ?_, fun _ => rfl⟩
  rcases List.mem_cons.mp member with rfl | last
  · exact completeObject_stamped publicObject.2
  · rw [List.mem_singleton.mp last]
    exact completeObject_stamped privateObject.2

theorem planRegister_stamps (payload : RegisterRequestPayload) :
    (planRegister world context payload).Makes
      (Stamps world context.clientIdentity) :=
  .supportedSince <| .refuseIf <| .ofExcept fun _ _ => .ofExcept fun _ _ =>
    .ofExcept fun _ _ => .ofExcept fun managedObject _ =>
    .single (completeObject_stamped managedObject.2) fun _ => rfl

theorem planDeriveKey_stamps (payload : DeriveKeyRequestPayload) :
    (planDeriveKey world context payload).Makes
      (Stamps world context.clientIdentity) :=
  .supportedSince <| .ofExcept fun _ _ => .refuseIf <| .refuseIf <|
    planSources_makes _ fun _ => .ofExcept fun _ _ => .ofExcept fun _ _ =>
    .ofExcept fun _ _ => .ofExcept fun _ _ => .ofExcept fun _ _ =>
    .ofExcept fun managedObject _ =>
    .single (completeObject_stamped managedObject.2) fun _ => rfl

theorem plan_stamps (payload : RequestPayload)
    (producing : producingOperations.contains payload.operation) :
    (plan world context payload).Makes
      (Stamps world context.clientIdentity) := by
  cases payload with
  | create payload => exact planCreate_stamps payload
  | createKeyPair payload => exact planCreateKeyPair_stamps payload
  | register payload => exact planRegister_stamps payload
  | deriveKey payload => exact planDeriveKey_stamps payload
  | unsupported operation undispatched => exact trivial
  | _ => simp [RequestPayload.operation, producingOperations] at producing

end Stamps

section Births

/-- Objects that are added are found under the next keys. -/
theorem lookup_addRows_eq
    (rows : Table ManagedObject) (objects : List ManagedObject) (key : Nat) :
    (addRows rows objects).lookup key =
      if key < rows.next then rows.lookup key
      else (objects[key - rows.next]?).map DataStore.withColumnDefaults := by
  induction objects generalizing rows with
  | nil =>
      split
      · rfl
      · rename_i unused
        exact Table.lookup_eq_none_of_le (Nat.not_lt.mp unused)
  | cons first rest ih =>
      refine (ih (rows.insert (DataStore.withColumnDefaults first))).trans ?_
      rw [Table.next_insert, Table.lookup_insert]
      rcases Nat.lt_trichotomy key rows.next with below | same | above
      · rw [if_pos (by omega), if_neg (by omega), if_pos below]
      · rw [if_pos (by omega), if_pos same, if_neg (by omega),
          show key - rows.next = 0 by omega]
        rfl
      · rw [if_neg (by omega), if_neg (by omega),
          show key - rows.next = key - (rows.next + 1) + 1 by omega]
        rfl

namespace Execution

variable (execution : Execution)

/-- The identifiers that a successful producing item hands out. -/
def identifiers : List String :=
  if producingOperations.contains execution.payload.operation then
    match execution.outcome with
    | .ok response => response.newIdentifiers
    | .error _ => []
  else []

variable {execution}

/-- An item adds the objects that it hands the identifiers out of, and no
others. -/
theorem births (clean : execution.before.Clean) :
    ∃ objects : List ManagedObject,
      execution.identifiers =
        numerals execution.rowsBefore.next objects.length ∧
      execution.rowsAfter.next = execution.rowsBefore.next + objects.length ∧
      ∀ key managedObject, execution.rowsBefore.lookup key = none →
        execution.rowsAfter.lookup key = some managedObject →
        execution.Succeeded ∧ toString key ∈ execution.identifiers ∧
        Stamped execution.world execution.before.clientIdentity
          managedObject := by
  have session : execution.before.dataStore.session = execution.rowsBefore :=
    clean
  by_cases producing : producingOperations.contains execution.payload.operation
  · cases outcome : execution.outcome with
    | error exception =>
        have rows : execution.rowsAfter = execution.rowsBefore :=
          (untouched clean outcome).committed
        refine ⟨[], ?_, by rw [rows]; rfl, fun key managedObject absent found => ?_⟩
        · unfold identifiers
          rw [if_pos producing, outcome]
          rfl
        · rw [rows, absent] at found
          cases found
    | ok response =>
        have ran := result_of_outcome_ok outcome
        unfold result at ran
        rw [processOperation_follows] at ran
        obtain ⟨objects, reply, stamps, replied, rows⟩ :=
          (plan_stamps execution.payload producing).added producing ran
        change execution.rowsAfter = _ at rows
        rw [session] at replied rows
        have handed : execution.identifiers =
            numerals execution.rowsBefore.next objects.length := by
          unfold identifiers
          rw [if_pos producing, outcome, ← stamps.names, ← replied]
        refine ⟨objects, handed, ?_, fun key managedObject absent found => ?_⟩
        · rw [rows, next_addRows]
        rw [rows, lookup_addRows_eq] at found
        split at found
        · rw [absent] at found
          cases found
        · rename_i unused
          obtain ⟨added, located, rfl⟩ := Option.map_eq_some_iff.mp found
          obtain ⟨inside, rfl⟩ := List.getElem?_eq_some_iff.mp located
          have stamped := stamps.stamped _ (List.getElem_mem inside)
          rw [handed]
          exact ⟨succeeded_of_outcome outcome,
            mem_numerals (Nat.not_lt.mp unused) (by omega),
            stamped.owner, stamped.initialDate⟩
  · have same : execution.rowsAfter.next = execution.rowsBefore.next ∧
        ∀ key, execution.rowsBefore.lookup key = none →
          execution.rowsAfter.lookup key = none := by
      by_cases succeeded : execution.Succeeded
      · obtain ⟨response, outcome⟩ := outcome_of_succeeded succeeded
        refine ⟨?_, fun key absent => ?_⟩
        · have transaction := transaction outcome
          unfold rowsAfter
          generalize execution.after = after at transaction ⊢
          cases transaction with
          | read => rfl
          | change _ _ _ _ _ _ commits => rw [commits.committed, session]; rfl
          | remove _ _ _ _ _ commits => rw [commits.committed, session]; rfl
          | create _ _ creates => exact absurd creates producing
          | createSecret _ _ _ creates =>
              rw [creates] at producing
              exact absurd rfl producing
        · have step := rowStep_of_transaction clean outcome key
          rw [absent] at step
          cases found : execution.rowsAfter.lookup key with
          | none => rfl
          | some managedObject =>
              rw [found] at step
              cases step with
              | add _ creates => exact absurd creates producing
      · rw [rowsAfter_of_failed clean succeeded]
        exact ⟨rfl, fun _ absent => absent⟩
    refine ⟨[], if_neg producing, same.1,
      fun key managedObject absent found => ?_⟩
    rw [same.2 key absent] at found
    cases found

end Execution

end Births

section Runs

variable {start : EngineState} {exchanges : List Exchange}

/-- An execution of a run belongs to one of its requests. -/
theorem exchange_of_mem_history {execution : Execution}
    (member : execution ∈ history start exchanges) :
    ∃ earlier exchange later, exchanges = earlier ++ exchange :: later ∧
      execution ∈ exchange.executions (run start earlier) := by
  induction exchanges generalizing start with
  | nil => cases member
  | cons exchange rest ih =>
      rcases List.mem_append.mp member with now | later
      · exact ⟨[], exchange, rest, rfl, now⟩
      · obtain ⟨earlier, other, remaining, divides, executed⟩ := ih later
        exact ⟨exchange :: earlier, other, remaining, by rw [divides]; rfl,
          executed⟩

theorem Linked.identifiers
    {first last : Table ManagedObject} {executions : List Execution}
    (linked : Linked Execution.rowsBefore Execution.rowsAfter first executions
      last)
    (clean : ∀ execution ∈ executions, execution.before.Clean) :
    first.next ≤ last.next ∧
      executions.flatMap Execution.identifiers =
        numerals first.next (last.next - first.next) := by
  induction executions generalizing first with
  | nil =>
      cases linked
      exact ⟨Nat.le_refl _, by rw [Nat.sub_self]; rfl⟩
  | cons execution rest ih =>
      obtain ⟨entered, linked⟩ := linked
      subst entered
      obtain ⟨objects, handed, next, _⟩ :=
        Execution.births (clean execution (.head _))
      obtain ⟨above, others⟩ := ih linked fun other member =>
        clean other (.tail _ member)
      rw [next] at above others
      refine ⟨by omega, ?_⟩
      rw [List.flatMap_cons, handed, others, ← numerals_append]
      congr 1
      omega

/-- The identifiers that a run hands out are the numerals of consecutive keys,
from the first unused one on; none of them is handed out twice. -/
theorem handed_out_identifiers_are_consecutive
    (start : EngineState) (exchanges : List Exchange) :
    (history start exchanges).flatMap Execution.identifiers =
        numerals start.dataStore.committed.next
          ((run start exchanges).dataStore.committed.next -
            start.dataStore.committed.next) ∧
      ((history start exchanges).flatMap Execution.identifiers).Nodup := by
  have handed := (Linked.identifiers (history_rows start exchanges)
    fun _ member => clean_of_mem_history member).2
  rw [handed]
  exact ⟨rfl, nodup_numerals _ _⟩

/-- An object is stored since before the executions, or one of them has added
it. -/
theorem Linked.origin
    {first last : Table ManagedObject} {executions : List Execution}
    (linked : Linked Execution.rowsBefore Execution.rowsAfter first executions
      last)
    (clean : ∀ execution ∈ executions, execution.before.Clean) {key : Nat}
    {managedObject : ManagedObject}
    (stored : last.lookup key = some managedObject) :
    (∃ old, first.lookup key = some old ∧
        managedObject.immutable = old.immutable) ∨
      ∃ execution ∈ executions, execution.Succeeded ∧
        toString key ∈ execution.identifiers ∧
        Stamped execution.world execution.before.clientIdentity
          managedObject := by
  induction executions generalizing first with
  | nil =>
      cases linked
      exact .inl ⟨managedObject, stored, rfl⟩
  | cons execution rest ih =>
      obtain ⟨entered, linked⟩ := linked
      subst entered
      have cleanNow := clean execution (.head _)
      rcases ih linked fun other member => clean other (.tail _ member) with
        ⟨between, found, same⟩ | ⟨other, member, born⟩
      · cases before : execution.rowsBefore.lookup key with
        | none =>
            obtain ⟨_, _, _, added⟩ := Execution.births cleanNow
            obtain ⟨succeeded, handed, stamped⟩ := added key between before found
            have identity := ManagedObject.SameIdentity.of_immutable_eq same
            exact .inr ⟨execution, .head _, succeeded, handed,
              identity.owner.trans stamped.owner,
              identity.initialDate.trans stamped.initialDate⟩
        | some old =>
            have step := execution.rowStep cleanNow key
            rw [before, found] at step
            refine .inl ⟨old, rfl, ?_⟩
            cases step with
            | keep => exact same
            | change succeeded writes located permitted evolves =>
                exact same.trans evolves.immutable
      · exact .inr ⟨other, .tail _ member, born⟩

/-- Where an object comes from that a run has added. -/
structure Added (start : EngineState) (exchanges : List Exchange) (key : Nat)
    (managedObject : ManagedObject) (earlier : List Exchange)
    (exchange : Exchange) (execution : Execution) : Prop where
  served : ∃ later, exchanges = earlier ++ exchange :: later
  executed : execution ∈ exchange.executions (run start earlier)
  succeeded : execution.Succeeded
  handedOut : toString key ∈ execution.identifiers
  owner : managedObject.owner = exchange.credential.user
  initialDate : managedObject.initialDate = execution.world.now

/-- After any run, an object has been stored since before the run, or a request
of its owner has added it under an identifier that it has handed out. -/
theorem stored_objects_have_an_origin
    (start : EngineState) (exchanges : List Exchange) (key : Nat)
    (managedObject : ManagedObject)
    (stored : (run start exchanges).dataStore.committed.lookup key =
      some managedObject) :
    (∃ old, start.dataStore.committed.lookup key = some old ∧
        old.SameIdentity managedObject) ∨
      ∃ earlier exchange execution,
        Added start exchanges key managedObject earlier exchange execution := by
  rcases Linked.origin (history_rows start exchanges)
      (fun _ member => clean_of_mem_history member) stored with
    ⟨old, found, same⟩ | ⟨execution, member, succeeded, handedOut, stamped⟩
  · exact .inl ⟨old, found, .of_immutable_eq same⟩
  · obtain ⟨earlier, exchange, later, divides, executed⟩ :=
      exchange_of_mem_history member
    have serves := exchange.serves_of_mem _ executed
    refine .inr ⟨earlier, exchange, execution, ⟨later, divides⟩, executed,
      succeeded, handedOut, ?_, stamped.initialDate⟩
    rw [stamped.owner, serves.clientIdentity]

/-- A run in which a key is created and activated. -/
def sampleRun : List Exchange :=
  [sampleExchange sampleWorld "alice"
    [{ uniqueBatchItemId := some [1], requestPayload := sampleCreation },
      { uniqueBatchItemId := some [2]
        requestPayload := .activate (some "1") }]]

theorem stored_objects_have_an_origin_creation :
    ∃ managedObject earlier exchange execution,
      Added (newEngine .empty []) sampleRun 1 managedObject earlier exchange
        execution := by
  have found : ((run (newEngine .empty []) sampleRun).dataStore.committed.lookup
      1).isSome = true := by decide
  obtain ⟨managedObject, stored⟩ := Option.isSome_iff_exists.mp found
  rcases stored_objects_have_an_origin (newEngine .empty []) sampleRun 1
      managedObject stored with ⟨old, before, _⟩ | added
  · cases before
  · exact ⟨managedObject, added⟩

end Runs

end PyKMIP
