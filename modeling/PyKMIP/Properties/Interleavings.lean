import PyKMIP.Lib.Interleaving
import PyKMIP.Properties.PlaceholderIsolation
import PyKMIP.Transactions.Confinement

/-!
# Interleaved requests of several clients

Requests that only name objects of their own do not interfere.  However the
requests of several clients are interleaved, each of them gets the responses of
a run without the others.  Requests that only read may be left out of a run.
-/

namespace PyKMIP

open EStateM StatefulExcept History Interleaving

section Items

namespace Execution

variable {execution : Execution}

theorem context_after (clean : execution.before.Clean)
    (isLocal : execution.payload.Local) :
    execution.after.context = execution.before.context := by
  have placeholder : execution.after.idPlaceholder =
      execution.before.idPlaceholder := by
    rw [idPlaceholder_after clean, produced_of_not_producing isLocal.1,
      Option.none_or]
  have client : execution.after.clientIdentity =
        execution.before.clientIdentity ∧
      execution.after.protocolVersion = execution.before.protocolVersion := by
    cases outcome : execution.outcome with
    | ok response => exact (transaction outcome).client
    | error exception =>
        have left := untouched clean outcome
        exact ⟨left.clientIdentity, left.protocolVersion⟩
  unfold EngineState.context
  rw [placeholder, client.1, client.2]

theorem barbican_of_not_creating (clean : execution.before.Clean)
    (other : execution.payload.operation ≠ .create) :
    execution.after.barbican = execution.before.barbican := by
  cases outcome : execution.outcome with
  | ok response =>
      have transaction := transaction outcome
      generalize execution.after = after at transaction ⊢
      cases transaction with
      | read => rfl
      | change _ _ _ _ _ _ _ barbican => exact barbican
      | remove _ _ _ _ _ _ barbican => exact barbican
      | create _ _ _ _ _ barbican => exact barbican
      | createSecret _ _ _ creating => exact absurd creating other
  | error exception =>
      rcases (untouched clean outcome).barbican with same | ⟨creating, _⟩
      · exact same
      · exact absurd creating other

end Execution

theorem RequestPayload.Local.not_creating {payload : RequestPayload}
    (isLocal : payload.Local) : payload.operation ≠ .create := by
  intro creating
  exact isLocal.1 (by rw [creating]; rfl)

theorem target_mem_needs (context : ItemContext) {payload : RequestPayload}
    (writes : writingOperations.contains payload.operation) :
    context.target payload ∈ context.needs payload := by
  cases payload
  case unsupported operation undispatched =>
    exfalso
    have listed : writingOperations.contains operation = true := writes
    clear writes
    revert undispatched listed
    cases operation <;> decide
  all_goals first
    | exact List.mem_cons_self
    | simp [RequestPayload.operation, writingOperations] at writes

/-- Every executed item is an item of the batch, in a world of the request. -/
theorem mem_executions
    {worlds : Nat → World} {several : Bool}
    {handling : BatchErrorContinuationOption} {index : Nat}
    {items : List RequestBatchItem} {state : EngineState}
    {execution : Execution}
    (member : execution ∈ executions worlds several handling index items
      state) :
    execution.item ∈ items ∧ ∃ position, execution.world = worlds position := by
  induction items generalizing index state with
  | nil => cases member
  | cons item rest ih =>
      rw [executions] at member
      split at member
      · cases member
      · simp only at member
        split at member
        · cases List.mem_singleton.mp member
          exact ⟨List.mem_cons_self, index, rfl⟩
        · rcases List.mem_cons.mp member with rfl | later
          · exact ⟨List.mem_cons_self, index, rfl⟩
          · obtain ⟨inRest, world⟩ := ih later
            exact ⟨List.mem_cons_of_mem _ inRest, world⟩

variable {worlds : Nat → World} {keys : Set Nat}

/-- A batch of local items ends alike in states that agree on their keys. -/
theorem processItems_of_agreeOn
    (several : Bool) (handling : BatchErrorContinuationOption) (index : Nat)
    {items : List RequestBatchItem} {first second : EngineState}
    (isLocal : ∀ item ∈ items, item.requestPayload.Local)
    (resolves : ∀ item ∈ items, ∀ position, (worlds position).Resolves
      (· ∈ first.context.needs item.requestPayload) keys)
    (agree : AgreeOn keys first second) :
    Alike (AgreeOn keys) Eq Eq
      ((processItems worlds several handling index items).run first)
      ((processItems worlds several handling index items).run second) := by
  induction items generalizing index first second with
  | nil => exact .ok rfl agree
  | cons item rest ih =>
      rw [processItems, run_bind, run_bind, run_raiseIf, run_raiseIf]
      by_cases undefined : several = true ∧ item.uniqueBatchItemId = none
      · rw [if_pos undefined, if_pos undefined]
        exact .error rfl agree
      · rw [if_neg undefined, if_neg undefined]
        simp only
        have now := isLocal item List.mem_cons_self
        have alike := processOperation_of_agreeOn now
          (resolves item List.mem_cons_self index) agree
        have context : (Execution.after ⟨worlds index, item, first⟩).context =
            first.context := Execution.context_after agree.clean now
        have ran := Execution.run_attempt ⟨worlds index, item, first⟩
        have otherRan := Execution.run_attempt ⟨worlds index, item, second⟩
        obtain ⟨outcome, agreeAfter⟩ : Execution.outcome
              ⟨worlds index, item, second⟩ =
              Execution.outcome ⟨worlds index, item, first⟩ ∧
            AgreeOn keys (Execution.after ⟨worlds index, item, first⟩)
              (Execution.after ⟨worlds index, item, second⟩) := by
          unfold Execution.outcome Execution.after Execution.result
            Execution.payload
          generalize (processOperation (worlds index) item.requestPayload).run
            first = left at alike
          generalize (processOperation (worlds index) item.requestPayload).run
            second = right at alike
          cases alike with
          | ok values after =>
              cases values
              exact ⟨rfl, after⟩
          | error exceptions after =>
              cases exceptions
              exact ⟨rfl, after⟩
        rw [outcome] at otherRan
        simp only [Execution.payload] at ran otherRan
        rw [run_bind, run_bind, ran, otherRan]
        simp only
        split
        · exact .ok rfl agreeAfter
        · have following := ih (index + 1)
            (fun other member => isLocal other (List.mem_cons_of_mem _ member))
            (by
              intro other member position
              rw [context]
              exact resolves other (List.mem_cons_of_mem _ member) position)
            agreeAfter
          rw [run_bind, run_bind]
          generalize (processItems worlds several handling (index + 1) rest).run
            (Execution.after ⟨worlds index, item, first⟩) = left at following
          generalize (processItems worlds several handling (index + 1) rest).run
            (Execution.after ⟨worlds index, item, second⟩) = right at following
          cases following with
          | ok values after =>
              cases values
              exact .ok rfl after
          | error exceptions after => exact .error exceptions after

end Items

section Requests

namespace Exchange

variable {exchange : Exchange} {keys : Set Nat} {placeholder : Option String}
  {state first second : EngineState}

/-- An accepted message runs its items between the start and the end of a
session. -/
theorem result_eq_of_accepted (exchange : Exchange) (state : EngineState)
    {handling : BatchErrorContinuationOption}
    (accepts : checkHeader exchange.world.received exchange.header =
      .ok handling) :
    exchange.result state =
      match (processItems exchange.world.items exchange.several handling 0
        exchange.items).run (exchange.entering state) with
      | .ok responses final =>
          .ok (buildResponse exchange.header.protocolVersion
              exchange.world.answered responses,
            exchange.header.maximumResponseSize,
            exchange.header.protocolVersion)
            (final.mapDataStore DataStore.closeSession)
      | .error exception final =>
          .error exception (final.mapDataStore DataStore.closeSession) := by
  have header := exchange.run_processHeader state
  rw [accepts] at header
  unfold result processRequest
  rw [run_bind]
  unfold Exchange.header at header
  rw [header]
  simp only
  have enters : exchange.entering state = EngineState.mapDataStore
      DataStore.openSession { state with
        protocolVersion := exchange.header.protocolVersion
        clientIdentity := exchange.credential } := rfl
  unfold processBatch several items
  rw [run_bind, run_bracket, enters]
  unfold Exchange.header
  cases (processItems exchange.world.items
    (1 < exchange.request.batchItems.length) handling 0
    exchange.request.batchItems).run (EngineState.mapDataStore
      DataStore.openSession { state with
        protocolVersion := exchange.request.requestHeader.protocolVersion
        clientIdentity := exchange.credential }) <;> rfl

/-- What the items of a message read before their lookups. -/
def context (exchange : Exchange) (placeholder : Option String) :
    ItemContext where
  protocolVersion := exchange.header.protocolVersion
  clientIdentity := exchange.credential
  idPlaceholder := placeholder

/-- The message neither lists nor adds objects, and every identifier that it
names stands for one of the keys. -/
structure Confined (placeholder : Option String) (keys : Set Nat)
    (exchange : Exchange) : Prop where
  isLocal : ∀ item ∈ exchange.items, item.requestPayload.Local
  resolves : ∀ item ∈ exchange.items, ∀ position,
    (exchange.world.items position).Resolves
      (· ∈ (exchange.context placeholder).needs item.requestPayload) keys

theorem Confined.mono {more : Set Nat}
    (confined : exchange.Confined placeholder keys)
    (within : ∀ key ∈ keys, key ∈ more) : exchange.Confined placeholder more :=
  ⟨confined.isLocal, fun item member position text key named resolved =>
    within key (confined.resolves item member position text key named resolved)⟩

/-- What a message that is confined to some keys sees of an engine. -/
structure SeesAlike (placeholder : Option String) (keys : Set Nat)
    (first second : EngineState) : Prop where
  idPlaceholder : first.idPlaceholder = placeholder
  otherPlaceholder : second.idPlaceholder = placeholder
  barbican : second.barbican = first.barbican
  rows : ∀ key ∈ keys, second.dataStore.committed.lookup key =
    first.dataStore.committed.lookup key

/-- What a confined message leaves as it is. -/
structure Keeps (keys : Set Nat) (first second : EngineState) : Prop where
  idPlaceholder : second.idPlaceholder = first.idPlaceholder
  barbican : second.barbican = first.barbican
  rows : ∀ key, key ∉ keys → second.dataStore.committed.lookup key =
    first.dataStore.committed.lookup key

/-- A local item writes to no row but the one of the object that it names. -/
theorem rows_of_resolves {execution : Execution}
    (clean : execution.before.Clean) (isLocal : execution.payload.Local)
    (resolves : execution.world.Resolves
      (· ∈ execution.before.context.needs execution.payload) keys)
    {key : Nat} (outside : key ∉ keys) :
    execution.rowsAfter.lookup key = execution.rowsBefore.lookup key := by
  have inside : ∀ old,
      writingOperations.contains execution.payload.operation →
      execution.finds execution.target = some ⟨key, old⟩ → False := by
    intro old writes found
    apply outside
    unfold Execution.finds findObject at found
    simp only [Option.bind_eq_bind, Option.bind_eq_some_iff] at found
    obtain ⟨text, given, other, matched, managedObject, _, same⟩ := found
    cases same
    refine resolves text key ?_ matched
    have named := target_mem_needs execution.before.context writes
    rwa [show execution.before.context.target execution.payload = _ from
      given] at named
  have step := execution.rowStep clean key
  generalize execution.rowsAfter.lookup key = after at step ⊢
  generalize execution.rowsBefore.lookup key = before at step ⊢
  cases step with
  | keep => rfl
  | change _ writes found => exact (inside _ writes found).elim
  | remove _ destroys found =>
      exact (inside _ (by rw [destroys]; rfl) found).elim
  | add _ producing => exact absurd producing isLocal.1

theorem Confined.keeps (confined : exchange.Confined placeholder keys)
    (holds : state.idPlaceholder = placeholder) :
    Keeps keys state (exchange.after state) := by
  have members : ∀ execution ∈ exchange.executions state,
      execution.item ∈ exchange.items ∧
        ∃ position, execution.world = exchange.world.items position := by
    intro execution member
    unfold executions at member
    split at member
    · exact mem_executions member
    · cases member
  have kept := (exchange.linked state).invariant
    (fun durable => durable.idPlaceholder = placeholder ∧
      durable.barbican = state.barbican ∧
      ∀ key, key ∉ keys → durable.rows.lookup key =
        state.dataStore.committed.lookup key)
    (by
      rintro execution member ⟨placed, barbican, rows⟩
      obtain ⟨inItems, position, world⟩ := members execution member
      have serves := exchange.serves_of_mem state member
      have context : execution.before.context = exchange.context placeholder := by
        unfold EngineState.context
        rw [serves.protocolVersion, serves.clientIdentity, show
          execution.before.idPlaceholder = placeholder from placed]
        rfl
      have isLocal := confined.isLocal _ inItems
      have resolves := confined.resolves _ inItems position
      rw [← world, ← context] at resolves
      refine ⟨?_, ?_, fun key outside => ?_⟩
      · exact (congrArg ItemContext.idPlaceholder
          (Execution.context_after serves.clean isLocal)).trans placed
      · exact (Execution.barbican_of_not_creating serves.clean
          isLocal.not_creating).trans barbican
      · exact (rows_of_resolves serves.clean isLocal resolves outside).trans
          (rows key outside))
    ⟨holds, rfl, fun _ _ => rfl⟩
  obtain ⟨placed, barbican, rows⟩ := kept.1
  exact ⟨placed.trans holds.symm, barbican, rows⟩

/-- A confined message is answered alike where it sees alike. -/
theorem Confined.answered (confined : exchange.Confined placeholder keys)
    (alike : SeesAlike placeholder keys first second) :
    exchange.reply first = exchange.reply second ∧
      SeesAlike placeholder keys (exchange.after first)
        (exchange.after second) := by
  have kept := confined.keeps alike.idPlaceholder
  have otherKept := confined.keeps alike.otherPlaceholder
  have answered : exchange.reply first = exchange.reply second ∧
      ∀ key ∈ keys,
        (exchange.after second).dataStore.committed.lookup key =
          (exchange.after first).dataStore.committed.lookup key := by
    unfold reply after
    cases header : checkHeader exchange.world.received exchange.header with
    | error exception =>
        obtain ⟨refused, ran, dataStore, _⟩ :=
          exchange.result_of_refused first header
        obtain ⟨otherRefused, otherRan, otherDataStore, _⟩ :=
          exchange.result_of_refused second header
        rw [ran, otherRan]
        refine ⟨rfl, fun key member => ?_⟩
        show otherRefused.dataStore.committed.lookup key =
          refused.dataStore.committed.lookup key
        rw [dataStore, otherDataStore]
        exact alike.rows key member
    | ok handling =>
        have context : (exchange.entering first).context =
            exchange.context placeholder :=
          congrArg (ItemContext.mk _ _) alike.idPlaceholder
        have agree : AgreeOn keys (exchange.entering first)
            (exchange.entering second) :=
          ⟨(congrArg (ItemContext.mk _ _) (alike.otherPlaceholder.trans
              alike.idPlaceholder.symm)), alike.barbican, rfl, rfl, rfl,
            alike.rows⟩
        have items := processItems_of_agreeOn exchange.several handling 0
          confined.isLocal (by rw [context]; exact confined.resolves) agree
        rw [exchange.result_eq_of_accepted first header,
          exchange.result_eq_of_accepted second header]
        generalize (processItems exchange.world.items exchange.several handling 0
          exchange.items).run (exchange.entering first) = left at items ⊢
        generalize (processItems exchange.world.items exchange.several handling 0
          exchange.items).run (exchange.entering second) = right at items ⊢
        cases items with
        | ok values agrees =>
            cases values
            exact ⟨rfl, agrees.rows⟩
        | error exceptions agrees =>
            cases exceptions
            exact ⟨rfl, agrees.rows⟩
  exact ⟨answered.1, kept.idPlaceholder.trans alike.idPlaceholder,
    otherKept.idPlaceholder.trans alike.otherPlaceholder,
    otherKept.barbican.trans (alike.barbican.trans kept.barbican.symm),
    answered.2⟩

end Exchange

end Requests

section Clients

variable {ι : Type}

/-- A client sends a message to the engine, which answers it. -/
def serve (state : EngineState) (sent : ι × Exchange) :
    EngineState ×
      Except PyError (ResponseMessage × Option Int × ProtocolVersion) :=
  (sent.2.after state, sent.2.reply state)

/-- The replies to the messages of one client. -/
def repliesTo [DecidableEq ι] (client : ι) (state : EngineState)
    (sent : List (ι × Exchange)) :=
  (perform serve state sent).2.filter fun answered => answered.1.1 = client

theorem run_eq_perform (state : EngineState) (sent : List (ι × Exchange)) :
    (perform serve state sent).1 = run state (sent.map Prod.snd) := by
  induction sent generalizing state with
  | nil => rfl
  | cons first rest ih => exact ih (first.2.after state)

/-- Requests of clients with keys of their own do not interfere: however they
are interleaved, every client gets the replies of a run without the others, and
its rows end as in that run. -/
theorem interleaved_clients_do_not_interfere [DecidableEq ι]
    (keys : ι → Set Nat)
    (disjoint : ∀ first second key, key ∈ keys first → key ∈ keys second →
      first = second)
    (start : EngineState) (sent : List (ι × Exchange))
    (confined : ∀ message ∈ sent,
      message.2.Confined start.idPlaceholder (keys message.1)) (client : ι) :
    let own := sent.filter fun message => message.1 = client
    repliesTo client start sent = (perform serve start own).2 ∧
      ∀ key ∈ keys client,
        (run start (sent.map Prod.snd)).dataStore.committed.lookup key =
          (run start (own.map Prod.snd)).dataStore.committed.lookup key := by
  have separated : Separated serve Prod.fst
      (fun client first second =>
        Exchange.SeesAlike start.idPlaceholder (keys client) second first)
      (fun message => message.2.Confined start.idPlaceholder
        (keys message.1)) := by
    constructor
    · intro viewer message first second may others alike
      have kept := may.keeps alike.otherPlaceholder
      refine ⟨alike.idPlaceholder,
        kept.idPlaceholder.trans alike.otherPlaceholder,
        kept.barbican.trans alike.barbican, fun key member => ?_⟩
      have outside : key ∉ keys message.1 := fun inside =>
        others (disjoint _ _ _ inside member)
      exact (kept.rows key outside).trans (alike.rows key member)
    · intro message first second may alike
      obtain ⟨reply, after⟩ := may.answered alike
      exact ⟨reply.symm, after⟩
  obtain ⟨replies, final⟩ := separated.alone confined
    (show Exchange.SeesAlike start.idPlaceholder (keys client) start start from
      ⟨rfl, rfl, rfl, fun _ _ => rfl⟩)
  refine ⟨replies, fun key member => ?_⟩
  have same := final.rows key member
  rwa [run_eq_perform, run_eq_perform] at same

/-- The activation of an object by its identifier. -/
def activation (user uniqueIdentifier : String) : Exchange :=
  sampleExchange sampleWorld user
    [{ requestPayload := .activate (some uniqueIdentifier) }]

theorem activation_confined (user uniqueIdentifier : String) {key : Nat}
    (stands : decimalColumn.rowOf uniqueIdentifier = some key)
    (placeholder : Option String) :
    (activation user uniqueIdentifier).Confined placeholder {key} := by
  constructor
  · intro item member
    cases List.mem_singleton.mp member
    show ¬producingOperations.contains Operation.activate ∧
      Operation.activate ≠ .locate
    decide
  · intro item member position text found named resolved
    cases List.mem_singleton.mp member
    cases List.mem_singleton.mp named
    have same : decimalColumn.rowOf uniqueIdentifier = some found := resolved
    rw [stands] at same
    exact (Option.some.inj same).symm

/-- Alice has the first key and bob has the second one. -/
def sampleKeys (user : String) : Set Nat :=
  {key | user = "alice" ∧ key = 1 ∨ user = "bob" ∧ key = 2}

theorem interleaved_clients_do_not_interfere_activations :
    let start := run (newEngine .empty [])
      [sampleExchange sampleWorld "alice" [{ requestPayload := sampleCreation }],
        sampleExchange sampleWorld "bob" [{ requestPayload := sampleCreation }]]
    let sent := [("alice", activation "alice" "1"), ("bob", activation "bob" "2"),
      ("alice", activation "alice" "1")]
    let own := sent.filter fun message => message.1 = "alice"
    repliesTo "alice" start sent = (perform serve start own).2 ∧
      ∀ key ∈ sampleKeys "alice",
        (run start (sent.map Prod.snd)).dataStore.committed.lookup key =
          (run start (own.map Prod.snd)).dataStore.committed.lookup key := by
  refine interleaved_clients_do_not_interfere sampleKeys ?_ _ _ ?_ "alice"
  · rintro first second key (⟨rfl, rfl⟩ | ⟨rfl, rfl⟩)
      (⟨rfl, same⟩ | ⟨rfl, same⟩)
    · rfl
    · cases same
    · cases same
    · rfl
  · intro message member
    simp only [List.mem_cons, List.not_mem_nil, or_false] at member
    rcases member with rfl | rfl | rfl
    · exact (activation_confined "alice" "1" (by decide) _).mono fun key own =>
        .inl ⟨rfl, own⟩
    · exact (activation_confined "bob" "2" (by decide) _).mono fun key own =>
        .inr ⟨rfl, own⟩
    · exact (activation_confined "alice" "1" (by decide) _).mono fun key own =>
        .inl ⟨rfl, own⟩

end Clients

section Readers

namespace Exchange

variable (exchange : Exchange)

/-- Every item of the message only reads. -/
def readsOnly : Bool :=
  exchange.items.all fun item =>
    readingOperations.contains item.requestPayload.operation

variable {exchange}

/-- What survives between messages is all that a message depends on. -/
theorem answered_of_durable {first second : EngineState}
    (same : second.durable = first.durable) :
    exchange.reply second = exchange.reply first ∧
      (exchange.after second).durable = (exchange.after first).durable := by
  unfold reply after
  cases header : checkHeader exchange.world.received exchange.header with
  | error exception =>
      obtain ⟨refused, ran, _, durable⟩ :=
        exchange.result_of_refused first header
      obtain ⟨otherRefused, otherRan, _, otherDurable⟩ :=
        exchange.result_of_refused second header
      rw [ran, otherRan]
      exact ⟨rfl, otherDurable.trans (same.trans durable.symm)⟩
  | ok handling =>
      have enters : exchange.entering second = exchange.entering first := by
        rcases first with ⟨⟨rows, _, _, _⟩, barbican, placeholder, _, _⟩
        rcases second with ⟨⟨otherRows, _, _, _⟩, _, _, _, _⟩
        cases same
        rfl
      rw [exchange.result_eq_of_accepted first header,
        exchange.result_eq_of_accepted second header, enters]
      exact ⟨rfl, rfl⟩

theorem durable_of_readsOnly (reads : exchange.readsOnly = true)
    (state : EngineState) :
    (exchange.after state).durable = state.durable := by
  refine ((exchange.linked state).invariant (· = state.durable)
    (fun execution member holds => ?_) rfl).1
  have clean := (exchange.serves_of_mem state member).clean
  have inItems : execution.item ∈ exchange.items := by
    unfold executions at member
    split at member
    · exact (mem_executions member).1
    · cases member
  have reading : readingOperations.contains execution.payload.operation :=
    List.all_eq_true.mp reads _ inItems
  have other : execution.payload.operation ≠ .create := by
    intro creating
    rw [creating] at reading
    exact absurd reading (by decide)
  have rows : execution.rowsAfter = execution.rowsBefore := by
    by_cases succeeded : execution.Succeeded
    · obtain ⟨response, outcome⟩ := Execution.outcome_of_succeeded succeeded
      have transaction := Execution.transaction outcome
      unfold Execution.rowsAfter
      generalize execution.after = after at transaction ⊢
      cases transaction with
      | read => rfl
      | change _ _ writes =>
          exact absurd writes (not_writing_of_reading reading)
      | remove _ destroys =>
          rw [destroys] at reading
          exact absurd reading (by decide)
      | create _ _ producing =>
          exact absurd producing (not_producing_of_reading reading)
      | createSecret _ _ _ creating => exact absurd creating other
    · exact Execution.rowsAfter_of_failed clean succeeded
  have placeholder := Execution.idPlaceholder_after clean
  rw [Execution.produced_of_not_producing
    (not_producing_of_reading reading), Option.none_or] at placeholder
  have barbican := Execution.barbican_of_not_creating clean other
  show execution.after.durable = state.durable
  rw [← show execution.before.durable = state.durable from holds]
  unfold EngineState.durable
  rw [placeholder, barbican]
  exact congrArg (Durable.mk · _ _) rows

end Exchange

/-- A message to the engine, which answers it. -/
def serveOne (state : EngineState) (exchange : Exchange) :
    EngineState ×
      Except PyError (ResponseMessage × Option Int × ProtocolVersion) :=
  (exchange.after state, exchange.reply state)

/-- Requests that only read, whatever they list, find, sign or encrypt, may be
left out of any run: the other requests get the same replies, and the same rows,
secrets and placeholder are left. -/
theorem reading_requests_are_invisible
    (start : EngineState) (exchanges : List Exchange) :
    let others := exchanges.filter fun exchange => exchange.readsOnly = false
    (perform serveOne start exchanges).2.filter (fun answered =>
        answered.1.readsOnly = false) =
      (perform serveOne start others).2 ∧
    (run start exchanges).durable = (run start others).durable := by
  have separated : Separated serveOne Exchange.readsOnly
      (fun reads first second => reads = false ∧
        first.durable = second.durable) (fun _ => True) := by
    constructor
    · rintro viewer exchange first second - reads ⟨rfl, same⟩
      have kept := Exchange.durable_of_readsOnly (by simpa using reads) first
      exact ⟨rfl, kept.trans same⟩
    · rintro exchange first second - ⟨writes, same⟩
      obtain ⟨reply, after⟩ := Exchange.answered_of_durable same.symm
      exact ⟨reply.symm, writes, after.symm⟩
  have runs : ∀ state (sent : List Exchange),
      (perform serveOne state sent).1 = run state sent := by
    intro state sent
    induction sent generalizing state with
    | nil => rfl
    | cons first rest ih => exact ih (first.after state)
  obtain ⟨replies, _, final⟩ := separated.alone
    (fun action (_ : action ∈ exchanges) => trivial)
    (show false = false ∧ start.durable = start.durable from ⟨rfl, rfl⟩)
  rw [runs, runs] at final
  exact ⟨replies, final⟩

end Readers

end PyKMIP
