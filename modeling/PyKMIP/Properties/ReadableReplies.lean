import PyKMIP.Properties.Authentication
import PyKMIP.Properties.ResponseViews
import PyKMIP.Runs

/-!
# Clients read what a session sends

A session sends the response of the engine to the request that it has admitted,
or a refusal.  The client reads exactly this message.
-/

namespace PyKMIP

section Answers

/-- The request has been read, so the payload factory knows its operations. -/
def RequestMessage.Read (request : RequestMessage) : Prop :=
  ∀ item ∈ request.batchItems, ∃ reader,
    Wire.createPayload item.requestPayload.operation = .ok reader

/-- Only the answers of a batch are executed items of it. -/
theorem Complete.mem_items {handling : BatchErrorContinuationOption}
    {items : List RequestBatchItem} {executions : List Execution}
    (complete : Complete handling items executions) :
    ∀ execution ∈ executions, execution.item ∈ items := by
  intro execution member
  have found := List.mem_map_of_mem (f := Execution.item) member
  cases complete with
  | exhausted items_eq => exact items_eq ▸ found
  | stopped prior last rest _ _ _ items_eq =>
      rw [items_eq]
      exact List.mem_append_left _ found

/-- The payload of the response to an execution answers its operation. -/
theorem Execution.response_answers {execution : Execution}
    {response : ResponsePayload}
    (present : execution.response.responsePayload = some response) :
    execution.response.operation = some execution.payload.operation ∧
      response.Answers execution.before.protocolVersion
        execution.payload.operation := by
  unfold Execution.response at present ⊢
  cases outcome : execution.outcome with
  | error exception =>
      rw [outcome] at present
      cases present
  | ok payload =>
      rw [outcome] at present
      cases present
      exact ⟨rfl, processOperation_answers (result_of_outcome_ok outcome)⟩

theorem Execution.operation_response (execution : Execution) :
    execution.response.operation = some execution.payload.operation := by
  unfold Execution.response
  cases execution.outcome <;> rfl

/-- The response to a request of a version that has been read. -/
structure ResponseMessage.Answers (version : ProtocolVersion)
    (response : ResponseMessage) : Prop where
  told : response.responseHeader.protocolVersion = version
  counted : response.responseHeader.batchCount = response.batchItems.length
  known : ∀ item ∈ response.batchItems, ∀ operation,
    item.operation = some operation →
      ∃ reader, Wire.createPayload operation = .ok reader
  answers : ∀ item ∈ response.batchItems, ∀ payload,
    item.responsePayload = some payload →
      ∃ operation, item.operation = some operation ∧
        payload.Answers version operation

theorem Exchange.reply_answers {exchange : Exchange} {state : EngineState}
    {response : ResponseMessage} {maximum : Option Int}
    {version : ProtocolVersion} (read : exchange.request.Read)
    (replied : exchange.reply state = .ok (response, maximum, version)) :
    version = exchange.header.protocolVersion ∧
      response.Answers exchange.header.protocolVersion := by
  cases header : checkHeader exchange.world.received exchange.header with
  | error exception =>
      obtain ⟨refused, ran, _⟩ := exchange.result_of_refused state header
      unfold Exchange.reply at replied
      rw [ran] at replied
      cases replied
  | ok handling =>
      obtain ⟨final, _, ⟨ran, complete⟩ | ⟨ran, _⟩⟩ :=
        exchange.result_of_accepted state header
      · unfold Exchange.reply at replied
        rw [ran] at replied
        cases replied
        refine ⟨rfl, rfl, rfl, fun item member operation named => ?_,
          fun item member payload present => ?_⟩
        · obtain ⟨execution, executed, rfl⟩ := List.mem_map.mp member
          rw [execution.operation_response] at named
          cases named
          exact read _ (complete.mem_items execution executed)
        · obtain ⟨execution, executed, rfl⟩ := List.mem_map.mp member
          obtain ⟨named, answers⟩ := Execution.response_answers present
          rw [(exchange.serves_of_mem state executed).protocolVersion] at answers
          exact ⟨_, named, answers⟩
      · unfold Exchange.reply at replied
        rw [ran] at replied
        cases replied

end Answers

section Sessions

open EStateM Formats StatefulExcept Traces Wire

/-- The engine behind a session.  It is the engine that decides what an
identity of the session is worth. -/
def sessionEngine (world : RequestWorld)
    (clientIdentity : SessionIdentity → ClientIdentity) :
    RequestEngine EngineState where
  processRequest request identity :=
    processRequest world request (clientIdentity identity)

/-- The writers of the responses behind a session.  What they raise is raised
by the session, and nothing is sent then. -/
def sessionWriter (answered : Int) (raised : RequestError → PyError) :
    ResponseWorld where
  answered := answered
  write kmipVersion response :=
    match kmipVersion, ResponseMessage.ofEngine response with
    | some version, some message => (message.write version).mapError raised
    | _, _ => .error (.python .typeError)

variable {session : KmipSession} {arrival : Arrival} {world : RequestWorld}
  {clientIdentity : SessionIdentity → ClientIdentity} {answered : Int}
  {raised : RequestError → PyError} {before after : EngineState}

/-- The size that a response may have. -/
def sizeLimit : Option Int → Int
  | some size => if size ≠ 0 then size else KmipSession.maxResponseSize
  | none => KmipSession.maxResponseSize

/-- The reply that a session prepares for an arrival: the response of the engine
to the admitted request, or a refusal. -/
inductive Prepares (session : KmipSession) (arrival : Arrival)
    (world : RequestWorld) (clientIdentity : SessionIdentity → ClientIdentity)
    (answered : Int) (state : EngineState) : KmipSession.Reply → Prop where
  | response (request : PyKMIP.RequestMessage) (identity : SessionIdentity)
      (response : PyKMIP.ResponseMessage) (maximum : Option Int)
      (version : ProtocolVersion)
      (admitted : session.admission arrival = .ok (request, identity))
      (replied : (⟨world, request, clientIdentity identity⟩ : Exchange).reply
        state = .ok (response, maximum, version)) :
      Prepares session arrival world clientIdentity answered state
        { response
          kmipVersion := protocolVersionToKmipVersion version
          maxSize := sizeLimit maximum }
  | refused (refusal : KmipSession.Refusal)
      (refuses : session.admission arrival = .error refusal) :
      Prepares session arrival world clientIdentity answered state
        { response := KmipSession.buildErrorResponse answered refusal }
  | unprocessed (request : PyKMIP.RequestMessage) (identity : SessionIdentity)
      (exception : PyError)
      (admitted : session.admission arrival = .ok (request, identity))
      (replied : (⟨world, request, clientIdentity identity⟩ : Exchange).reply
        state = .error exception) :
      Prepares session arrival world clientIdentity answered state
        { response := KmipSession.buildErrorResponse answered
            (KmipSession.unprocessed request exception) }

/-- What a session sends, and for which version it encodes it: the reply that it
has prepared, or the report that this is too large. -/
inductive Sends (session : KmipSession) (arrival : Arrival)
    (world : RequestWorld) (clientIdentity : SessionIdentity → ClientIdentity)
    (answered : Int) (raised : RequestError → PyError) (state : EngineState) :
    Option KmipVersion → PyKMIP.ResponseMessage → Prop where
  | reply (reply : KmipSession.Reply) (data : Bytes)
      (prepares : Prepares session arrival world clientIdentity answered state
        reply)
      (written : (sessionWriter answered raised).write reply.kmipVersion
        reply.response = .ok data)
      (fits : data.length ≤ reply.maxSize) :
      Sends session arrival world clientIdentity answered raised state
        reply.kmipVersion reply.response
  | tooLarge (reply : KmipSession.Reply) (data : Bytes)
      (version : ProtocolVersion)
      (prepares : Prepares session arrival world clientIdentity answered state
        reply)
      (written : (sessionWriter answered raised).write reply.kmipVersion
        reply.response = .ok data)
      (large : reply.maxSize < data.length)
      (header : session.headerVersion arrival = some version) :
      Sends session arrival world clientIdentity answered raised state
        reply.kmipVersion
        (KmipSession.buildErrorResponse answered
          { version
            reason := .responseTooLarge
            message := "Response message length too large. See server " ++
              "logs for more information." })

/-- What the session encodes is the reply or the report that it is too
large. -/
theorem sends_of_encodeReply {reply : KmipSession.Reply} {bytes : Bytes}
    (prepares : Prepares session arrival world clientIdentity answered before
      reply)
    (encoded : KmipSession.encodeReply (sessionWriter answered raised)
      (session.headerVersion arrival) reply = .ok bytes) :
    ∃ kmipVersion response,
      Sends session arrival world clientIdentity answered raised before
        kmipVersion response ∧
      (sessionWriter answered raised).write kmipVersion response =
        .ok bytes := by
  obtain ⟨responseData, written, encoded⟩ := except_bind_ok_iff.mp encoded
  split at encoded
  · rename_i large
    split at encoded
    · cases encoded
    · rename_i version header
      exact ⟨_, _, .tooLarge reply responseData version prepares written large
        header, encoded⟩
  · rename_i fits
    cases encoded
    exact ⟨_, _, .reply reply bytes prepares written (Int.not_lt.mp fits),
      written⟩

theorem prepares_of_process {request : PyKMIP.RequestMessage}
    {identity : SessionIdentity} {reply : KmipSession.Reply}
    (admitted : session.admission arrival = .ok (request, identity))
    (processed : (KmipSession.process (sessionEngine world clientIdentity)
      (sessionWriter answered raised) request identity).run before =
        .ok reply after) :
    Prepares session arrival world clientIdentity answered before reply := by
  unfold KmipSession.process at processed
  obtain ⟨results, between, attempted, processed⟩ := bind_ok_iff.mp processed
  rw [run_attempt] at attempted
  obtain ⟨outcome, _⟩ := EStateM.Result.ok.inj attempted
  split at processed
  · rename_i response maximum version
    have prepared : Prepares session arrival world clientIdentity answered
        before { response
                 kmipVersion := protocolVersionToKmipVersion version
                 maxSize := sizeLimit maximum } :=
      .response request identity response maximum version admitted outcome
    split at processed
    · rename_i size
      unfold sizeLimit at prepared
      dsimp only at prepared
      split at processed
      · rename_i limited
        rw [if_pos limited] at prepared
        cases processed
        exact prepared
      · rename_i limited
        rw [if_neg limited] at prepared
        cases processed
        exact prepared
    · cases processed
      exact prepared
  · cases processed
    exact .unprocessed request identity _ admitted outcome

/-- The reply to an arrival. -/
def KmipSession.prepare {σ : Type} (session : KmipSession)
    (engine : RequestEngine σ) (world : ResponseWorld) (arrival : Arrival) :
    EStateM PyError σ KmipSession.Reply :=
  match session.admission arrival with
  | .ok (request, clientIdentity) =>
      KmipSession.process engine world request clientIdentity
  | .error refusal =>
      pure { response := KmipSession.buildErrorResponse world.answered refusal }

theorem prepares_of_prepare {reply : KmipSession.Reply}
    (prepared : (session.prepare (sessionEngine world clientIdentity)
      (sessionWriter answered raised) arrival).run before = .ok reply after) :
    Prepares session arrival world clientIdentity answered before reply := by
  unfold KmipSession.prepare at prepared
  cases admitted : session.admission arrival with
  | ok admission =>
      rw [admitted] at prepared
      exact prepares_of_process admitted prepared
  | error refusal =>
      rw [admitted] at prepared
      cases prepared
      exact .refused refusal admitted

/-- A turn of the loop is the preparation of a reply and its encoding. -/
theorem handleMessage_eq {σ : Type} (engine : RequestEngine σ)
    (world : ResponseWorld) :
    session.handleMessage engine world arrival =
      session.prepare engine world arrival >>= fun reply =>
        fromExcept (KmipSession.encodeReply world
          (session.headerVersion arrival) reply) := by
  unfold KmipSession.handleMessage KmipSession.prepare
  cases session.admission arrival <;> rfl

/-- A refusal is encoded alike for all versions. -/
theorem write_refusal {refusal : KmipSession.Refusal}
    {message : Wire.ResponseMessage} (version other : KmipVersion)
    (makes : ResponseMessage.ofEngine
      (KmipSession.buildErrorResponse answered refusal) = some message) :
    message.write version = message.write other := by
  cases makes
  unfold Wire.ResponseMessage.write writeResponseHeader since
  have unhashed : ∀ version : KmipVersion,
      (if .kmip20 ≤ version then writePresent (writeBytes .serverHashedPassword)
        none else .ok []) = (.ok [] : Writing) := by
    intro version
    split <;> rfl
  simp only [unhashed]
  rfl

/-- The part of a reply that a client can read: no type of a certificate is
shown in an encoding of version 2.0. -/
def Presentable (version : KmipVersion) (response : PyKMIP.ResponseMessage) :
    Prop :=
  .kmip20 ≤ version → ∀ item ∈ response.batchItems, ∀ payload,
    item.responsePayload = some payload → ¬payload.ShowsCertificateType

theorem receive_of_admission {request : PyKMIP.RequestMessage}
    {identity : SessionIdentity}
    (admitted : session.admission arrival = .ok (request, identity)) :
    ∃ certificate, session.receive arrival = .ok (certificate, request) := by
  obtain ⟨⟨certificate, received⟩, receives, admitted⟩ :=
    except_bind_ok_iff.mp admitted
  dsimp only at admitted
  split at admitted
  · cases admitted
    exact ⟨certificate, receives⟩
  · cases admitted

theorem request_of_admission {request : PyKMIP.RequestMessage}
    {identity : SessionIdentity}
    (admitted : session.admission arrival = .ok (request, identity)) :
    arrival.request = .ok request ∧
      session.headerVersion arrival =
        some request.requestHeader.protocolVersion := by
  obtain ⟨certificate, receives⟩ := receive_of_admission admitted
  exact ⟨(receive_eq_ok receives).2, headerVersion_of_receive receives⟩

/-- The version of a refusal is 1.0 or that of the request. -/
theorem version_of_refused {refusal : KmipSession.Refusal}
    (refuses : session.admission arrival = .error refusal) :
    refusal.version = ⟨1, 0⟩ ∨
      session.headerVersion arrival = some refusal.version := by
  cases receives : session.receive arrival with
  | error other =>
      unfold KmipSession.admission at refuses
      rw [receives] at refuses
      cases refuses
      left
      unfold KmipSession.receive at receives
      split at receives
      · split at receives <;> cases receives <;> rfl
      · cases receives
        rfl
      · cases receives
        rfl
  | ok received =>
      rw [admission_of_receive receives] at refuses
      split at refuses
      · cases refuses
      · cases refuses
        exact .inr (headerVersion_of_receive receives)

/-- What is sent is the response to a request, or a refusal whose version is 1.0
or that of the request. -/
theorem Sends.response_or_refusal {kmipVersion : Option KmipVersion}
    {response : PyKMIP.ResponseMessage}
    (read : ∀ request, arrival.request = .ok request → request.Read)
    (sends : Sends session arrival world clientIdentity answered raised before
      kmipVersion response) :
    (∃ version, session.headerVersion arrival = some version ∧
      kmipVersion = protocolVersionToKmipVersion version ∧
      response.Answers version) ∨
      ∃ refusal, response = KmipSession.buildErrorResponse answered refusal ∧
        (refusal.version = ⟨1, 0⟩ ∨
          session.headerVersion arrival = some refusal.version) := by
  cases sends with
  | reply reply data prepares written fits =>
      cases prepares with
      | response request identity _ maximum version admitted replied =>
          obtain ⟨arrived, header⟩ := request_of_admission admitted
          obtain ⟨rfl, answers⟩ := Exchange.reply_answers (read request arrived)
            replied
          exact .inl ⟨_, header, rfl, answers⟩
      | refused refusal refuses =>
          exact .inr ⟨refusal, rfl, version_of_refused refuses⟩
      | unprocessed request identity exception admitted replied =>
          obtain ⟨_, header⟩ := request_of_admission admitted
          refine .inr ⟨_, rfl, .inr ?_⟩
          rw [header]
          cases exception <;> rfl
  | tooLarge reply data version prepares written large header =>
      exact .inr ⟨_, rfl, .inr header⟩

theorem write_eq_ok {kmipVersion : Option KmipVersion}
    {response : PyKMIP.ResponseMessage} {bytes : Bytes}
    (written : (sessionWriter answered raised).write kmipVersion response =
      .ok bytes) :
    ∃ version message, kmipVersion = some version ∧
      ResponseMessage.ofEngine response = some message ∧
      message.write version = .ok bytes := by
  unfold sessionWriter at written
  dsimp only at written
  split at written
  · rename_i version message makes
    refine ⟨version, message, rfl, makes, ?_⟩
    cases wrote : message.write version with
    | ok sent =>
        rw [wrote] at written
        cases written
        rfl
    | error exception =>
        rw [wrote] at written
        cases written
  · cases written

/-- What the engine or the session has made is well-formed as the client sees
it. -/
theorem wellFormed_of_answers {version : KmipVersion}
    {protocolVersion : ProtocolVersion} {response : PyKMIP.ResponseMessage}
    {message : Wire.ResponseMessage}
    (answers : response.Answers protocolVersion)
    (told : protocolVersionToKmipVersion protocolVersion = some version)
    (presentable : Presentable version response)
    (makes : ResponseMessage.ofEngine response = some message) :
    (message.seen version).WellFormed version := by
  obtain ⟨rfl, counted, known, answers⟩ := answers
  exact ResponseMessage.ofEngine_wellFormed told counted
    (fun item member => ⟨known item member, answers item member,
      fun recent => presentable recent item member⟩) makes

/-- Nothing in a refusal is an answer. -/
theorem answers_refusal (refusal : KmipSession.Refusal) :
    (KmipSession.buildErrorResponse answered refusal).Answers
      refusal.version where
  told := rfl
  counted := rfl
  known := by
    intro item member operation named
    rw [List.mem_singleton.mp member] at named
    cases named
  answers := by
    intro item member payload present
    rw [List.mem_singleton.mp member] at present
    cases present

/-- The client reads the bytes as the message that the session has made of the
response. -/
def ClientReads (response : PyKMIP.ResponseMessage) (bytes : Bytes) : Prop :=
  ∃ message version,
    ResponseMessage.ofEngine response = some message ∧
    protocolVersionToKmipVersion response.responseHeader.protocolVersion =
      some version ∧
    (message.seen version).write version = .ok bytes ∧
    (Presentable version response →
      ∀ (told : KmipVersion) (rest : Bytes) (fuel : Nat),
        (bytes ++ rest).length < fuel →
        (ResponseMessage.read told fuel (bytes ++ rest)).outcome =
          some (.ok (message.seen version, rest)))

theorem clientReads_of_answers {version : KmipVersion}
    {protocolVersion : ProtocolVersion} {response : PyKMIP.ResponseMessage}
    {message : Wire.ResponseMessage} {bytes : Bytes}
    (answers : response.Answers protocolVersion)
    (told : protocolVersionToKmipVersion protocolVersion = some version)
    (makes : ResponseMessage.ofEngine response = some message)
    (written : message.write version = .ok bytes) :
    ClientReads response bytes := by
  have seen : (message.seen version).write version = .ok bytes := by
    rw [Wire.ResponseMessage.write_seen]
    exact written
  refine ⟨message, version, makes, answers.told ▸ told, seen,
    fun presentable requested rest _ enough => ?_⟩
  have wellFormed := wellFormed_of_answers answers told presentable makes
  exact ResponseMessage.read_write wellFormed seen requested rest enough

/-- What a session writes of the response that it sends, the client reads. -/
theorem Sends.clientReads {kmipVersion : Option KmipVersion}
    {response : PyKMIP.ResponseMessage} {bytes : Bytes}
    (sends : Sends session arrival world clientIdentity answered raised before
      kmipVersion response)
    (read : ∀ request, arrival.request = .ok request → request.Read)
    (known : ∀ version, session.headerVersion arrival = some version →
      (protocolVersionToKmipVersion version).isSome)
    (written : (sessionWriter answered raised).write kmipVersion response =
      .ok bytes) :
    ClientReads response bytes := by
  obtain ⟨encodedFor, message, rfl, makes, encodes⟩ := write_eq_ok written
  rcases sends.response_or_refusal read with
    ⟨protocolVersion, header, same, answers⟩ | ⟨refusal, rfl, header⟩
  · exact clientReads_of_answers answers same.symm makes encodes
  · have isKnown : (protocolVersionToKmipVersion refusal.version).isSome := by
      rcases header with first | header
      · rw [first]
        rfl
      · exact known _ header
    obtain ⟨version, told⟩ := Option.isSome_iff_exists.mp isKnown
    rw [write_refusal encodedFor version makes] at encodes
    exact clientReads_of_answers (answers_refusal refusal) told makes encodes

/-- Whatever a session sends for an arrival of a known version, the client
reads. -/
theorem sent_messages_are_read {bytes : Bytes}
    (read : ∀ request, arrival.request = .ok request → request.Read)
    (known : ∀ version, session.headerVersion arrival = some version →
      (protocolVersionToKmipVersion version).isSome)
    (sent : (session.handleMessage (sessionEngine world clientIdentity)
      (sessionWriter answered raised) arrival).run before = .ok bytes after) :
    ∃ kmipVersion response,
      Sends session arrival world clientIdentity answered raised before
        kmipVersion response ∧
      ClientReads response bytes := by
  rw [handleMessage_eq] at sent
  obtain ⟨reply, between, prepared, sent⟩ := bind_ok_iff.mp sent
  obtain ⟨encoded, rfl⟩ := fromExcept_ok_iff.mp sent
  obtain ⟨kmipVersion, response, sends, written⟩ :=
    sends_of_encodeReply (prepares_of_prepare prepared) encoded
  exact ⟨kmipVersion, response, sends, sends.clientReads read known written⟩

/-- A user creates a key and asks for its attributes. -/
def creationAndListing : Arrival where
  certificate := .ok (some
    { commonNames := ["user"]
      extendedKeyUsage := some [KmipSession.clientAuth] })
  request := .ok (sampleExchange sampleWorld "user"
    [{ uniqueBatchItemId := some [1], requestPayload := sampleCreation },
     { uniqueBatchItemId := some [2]
       requestPayload := .getAttributes { uniqueIdentifier := none } }]).request

def sampleRequestWorld : RequestWorld where
  received := 0
  items _ := sampleWorld
  answered := 0

def sampleIdentity (identity : SessionIdentity) : ClientIdentity where
  user := some identity.user

theorem read_creationAndListing (request : PyKMIP.RequestMessage)
    (arrived : creationAndListing.request = .ok request) : request.Read := by
  cases arrived
  refine List.forall_mem_cons.mpr ⟨⟨_, rfl⟩, List.forall_mem_singleton.mpr ?_⟩
  exact ⟨_, rfl⟩

theorem sent_messages_are_read_creationAndListing :
    ∃ bytes after kmipVersion response,
      (KmipSession.handleMessage {}
        (sessionEngine sampleRequestWorld sampleIdentity)
        (sessionWriter 0 fun _ => .python .valueError)
        creationAndListing).run (newEngine .empty {}) = .ok bytes after ∧
      Sends {} creationAndListing sampleRequestWorld sampleIdentity 0
        (fun _ => .python .valueError) (newEngine .empty {}) kmipVersion
        response ∧
      ClientReads response bytes := by
  have ok : (outcomeOf ((KmipSession.handleMessage {}
      (sessionEngine sampleRequestWorld sampleIdentity)
      (sessionWriter 0 fun _ => .python .valueError)
      creationAndListing).run (newEngine .empty {}))).isOk = true := by
    decide +kernel
  cases sent : (KmipSession.handleMessage {}
      (sessionEngine sampleRequestWorld sampleIdentity)
      (sessionWriter 0 fun _ => .python .valueError)
      creationAndListing).run (newEngine .empty {}) with
  | error exception after =>
      rw [sent] at ok
      cases ok
  | ok bytes after =>
      have known : ∀ version,
          KmipSession.headerVersion {} creationAndListing = some version →
          (protocolVersionToKmipVersion version).isSome := by
        intro version header
        cases header
        rfl
      obtain ⟨kmipVersion, response, sends, reads⟩ :=
        sent_messages_are_read read_creationAndListing known sent
      exact ⟨bytes, after, kmipVersion, response, rfl, sends, reads⟩

end Sessions

end PyKMIP
