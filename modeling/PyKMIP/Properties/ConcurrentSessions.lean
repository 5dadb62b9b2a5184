import PyKMIP.Lib.AtomicObjects
import PyKMIP.Properties.ReadableReplies
import PyKMIP.Properties.RemoteCalls
import PyKMIP.Wire.EngineRequests

/-!
# Concurrent sessions

A server has one engine and a session for every connection.  The sessions take
turns in any order, but the lock of the engine lets only one of them process a
request at a time.  What the clients see is explained by processing their
requests one after the other.
-/

namespace PyKMIP

open EStateM History Streams StatefulExcept Wire

section Servers

/-- A request that the engine takes, and its encoding. -/
structure Call where
  version : KmipVersion
  request : Wire.RequestMessage
  engineRequest : PyKMIP.RequestMessage
  bytes : Bytes
  wellFormed : request.WellFormed version
  written : request.write version = .ok bytes
  understood : request.toEngine = some engineRequest

/-- What a session meets when it handles a message: what the authentication
services answer, what the engine asks of its world, and the time of a
refusal. -/
structure Handling where
  session : KmipSession
  world : RequestWorld
  answered : Int

/-- What a session does: it waits for a message, it has received one, or it has
prepared the reply. -/
inductive SessionPhase where
  | waiting
  | received (data : Bytes)
  | prepared (handling : Handling) (data : Bytes) (reply : KmipSession.Reply)

/-- A connection: whether the client waits for an answer, the bytes on their way
in both directions, and what the session does. -/
structure Link where
  calling : Bool
  toServer : Connection UInt8
  toClient : Connection UInt8
  phase : SessionPhase

structure KmipServer (ι : Type) where
  engine : EngineState
  links : ι → Link

/-- What is fixed for the connections: the certificates, what an identity is
worth to the engine, and what the readers and the writers raise. -/
structure Setting (ι : Type) where
  network : ι → Network
  certificate : ι → Except PyError (Option Certificate)
  clientIdentity : SessionIdentity → ClientIdentity
  raised : RequestError → PyError
  unread : Bytes → PyError × Option ProtocolVersion

/-- What a client gets of an answer. -/
abbrev Outcome := Option (Except RequestError Wire.ResponseMessage)

abbrev ServerEvent := AtomicObjects.Event Call Handling Outcome

abbrev ServerService (ι : Type) :=
  AtomicObjects.Service ι Call Handling EngineState

abbrev ServerStage (ι : Type) :=
  AtomicObjects.Stage ι Call Handling EngineState

namespace Setting

variable {ι : Type} (setting : Setting ι)

/-- What arrives with the bytes of a message. -/
def arrival (client : ι) (data : Bytes) : Arrival where
  certificate := setting.certificate client
  request :=
    match parseRequest (setting.network client).serverTold data with
    | some (.ok request) =>
        match request.toEngine with
        | some engineRequest => .ok engineRequest
        | none => .error (setting.unread data)
    | _ => .error (setting.unread data)

/-- The first half of a turn of the message loop. -/
def prepare (handling : Handling) (arrival : Arrival) :
    EStateM PyError EngineState KmipSession.Reply :=
  handling.session.prepare
    (sessionEngine handling.world setting.clientIdentity)
    (sessionWriter handling.answered setting.raised) arrival

/-- The second half. -/
def encode (handling : Handling) (arrival : Arrival)
    (reply : KmipSession.Reply) : Except PyError Bytes :=
  KmipSession.encodeReply (sessionWriter handling.answered setting.raised)
    (handling.session.headerVersion arrival) reply

end Setting

variable {ι : Type} [DecidableEq ι] (setting : Setting ι)

def KmipServer.setLink (server : KmipServer ι) (client : ι) (link : Link) :
    KmipServer ι :=
  { server with links := Function.update server.links client link }

/-- A receiver waits until a message is complete.  The session that prepares a
reply holds the lock of the engine; a reply that cannot be encoded is logged and
not sent. -/
inductive KmipServer.Step : KmipServer ι → Option (ι × ServerEvent) →
    KmipServer ι → Prop where
  | send (server : KmipServer ι) (client : ι) (call : Call) (link : Link) :
      server.links client = link → link.calling = false →
      Step server (some (client, .called call))
        (server.setLink client
          { link with
            calling := true
            toServer := sendBytes call.bytes link.toServer })
  | receive (server : KmipServer ι) (client : ι) (link : Link) (data : Bytes)
      (rest : Connection UInt8) :
      server.links client = link → link.phase = .waiting →
      (KmipSession.receiveRequest
        (setting.network client).serverSplitting.receive).run link.toServer =
          .ok data rest →
      Step server none
        (server.setLink client
          { link with toServer := rest, phase := .received data })
  | prepare (server : KmipServer ι) (client : ι) (link : Link) (data : Bytes)
      (handling : Handling) (reply : KmipSession.Reply) (engine : EngineState) :
      server.links client = link → link.phase = .received data →
      (setting.prepare handling (setting.arrival client data)).run
        server.engine = .ok reply engine →
      Step server (some (client, .performed handling))
        (KmipServer.setLink { server with engine } client
          { link with phase := .prepared handling data reply })
  | respond (server : KmipServer ι) (client : ι) (link : Link) (data : Bytes)
      (handling : Handling) (reply : KmipSession.Reply) (bytes : Bytes) :
      server.links client = link →
      link.phase = .prepared handling data reply →
      setting.encode handling (setting.arrival client data) reply = .ok bytes →
      Step server none
        (server.setLink client
          { link with
            toClient := sendBytes bytes link.toClient
            phase := .waiting })
  | fail (server : KmipServer ι) (client : ι) (link : Link) (data : Bytes)
      (handling : Handling) (reply : KmipSession.Reply) (exception : PyError) :
      server.links client = link →
      link.phase = .prepared handling data reply →
      setting.encode handling (setting.arrival client data) reply =
        .error exception →
      Step server none (server.setLink client { link with phase := .waiting })
  | deliver (server : KmipServer ι) (client : ι) (link : Link) (data : Bytes)
      (rest : Connection UInt8) :
      server.links client = link → link.calling = true →
      (KMIPProtocol.read
        (setting.network client).clientSplitting.receive).run link.toClient =
          .ok data rest →
      Step server
        (some (client,
          .returned (parseResponse (setting.network client).clientTold data)))
        (server.setLink client
          { link with calling := false, toClient := rest })

/-- The connection of a client that has not called yet. -/
def Link.new : Link where
  calling := false
  toServer := ⟨[], 0⟩
  toClient := ⟨[], 0⟩
  phase := .waiting

/-- A server to which all clients have connected. -/
def KmipServer.start (engine : EngineState) : KmipServer ι where
  engine := engine
  links _ := .new

end Servers

section Services

variable {ι : Type} (setting : Setting ι)

/-- What arrives with a call. -/
def Setting.arrivalOf (client : ι) (call : Call) : Arrival where
  certificate := setting.certificate client
  request := .ok call.engineRequest

/-- The request that reaches the engine with a service, if one does. -/
def Setting.exchange? (service : ServerService ι) : Option Exchange :=
  match service.choice.session.admission
      (setting.arrivalOf service.client service.call) with
  | .ok (request, identity) =>
      some ⟨service.choice.world, request, setting.clientIdentity identity⟩
  | .error _ => none

/-- The engine after a service: a refused request does not reach it. -/
def Setting.after (service : ServerService ι) : EngineState :=
  match setting.exchange? service with
  | some exchange => exchange.after service.before
  | none => service.before

/-- What the client gets is the response of the engine, as far as it can be
shown to it. -/
def Gets (response : PyKMIP.ResponseMessage) (outcome : Outcome) : Prop :=
  ∃ message version,
    ResponseMessage.ofEngine response = some message ∧
    protocolVersionToKmipVersion response.responseHeader.protocolVersion =
      some version ∧
    (Presentable version response →
      outcome = some (.ok (message.seen version)))

/-- The answer to a service: what the session sends for the request in the state
before it. -/
def Setting.Answers (service : ServerService ι) (outcome : Outcome) : Prop :=
  ∃ kmipVersion response,
    Sends service.choice.session
      (setting.arrivalOf service.client service.call) service.choice.world
      setting.clientIdentity service.choice.answered setting.raised
      service.before kmipVersion response ∧
    Gets response outcome

end Services

section Calls

variable {ι : Type} {setting : Setting ι}

/-- A handler gets the payload of its operation. -/
theorem operation_of_toEngine {payload : Wire.RequestPayload}
    {request : PyKMIP.RequestPayload}
    (understood : payload.toEngine = some request) :
    request.operation = payload.operation := by
  cases payload with
  | create | deriveKey | locate | deleteAttribute | setAttribute =>
      obtain ⟨_, _, made⟩ := Option.bind_eq_some_iff.mp understood
      cases made
      rfl
  | register =>
      obtain ⟨_, _, others⟩ := Option.bind_eq_some_iff.mp understood
      obtain ⟨_, _, made⟩ := Option.bind_eq_some_iff.mp others
      cases made
      rfl
  | createKeyPair | modifyAttribute =>
      obtain ⟨_, _, others⟩ := Option.bind_eq_some_iff.mp understood
      obtain ⟨_, _, others⟩ := Option.bind_eq_some_iff.mp others
      obtain ⟨_, _, made⟩ := Option.bind_eq_some_iff.mp others
      cases made
      rfl
  | _ =>
      cases understood
      rfl

theorem Call.engineRequest_eq (call : Call) :
    call.engineRequest.requestHeader = call.request.requestHeader.toEngine ∧
      call.request.batchItems.mapM RequestBatchItem.toEngine =
        some call.engineRequest.batchItems := by
  obtain ⟨batchItems, items, made⟩ :=
    Option.bind_eq_some_iff.mp call.understood
  rw [← Option.some.inj made]
  exact ⟨rfl, items⟩

/-- The payload factory knows what the writer has written. -/
theorem Call.read (call : Call) : call.engineRequest.Read := by
  obtain ⟨_, items⟩ := call.engineRequest_eq
  intro item member
  obtain ⟨sent, isSent, made⟩ := exists_of_mapM items member
  obtain ⟨payload, understood, made⟩ := Option.bind_eq_some_iff.mp made
  cases made
  obtain ⟨reader, created, _⟩ :=
    RequestPayload.readBack (call.wellFormed.kept sent isSent).payload
  rw [operation_of_toEngine understood]
  exact ⟨reader, created⟩

theorem Call.tells (call : Call) :
    protocolVersionToKmipVersion
      call.engineRequest.requestHeader.protocolVersion = some call.version := by
  rw [call.engineRequest_eq.1]
  exact call.wellFormed.tells

/-- The bytes of a call are read as the call. -/
theorem Setting.arrival_eq (client : ι) (call : Call) :
    setting.arrival client call.bytes = setting.arrivalOf client call := by
  have parsed := parses_request call.wellFormed call.written
    (setting.network client).serverTold
  unfold Setting.arrival Setting.arrivalOf
  rw [parsed]
  dsimp only
  rw [call.understood]

/-- The version of the header is that of the call. -/
theorem Setting.known_of_headerVersion {handling : Handling} {client : ι}
    {call : Call} (version : ProtocolVersion)
    (header : handling.session.headerVersion
      (setting.arrivalOf client call) = some version) :
    (protocolVersionToKmipVersion version).isSome := by
  unfold KmipSession.headerVersion Setting.arrivalOf at header
  split at header
  · rename_i arrived
    cases arrived
    cases header
    rw [call.tells]
    rfl
  · rename_i arrived
    cases arrived
  · cases header

/-- Only the engine changes while a reply is prepared. -/
theorem finalState_process {world : RequestWorld}
    {clientIdentity : SessionIdentity → ClientIdentity} {answered : Int}
    {raised : RequestError → PyError} {request : PyKMIP.RequestMessage}
    {identity : SessionIdentity} {before after : EngineState}
    {reply : KmipSession.Reply}
    (processed : (KmipSession.process (sessionEngine world clientIdentity)
      (sessionWriter answered raised) request identity).run before =
        .ok reply after) :
    after = (⟨world, request, clientIdentity identity⟩ :
      Exchange).after before := by
  unfold KmipSession.process at processed
  obtain ⟨results, between, attempted, processed⟩ := bind_ok_iff.mp processed
  rw [run_attempt] at attempted
  have ended : (⟨world, request, clientIdentity identity⟩ :
      Exchange).after before = between := (EStateM.Result.ok.inj attempted).2
  rw [ended]
  split at processed
  · split at processed
    · split at processed <;> cases processed <;> rfl
    · cases processed
      rfl
  · cases processed
    rfl

theorem Setting.after_of_prepare {service : ServerService ι}
    {reply : KmipSession.Reply} {engine : EngineState}
    (prepared : (setting.prepare service.choice
      (setting.arrivalOf service.client service.call)).run service.before =
        .ok reply engine) :
    engine = setting.after service := by
  unfold Setting.prepare KmipSession.prepare at prepared
  unfold Setting.after Setting.exchange?
  cases admitted : service.choice.session.admission
      (setting.arrivalOf service.client service.call) with
  | ok admission =>
      rw [admitted] at prepared
      exact finalState_process prepared
  | error refusal =>
      rw [admitted] at prepared
      cases prepared
      rfl

end Calls

section Simulations

variable {ι : Type} (setting : Setting ι)

/-- Nothing is received from a connection without bytes. -/
theorem inParts_nothing {first : Receiver (Connection UInt8) Bytes}
    {second : Nat → Receiver (Connection UInt8) Bytes}
    {headerFailure : Nat → ReceiveError}
    {payloadFailure : Nat → Nat → ReceiveError}
    (header : Exact first 8 headerFailure)
    (payload : ∀ size, Exact (second size) size (payloadFailure size))
    (calls : Nat) (data : Bytes) (rest : Connection UInt8) :
    (inParts first second).run ⟨[], calls⟩ ≠ .ok data rest := by
  obtain ⟨after, ran⟩ := inParts_short header payload
    ⟨⟨List.replicate 8 0, [], rfl, rfl⟩, 0, by decide⟩ calls
  intro received
  cases ran.symm.trans received

/-- The bytes are those of a message that the session sends for a service. -/
def Setting.Sent (service : ServerService ι) (bytes : Bytes) : Prop :=
  ∃ kmipVersion response,
    Sends service.choice.session
      (setting.arrivalOf service.client service.call) service.choice.world
      setting.clientIdentity service.choice.answered setting.raised
      service.before kmipVersion response ∧
    (sessionWriter service.choice.answered setting.raised).write kmipVersion
      response = .ok bytes

/-- What is on its way between a client and its session, at every stage of the
call of the client. -/
inductive Carries (client : ι) : Link → ServerStage ι → Prop where
  | idle (calls clientCalls : Nat) :
      Carries client ⟨false, ⟨[], calls⟩, ⟨[], clientCalls⟩, .waiting⟩ .idle
  | sent (call : Call) (calls clientCalls : Nat) :
      Carries client ⟨true, ⟨call.bytes, calls⟩, ⟨[], clientCalls⟩, .waiting⟩
        (.calling call)
  | received (call : Call) (calls clientCalls : Nat) :
      Carries client
        ⟨true, ⟨[], calls⟩, ⟨[], clientCalls⟩, .received call.bytes⟩
        (.calling call)
  | prepared (service : ServerService ι) (reply : KmipSession.Reply)
      (calls clientCalls : Nat) (own : service.client = client)
      (prepares : Prepares service.choice.session
        (setting.arrivalOf client service.call) service.choice.world
        setting.clientIdentity service.choice.answered service.before reply) :
      Carries client
        ⟨true, ⟨[], calls⟩, ⟨[], clientCalls⟩,
          .prepared service.choice service.call.bytes reply⟩
        (.performed service)
  | responded (service : ServerService ι) (bytes : Bytes)
      (calls clientCalls : Nat) (sent : setting.Sent service bytes) :
      Carries client ⟨true, ⟨[], calls⟩, ⟨bytes, clientCalls⟩, .waiting⟩
        (.performed service)
  | failed (service : ServerService ι) (calls clientCalls : Nat) :
      Carries client ⟨true, ⟨[], calls⟩, ⟨[], clientCalls⟩, .waiting⟩
        (.performed service)

variable {setting}

/-- What a client reads of the bytes that were sent for a service answers it. -/
theorem Setting.Sent.answers {service : ServerService ι} {bytes : Bytes}
    (sent : setting.Sent service bytes) (told : KmipVersion) :
    setting.Answers service (parseResponse told bytes) := by
  obtain ⟨kmipVersion, response, sends, written⟩ := sent
  have read : ∀ request, (setting.arrivalOf service.client
      service.call).request = .ok request → request.Read := by
    rintro request ⟨rfl⟩
    exact service.call.read
  obtain ⟨message, version, makes, tells, _, reads⟩ :=
    sends.clientReads read Setting.known_of_headerVersion written
  exact ⟨kmipVersion, response, sends, message, version, makes, tells,
    fun presentable => parseResponse_of_reads (reads presentable told)⟩

theorem Setting.Sent.written {service : ServerService ι} {bytes : Bytes}
    (sent : setting.Sent service bytes) :
    ∃ version, ∃ message : Wire.ResponseMessage,
      message.write version = .ok bytes := by
  obtain ⟨kmipVersion, response, _, written⟩ := sent
  obtain ⟨version, message, _, _, encodes⟩ := write_eq_ok written
  exact ⟨version, message, encodes⟩

/-- The services lead the engine through the requests that reach it. -/
theorem run_of_linked {engine last : EngineState}
    {services : List (ServerService ι)}
    (linked : Linked AtomicObjects.Service.before setting.after engine services
      last) :
    last = run engine (services.filterMap setting.exchange?) := by
  induction services generalizing engine with
  | nil => exact linked.symm
  | cons service rest ih =>
      obtain ⟨rfl, others⟩ := linked
      have rest := ih others
      unfold Setting.after at rest
      cases reaches : setting.exchange? service with
      | none =>
          rw [reaches] at rest
          rw [List.filterMap_cons_none reaches]
          exact rest
      | some exchange =>
          rw [reaches] at rest
          rw [List.filterMap_cons_some reaches]
          exact rest

variable [DecidableEq ι]

/-- A step of one client leaves the others as they are. -/
theorem Carries.update {links : ι → Link} {stages : ι → ServerStage ι}
    (carries : ∀ client, Carries setting client (links client) (stages client))
    {client : ι} {link : Link} {stage : ServerStage ι}
    (own : Carries setting client link stage) (viewer : ι) :
    Carries setting viewer (Function.update links client link viewer)
      (Function.update stages client stage viewer) := by
  by_cases same : viewer = client
  · subst same
    rw [Function.update_self, Function.update_self]
    exact own
  · rw [Function.update_of_ne same, Function.update_of_ne same]
    exact carries viewer

theorem Carries.update_link {links : ι → Link} {stages : ι → ServerStage ι}
    (carries : ∀ client, Carries setting client (links client) (stages client))
    {client : ι} {link : Link} (own : Carries setting client link (stages client))
    (viewer : ι) :
    Carries setting viewer (Function.update links client link viewer)
      (stages viewer) := by
  have updated := Carries.update carries own viewer
  rwa [Function.update_eq_self] at updated

/-- The engine of a server is the object, and every connection is where the call
of its client is. -/
structure Shadows (setting : Setting ι) (server : KmipServer ι)
    (atomic : AtomicObjects.Atomic ι Call Handling EngineState) : Prop where
  engine : server.engine = atomic.object
  carries : ∀ client,
    Carries setting client (server.links client) (atomic.stages client)

/-- Receiving and encoding do not change the engine. -/
theorem Shadows.silent {server next : KmipServer ι}
    {atomic : AtomicObjects.Atomic ι Call Handling EngineState}
    (shadows : Shadows setting server atomic)
    (step : KmipServer.Step setting server none next) :
    Shadows setting next atomic := by
  obtain ⟨engine, carries⟩ := shadows
  cases step with
  | receive client link data rest linked waiting ran =>
      refine ⟨engine, Carries.update_link carries ?_⟩
      have carried := carries client
      rw [linked] at carried
      generalize atomic.stages client = stage at carried ⊢
      cases carried with
      | sent call calls clientCalls =>
          obtain ⟨after, whole⟩ :=
            (receivesFrames_session _).written call.written calls
          cases whole.symm.trans ran
          exact .received call after clientCalls
      | received => cases waiting
      | prepared => cases waiting
      | _ =>
          exact absurd ran (inParts_nothing (receiveBytes_exact _ 8)
            (receiveBytes_exact _) _ _ _)
  | respond client link data handling reply bytes linked phase encoded =>
      refine ⟨engine, Carries.update_link carries ?_⟩
      have carried := carries client
      rw [linked] at carried
      generalize atomic.stages client = stage at carried ⊢
      cases carried with
      | prepared service reply calls clientCalls own prepares =>
          cases phase
          subst own
          rw [Setting.arrival_eq] at encoded
          exact .responded service bytes calls clientCalls
            (sends_of_encodeReply prepares encoded)
      | _ => cases phase
  | fail client link data handling reply exception linked phase encoded =>
      refine ⟨engine, Carries.update_link carries ?_⟩
      have carried := carries client
      rw [linked] at carried
      generalize atomic.stages client = stage at carried ⊢
      cases carried with
      | prepared service reply calls clientCalls own prepares =>
          exact .failed service calls clientCalls
      | _ => cases phase

/-- A call is performed when its reply is prepared. -/
theorem Shadows.visible {server next : KmipServer ι}
    {atomic : AtomicObjects.Atomic ι Call Handling EngineState}
    {label : ι × ServerEvent} (shadows : Shadows setting server atomic)
    (step : KmipServer.Step setting server (some label) next) :
    ∃ following, AtomicObjects.Step setting.after setting.Answers atomic
        (some label) following ∧
      Shadows setting next following := by
  obtain ⟨object, stages⟩ := atomic
  obtain ⟨engine, carries⟩ := shadows
  dsimp only at engine carries
  subst engine
  cases step with
  | send client call link linked calling =>
      have carried := carries client
      rw [linked] at carried
      generalize staged : stages client = stage at carried
      cases carried with
      | idle calls clientCalls =>
          exact ⟨_, .called client call staged, rfl,
            Carries.update carries (.sent call calls clientCalls)⟩
      | _ => cases calling
  | prepare client link data handling reply engine linked phase ran =>
      have carried := carries client
      rw [linked] at carried
      generalize staged : stages client = stage at carried
      cases carried with
      | received call calls clientCalls =>
          cases phase
          rw [Setting.arrival_eq] at ran
          let service : ServerService ι :=
            ⟨client, call, handling, server.engine⟩
          have ended : engine = setting.after service :=
            Setting.after_of_prepare ran
          exact ⟨_, .performed client call handling staged, ended,
            Carries.update carries (.prepared service reply calls clientCalls rfl
              (prepares_of_prepare ran))⟩
      | _ => cases phase
  | deliver client link data rest linked calling ran =>
      have carried := carries client
      rw [linked] at carried
      generalize staged : stages client = stage at carried
      cases carried with
      | responded service bytes calls clientCalls sent =>
          obtain ⟨version, message, written⟩ := sent.written
          obtain ⟨after, whole⟩ :=
            (receivesFrames_client _).written written clientCalls
          cases whole.symm.trans ran
          exact ⟨_, .returned client service _ staged (sent.answers _), rfl,
            Carries.update carries (.idle calls after)⟩
      | idle => cases calling
      | _ =>
          exact absurd ran (inParts_nothing (readHeader_exact _)
            (recvAll_exact _) _ _ _)

theorem simulation : AtomicObjects.Simulation (KmipServer.Step setting)
    (AtomicObjects.Step setting.after setting.Answers) (Shadows setting) where
  silent := Shadows.silent
  visible := Shadows.visible

/-- However the steps of the clients and of their sessions are interleaved, the
clients see what they would see if the engine served their calls one after the
other, each of them between the call and its answer, and the engine ends as
after these calls. -/
theorem concurrent_calls_are_served_one_by_one {engine : EngineState}
    {trace : List (ι × ServerEvent)} {final : KmipServer ι}
    (ran : AtomicObjects.Runs (KmipServer.Step setting) (.start engine) trace
      final) :
    ∃ services,
      AtomicObjects.Explained setting.after setting.Answers (fun _ => .idle)
        engine final.engine trace services ∧
      final.engine = run engine (services.filterMap setting.exchange?) := by
  have start : Shadows setting (.start engine) ⟨engine, fun _ => .idle⟩ :=
    ⟨rfl, fun client => .idle 0 0⟩
  obtain ⟨last, services, ends, explained⟩ := simulation.explained ran start
  rw [← ends.engine] at explained
  exact ⟨services, explained, run_of_linked explained.sequential⟩

end Simulations

section Samples

/-- What the engine takes of the request that creates a key and activates an
object. -/
def takenCreateAndActivate : PyKMIP.RequestMessage where
  requestHeader :=
    { protocolVersion := ⟨1, 2⟩
      maximumResponseSize := some 256
      batchOrderOption := some true }
  batchItems :=
    [{ uniqueBatchItemId := some [1]
       requestPayload := .create
         { objectType := .symmetricKey
           templateAttribute := some
             { attributes := [⟨.cryptographicLength, none, .integer 128⟩] } } },
     { uniqueBatchItemId := some [2]
       requestPayload := .activate (some "1") }]

theorem understood_createAndActivate :
    createAndActivate.toEngine = some takenCreateAndActivate := rfl

/-- Two clients with the same certificate. -/
def sampleSetting : Setting Bool where
  network _ := slowNetwork
  certificate _ := creationAndListing.certificate
  clientIdentity := sampleIdentity
  raised _ := .python .valueError
  unread _ := (.python .valueError, none)

def sampleHandling : Handling where
  session := {}
  world := sampleRequestWorld
  answered := 0

/-- A reply can always be prepared. -/
theorem exists_prepare {ι : Type} (setting : Setting ι) (handling : Handling)
    (arrival : Arrival) (before : EngineState) :
    ∃ reply after,
      (setting.prepare handling arrival).run before = .ok reply after := by
  unfold Setting.prepare KmipSession.prepare
  cases handling.session.admission arrival with
  | ok admission =>
      obtain ⟨request, identity⟩ := admission
      dsimp only
      unfold KmipSession.process
      rw [EStateM.run_bind, run_attempt]
      dsimp only
      split
      · split
        · split <;> exact ⟨_, _, rfl⟩
        · exact ⟨_, _, rfl⟩
      · exact ⟨_, _, rfl⟩
  | error refusal => exact ⟨_, before, rfl⟩

def takenArrival : Arrival where
  certificate := creationAndListing.certificate
  request := .ok takenCreateAndActivate

/-- The first reply can be sent. -/
theorem sample_reply :
    ∃ reply engine bytes,
      (sampleSetting.prepare sampleHandling takenArrival).run
        (newEngine .empty []) = .ok reply engine ∧
      sampleSetting.encode sampleHandling takenArrival reply = .ok bytes := by
  have ok : (outcomeOf ((KmipSession.handleMessage {}
      (sessionEngine sampleRequestWorld sampleIdentity)
      (sessionWriter 0 fun _ => .python .valueError) takenArrival).run
      (newEngine .empty []))).isOk = true := by
    decide +kernel
  obtain ⟨reply, engine, prepared⟩ := exists_prepare sampleSetting
    sampleHandling takenArrival (newEngine .empty [])
  have prepares : (KmipSession.prepare {}
      (sessionEngine sampleRequestWorld sampleIdentity)
      (sessionWriter 0 fun _ => .python .valueError) takenArrival).run
      (newEngine .empty []) = .ok reply engine := prepared
  rw [handleMessage_eq, EStateM.run_bind, prepares] at ok
  cases encoded : sampleSetting.encode sampleHandling takenArrival reply with
  | ok bytes => exact ⟨reply, engine, bytes, prepared, encoded⟩
  | error exception =>
      have encodes : KmipSession.encodeReply
          (sessionWriter 0 fun _ => .python .valueError)
          (KmipSession.headerVersion {} takenArrival) reply =
          .error exception := encoded
      dsimp only at ok
      rw [encodes] at ok
      cases ok

theorem sample_run (call : Call)
    (taken : call.engineRequest = takenCreateAndActivate) :
    ∃ outcome final,
      AtomicObjects.Runs (KmipServer.Step sampleSetting)
        (.start (newEngine .empty []))
        [(true, .called call), (false, .called call),
          (false, .performed sampleHandling), (true, .performed sampleHandling),
          (false, .returned outcome)] final := by
  have arrived : sampleSetting.arrivalOf false call = takenArrival := by
    unfold Setting.arrivalOf
    rw [taken]
    rfl
  obtain ⟨reply, engine, bytes, prepared, encoded⟩ := sample_reply
  rw [← arrived] at prepared encoded
  obtain ⟨otherReply, last, otherPrepared⟩ := exists_prepare sampleSetting
    sampleHandling (sampleSetting.arrival true call.bytes) engine
  obtain ⟨after, received⟩ :=
    (receivesFrames_session slowNetwork.serverSplitting).written call.written 0
  obtain ⟨kmipVersion, response, _, written⟩ :=
    sends_of_encodeReply (prepares_of_prepare prepared) encoded
  obtain ⟨version, message, _, _, encodes⟩ := write_eq_ok written
  obtain ⟨clientAfter, returned⟩ :=
    (receivesFrames_client slowNetwork.clientSplitting).written encodes 0
  rw [← Setting.arrival_eq] at prepared encoded
  exact ⟨_, _, .visible (.send _ true call _ rfl rfl) <|
    .visible (.send _ false call _ rfl rfl) <|
    .silent (.receive _ false _ call.bytes ⟨[], after⟩ rfl rfl received) <|
    .visible (.prepare _ false _ call.bytes sampleHandling reply engine rfl rfl
      prepared) <|
    .silent (.receive _ true _ call.bytes ⟨[], after⟩ rfl rfl received) <|
    .visible (.prepare _ true _ call.bytes sampleHandling otherReply last rfl
      rfl otherPrepared) <|
    .silent (.respond _ false _ call.bytes sampleHandling reply bytes rfl rfl
      encoded) <|
    .visible (.deliver _ false _ bytes ⟨[], clientAfter⟩ rfl rfl returned) <|
    .done _⟩

theorem concurrent_calls_are_served_one_by_one_twoClients :
    ∃ call outcome final services,
      AtomicObjects.Explained sampleSetting.after sampleSetting.Answers
        (fun _ => .idle) (newEngine .empty []) final
        [(true, .called call), (false, .called call),
          (false, .performed sampleHandling), (true, .performed sampleHandling),
          (false, .returned outcome)] services ∧
      final = run (newEngine .empty [])
        (services.filterMap sampleSetting.exchange?) := by
  have ok : (createAndActivate.write .kmip12).isOk = true := by decide +kernel
  cases written : createAndActivate.write .kmip12 with
  | error exception =>
      rw [written] at ok
      cases ok
  | ok bytes =>
      let call : Call :=
        { version := .kmip12
          request := createAndActivate
          engineRequest := takenCreateAndActivate
          bytes
          wellFormed := wellFormed_createAndActivate
          written
          understood := understood_createAndActivate }
      obtain ⟨outcome, final, ran⟩ := sample_run call rfl
      obtain ⟨services, explained, ended⟩ :=
        concurrent_calls_are_served_one_by_one ran
      exact ⟨call, outcome, final.engine, services, explained, ended⟩

end Samples

end PyKMIP
