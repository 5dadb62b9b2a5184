import PyKMIP.Properties.Framing
import PyKMIP.Properties.ResponseRoundTrip

/-!
# Remote calls

The client writes a request to a connection; the session cuts what it receives
into messages by the lengths in their headers, parses each of them and writes
an answer; the client cuts and parses the answers in the same way.  What comes
back is what the server has answered to what the client has asked, whatever the
chunks in which the bytes travel.
-/

namespace PyKMIP.Wire

open Formats Traces Streams StatefulExcept

section Frames

theorem frame_of_writeFields {tag : Tag} {writers : List Writing} {bytes : Bytes}
    (written : writeFields tag writers = .ok bytes) :
    ∃ frame : Frame, frame.bytes = bytes := by
  obtain ⟨localStream, fields, written⟩ := bind_eq_ok written
  obtain ⟨header, heads, written⟩ := bind_eq_ok written
  cases written
  change (if localStream.length < 256 ^ 4 then _ else _ : Except _ _).mapError _ =
    _ at heads
  split at heads
  · rename_i small
    cases heads
    have front : (BigEndian.encode 3 tag.code ++
        BigEndian.encode 1 ItemType.struct.code).length = 4 := by simp
    refine ⟨⟨_, localStream, by simp, ?_⟩, rfl⟩
    rw [List.drop_left' front]
    exact BigEndian.decode_encode small
  · cases heads

variable {receive : Receiver (Connection UInt8) Bytes}

/-- A receiver that returns what is framed and leaves what follows it. -/
def ReceivesFrames (receive : Receiver (Connection UInt8) Bytes) : Prop :=
  ∀ (frame : Frame) rest calls, ∃ after,
    receive.run ⟨frame.bytes ++ rest, calls⟩ = .ok frame.bytes ⟨rest, after⟩

theorem receivesFrames_session (splitting : Splitting) :
    ReceivesFrames (KmipSession.receiveRequest splitting.receive) :=
  inParts_whole (receiveBytes_exact splitting 8) (receiveBytes_exact splitting)

theorem receivesFrames_client (splitting : Splitting) :
    ReceivesFrames (KMIPProtocol.read splitting.receive) :=
  inParts_whole (readHeader_exact splitting) (recvAll_exact splitting)

/-- What has been written as one message is received as one. -/
theorem ReceivesFrames.written (receives : ReceivesFrames receive) {tag : Tag}
    {writers : List Writing} {bytes : Bytes}
    (written : writeFields tag writers = .ok bytes) (calls : Nat) :
    ∃ after, receive.run ⟨bytes, calls⟩ = .ok bytes ⟨[], after⟩ := by
  obtain ⟨frame, rfl⟩ := frame_of_writeFields written
  obtain ⟨after, ran⟩ := receives frame [] calls
  rw [List.append_nil] at ran
  exact ⟨after, ran⟩

end Frames

section Parsing

/-- `RequestMessage.read`, of what has been received of one message. -/
def parseRequest (told : KmipVersion) (data : Bytes) :
    Option (Except RequestError RequestMessage) :=
  (RequestMessage.read told (data.length + 1) data).outcome.map
    fun outcome => outcome.map Prod.fst

/-- `ResponseMessage.read`, of what has been received of one message. -/
def parseResponse (told : KmipVersion) (data : Bytes) :
    Option (Except RequestError ResponseMessage) :=
  (ResponseMessage.read told (data.length + 1) data).outcome.map
    fun outcome => outcome.map Prod.fst

theorem parses_request {version : KmipVersion} {message : RequestMessage}
    {bytes : Bytes} (wellFormed : message.WellFormed version)
    (written : message.write version = .ok bytes) (told : KmipVersion) :
    parseRequest told bytes = some (.ok message) := by
  have survives := @RequestMessage.read_write version message bytes wellFormed
    written told [] (bytes.length + 1)
    (by rw [List.append_nil]; exact Nat.lt_succ_self _)
  rw [List.append_nil] at survives
  unfold parseRequest
  rw [survives]
  rfl

theorem parseResponse_of_reads {told : KmipVersion} {message : ResponseMessage}
    {bytes : Bytes}
    (reads : ∀ (rest : Bytes) (fuel : Nat), (bytes ++ rest).length < fuel →
      (ResponseMessage.read told fuel (bytes ++ rest)).outcome =
        some (.ok (message, rest))) :
    parseResponse told bytes = some (.ok message) := by
  have survives := reads [] (bytes.length + 1)
    (by rw [List.append_nil]; exact Nat.lt_succ_self _)
  rw [List.append_nil] at survives
  unfold parseResponse
  rw [survives]
  rfl

theorem parses_response {version : KmipVersion} {message : ResponseMessage}
    {bytes : Bytes} (wellFormed : message.WellFormed version)
    (written : message.write version = .ok bytes) (told : KmipVersion) :
    parseResponse told bytes = some (.ok message) :=
  parseResponse_of_reads fun rest _ enough =>
    ResponseMessage.read_write wellFormed written told rest enough

end Parsing

section Calls

variable {σ : Type}

/-- A server answers a request and tells the version to write the answer for. -/
abbrev Server (σ : Type) :=
  RequestMessage → StateM σ (ResponseMessage × KmipVersion)

/-- The state of a server, and the two directions of a connection. -/
structure Exchange (σ : Type) where
  server : σ
  toServer : Connection UInt8
  toClient : Connection UInt8

/-- How the bytes travel in both directions, and the versions that the readers
are told. -/
structure Network where
  serverSplitting : Splitting
  clientSplitting : Splitting
  serverTold : KmipVersion
  clientTold : KmipVersion

/-- What a call can fail with: a message that is cut off, one that cannot be
written or read, or a reader that does not end. -/
inductive CallError where
  | cutOff (exception : ReceiveError)
  | coding (exception : RequestError)
  | endless

def sendBytes (bytes : Bytes) (connection : Connection UInt8) :
    Connection UInt8 :=
  { connection with pending := connection.pending ++ bytes }

def encoded (writing : Writing) : Except CallError Bytes :=
  writing.mapError .coding

def parsed {α : Type} :
    Option (Except RequestError α) → Except CallError α
  | some outcome => outcome.mapError .coding
  | none => .error .endless

variable (network : Network) (server : Server σ)

def receiveAtServer : EStateM CallError (Exchange σ) Bytes :=
  focus Exchange.toServer
    (fun connection exchange => { exchange with toServer := connection })
    ((KmipSession.receiveRequest network.serverSplitting.receive).adaptExcept
      .cutOff)

def receiveAtClient : EStateM CallError (Exchange σ) Bytes :=
  focus Exchange.toClient
    (fun connection exchange => { exchange with toClient := connection })
    ((KMIPProtocol.read network.clientSplitting.receive).adaptExcept .cutOff)

def answerRequest (request : RequestMessage) :
    EStateM CallError (Exchange σ) (ResponseMessage × KmipVersion) :=
  fun exchange =>
    let (answer, after) := (server request).run exchange.server
    .ok answer { exchange with server := after }

/-- Receive a request, and send what the server answers. -/
def serve : EStateM CallError (Exchange σ) Unit := do
  let data ← receiveAtServer network
  let request ← fromExcept (parsed (parseRequest network.serverTold data))
  let (response, version) ← answerRequest server request
  let bytes ← fromExcept (encoded (response.write version))
  modify fun exchange =>
    { exchange with toClient := sendBytes bytes exchange.toClient }

/-- `KMIPProxy._send_and_receive_message`, with the server at the other end. -/
def sendAndReceiveMessage (version : KmipVersion) (request : RequestMessage) :
    EStateM CallError (Exchange σ) ResponseMessage := do
  let bytes ← fromExcept (encoded (request.write version))
  modify fun exchange =>
    { exchange with toServer := sendBytes bytes exchange.toServer }
  serve network server
  let data ← receiveAtClient network
  fromExcept (parsed (parseResponse network.clientTold data))

/-- One call after the other. -/
def sendAndReceiveMessages : List (KmipVersion × RequestMessage) →
    EStateM CallError (Exchange σ) (List ResponseMessage)
  | [] => return []
  | (version, request) :: calls => do
      let response ← sendAndReceiveMessage network server version request
      return response :: (← sendAndReceiveMessages calls)

/-- The server is called without a connection; each request and each answer is
well formed for its version and has an encoding. -/
inductive LocalCalls : σ → List (KmipVersion × RequestMessage) →
    List ResponseMessage → σ → Prop
  | done {state : σ} : LocalCalls state [] [] state
  | call {state middle last : σ} {version answerVersion : KmipVersion}
      {request : RequestMessage} {response : ResponseMessage}
      {bytes answerBytes : Bytes}
      {calls : List (KmipVersion × RequestMessage)}
      {responses : List ResponseMessage}
      (asked : request.WellFormed version)
      (written : request.write version = .ok bytes)
      (answers : (server request).run state = ((response, answerVersion), middle))
      (answered : response.WellFormed answerVersion)
      (answerWritten : response.write answerVersion = .ok answerBytes)
      (others : LocalCalls middle calls responses last) :
      LocalCalls state ((version, request) :: calls) (response :: responses) last

variable {network server}

theorem run_receiveAtServer {tag : Tag} {writers : List Writing} {bytes : Bytes}
    (written : writeFields tag writers = .ok bytes) (state : σ) (calls : Nat)
    (toClient : Connection UInt8) :
    ∃ after, (receiveAtServer network).run
        ⟨state, sendBytes bytes ⟨[], calls⟩, toClient⟩ =
      .ok bytes ⟨state, ⟨[], after⟩, toClient⟩ := by
  obtain ⟨after, ran⟩ :=
    (receivesFrames_session network.serverSplitting).written written calls
  refine ⟨after, ?_⟩
  unfold receiveAtServer focus EStateM.adaptExcept
  simp only [EStateM.run] at ran ⊢
  simp only [sendBytes, List.nil_append, ran]

theorem run_receiveAtClient {tag : Tag} {writers : List Writing} {bytes : Bytes}
    (written : writeFields tag writers = .ok bytes) (state : σ) (calls : Nat)
    (toServer : Connection UInt8) :
    ∃ after, (receiveAtClient network).run
        ⟨state, toServer, sendBytes bytes ⟨[], calls⟩⟩ =
      .ok bytes ⟨state, toServer, ⟨[], after⟩⟩ := by
  obtain ⟨after, ran⟩ :=
    (receivesFrames_client network.clientSplitting).written written calls
  refine ⟨after, ?_⟩
  unfold receiveAtClient focus EStateM.adaptExcept
  simp only [EStateM.run] at ran ⊢
  simp only [sendBytes, List.nil_append, ran]

theorem run_answerRequest {state middle : σ} {request : RequestMessage}
    {answer : ResponseMessage × KmipVersion}
    (answers : (server request).run state = (answer, middle))
    {toServer toClient : Connection UInt8} :
    (answerRequest server request).run ⟨state, toServer, toClient⟩ =
      .ok answer ⟨middle, toServer, toClient⟩ := by
  unfold answerRequest
  simp only [EStateM.run, answers]

/-- The bytes of the request are all taken, and those of the answer are sent. -/
theorem run_serve {state middle : σ} {version answerVersion : KmipVersion}
    {request : RequestMessage} {response : ResponseMessage}
    {bytes answerBytes : Bytes} (asked : request.WellFormed version)
    (written : request.write version = .ok bytes)
    (answers : (server request).run state = ((response, answerVersion), middle))
    (answerWritten : response.write answerVersion = .ok answerBytes)
    (calls : Nat) (toClient : Connection UInt8) :
    ∃ after, (serve network server).run
        ⟨state, sendBytes bytes ⟨[], calls⟩, toClient⟩ =
      .ok () ⟨middle, ⟨[], after⟩, sendBytes answerBytes toClient⟩ := by
  obtain ⟨after, received⟩ :=
    @run_receiveAtServer σ network _ _ bytes written state calls toClient
  refine ⟨after, ?_⟩
  have read : parsed (parseRequest network.serverTold bytes) =
      .ok request := by
    rw [parses_request asked written]
    rfl
  have wrote : encoded (response.write answerVersion) = .ok answerBytes := by
    rw [answerWritten]
    rfl
  unfold serve
  rw [EStateM.run_bind, received]
  dsimp only
  rw [read, EStateM.run_bind]
  change (answerRequest server request >>= _ :
    EStateM CallError (Exchange σ) Unit).run _ = _
  rw [EStateM.run_bind, run_answerRequest answers]
  dsimp only
  rw [wrote]
  rfl

theorem run_sendAndReceiveMessage {state middle : σ}
    {version answerVersion : KmipVersion} {request : RequestMessage}
    {response : ResponseMessage} {bytes answerBytes : Bytes}
    (asked : request.WellFormed version)
    (written : request.write version = .ok bytes)
    (answers : (server request).run state = ((response, answerVersion), middle))
    (answered : response.WellFormed answerVersion)
    (answerWritten : response.write answerVersion = .ok answerBytes)
    (calls clientCalls : Nat) :
    ∃ after clientAfter,
      (sendAndReceiveMessage network server version request).run
        ⟨state, ⟨[], calls⟩, ⟨[], clientCalls⟩⟩ =
      .ok response ⟨middle, ⟨[], after⟩, ⟨[], clientAfter⟩⟩ := by
  obtain ⟨after, served⟩ := @run_serve σ network server _ _ _ _ _ _ _ _ asked
    written answers answerWritten calls ⟨[], clientCalls⟩
  obtain ⟨clientAfter, received⟩ :=
    @run_receiveAtClient σ network _ _ answerBytes answerWritten middle
      clientCalls ⟨[], after⟩
  refine ⟨after, clientAfter, ?_⟩
  have wrote : encoded (request.write version) = .ok bytes := by
    rw [written]
    rfl
  have read : parsed (parseResponse network.clientTold answerBytes) =
      .ok response := by
    rw [parses_response answered answerWritten]
    rfl
  unfold sendAndReceiveMessage
  rw [wrote, EStateM.run_bind]
  change (modify _ >>= _ : EStateM CallError (Exchange σ) ResponseMessage).run
    _ = _
  rw [EStateM.run_bind]
  change (serve network server >>= _ :
    EStateM CallError (Exchange σ) ResponseMessage).run
      ⟨state, sendBytes bytes ⟨[], calls⟩, ⟨[], clientCalls⟩⟩ = _
  rw [EStateM.run_bind, served]
  dsimp only
  rw [EStateM.run_bind, received]
  dsimp only
  rw [read]
  rfl

/-- Whatever the chunks in which the bytes travel, the client gets the answers
that the server has given, the server is in the state of having given them, and
no byte is left on the way. -/
theorem remote_calls_are_local_calls
    {state last : σ} {calls : List (KmipVersion × RequestMessage)}
    {responses : List ResponseMessage}
    (called : LocalCalls server state calls responses last)
    (serverCalls clientCalls : Nat) :
    ∃ after clientAfter,
      (sendAndReceiveMessages network server calls).run
        ⟨state, ⟨[], serverCalls⟩, ⟨[], clientCalls⟩⟩ =
      .ok responses ⟨last, ⟨[], after⟩, ⟨[], clientAfter⟩⟩ := by
  induction called generalizing serverCalls clientCalls with
  | done => exact ⟨serverCalls, clientCalls, rfl⟩
  | call asked written answers answered answerWritten others ih =>
      obtain ⟨between, clientBetween, first⟩ :=
        @run_sendAndReceiveMessage σ network server _ _ _ _ _ _ _ _ asked
          written answers answered answerWritten serverCalls clientCalls
      obtain ⟨after, clientAfter, rest⟩ := ih between clientBetween
      refine ⟨after, clientAfter, ?_⟩
      unfold sendAndReceiveMessages
      rw [EStateM.run_bind, first]
      dsimp only
      rw [EStateM.run_bind, rest]
      rfl

/-- A server that counts what it is asked. -/
def countingServer : Server Nat := fun _ count =>
  ((createdAndNotFound, .kmip12), count + 1)

/-- The bytes arrive one after the other at the server, and at once at the
client. -/
def slowNetwork : Network where
  serverSplitting := .single
  clientSplitting := .whole
  serverTold := .kmip12
  clientTold := .kmip20

theorem remote_calls_are_local_calls_twice :
    ∃ after clientAfter,
      (sendAndReceiveMessages slowNetwork countingServer
        [(.kmip12, createAndActivate), (.kmip12, createAndActivate)]).run
        ⟨0, ⟨[], 0⟩, ⟨[], 0⟩⟩ =
      .ok [createdAndNotFound, createdAndNotFound]
        ⟨2, ⟨[], after⟩, ⟨[], clientAfter⟩⟩ := by
  have ok : (createAndActivate.write .kmip12).isOk &&
      (createdAndNotFound.write .kmip12).isOk = true := by
    decide +kernel
  cases written : createAndActivate.write .kmip12 with
  | error exception =>
      rw [written] at ok
      cases ok
  | ok bytes =>
      cases answerWritten : createdAndNotFound.write .kmip12 with
      | error exception =>
          rw [written, answerWritten] at ok
          cases ok
      | ok answerBytes =>
          have once : ∀ {count last : Nat} {calls responses},
              LocalCalls countingServer (count + 1) calls responses last →
              LocalCalls countingServer count
                ((.kmip12, createAndActivate) :: calls)
                (createdAndNotFound :: responses) last :=
            LocalCalls.call wellFormed_createAndActivate written rfl
              wellFormed_createdAndNotFound answerWritten
          exact remote_calls_are_local_calls (once (once .done)) 0 0

end Calls

end PyKMIP.Wire
