import PyKMIP.Engine.Requests
import PyKMIP.Session.Authentication
import PyKMIP.Wire.Tags

/-!
# The message loop of a session

The session verifies the certificate of the connection, parses the request,
authenticates the client and has the engine process the request.  What fails
on the way is reported in a response with a single item.
-/

namespace PyKMIP

open StatefulExcept

def protocolVersionToKmipVersion (value : ProtocolVersion) :
    Option KmipVersion :=
  match value.major, value.minor with
  | 1, 0 => some .kmip10
  | 1, 1 => some .kmip11
  | 1, 2 => some .kmip12
  | 1, 3 => some .kmip13
  | 1, 4 => some .kmip14
  | 2, 0 => some .kmip20
  | _, _ => none

def defaultProtocolVersion : ProtocolVersion := ⟨1, 2⟩

/-- What the session needs of the engine: to process a request for a client. -/
structure RequestEngine (σ : Type) where
  processRequest : RequestMessage → SessionIdentity →
    EStateM PyError σ (ResponseMessage × Option Int × ProtocolVersion)

/-- The clock when a response is built, and the encoder of responses. -/
structure ResponseWorld where
  answered : Int
  write : Option KmipVersion → ResponseMessage → Except PyError Bytes

/-- What arrives on a connection. -/
structure Arrival where
  /-- The certificate of the peer, if it sent one that can be loaded. -/
  certificate : Except PyError (Option Certificate)
  /-- The request; when it cannot be parsed, the version of a header that had
  been read before. -/
  request : Except (PyError × Option ProtocolVersion) RequestMessage

structure KmipSession where
  enableTlsClientAuth : Bool := true
  authSettings : List AuthSettings := []

namespace KmipSession

def maxResponseSize : Nat := 1048576

def clientAuth : String := "1.3.6.1.5.5.7.3.2"

variable (session : KmipSession)

def checkCertificate (certificate : Option Certificate) :
    Except PyError Certificate :=
  match certificate with
  | none =>
      .error (permissionDenied
        ("The client certificate could not be loaded from the " ++
          "session connection."))
  | some certificate =>
      if session.enableTlsClientAuth then
        match certificate.extendedKeyUsage with
        | none =>
            .error (permissionDenied
              ("The extended key usage extension is missing from " ++
                "the client certificate."))
        | some extension =>
            if clientAuth ∈ extension then .ok certificate
            else
              .error (permissionDenied
                ("The extended key usage extension is not marked for " ++
                  "client authentication in the client certificate."))
      else .ok certificate

/-- The version, the reason and the message of an error response. -/
structure Refusal where
  version : ProtocolVersion
  reason : ResultReason
  message : String
deriving DecidableEq

def unverified : Refusal where
  version := ⟨1, 0⟩
  reason := .authenticationNotSuccessful
  message := "Error verifying the client certificate. " ++
    "See server logs for more information."

def unparsed : Refusal where
  version := ⟨1, 0⟩
  reason := .invalidMessage
  message := "Error parsing request message. See server logs for more " ++
    "information."

def unauthenticated (request : RequestMessage) : Refusal where
  version := request.requestHeader.protocolVersion
  reason := .authenticationNotSuccessful
  message := "An error occurred during client authentication. " ++
    "See server logs for more information."

/-- Verify the certificate and parse the request. -/
def receive (arrival : Arrival) :
    Except Refusal (Certificate × RequestMessage) :=
  match arrival.certificate >>= session.checkCertificate with
  | .ok certificate =>
      match arrival.request with
      | .ok request => .ok (certificate, request)
      | .error (.kmip _ .permissionDenied _, _) => .error unverified
      | .error _ => .error unparsed
  | .error (.kmip _ .permissionDenied _) => .error unverified
  | .error _ => .error unparsed

/-- The request that reaches the engine, and for whom. -/
def admission (arrival : Arrival) :
    Except Refusal (RequestMessage × SessionIdentity) := do
  let (certificate, request) ← session.receive arrival
  match authenticate session.authSettings certificate with
  | .ok clientIdentity => return (request, clientIdentity)
  | .error _ => throw (unauthenticated request)

/-- The version of the header of the request, if one has been read. -/
def headerVersion (arrival : Arrival) : Option ProtocolVersion :=
  match arrival.certificate >>= session.checkCertificate, arrival.request with
  | .ok _, .ok request => some request.requestHeader.protocolVersion
  | .ok _, .error (_, version) => version
  | .error _, _ => none

def buildErrorResponse (answered : Int) (refusal : Refusal) : ResponseMessage :=
  buildResponse refusal.version answered
    [{ resultStatus := .operationFailed
       resultReason := some refusal.reason
       resultMessage := some refusal.message }]

/-- The refusal that reports what `process_request` raised. -/
def unprocessed (request : RequestMessage) : PyError → Refusal
  | .kmip _ reason message =>
      { version := request.requestHeader.protocolVersion, reason, message }
  | .python _ =>
      { version := request.requestHeader.protocolVersion
        reason := .generalFailure
        message := "An unexpected error occurred while processing " ++
          "request. See server logs for more information." }

/-- The response, the version to encode it for, and the size it may have. -/
structure Reply where
  response : ResponseMessage
  kmipVersion : Option KmipVersion :=
    protocolVersionToKmipVersion defaultProtocolVersion
  maxSize : Int := maxResponseSize

variable {σ : Type} (engine : RequestEngine σ) (world : ResponseWorld)

/-- Process the request that has been admitted. -/
def process (request : RequestMessage) (clientIdentity : SessionIdentity) :
    EStateM PyError σ Reply := do
  let results ← attempt (engine.processRequest request clientIdentity)
  match results with
  | .ok (response, maxResponseSize, protocolVersion) =>
      let kmipVersion := protocolVersionToKmipVersion protocolVersion
      match maxResponseSize with
      | some size =>
          if size ≠ 0 then return { response, kmipVersion, maxSize := size }
          else return { response, kmipVersion }
      | none => return { response, kmipVersion }
  | .error exception =>
      return { response :=
        buildErrorResponse world.answered (unprocessed request exception) }

/-- Encode the reply, or the report that it is too large. -/
def encodeReply (version : Option ProtocolVersion) (reply : Reply) :
    Except PyError Bytes := do
  let responseData ← world.write reply.kmipVersion reply.response
  if reply.maxSize < responseData.length then
    match version with
    | none => throw (.python .attributeError)
    | some version =>
        world.write reply.kmipVersion
          (buildErrorResponse world.answered
            { version
              reason := .responseTooLarge
              message := "Response message length too large. See server " ++
                "logs for more information." })
  else return responseData

/-- One turn of the loop after its request has been received; the bytes that it
sends. -/
def handleMessage (arrival : Arrival) : EStateM PyError σ Bytes := do
  let reply ←
    match session.admission arrival with
    | .ok (request, clientIdentity) =>
        process engine world request clientIdentity
    | .error refusal =>
        pure { response := buildErrorResponse world.answered refusal }
  fromExcept (encodeReply world (session.headerVersion arrival) reply)

end KmipSession

end PyKMIP
