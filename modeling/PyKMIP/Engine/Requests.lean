import PyKMIP.Engine.AttributeOperations
import PyKMIP.Engine.Creation
import PyKMIP.Engine.CryptographicOperations
import PyKMIP.Engine.Discovery
import PyKMIP.Engine.LifeCycle
import PyKMIP.Engine.Retrieval

/-!
# Requests

`processRequest` checks the header of a message and processes its batch items
one after the other in one session.  Every item commits on its own.
-/

namespace PyKMIP

open StatefulExcept

def processOperation (world : World) : RequestPayload → EngineM ResponsePayload
  | .create payload => processCreate world payload
  | .createKeyPair payload => processCreateKeyPair world payload
  | .deleteAttribute payload => processDeleteAttribute world payload
  | .register payload => processRegister world payload
  | .deriveKey payload => processDeriveKey world payload
  | .locate payload => processLocate world payload
  | .get payload => processGet world payload
  | .getAttributes payload => processGetAttributes world payload
  | .getAttributeList payload => processGetAttributeList world payload
  | .activate payload => processActivate world payload
  | .revoke payload => processRevoke world payload
  | .destroy payload => processDestroy world payload
  | .query payload => processQuery payload
  | .discoverVersions payload => processDiscoverVersions payload
  | .encrypt payload => processEncrypt world payload
  | .decrypt payload => processDecrypt world payload
  | .signatureVerify payload => processSignatureVerify world payload
  | .setAttribute payload => processSetAttribute world payload
  | .modifyAttribute payload => processModifyAttribute world payload
  | .mac payload => processMac world payload
  | .sign payload => processSign world payload
  | .unsupported operation _ =>
      throw (operationNotSupported
        (title operation.name ++ " operation is not supported by the server."))

section Batches

/-- Status, reason and message under which a raised exception is reported. -/
def reportedError : PyError → ResultStatus × ResultReason × String
  | .kmip status reason message => (status, reason, message)
  | .python _ =>
      (.operationFailed, .generalFailure,
        "Operation failed. See the server logs for more information.")

/-- The response item for the outcome of a request item. -/
def composeItem (item : RequestBatchItem)
    (outcome : Except PyError ResponsePayload) : ResponseBatchItem :=
  match outcome with
  | .ok payload => {
      operation := some item.requestPayload.operation
      uniqueBatchItemId := item.uniqueBatchItemId
      resultStatus := .success
      responsePayload := some payload }
  | .error exception =>
      let (status, reason, message) := reportedError exception
      { operation := some item.requestPayload.operation
        uniqueBatchItemId := item.uniqueBatchItemId
        resultStatus := status
        resultReason := some reason
        resultMessage := some message }

def batchItemIdUndefined : PyError := invalidMessage "Batch item ID is undefined."

/-- The loop of `_process_batch` from the item at an index on.  `several` says
whether the batch has more than one item. -/
def processItems (worlds : Nat → World) (several : Bool)
    (handling : BatchErrorContinuationOption) :
    Nat → List RequestBatchItem → EngineM (List ResponseBatchItem)
  | _, [] => return []
  | index, item :: rest => do
      raiseIf (several = true ∧ item.uniqueBatchItemId = none)
        batchItemIdUndefined
      let outcome ← attempt (processOperation (worlds index) item.requestPayload)
      let response := composeItem item outcome
      if outcome.isOk = false ∧ handling = .stop then return [response]
      else
        let others ← processItems worlds several handling (index + 1) rest
        return response :: others

def EngineState.mapDataStore (change : DataStore → DataStore)
    (state : EngineState) : EngineState :=
  { state with dataStore := change state.dataStore }

def processBatch (worlds : Nat → World) (items : List RequestBatchItem)
    (handling : BatchErrorContinuationOption) :
    EngineM (List ResponseBatchItem) :=
  bracket (EngineState.mapDataStore DataStore.openSession)
    (EngineState.mapDataStore DataStore.closeSession)
    (processItems worlds (1 < items.length) handling 0 items)

end Batches

/-- The environment of one request: the clock when its header is checked, what
each of its items sees, and the clock when the response is built. -/
structure RequestWorld where
  received : Int
  items : Nat → World
  answered : Int

def setProtocolVersion (version : ProtocolVersion) : EngineM Unit :=
  if version ∈ protocolVersions then
    modify fun state => { state with protocolVersion := version }
  else
    throw (invalidMessage
      ("KMIP " ++ version.text ++ " is not supported by the server."))

/-- A time stamp may be at most a minute old. -/
def checkTimeStamp (now : Int) : Option Int → Except PyError Unit
  | none => .ok ()
  | some requested =>
      if now < requested then
        .error (invalidMessage "Future request rejected by server.")
      else if now - requested < 60 then .ok ()
      else .error (invalidMessage "Stale request rejected by server.")

def setClientIdentity (clientIdentity : ClientIdentity) : EngineM Unit :=
  modify fun state => { state with clientIdentity := clientIdentity }

def buildResponse (version : ProtocolVersion) (now : Int)
    (items : List ResponseBatchItem) : ResponseMessage where
  responseHeader := {
    protocolVersion := version
    timeStamp := now
    batchCount := items.length }
  batchItems := items

/-- The checks of the header, up to the batch error option. -/
def processHeader (received : Int) (header : RequestHeader)
    (credential : ClientIdentity) : EngineM BatchErrorContinuationOption := do
  setClientIdentity {}
  setProtocolVersion header.protocolVersion
  fromExcept (checkTimeStamp received header.timeStamp)
  raiseIf (header.asynchronousIndicator = some true)
    (invalidMessage "Asynchronous operations are not supported.")
  setClientIdentity credential
  let handling := header.batchErrorContOption.getD .stop
  raiseIf (handling = .undo)
    (invalidMessage "Undo option for batch handling is not supported.")
  return handling

def processRequest (world : RequestWorld) (request : RequestMessage)
    (credential : ClientIdentity) :
    EngineM (ResponseMessage × Option Int × ProtocolVersion) := do
  let header := request.requestHeader
  let handling ← processHeader world.received header credential
  let items ← processBatch world.items request.batchItems handling
  return (buildResponse header.protocolVersion world.answered items,
    header.maximumResponseSize, header.protocolVersion)

end PyKMIP
