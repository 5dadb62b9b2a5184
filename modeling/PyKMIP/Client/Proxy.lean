import PyKMIP.Client.Responses

/-!
# The proxy of a server

A method of the proxy makes a result of the first batch item of a response.
It copies the status, the reason and the message of the item, present or not,
and reads the attributes that it needs from the payload.
-/

namespace PyKMIP

/-- The result of an operation, as an object or as a dictionary. -/
structure OperationResult (β : Type) where
  resultStatus : ResultStatus
  resultReason : Option ResultReason
  resultMessage : Option String
  values : β

/-- The result that holds what the batch item says. -/
def ReceivedItem.result (item : ReceivedItem) (values : β) :
    OperationResult β where
  resultStatus := item.resultStatus
  resultReason := item.resultReason
  resultMessage := item.resultMessage
  values := values

/-- `response.batch_items[0]`. -/
def firstOf : List α → Except PyError α
  | first :: _ => .ok first
  | [] => .error (.python .indexError)

/-- Read a payload if there is one. -/
def ReceivedItem.readPayload (item : ReceivedItem)
    (read : ReceivedPayload → Except PyError β) : Except PyError (Option β) :=
  match item.responsePayload with
  | some payload => some <$> read payload
  | none => .ok none

structure CreatedFields where
  objectType : ObjectType
  uniqueIdentifier : Option String
  templateAttribute : Option (List Wire.Attribute)
deriving DecidableEq

structure IdentifiedFields where
  uniqueIdentifier : Option String
  templateAttribute : Option (List Wire.Attribute)
deriving DecidableEq

structure CheckedFields where
  uniqueIdentifier : Option String
  usageLimitsCount : Option Int
  cryptographicUsageMask : Option (List CryptographicUsageMask)
  leaseTime : Option Nat
deriving DecidableEq

structure RetrievedFields where
  uniqueIdentifier : Option String
  objectType : ObjectType
  secret : CoreSecret
deriving DecidableEq

structure EncryptedFields where
  uniqueIdentifier : Option String
  data : Option Bytes
  ivCounterNonce : Option Bytes
deriving DecidableEq

/-- What the processors of batch items make of a payload. -/
inductive ProcessedFields where
  | keyPair (privateKeyUuid publicKeyUuid : Option String)
      (privateKeyTemplateAttribute publicKeyTemplateAttribute :
        Option (List Wire.Attribute))
  | attributes (uuid : Option String) (attributes : Option (List Wire.Attribute))
  | attributeList (uid : Option String) (names : Option (List String))
  | query
  | protocolVersions (versions : List ProtocolVersion)
  | error
deriving DecidableEq

namespace KMIPProxy

section Reading

variable (payload : ReceivedPayload)

def readCreated : Except PyError CreatedFields := do
  let uniqueIdentifier ← getattr payload.uniqueIdentifier?
  let templateAttribute ← getattr payload.templateAttribute?
  let objectType ← getattr payload.objectType?
  return { objectType, uniqueIdentifier, templateAttribute }

def readIdentified : Except PyError IdentifiedFields := do
  let uniqueIdentifier ← getattr payload.uniqueIdentifier?
  let templateAttribute ← getattr payload.templateAttribute?
  return { uniqueIdentifier, templateAttribute }

def readRetrieved : Except PyError RetrievedFields := do
  let uniqueIdentifier ← getattr payload.uniqueIdentifier?
  let objectType ← getattr payload.objectType?
  let secret ← getattr payload.secret?
  return { uniqueIdentifier, objectType, secret }

def readEncrypted : Except PyError EncryptedFields := do
  let uniqueIdentifier ← getattr payload.uniqueIdentifier?
  let data ← getattr payload.data?
  let ivCounterNonce ← getattr payload.ivCounterNonce?
  return { uniqueIdentifier, data, ivCounterNonce }

/-- A unique identifier and one more field. -/
def readWith (field : Option β) : Except PyError (Option String × β) := do
  let uniqueIdentifier ← getattr payload.uniqueIdentifier?
  let value ← getattr field
  return (uniqueIdentifier, value)

/-- The members of the mask whose bits are set in the integer. -/
def usageMasks (mask : Int) : List CryptographicUsageMask :=
  CryptographicUsageMask.all.filter fun enumeration =>
    mask / (enumeration.value : Int) % 2 = 1

end Reading

section Methods

/-- The common form of the methods: a result of the first item, with the fields
of its payload if it has one. -/
def answer (read : ReceivedPayload → Except PyError β)
    (items : List ReceivedItem) : Except PyError (OperationResult (Option β)) := do
  let item ← firstOf items
  let fields ← item.readPayload read
  return item.result fields

def create := answer readCreated

def register := answer readIdentified

def rekey := answer readIdentified

def deriveKey := answer readIdentified

def get := answer readRetrieved

def activate := answer fun payload => getattr payload.uniqueIdentifier?

def revoke := answer fun payload => getattr payload.uniqueIdentifier?

def destroy := answer fun payload => getattr payload.uniqueIdentifier?

def locate := answer fun payload => getattr payload.uniqueIdentifiers?

def mac := answer fun payload => readWith payload payload.macData?

def encrypt := answer readEncrypted

def decrypt := answer fun payload => readWith payload payload.data?

def signatureVerify :=
  answer fun payload => readWith payload payload.validityIndicator?

def sign := answer fun payload => readWith payload payload.signatureData?

/-- Only the unique identifier is read under `if payload:`; the other fields are
read from a payload that is not there. -/
def check (items : List ReceivedItem) :
    Except PyError (OperationResult CheckedFields) := do
  let item ← firstOf items
  let uniqueIdentifier ← item.readPayload fun payload =>
    getattr payload.uniqueIdentifier?
  let payload ← getattr item.responsePayload
  let usageLimitsCount ← getattr payload.usageLimitsCount?
  let cryptographicUsageMask ← getattr payload.cryptographicUsageMask?
  let leaseTime ← getattr payload.leaseTime?
  return item.result {
    uniqueIdentifier := uniqueIdentifier.join
    usageLimitsCount
    cryptographicUsageMask := cryptographicUsageMask.map usageMasks
    leaseTime }

end Methods

section Processors

def readKeyPair (payload : ReceivedPayload) : Except PyError ProcessedFields := do
  let privateKeyUuid ← getattr payload.privateKeyUniqueIdentifier?
  let publicKeyUuid ← getattr payload.publicKeyUniqueIdentifier?
  let privateKeyTemplate ← getattr payload.privateKeyTemplateAttribute?
  let publicKeyTemplate ← getattr payload.publicKeyTemplateAttribute?
  return .keyPair (some privateKeyUuid) (some publicKeyUuid)
    privateKeyTemplate publicKeyTemplate

/-- The processors that do without a payload: `absent` is what they then give. -/
def processOptional (absent : ProcessedFields)
    (read : ReceivedPayload → Except PyError ProcessedFields)
    (item : ReceivedItem) : Except PyError (OperationResult ProcessedFields) := do
  let fields ← item.readPayload read
  return item.result (fields.getD absent)

def processKeyPairBatchItem :=
  processOptional (.keyPair none none none none) readKeyPair

def processGetAttributesBatchItem :=
  processOptional (.attributes none none) fun payload => do
    let (uuid, attributes) ← readWith payload payload.attributes?
    return .attributes uuid (some attributes)

def processGetAttributeListBatchItem :=
  processOptional (.attributeList none none) fun payload => do
    let (uid, names) ← readWith payload payload.attributeNames?
    return .attributeList uid (some names)

/-- The payload is read whether it is there or not. -/
def processDiscoverVersionsBatchItem (item : ReceivedItem) :
    Except PyError (OperationResult ProcessedFields) := do
  let payload ← getattr item.responsePayload
  let versions ← getattr payload.protocolVersions?
  return item.result (.protocolVersions versions)

/-- The processor is the one that belongs to the operation of the response. -/
def processBatchItem (item : ReceivedItem) :
    Except PyError (OperationResult ProcessedFields) :=
  match item.operation with
  | none => .ok (item.result .error)
  | some .createKeyPair | some .rekeyKeyPair => processKeyPairBatchItem item
  | some .getAttributes => processGetAttributesBatchItem item
  | some .getAttributeList => processGetAttributeListBatchItem item
  | some .query => .ok (item.result .query)
  | some .discoverVersions => processDiscoverVersionsBatchItem item
  | some _ => .error (.python .valueError)

/-- `_process_batch_items`, and the first of its results. -/
def processBatchItems (items : List ReceivedItem) :
    Except PyError (OperationResult ProcessedFields) := do
  let results ← items.mapM processBatchItem
  firstOf results

def createKeyPair := processBatchItems

def getAttributes := processBatchItems

def getAttributeList := processBatchItems

end Processors

section RequestPayloads

variable (operation : Operation) (operationName : String)

/-- The end of `send_request_payload`, for an item that reports a success. -/
def matchingPayload (item : ReceivedItem) : Except PyError ReceivedPayload := do
  let answered ← getattr item.operation
  if answered = operation then
    match item.responsePayload.filter (·.operation = operation) with
    | some payload => return payload
    | none =>
        throw (invalidMessage
          ("Invalid response payload received for the " ++ operationName ++
            " operation."))
  else
    throw (invalidMessage
      "The response message does not match the request operation.")

/-- `OperationFailure`, of the values of the reason and of the message. -/
def operationFailure (item : ReceivedItem) : ClientError :=
  match item.resultReason, item.resultMessage with
  | some reason, some message =>
      .operationFailure item.resultStatus reason message
  | _, _ => .raised (.python .attributeError)

/-- `send_request_payload`, which raises the operation failure itself. -/
def sendRequestPayload (items : List ReceivedItem) :
    Except ClientError ReceivedPayload :=
  match items with
  | [item] =>
      if item.resultStatus ≠ .success then .error (operationFailure item)
      else (matchingPayload operation operationName item).mapError .raised
  | _ =>
      .error (.raised (invalidMessage
        ("The response message does not have the right number of " ++
          "requested operation results.")))

end RequestPayloads

end KMIPProxy

end PyKMIP
