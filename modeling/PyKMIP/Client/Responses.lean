import PyKMIP.Exceptions
import PyKMIP.Objects
import PyKMIP.Wire.Attributes

/-!
# Responses as a client receives them

A batch item of a response may lack everything but its status.  Its payload is
an object of the class that belongs to its operation, and the attributes that a
client reads from it are the attributes of that class.
-/

namespace PyKMIP

/-- The response payloads that a client can decode, with the fields that the
client reads.  A field is optional where the decoder does not insist on it. -/
inductive ReceivedPayload where
  | create (objectType : ObjectType) (uniqueIdentifier : String)
      (templateAttribute : Option (List Wire.Attribute))
  | createKeyPair (privateKeyUniqueIdentifier : String)
      (publicKeyUniqueIdentifier : String)
      (privateKeyTemplateAttribute : Option (List Wire.Attribute))
      (publicKeyTemplateAttribute : Option (List Wire.Attribute))
  | register (uniqueIdentifier : String)
      (templateAttribute : Option (List Wire.Attribute))
  | deriveKey (uniqueIdentifier : String)
      (templateAttribute : Option (List Wire.Attribute))
  | rekey (uniqueIdentifier : String)
      (templateAttribute : Option (List Wire.Attribute))
  | rekeyKeyPair (privateKeyUniqueIdentifier : String)
      (publicKeyUniqueIdentifier : String)
      (privateKeyTemplateAttribute : Option (List Wire.Attribute))
      (publicKeyTemplateAttribute : Option (List Wire.Attribute))
  | locate (uniqueIdentifiers : List String)
  | check (uniqueIdentifier : Option String) (usageLimitsCount : Option Int)
      (cryptographicUsageMask : Option Int) (leaseTime : Option Nat)
  | get (objectType : ObjectType) (uniqueIdentifier : String)
      (secret : CoreSecret)
  | getAttributeList (uniqueIdentifier : String) (attributeNames : List String)
  | getAttributes (uniqueIdentifier : String)
      (attributes : List Wire.Attribute)
  | deleteAttribute (uniqueIdentifier : String)
      (deleted : Option Wire.Attribute)
  | setAttribute (uniqueIdentifier : String)
  | modifyAttribute (uniqueIdentifier : String)
      (modified : Option Wire.Attribute)
  | destroy (uniqueIdentifier : String)
  | query
  | discoverVersions (protocolVersions : List ProtocolVersion)
  | activate (uniqueIdentifier : String)
  | revoke (uniqueIdentifier : String)
  | mac (uniqueIdentifier : String) (macData : Bytes)
  | encrypt (uniqueIdentifier : String) (data : Bytes)
      (ivCounterNonce : Option Bytes)
  | decrypt (uniqueIdentifier : String) (data : Bytes)
  | sign (uniqueIdentifier : String) (signatureData : Bytes)
  | signatureVerify (uniqueIdentifier : String)
      (validityIndicator : ValidityIndicator) (data : Option Bytes)
deriving DecidableEq

namespace ReceivedPayload

/-- The operation to which the class of a payload belongs. -/
def operation : ReceivedPayload → Operation
  | .create .. => .create
  | .createKeyPair .. => .createKeyPair
  | .register .. => .register
  | .deriveKey .. => .deriveKey
  | .rekey .. => .rekey
  | .rekeyKeyPair .. => .rekeyKeyPair
  | .locate .. => .locate
  | .check .. => .check
  | .get .. => .get
  | .getAttributeList .. => .getAttributeList
  | .getAttributes .. => .getAttributes
  | .deleteAttribute .. => .deleteAttribute
  | .setAttribute .. => .setAttribute
  | .modifyAttribute .. => .modifyAttribute
  | .destroy .. => .destroy
  | .query => .query
  | .discoverVersions .. => .discoverVersions
  | .activate .. => .activate
  | .revoke .. => .revoke
  | .mac .. => .mac
  | .encrypt .. => .encrypt
  | .decrypt .. => .decrypt
  | .sign .. => .sign
  | .signatureVerify .. => .signatureVerify

/-!
An attribute of a payload is missing when its class has no such attribute, and
`None` when the message left it out.
-/

def uniqueIdentifier? : ReceivedPayload → Option (Option String)
  | .check uniqueIdentifier _ _ _ => some uniqueIdentifier
  | .create _ uniqueIdentifier _ | .get _ uniqueIdentifier _
  | .register uniqueIdentifier _ | .deriveKey uniqueIdentifier _
  | .rekey uniqueIdentifier _ | .getAttributeList uniqueIdentifier _
  | .getAttributes uniqueIdentifier _ | .deleteAttribute uniqueIdentifier _
  | .setAttribute uniqueIdentifier | .modifyAttribute uniqueIdentifier _
  | .destroy uniqueIdentifier | .activate uniqueIdentifier
  | .revoke uniqueIdentifier | .mac uniqueIdentifier _
  | .encrypt uniqueIdentifier _ _ | .decrypt uniqueIdentifier _
  | .sign uniqueIdentifier _ | .signatureVerify uniqueIdentifier _ _ =>
      some (some uniqueIdentifier)
  | .createKeyPair .. | .rekeyKeyPair .. | .locate _ | .query
  | .discoverVersions _ => none

def templateAttribute? : ReceivedPayload → Option (Option (List Wire.Attribute))
  | .create _ _ templateAttribute | .register _ templateAttribute
  | .deriveKey _ templateAttribute | .rekey _ templateAttribute =>
      some templateAttribute
  | _ => none

def objectType? : ReceivedPayload → Option ObjectType
  | .create objectType _ _ | .get objectType _ _ => some objectType
  | _ => none

def secret? : ReceivedPayload → Option CoreSecret
  | .get _ _ secret => some secret
  | _ => none

def uniqueIdentifiers? : ReceivedPayload → Option (List String)
  | .locate uniqueIdentifiers => some uniqueIdentifiers
  | _ => none

def usageLimitsCount? : ReceivedPayload → Option (Option Int)
  | .check _ usageLimitsCount _ _ => some usageLimitsCount
  | _ => none

def cryptographicUsageMask? : ReceivedPayload → Option (Option Int)
  | .check _ _ cryptographicUsageMask _ => some cryptographicUsageMask
  | _ => none

def leaseTime? : ReceivedPayload → Option (Option Nat)
  | .check _ _ _ leaseTime => some leaseTime
  | _ => none

def privateKeyUniqueIdentifier? : ReceivedPayload → Option String
  | .createKeyPair privateKeyUniqueIdentifier _ _ _
  | .rekeyKeyPair privateKeyUniqueIdentifier _ _ _ =>
      some privateKeyUniqueIdentifier
  | _ => none

def publicKeyUniqueIdentifier? : ReceivedPayload → Option String
  | .createKeyPair _ publicKeyUniqueIdentifier _ _
  | .rekeyKeyPair _ publicKeyUniqueIdentifier _ _ =>
      some publicKeyUniqueIdentifier
  | _ => none

def privateKeyTemplateAttribute? :
    ReceivedPayload → Option (Option (List Wire.Attribute))
  | .createKeyPair _ _ privateKeyTemplateAttribute _
  | .rekeyKeyPair _ _ privateKeyTemplateAttribute _ =>
      some privateKeyTemplateAttribute
  | _ => none

def publicKeyTemplateAttribute? :
    ReceivedPayload → Option (Option (List Wire.Attribute))
  | .createKeyPair _ _ _ publicKeyTemplateAttribute
  | .rekeyKeyPair _ _ _ publicKeyTemplateAttribute =>
      some publicKeyTemplateAttribute
  | _ => none

def attributes? : ReceivedPayload → Option (List Wire.Attribute)
  | .getAttributes _ attributes => some attributes
  | _ => none

def attributeNames? : ReceivedPayload → Option (List String)
  | .getAttributeList _ attributeNames => some attributeNames
  | _ => none

def protocolVersions? : ReceivedPayload → Option (List ProtocolVersion)
  | .discoverVersions protocolVersions => some protocolVersions
  | _ => none

/-- `payload.attribute`. -/
def changedAttribute? : ReceivedPayload → Option (Option Wire.Attribute)
  | .deleteAttribute _ changed | .modifyAttribute _ changed => some changed
  | _ => none

def data? : ReceivedPayload → Option (Option Bytes)
  | .encrypt _ data _ | .decrypt _ data => some (some data)
  | .signatureVerify _ _ data => some data
  | _ => none

def ivCounterNonce? : ReceivedPayload → Option (Option Bytes)
  | .encrypt _ _ ivCounterNonce => some ivCounterNonce
  | _ => none

def validityIndicator? : ReceivedPayload → Option ValidityIndicator
  | .signatureVerify _ validityIndicator _ => some validityIndicator
  | _ => none

def signatureData? : ReceivedPayload → Option Bytes
  | .sign _ signatureData => some signatureData
  | _ => none

def macData? : ReceivedPayload → Option Bytes
  | .mac _ macData => some macData
  | _ => none

end ReceivedPayload

/-- `ResponsePayloadFactory.create`, which has a class for some operations. -/
def createResponsePayload : Operation → Except PyError Unit
  | .create | .createKeyPair | .register | .deriveKey | .rekey | .rekeyKeyPair
  | .locate | .check | .get | .getAttributeList | .getAttributes
  | .deleteAttribute | .setAttribute | .modifyAttribute | .destroy | .query
  | .discoverVersions | .activate | .revoke | .mac | .encrypt | .decrypt | .sign
  | .signatureVerify => .ok ()
  | .certify | .recertify | .addAttribute | .obtainLease | .getUsageAllocation
  | .archive | .recover | .validate | .cancel | .poll | .notify | .put
  | .macVerify | .rngRetrieve | .rngSeed | .hash | .createSplitKey
  | .joinSplitKey => .error (.python .notImplementedError)
  | _ => .error (.python .valueError)

theorem createResponsePayload_operation (payload : ReceivedPayload) :
    createResponsePayload payload.operation = .ok () := by
  cases payload <;> rfl

/-- A batch item of a response.  The operation chooses the payload's class. -/
structure ReceivedItem where
  operation : Option Operation
  resultStatus : ResultStatus
  resultReason : Option ResultReason
  resultMessage : Option String
  responsePayload : Option ReceivedPayload
  operation_of_payload : ∀ payload ∈ responsePayload,
    operation = some payload.operation

/-- What the server says about the request. -/
def ReceivedItem.verdict (item : ReceivedItem) :
    ResultStatus × Option ResultReason × Option String :=
  (item.resultStatus, item.resultReason, item.resultMessage)

/-- `ResponseBatchItem.read`: the class of the payload is looked up even when
the item has no payload. -/
def ReceivedItem.read (item : ReceivedItem) : Except PyError Unit :=
  match item.operation with
  | some operation => createResponsePayload operation
  | none => .ok ()

/-- The exceptions that a method of the client can raise. -/
inductive ClientError where
  | kmipOperationFailure (status : ResultStatus) (reason : ResultReason)
      (message : Option String)
  | operationFailure (status : ResultStatus) (reason : ResultReason)
      (message : String)
  | raised (error : PyError)
deriving DecidableEq

/-- The verdict that an operation failure carries. -/
def ClientError.verdict? : ClientError →
    Option (ResultStatus × Option ResultReason × Option String)
  | .kmipOperationFailure status reason message =>
      some (status, some reason, message)
  | .operationFailure status reason message =>
      some (status, some reason, some message)
  | .raised _ => none

/-- `KmipOperationFailure(status, reason, message)`: its text names the reason,
so that building it without one raises another error. -/
def kmipOperationFailure (status : ResultStatus) (reason : Option ResultReason)
    (message : Option String) : ClientError :=
  match reason with
  | some reason => .kmipOperationFailure status reason message
  | none => .raised (.python .attributeError)

end PyKMIP
