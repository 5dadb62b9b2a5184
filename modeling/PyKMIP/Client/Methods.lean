import PyKMIP.Client.Proxy
import Mathlib.Data.List.Sort

/-!
# The methods of the client

A method sends its request, lets the proxy unpack the response, and returns
values or raises an operation failure.
-/

namespace PyKMIP

/-- What the methods return. -/
inductive ClientValue where
  | nothing
  | identifier (uid : Option String)
  | keyPair (publicUid privateUid : Option String)
  | identifiers (uids : Option (List String))
  | managedObject (managedObject : ManagedObject)
  | attributes (uid : Option String) (attributes : Option (List Wire.Attribute))
  | names (names : List String)
  | changed (uid : Option String) (changed : Option Wire.Attribute)
  | data (data : Option Bytes)
  | encrypted (data : Option Bytes) (ivCounterNonce : Option Bytes)
  | validity (validityIndicator : Option ValidityIndicator)
  | mac (uid : String) (macData : Bytes)
deriving DecidableEq

namespace ProxyKmipClient

section Reporting

/-- How a method reports a result object. -/
def reportResult (values : β → Except PyError ClientValue)
    (result : OperationResult β) : Except ClientError ClientValue :=
  if result.resultStatus = .success then
    (values result.values).mapError .raised
  else
    match result.resultReason, result.resultMessage with
    | some reason, some message =>
        .error (kmipOperationFailure result.resultStatus (some reason)
          (some message))
    | _, _ => .error (.raised (.python .attributeError))

/-- How a method reports a result dictionary. -/
def reportDictionary (values : β → ClientValue) (result : OperationResult β) :
    Except ClientError ClientValue :=
  if result.resultStatus = .success then .ok (values result.values)
  else
    .error (kmipOperationFailure result.resultStatus result.resultReason
      result.resultMessage)

/-- A method over the method of the proxy. -/
def unpack
    (proxy : List ReceivedItem → Except PyError (OperationResult β))
    (report : OperationResult β → Except ClientError ClientValue)
    (items : List ReceivedItem) : Except ClientError ClientValue := do
  let result ← (proxy items).mapError .raised
  report result

end Reporting

def create := unpack KMIPProxy.create <| reportResult fun fields =>
  .ok (.identifier (fields.bind (·.uniqueIdentifier)))

def createKeyPair := unpack KMIPProxy.createKeyPair <| reportResult fun fields =>
  match fields with
  | .keyPair privateKeyUuid publicKeyUuid _ _ =>
      .ok (.keyPair publicKeyUuid privateKeyUuid)
  | _ => .error (.python .attributeError)

def register := unpack KMIPProxy.register <| reportResult fun fields =>
  .ok (.identifier (fields.bind (·.uniqueIdentifier)))

def rekey := unpack KMIPProxy.rekey <| reportDictionary fun fields =>
  .identifier (fields.bind (·.uniqueIdentifier))

def deriveKey := unpack KMIPProxy.deriveKey <| reportDictionary fun fields =>
  .identifier (fields.bind (·.uniqueIdentifier))

def locate := unpack KMIPProxy.locate <| reportResult fun uuids =>
  .ok (.identifiers uuids)

def check := unpack KMIPProxy.check <| reportDictionary fun fields =>
  .identifier fields.uniqueIdentifier

def get := unpack KMIPProxy.get <| reportResult fun fields =>
  match fields with
  | some fields => .managedObject <$> convert fields.secret
  | none => .error (.python .typeError)

def getAttributes := unpack KMIPProxy.getAttributes <| reportResult fun fields =>
  match fields with
  | .attributes uuid attributes => .ok (.attributes uuid attributes)
  | _ => .error (.python .attributeError)

def getAttributeList :=
  unpack KMIPProxy.getAttributeList <| reportResult fun fields =>
    match fields with
    | .attributeList _ (some names) =>
        .ok (.names (names.insertionSort (· ≤ ·)))
    | .attributeList _ none => .error (.python .typeError)
    | _ => .error (.python .attributeError)

def activate := unpack KMIPProxy.activate <| reportResult fun _ => .ok .nothing

def revoke := unpack KMIPProxy.revoke <| reportResult fun _ => .ok .nothing

def destroy := unpack KMIPProxy.destroy <| reportResult fun _ => .ok .nothing

def encrypt := unpack KMIPProxy.encrypt <| reportDictionary fun fields =>
  .encrypted (fields.bind (·.data)) (fields.bind (·.ivCounterNonce))

def decrypt := unpack KMIPProxy.decrypt <| reportDictionary fun fields =>
  .data (fields.bind (·.2))

def signatureVerify :=
  unpack KMIPProxy.signatureVerify <| reportDictionary fun fields =>
    .validity (fields.map (·.2))

def sign := unpack KMIPProxy.sign <| reportDictionary fun fields =>
  .data (fields.map (·.2))

def mac := unpack KMIPProxy.mac <| reportResult fun fields => do
  let (uuid, macData) ← getattr fields
  let uid ← getattr uuid
  return .mac uid macData

section RequestPayloads

/-- The attributes that a method reads from a payload it was sent. -/
def readChanged (payload : ReceivedPayload) : Except PyError ClientValue := do
  let (uid, changed) ← KMIPProxy.readWith payload payload.changedAttribute?
  return .changed uid changed

def readIdentifier (payload : ReceivedPayload) : Except PyError ClientValue :=
  .identifier <$> getattr payload.uniqueIdentifier?

/-- A method over `send_request_payload`. -/
def request (operation : Operation) (operationName : String)
    (values : ReceivedPayload → Except PyError ClientValue)
    (items : List ReceivedItem) : Except ClientError ClientValue := do
  let payload ← KMIPProxy.sendRequestPayload operation operationName items
  (values payload).mapError .raised

def deleteAttribute := request .deleteAttribute "DeleteAttribute" readChanged

def setAttribute := request .setAttribute "SetAttribute" readIdentifier

def modifyAttribute := request .modifyAttribute "ModifyAttribute" readChanged

end RequestPayloads

end ProxyKmipClient

/-- The operation methods of the client. -/
inductive ClientMethod where
  | create | createKeyPair | deleteAttribute | setAttribute | modifyAttribute
  | register | rekey | deriveKey | locate | check | get | getAttributes
  | getAttributeList | activate | revoke | destroy | encrypt | decrypt
  | signatureVerify | sign | mac
deriving DecidableEq, Repr

namespace ClientMethod

def operation : ClientMethod → Operation
  | create => .create
  | createKeyPair => .createKeyPair
  | deleteAttribute => .deleteAttribute
  | setAttribute => .setAttribute
  | modifyAttribute => .modifyAttribute
  | register => .register
  | rekey => .rekey
  | deriveKey => .deriveKey
  | locate => .locate
  | check => .check
  | get => .get
  | getAttributes => .getAttributes
  | getAttributeList => .getAttributeList
  | activate => .activate
  | revoke => .revoke
  | destroy => .destroy
  | encrypt => .encrypt
  | decrypt => .decrypt
  | signatureVerify => .signatureVerify
  | sign => .sign
  | mac => .mac

/-- What a method does with the batch items of the response. -/
def report : ClientMethod → List ReceivedItem → Except ClientError ClientValue
  | create => ProxyKmipClient.create
  | createKeyPair => ProxyKmipClient.createKeyPair
  | deleteAttribute => ProxyKmipClient.deleteAttribute
  | setAttribute => ProxyKmipClient.setAttribute
  | modifyAttribute => ProxyKmipClient.modifyAttribute
  | register => ProxyKmipClient.register
  | rekey => ProxyKmipClient.rekey
  | deriveKey => ProxyKmipClient.deriveKey
  | locate => ProxyKmipClient.locate
  | check => ProxyKmipClient.check
  | get => ProxyKmipClient.get
  | getAttributes => ProxyKmipClient.getAttributes
  | getAttributeList => ProxyKmipClient.getAttributeList
  | activate => ProxyKmipClient.activate
  | revoke => ProxyKmipClient.revoke
  | destroy => ProxyKmipClient.destroy
  | encrypt => ProxyKmipClient.encrypt
  | decrypt => ProxyKmipClient.decrypt
  | signatureVerify => ProxyKmipClient.signatureVerify
  | sign => ProxyKmipClient.sign
  | mac => ProxyKmipClient.mac

end ClientMethod

/-- The arguments of a method.  The usage mask of `check` is read before the
request is built; the rest goes into the request. -/
structure ClientArguments (α : Type) where
  cryptographicUsageMask : Option (List CryptographicUsageMask)
  rest : α

/-!
Building the request of an operation, encoding and sending it is a parameter,
which takes a usage mask where the operation is `check`.
-/

section Requests

variable (send : Operation → Option Nat → α → Except PyError Unit)

/-- The loop over the usage mask of `check`, which may be `None`. -/
def checkedMask (cryptographicUsageMask : Option (List CryptographicUsageMask)) :
    Except PyError Nat :=
  match cryptographicUsageMask with
  | some masks => .ok (masks.foldl (fun mask m => mask ||| m.value) 0)
  | none => .error (.python .typeError)

def ClientMethod.sendRequest (method : ClientMethod)
    (arguments : ClientArguments α) : Except PyError Unit :=
  match method with
  | .check => do
      let mask ← checkedMask arguments.cryptographicUsageMask
      send .check (some mask) arguments.rest
  | method => send method.operation none arguments.rest

/-- A call, when the server answers the request with these batch items. -/
def ClientMethod.call (method : ClientMethod) (arguments : ClientArguments α)
    (items : List ReceivedItem) : Except ClientError ClientValue := do
  (method.sendRequest send arguments).mapError .raised
  (items.forM ReceivedItem.read).mapError .raised
  method.report items

end Requests

end PyKMIP
