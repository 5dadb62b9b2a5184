import PyKMIP.Barbican
import PyKMIP.DataStore
import PyKMIP.Lib.StatefulExcept
import PyKMIP.Messages
import PyKMIP.OperationPolicy

/-!
# The state of the engine

One engine serves every session.  `EngineState` holds the fields of the engine
that its handlers read and write, `World` what an item sees of the environment
while it is processed: the policies, the clock, the cryptographic back end and
the answers of Barbican.
-/

namespace PyKMIP

open StatefulExcept

section Environment

/-- The value and the format of one key of a generated key pair. -/
structure GeneratedKey where
  value : Bytes
  format : KeyFormatType
deriving DecidableEq, Repr

structure EncryptionResult where
  cipherText : Bytes
  ivNonce : Option Bytes := none
  authTag : Option Bytes := none
deriving DecidableEq, Repr

/-- The operations of the cryptographic back end that the engine calls. -/
structure CryptographyEngine where
  createSymmetricKey : CryptographicAlgorithm → Int → Except PyError Bytes
  createAsymmetricKeyPair :
    CryptographicAlgorithm → Int → Except PyError (GeneratedKey × GeneratedKey)
  mac : CryptographicAlgorithm → Bytes → Bytes → Except PyError Bytes
  /-- Algorithm, key, plain text, mode, padding, nonce, additional data and
  tag length. -/
  encrypt :
    Option CryptographicAlgorithm → Bytes → Option Bytes →
      Option BlockCipherMode → Option PaddingMethod → Option Bytes →
      Option Bytes → Option Int → Except PyError EncryptionResult
  /-- Algorithm, key, cipher text, mode, padding, nonce, additional data and
  tag. -/
  decrypt :
    Option CryptographicAlgorithm → Bytes → Option Bytes →
      Option BlockCipherMode → Option PaddingMethod → Option Bytes →
      Option Bytes → Option Bytes → Except PyError Bytes
  /-- Key, message, signature, padding, algorithm, hash and signature
  algorithm. -/
  verifySignature :
    Bytes → Option Bytes → Option Bytes → Option PaddingMethod →
      Option CryptographicAlgorithm → Option HashingAlgorithm →
      Option DigitalSignatureAlgorithm → Except PyError Bool
  /-- Signature algorithm, algorithm, hash, padding, key and data. -/
  sign :
    Option DigitalSignatureAlgorithm → Option CryptographicAlgorithm →
      Option HashingAlgorithm → Option PaddingMethod → Bytes → Option Bytes →
      Except PyError Bytes
  /-- Method, length, data, key material, parameters, salt, iteration count
  and nonce. -/
  deriveKey :
    DerivationMethod → Int → Option Bytes → Bytes → CryptographicParameters →
      Option Bytes → Option Int → Bytes → Except PyError Bytes
  /-- Key material, wrapping method, mode and encryption key. -/
  wrapKey :
    Bytes → WrappingMethod → Option BlockCipherMode → Bytes →
      Except PyError Bytes

/-- How the database compares a text with the integer key of a row.  A decimal
numeral matches its number; whether another text matches one depends on the
numeric conversions of the database. -/
structure IdentifierColumn where
  rowOf : String → Option Nat
  rowOf_toString : ∀ key : Nat, rowOf (toString key) = some key

structure World where
  operationPolicies : OperationPolicies
  identifierColumn : IdentifierColumn
  cryptographyEngine : CryptographyEngine
  now : Int
  /-- Whether `OS_REGION_NAME` is set. -/
  osRegionName : Bool := false
  /-- The reference that Barbican returns for a new secret, if it answers. -/
  createdSecret : Option String := none
  /-- Whether Barbican answers when it is asked for a secret. -/
  secretsAvailable : Bool := true

end Environment

structure EngineState where
  dataStore : DataStore
  barbican : Barbican
  idPlaceholder : Option String
  protocolVersion : ProtocolVersion
  clientIdentity : ClientIdentity
deriving DecidableEq

abbrev EngineM := EStateM PyError EngineState

/-- A managed object in the session, with its key. -/
structure StoredObject where
  uniqueIdentifier : Nat
  managedObject : ManagedObject
deriving DecidableEq

section Session

/-- `session.add`; the result is the key that the row has after the commit. -/
def addObject (managedObject : ManagedObject) : EngineM Nat := do
  let state ← get
  set { state with dataStore := state.dataStore.add managedObject }
  return state.dataStore.session.next

def deleteObject (uniqueIdentifier : Nat) : EngineM Unit :=
  modify fun state =>
    { state with dataStore := state.dataStore.delete uniqueIdentifier }

def commitSession : EngineM Unit := fun state =>
  match state.dataStore.commit with
  | (.ok _, dataStore) => .ok () { state with dataStore := dataStore }
  | (.error exception, dataStore) =>
      .error exception { state with dataStore := dataStore }

def setIdPlaceholder (uniqueIdentifier : Option String) : EngineM Unit :=
  modify fun state => { state with idPlaceholder := uniqueIdentifier }

/-- Change a loaded object in place.  The session sees the changes even when
the body raises after making them. -/
def onManagedObject (storedObject : StoredObject)
    (body : EStateM PyError ManagedObject α) : EngineM α :=
  focus (fun _ => storedObject.managedObject)
    (fun changed state =>
      { state with
        dataStore := state.dataStore.change storedObject.uniqueIdentifier changed })
    body

/-- `unique_identifier` of the payload when it is truthy, the placeholder
otherwise. -/
def payloadOrPlaceholder (uniqueIdentifier : Option String) :
    EngineM (Option String) := do
  let state ← get
  if truthyText uniqueIdentifier then return uniqueIdentifier
  else return state.idPlaceholder

/-- The handlers whose payload holds the identifier as an object use its value
even when that is empty. -/
def valueOrPlaceholder (uniqueIdentifier : Option String) :
    EngineM (Option String) := do
  let state ← get
  if uniqueIdentifier.isSome then return uniqueIdentifier
  else return state.idPlaceholder

end Session

section Lookup

variable (world : World)

def findObject (state : EngineState) (uniqueIdentifier : Option String) :
    Option StoredObject := do
  let text ← uniqueIdentifier
  let key ← world.identifierColumn.rowOf text
  let managedObject ← state.dataStore.session.lookup key
  return { uniqueIdentifier := key, managedObject := managedObject }

/-- The text of both refusals of a single-object lookup. -/
def couldNotLocate (uniqueIdentifier : Option String) : String :=
  "Could not locate object: " ++ formatText uniqueIdentifier

/-- `_get_object_type`, and the query that loads the object. -/
def getStoredObject (uniqueIdentifier : Option String) : EngineM StoredObject := do
  let state ← get
  raiseIf (state.dataStore.active = false) (.python .pendingRollbackError)
  match findObject world state uniqueIdentifier with
  | none => throw (itemNotFound (couldNotLocate uniqueIdentifier))
  | some storedObject => return storedObject

/-- The copy that a GET lookup works on: with the back end enabled, the value of
a symmetric key is replaced by the secret that it refers to. -/
def retrievedCopy (state : EngineState) (storedObject : StoredObject) :
    Except PyError StoredObject :=
  if world.osRegionName ∧
      storedObject.managedObject.objectType = .symmetricKey then
    if world.secretsAvailable then do
      let value ← state.barbican.retriveSecret storedObject.managedObject.value
      return { storedObject with
        managedObject := { storedObject.managedObject with value := value } }
    else .error (.python .runtimeError)
  else .ok storedObject

/-- The object that a lookup for an operation hands to its handler. -/
def loadedCopy (state : EngineState) (operation : Operation)
    (storedObject : StoredObject) : Except PyError StoredObject :=
  if operation = .get then retrievedCopy world state storedObject
  else .ok storedObject

/-- Whether the policy of an object permits the operation to the client. -/
def isPermitted (clientIdentity : ClientIdentity) (operation : Operation)
    (managedObject : ManagedObject) : Bool :=
  isAllowedByOperationPolicy world.operationPolicies
    managedObject.operationPolicyName clientIdentity managedObject.owner
    managedObject.objectType operation

def getObjectWithAccessControls (uniqueIdentifier : Option String)
    (operation : Operation) : EngineM StoredObject := do
  let storedObject ← getStoredObject world uniqueIdentifier
  let state ← get
  let managedObject ← fromExcept (loadedCopy world state operation storedObject)
  raiseIf
    (isPermitted world state.clientIdentity operation
      managedObject.managedObject = false)
    (permissionDenied (couldNotLocate uniqueIdentifier))
  return managedObject

def listObjectsWithAccessControls (operation : Operation) :
    EngineM (List StoredObject) := do
  let state ← get
  raiseIf (state.dataStore.active = false) (.python .pendingRollbackError)
  let managedObjects := state.dataStore.session.rows.map fun row =>
    { uniqueIdentifier := row.1, managedObject := row.2 : StoredObject }
  return managedObjects.filter fun storedObject =>
    isPermitted world state.clientIdentity operation storedObject.managedObject

/-- `barbican.create_secret`. -/
def createSecret (payload : Bytes) : EngineM String := do
  let state ← get
  match world.createdSecret with
  | none => throw (.python .runtimeError)
  | some secretRef =>
      set { state with barbican := state.barbican.createSecret secretRef payload }
      return secretRef

/-- The decorator of a handler that exists since a protocol version. -/
def kmipVersionSupported (supported : ProtocolVersion) (operation : String) :
    EngineM Unit := do
  let state ← get
  raiseIf (¬ supported ≤ state.protocolVersion)
    (operationNotSupported
      (operation ++ " is not supported by KMIP " ++ state.protocolVersion.text))

end Lookup

end PyKMIP
