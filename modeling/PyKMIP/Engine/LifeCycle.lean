import PyKMIP.Engine.State

/-!
# Operations on the life cycle

Activate and Revoke move the state of a loaded object and commit; Destroy
removes the row of an object that is not active.
-/

namespace PyKMIP

open StatefulExcept

variable (world : World)

/-- Activation needs a state, and it must be pre-active. -/
def activateObject : EStateM PyError ManagedObject Unit := do
  let managedObject ← get
  match managedObject.state? with
  | none => throw (illegalOperation
      ("An " ++ capitalizedName managedObject.objectType.name ++
        " object has no state and cannot be activated."))
  | some state => do
      raiseIf (state ≠ .preActive)
        (permissionDenied
          "The object state is not pre-active and cannot be activated.")
      set (managedObject.withState .active)

def processActivate (payloadIdentifier : Option String) :
    EngineM ResponsePayload := do
  kmipVersionSupported ⟨1, 0⟩ "Activate"
  let uniqueIdentifier ← valueOrPlaceholder payloadIdentifier
  let storedObject ←
    getObjectWithAccessControls world uniqueIdentifier .activate
  onManagedObject storedObject activateObject
  commitSession
  return .activate uniqueIdentifier

/-- A compromise is accepted in every state, any other reason only in the
active state. -/
def revokeObject (revocationCode : RevocationReasonCode) :
    EStateM PyError ManagedObject Unit := do
  let managedObject ← get
  match managedObject.state? with
  | none => throw (illegalOperation
      ("An " ++ capitalizedName managedObject.objectType.name ++
        " object has no state and cannot be revoked."))
  | some state =>
      if revocationCode = .keyCompromise then
        if state = .destroyed then
          set (managedObject.withState .destroyedCompromised)
        else set (managedObject.withState .compromised)
      else do
        raiseIf (state ≠ .active)
          (illegalOperation
            ("The object is not active and cannot be revoked with reason " ++
              "other than KEY_COMPROMISE"))
        set (managedObject.withState .deactivated)

def processRevoke (payload : RevokeRequestPayload) : EngineM ResponsePayload := do
  kmipVersionSupported ⟨1, 0⟩ "Revoke"
  let revocationCode ← fromExcept
    (match payload.revocationCode with
    | some revocationCode => .ok revocationCode
    | none => .error (invalidField "revocation reason code must be specified"))
  let uniqueIdentifier ← valueOrPlaceholder payload.uniqueIdentifier
  let storedObject ← getObjectWithAccessControls world uniqueIdentifier .revoke
  onManagedObject storedObject (revokeObject revocationCode)
  commitSession
  return .revoke uniqueIdentifier

/-- What Destroy does to the loaded object before its row is deleted. -/
def prepareDestruction : EStateM PyError ManagedObject Unit := do
  let managedObject ← get
  raiseIf (managedObject.state? = some .active)
    (permissionDenied "Object is active and cannot be destroyed.")
  if managedObject.state? = some .compromised then
    set (managedObject.withState .destroyedCompromised)

def processDestroy (payloadIdentifier : Option String) :
    EngineM ResponsePayload := do
  kmipVersionSupported ⟨1, 0⟩ "Destroy"
  let uniqueIdentifier ← valueOrPlaceholder payloadIdentifier
  let storedObject ← getObjectWithAccessControls world uniqueIdentifier .destroy
  onManagedObject storedObject prepareDestruction
  deleteObject storedObject.uniqueIdentifier
  commitSession
  return .destroy uniqueIdentifier

end PyKMIP
