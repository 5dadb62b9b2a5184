import PyKMIP.Engine.Requests
import PyKMIP.Transactions.Creating
import PyKMIP.Transactions.Reading

/-!
# Handlers and the placeholder

An item whose payload names its object does not read the placeholder, so it
ends alike in states that differ in nothing else.  An item that has to use a
placeholder that is not set fails as for an unknown object.
-/

namespace PyKMIP

open EStateM StatefulExcept

section Blindness

def EngineState.withPlaceholder (state : EngineState)
    (idPlaceholder : Option String) : EngineState :=
  { state with idPlaceholder := idPlaceholder }

/-- The states differ at most in the placeholder. -/
def SameButPlaceholder (first second : EngineState) : Prop :=
  second = first.withPlaceholder second.idPlaceholder

theorem sameButPlaceholder_withPlaceholder
    (state : EngineState) (idPlaceholder : Option String) :
    SameButPlaceholder state (state.withPlaceholder idPlaceholder) := rfl

theorem SameButPlaceholder.change
    {first second : EngineState} (same : SameButPlaceholder first second)
    {change : EngineState → EngineState}
    (commutes : ∀ state idPlaceholder,
      change (state.withPlaceholder idPlaceholder) =
        (change state).withPlaceholder idPlaceholder) :
    SameButPlaceholder (change first) (change second) := by
  unfold SameButPlaceholder at *
  rw [same, commutes]
  rfl

/-- The computation does not read the placeholder. -/
def Blind (action : EngineM α) : Prop :=
  Simulates SameButPlaceholder Eq Eq action action

theorem Blind.of_withPlaceholder
    {action : EngineM α}
    (alike : ∀ state idPlaceholder, Alike SameButPlaceholder Eq Eq
      (action.run state) (action.run (state.withPlaceholder idPlaceholder))) :
    Blind action := by
  intro first second same
  rw [same]
  exact alike first second.idPlaceholder

theorem Blind.pure (value : α) : Blind (Pure.pure value : EngineM α) :=
  Simulates.pure rfl

theorem Blind.raise (exception : PyError) :
    Blind (throw exception : EngineM α) :=
  Simulates.raise rfl

theorem Blind.bind
    {first : EngineM α} {next : α → EngineM β} (firstBlind : Blind first)
    (nextBlind : ∀ value, Blind (next value)) :
    Blind (first >>= next) := by
  apply Simulates.bind firstBlind
  rintro value _ rfl
  exact nextBlind value

theorem Blind.raiseIf
    {condition : Prop} [Decidable condition] {exception : PyError} :
    Blind (StatefulExcept.raiseIf condition exception) :=
  Simulates.raiseIf rfl

theorem Blind.fromExcept (outcome : Except PyError α) :
    Blind (StatefulExcept.fromExcept outcome : EngineM α) := by
  cases outcome with
  | ok value => exact .pure value
  | error exception => exact .raise exception

/-- What follows may read the other fields of the state. -/
theorem Blind.get
    {next : EngineState → EngineM α}
    (same : ∀ state idPlaceholder,
      next (state.withPlaceholder idPlaceholder) = next state)
    (nextBlind : ∀ state, Blind (next state)) :
    Blind (MonadState.get >>= next) := by
  apply Blind.of_withPlaceholder
  intro state idPlaceholder
  show Alike _ _ _ ((next state).run state)
    ((next (state.withPlaceholder idPlaceholder)).run _)
  rw [same]
  exact nextBlind state _ _ rfl

theorem Blind.modify
    {change : EngineState → EngineState}
    (commutes : ∀ state idPlaceholder,
      change (state.withPlaceholder idPlaceholder) =
        (change state).withPlaceholder idPlaceholder) :
    Blind (modify change : EngineM PUnit) :=
  fun _ _ same => .ok rfl (same.change commutes)

theorem Blind.setIdPlaceholder (uniqueIdentifier : Option String) :
    Blind (setIdPlaceholder uniqueIdentifier) := by
  apply Blind.of_withPlaceholder
  exact fun state idPlaceholder => .ok rfl rfl

theorem Blind.ite
    {condition : Prop} [Decidable condition] {yes no : EngineM α}
    (yesBlind : condition → Blind yes) (noBlind : ¬condition → Blind no) :
    Blind (if condition then yes else no) :=
  Simulates.ite yesBlind noBlind

theorem Blind.kmipVersionSupported
    (supported : ProtocolVersion) (operation : String) :
    Blind (kmipVersionSupported supported operation) :=
  .get (fun _ _ => rfl) fun _ => .raiseIf

theorem Blind.payloadOrPlaceholder
    {uniqueIdentifier : Option String}
    (named : truthyText uniqueIdentifier = true) :
    Blind (payloadOrPlaceholder uniqueIdentifier) := by
  apply Blind.of_withPlaceholder
  intro state idPlaceholder
  rw [run_payloadOrPlaceholder, run_payloadOrPlaceholder]
  simp only [ItemContext.payloadOrPlaceholder, named, if_true]
  exact .ok rfl rfl

theorem Blind.valueOrPlaceholder
    {uniqueIdentifier : Option String}
    (named : uniqueIdentifier.isSome = true) :
    Blind (valueOrPlaceholder uniqueIdentifier) := by
  apply Blind.of_withPlaceholder
  intro state idPlaceholder
  rw [run_valueOrPlaceholder, run_valueOrPlaceholder]
  simp only [ItemContext.valueOrPlaceholder, named, if_true]
  exact .ok rfl rfl

variable (world : World)

theorem Blind.getObjectWithAccessControls
    (uniqueIdentifier : Option String) (operation : Operation) :
    Blind (getObjectWithAccessControls world uniqueIdentifier operation) := by
  apply Blind.of_withPlaceholder
  intro state idPlaceholder
  rw [run_getObjectWithAccessControls, run_getObjectWithAccessControls]
  exact Blind.fromExcept _ _ _ rfl

theorem Blind.getWrappingKey (uniqueIdentifier : Option String) :
    Blind (getWrappingKey world uniqueIdentifier) := by
  apply Blind.of_withPlaceholder
  intro state idPlaceholder
  unfold PyKMIP.getWrappingKey
  rw [run_adaptExcept, run_adaptExcept, run_getObjectWithAccessControls,
    run_getObjectWithAccessControls, run_fromExcept, run_fromExcept]
  have same : access world (state.withPlaceholder idPlaceholder)
      uniqueIdentifier .get = access world state uniqueIdentifier .get := rfl
  rw [same]
  cases access world state uniqueIdentifier .get with
  | ok value => exact .ok rfl rfl
  | error exception => exact .error rfl rfl

theorem Blind.listObjectsWithAccessControls (operation : Operation) :
    Blind (listObjectsWithAccessControls world operation) :=
  .get (fun _ _ => rfl) fun _ => .bind .raiseIf fun _ => .pure _

theorem Blind.onManagedObject
    (storedObject : StoredObject) (body : ObjectM α) :
    Blind (onManagedObject storedObject body) := by
  apply Blind.of_withPlaceholder
  intro state idPlaceholder
  rw [run_onManagedObject, run_onManagedObject]
  cases body.run storedObject.managedObject with
  | ok value changed => exact .ok rfl rfl
  | error exception changed => exact .error rfl rfl

theorem Blind.commitSession : Blind commitSession := by
  apply Blind.of_withPlaceholder
  intro state idPlaceholder
  rw [run_commitSession, run_commitSession]
  have same : (state.withPlaceholder idPlaceholder).dataStore =
      state.dataStore := rfl
  rw [same]
  rcases state.dataStore.commit with ⟨outcome, flushed⟩
  cases outcome with
  | ok _ => exact .ok rfl rfl
  | error exception => exact .error rfl rfl

theorem Blind.addObject (managedObject : ManagedObject) :
    Blind (addObject managedObject) := by
  apply Blind.of_withPlaceholder
  exact fun state idPlaceholder => .ok rfl rfl

theorem Blind.createSecret (payload : Bytes) :
    Blind (createSecret world payload) := by
  apply Blind.of_withPlaceholder
  intro state idPlaceholder
  rw [run_createSecret, run_createSecret]
  cases world.createdSecret with
  | none => exact .error rfl rfl
  | some secretRef => exact .ok rfl rfl

end Blindness

section Handlers

variable (world : World)

/-- The payload does not name the object that its operation is about. -/
def RequestPayload.Unnamed : RequestPayload → Prop
  | .deleteAttribute payload => truthyText payload.uniqueIdentifier = false
  | .get payload => truthyText payload.uniqueIdentifier = false
  | .getAttributes payload => truthyText payload.uniqueIdentifier = false
  | .getAttributeList uniqueIdentifier => truthyText uniqueIdentifier = false
  | .activate uniqueIdentifier => uniqueIdentifier = none
  | .revoke payload => payload.uniqueIdentifier = none
  | .destroy uniqueIdentifier => uniqueIdentifier = none
  | .encrypt payload => truthyText payload.uniqueIdentifier = false
  | .decrypt payload => truthyText payload.uniqueIdentifier = false
  | .signatureVerify payload => truthyText payload.uniqueIdentifier = false
  | .setAttribute payload => truthyText payload.uniqueIdentifier = false
  | .modifyAttribute payload => truthyText payload.uniqueIdentifier = false
  | .mac payload => payload.uniqueIdentifier = none
  | .sign payload => truthyText payload.uniqueIdentifier = false
  | _ => False

theorem Blind.derivationObjects (uniqueIdentifiers : List String) :
    Blind (derivationObjects world uniqueIdentifiers) := by
  induction uniqueIdentifiers with
  | nil => exact .pure _
  | cons uniqueIdentifier rest ih =>
      exact .bind (.getObjectWithAccessControls world _ _) fun _ =>
        .bind .raiseIf fun _ => .bind (.fromExcept _) fun _ =>
        .bind .raiseIf fun _ => .bind ih fun _ => .pure _

theorem Blind.storeInBarbican (managedObject : ManagedObject) :
    Blind (storeInBarbican world managedObject) :=
  .ite (fun _ => .bind (.createSecret world _) fun _ => .pure _)
    fun _ => .pure _

theorem Blind.wrapObject
    (specification : KeyWrappingSpecification) (managedObject : ManagedObject) :
    Blind (wrapObject world specification managedObject) := by
  apply Blind.bind .raiseIf
  intro _
  cases specification.encryptionKeyInformation with
  | some information =>
      exact .bind (.getWrappingKey world _) fun _ =>
        .bind (.fromExcept _) fun _ => .fromExcept _
  | none => exact .ite (fun _ => .raise _) fun _ => .raise _

/-- Adding one object and leaving its identifier behind. -/
theorem Blind.store (managedObject : ManagedObject)
    (reply : Nat → ResponsePayload) :
    Blind (PyKMIP.addObject managedObject >>= fun key =>
      PyKMIP.commitSession >>= fun _ =>
      PyKMIP.setIdPlaceholder (some (toString key)) >>= fun _ =>
      Pure.pure (reply key)) :=
  .bind (.addObject managedObject) fun _ => .bind .commitSession fun _ =>
    .bind (.setIdPlaceholder _) fun _ => .pure _

theorem Blind.ofNamed
    {uniqueIdentifier : Option String}
    (named : ¬truthyText uniqueIdentifier = false) :
    Blind (PyKMIP.payloadOrPlaceholder uniqueIdentifier) :=
  .payloadOrPlaceholder (Bool.not_eq_false _ ▸ named)

theorem Blind.ofGiven
    {uniqueIdentifier : Option String} (given : ¬uniqueIdentifier = none) :
    Blind (PyKMIP.valueOrPlaceholder uniqueIdentifier) :=
  .valueOrPlaceholder (Option.isSome_iff_ne_none.mpr given)

/-- Only payloads that do not name their object read the placeholder. -/
theorem processOperation_blind
    (payload : RequestPayload) (named : ¬payload.Unnamed) :
    Blind (processOperation world payload) := by
  have supported := Blind.kmipVersionSupported
  have access := Blind.getObjectWithAccessControls world
  cases payload with
  | create payload =>
      exact .bind (supported _ _) fun _ => .bind .raiseIf fun _ =>
        .get (fun _ _ => rfl) fun _ => .bind (.fromExcept _) fun _ =>
        .bind (.fromExcept _) fun _ => .bind (.fromExcept _) fun _ =>
        .bind (.fromExcept _) fun _ => .bind (.storeInBarbican world _) fun _ =>
        .bind (.fromExcept _) fun _ => .store _ _
  | createKeyPair payload =>
      exact .bind (supported _ _) fun _ =>
        .get (fun _ _ => rfl) fun _ => .bind (.fromExcept _) fun _ =>
        .bind (.fromExcept _) fun _ => .bind (.fromExcept _) fun _ =>
        .bind (.fromExcept _) fun _ => .bind (.fromExcept _) fun _ =>
        .bind .raiseIf fun _ => .bind .raiseIf fun _ =>
        .bind (.fromExcept _) fun _ => .bind (.fromExcept _) fun _ =>
        .bind (.fromExcept _) fun _ => .bind (.fromExcept _) fun _ =>
        .bind (.fromExcept _) fun _ => .bind (.addObject _) fun _ =>
        .store _ _
  | register payload =>
      exact .bind (supported _ _) fun _ => .bind .raiseIf fun _ =>
        .bind (.fromExcept _) fun _ =>
        .get (fun _ _ => rfl) fun _ => .bind (.fromExcept _) fun _ =>
        .bind (.fromExcept _) fun _ => .bind (.fromExcept _) fun _ => .store _ _
  | deriveKey payload =>
      exact .bind (supported _ _) fun _ =>
        .get (fun _ _ => rfl) fun _ => .bind (.fromExcept _) fun _ =>
        .bind .raiseIf fun _ => .bind .raiseIf fun _ =>
        .bind (.derivationObjects world _) fun _ => .bind (.fromExcept _) fun _ =>
        .bind (.fromExcept _) fun _ => .bind (.fromExcept _) fun _ =>
        .bind (.fromExcept _) fun _ => .bind (.fromExcept _) fun _ =>
        .bind (.fromExcept _) fun _ => .store _ _
  | locate payload =>
      exact .bind (supported _ _) fun _ =>
        .bind (.listObjectsWithAccessControls world _) fun _ =>
        .bind (.fromExcept _) fun _ => .pure _
  | get payload =>
      refine .bind (supported _ _) fun _ => .bind (.ofNamed named) fun _ =>
        .bind .raiseIf fun _ => .bind (access _ _) fun _ =>
        .bind (.fromExcept _) fun _ => ?_
      cases payload.keyWrappingSpecification with
      | some specification =>
          exact .bind (.wrapObject world _ _) fun _ => .pure _
      | none => exact .pure _
  | getAttributes payload =>
      exact .bind (supported _ _) fun _ => .bind (.ofNamed named) fun _ =>
        .bind (access _ _) fun _ => .get (fun _ _ => rfl) fun _ =>
        .bind (.fromExcept _) fun _ => .pure _
  | getAttributeList uniqueIdentifier =>
      exact .bind (supported _ _) fun _ => .bind (.ofNamed named) fun _ =>
        .bind (access _ _) fun _ => .get (fun _ _ => rfl) fun _ =>
        .bind (.fromExcept _) fun _ => .pure _
  | activate uniqueIdentifier =>
      exact .bind (supported _ _) fun _ => .bind (.ofGiven named) fun _ =>
        .bind (access _ _) fun _ => .bind (.onManagedObject _ _) fun _ =>
        .bind .commitSession fun _ => .pure _
  | revoke payload =>
      exact .bind (supported _ _) fun _ => .bind (.fromExcept _) fun _ =>
        .bind (.ofGiven named) fun _ => .bind (access _ _) fun _ =>
        .bind (.onManagedObject _ _) fun _ => .bind .commitSession fun _ =>
        .pure _
  | destroy uniqueIdentifier =>
      exact .bind (supported _ _) fun _ => .bind (.ofGiven named) fun _ =>
        .bind (access _ _) fun _ => .bind (.onManagedObject _ _) fun _ =>
        .bind (.modify fun _ _ => rfl) fun _ => .bind .commitSession fun _ =>
        .pure _
  | deleteAttribute payload =>
      exact .bind (supported _ _) fun _ => .bind (.ofNamed named) fun _ =>
        .bind (access _ _) fun _ => .get (fun _ _ => rfl) fun _ =>
        .bind (.fromExcept _) fun _ => .bind (.onManagedObject _ _) fun _ =>
        .bind .commitSession fun _ => .pure _
  | setAttribute payload =>
      exact .bind (supported _ _) fun _ => .bind (.ofNamed named) fun _ =>
        .bind (access _ _) fun _ => .bind (.fromExcept _) fun _ =>
        .bind (.fromExcept _) fun _ => .bind (.onManagedObject _ _) fun _ =>
        .bind .commitSession fun _ => .pure _
  | modifyAttribute payload =>
      exact .bind (supported _ _) fun _ => .bind (.ofNamed named) fun _ =>
        .bind (access _ _) fun _ => .get (fun _ _ => rfl) fun _ => .ite
        (fun _ => .bind (.onManagedObject _ _) fun _ =>
          .bind .commitSession fun _ => .pure _)
        fun _ => .bind (.fromExcept _) fun _ =>
          .bind (.onManagedObject _ _) fun _ => .bind .commitSession fun _ =>
          .bind (.fromExcept _) fun _ => .bind (.fromExcept _) fun _ => .pure _
  | query payload =>
      exact .bind (supported _ _) fun _ => .bind .raiseIf fun _ =>
        .get (fun _ _ => rfl) fun _ => .pure _
  | discoverVersions payload =>
      exact .bind (supported _ _) fun _ => .pure _
  | encrypt payload =>
      exact .bind (supported _ _) fun _ => .bind (.ofNamed named) fun _ =>
        .bind (access _ _) fun _ => .bind (.fromExcept _) fun _ =>
        .bind (.fromExcept _) fun _ => .pure _
  | decrypt payload =>
      exact .bind (supported _ _) fun _ => .bind (.ofNamed named) fun _ =>
        .bind (access _ _) fun _ => .bind (.fromExcept _) fun _ =>
        .bind (.fromExcept _) fun _ => .pure _
  | signatureVerify payload =>
      exact .bind (supported _ _) fun _ => .bind (.ofNamed named) fun _ =>
        .bind (access _ _) fun _ => .bind (.fromExcept _) fun _ =>
        .bind (.fromExcept _) fun _ => .pure _
  | mac payload =>
      exact .bind (supported _ _) fun _ => .bind (.ofGiven named) fun _ =>
        .bind (access _ _) fun _ => .bind (.fromExcept _) fun _ =>
        .bind (.fromExcept _) fun _ => .pure _
  | sign payload =>
      exact .bind (supported _ _) fun _ => .bind (.ofNamed named) fun _ =>
        .bind (access _ _) fun _ => .bind (.fromExcept _) fun _ =>
        .bind (.fromExcept _) fun _ => .pure _
  | unsupported operation undispatched => exact .raise _

end Handlers

section Searching

/-- Given the placeholder, the computation does not find an object when there
is none, unless it fails alike whatever the placeholder is. -/
def Searches (handler : Option String → EngineM ResponsePayload) : Prop :=
  ∀ state : EngineState,
    outcomeOf ((handler none).run (state.withPlaceholder none)) =
      .error (itemNotFound (couldNotLocate none)) ∨
    ∃ exception, ∀ idPlaceholder,
      outcomeOf ((handler idPlaceholder).run
        (state.withPlaceholder idPlaceholder)) = .error exception

theorem Searches.raiseIf
    {condition : Prop} [Decidable condition] {exception : PyError}
    {next : Option String → Unit → EngineM ResponsePayload}
    (searches : Searches fun idPlaceholder => next idPlaceholder ()) :
    Searches fun idPlaceholder =>
      StatefulExcept.raiseIf condition exception >>= next idPlaceholder := by
  intro state
  by_cases holds : condition
  · right
    refine ⟨exception, fun idPlaceholder => ?_⟩
    rw [run_bind, run_raiseIf, if_pos holds]
    rfl
  · simp only [run_bind, run_raiseIf, if_neg holds]
    exact searches state

theorem Searches.fromExcept
    {outcome : Except PyError α}
    {next : Option String → α → EngineM ResponsePayload}
    (searches : ∀ value, Searches fun idPlaceholder => next idPlaceholder value) :
    Searches fun idPlaceholder =>
      StatefulExcept.fromExcept outcome >>= next idPlaceholder := by
  intro state
  cases outcome with
  | ok value => exact searches value state
  | error exception => exact .inr ⟨exception, fun _ => rfl⟩

theorem Searches.kmipVersionSupported
    {supported : ProtocolVersion} {operation : String}
    {next : Option String → Unit → EngineM ResponsePayload}
    (searches : Searches fun idPlaceholder => next idPlaceholder ()) :
    Searches fun idPlaceholder =>
      kmipVersionSupported supported operation >>= next idPlaceholder := by
  intro state
  have checks : ∀ idPlaceholder,
      (PyKMIP.kmipVersionSupported supported operation >>=
        next idPlaceholder).run (state.withPlaceholder idPlaceholder) =
      (StatefulExcept.raiseIf (¬supported ≤ state.protocolVersion)
        (operationNotSupported (operation ++ " is not supported by KMIP " ++
          state.protocolVersion.text)) >>=
        next idPlaceholder).run (state.withPlaceholder idPlaceholder) :=
    fun _ => rfl
  simp only [checks]
  exact Searches.raiseIf searches state

theorem Searches.payloadOrPlaceholder
    {uniqueIdentifier : Option String}
    {next : Option String → EngineM ResponsePayload}
    (unnamed : truthyText uniqueIdentifier = false) (searches : Searches next) :
    Searches fun _ => payloadOrPlaceholder uniqueIdentifier >>= next := by
  intro state
  have read : ∀ idPlaceholder,
      (PyKMIP.payloadOrPlaceholder uniqueIdentifier >>= next).run
        (state.withPlaceholder idPlaceholder) =
      (next idPlaceholder).run (state.withPlaceholder idPlaceholder) := by
    intro idPlaceholder
    rw [run_bind, run_payloadOrPlaceholder]
    simp [ItemContext.payloadOrPlaceholder, unnamed, EngineState.context,
      EngineState.withPlaceholder]
  simp only [read]
  exact searches state

theorem Searches.valueOrPlaceholder
    {next : Option String → EngineM ResponsePayload} (searches : Searches next) :
    Searches fun _ => valueOrPlaceholder none >>= next :=
  searches

theorem Searches.lookup
    (world : World) (operation : Operation)
    {next : Option String → StoredObject → EngineM ResponsePayload} :
    Searches fun idPlaceholder =>
      getObjectWithAccessControls world idPlaceholder operation >>=
        next idPlaceholder := by
  intro state
  simp only [run_bind, run_getObjectWithAccessControls, run_fromExcept]
  by_cases inactive : state.dataStore.active = false
  · right
    refine ⟨.python .pendingRollbackError, fun idPlaceholder => ?_⟩
    have refused : access world (state.withPlaceholder idPlaceholder)
        idPlaceholder operation = .error (.python .pendingRollbackError) :=
      if_pos inactive
    rw [refused]
    rfl
  · left
    have refused : access world (state.withPlaceholder none) none operation =
        .error (itemNotFound (couldNotLocate none)) := if_neg inactive
    rw [refused]
    rfl

/-- An item that does not name its object needs the placeholder. -/
theorem processOperation_searches
    (world : World) (payload : RequestPayload) (unnamed : payload.Unnamed) :
    Searches fun _ => processOperation world payload := by
  cases payload with
  | deleteAttribute payload =>
      exact .kmipVersionSupported (.payloadOrPlaceholder unnamed (.lookup _ _))
  | get payload =>
      exact .kmipVersionSupported (.payloadOrPlaceholder unnamed
        (.raiseIf (.lookup _ _)))
  | getAttributes payload =>
      exact .kmipVersionSupported (.payloadOrPlaceholder unnamed (.lookup _ _))
  | getAttributeList uniqueIdentifier =>
      exact .kmipVersionSupported (.payloadOrPlaceholder unnamed (.lookup _ _))
  | activate uniqueIdentifier =>
      cases unnamed
      exact .kmipVersionSupported (.valueOrPlaceholder (.lookup _ _))
  | revoke payload =>
      rcases payload with ⟨uniqueIdentifier, revocationCode⟩
      cases unnamed
      exact .kmipVersionSupported (.fromExcept fun _ =>
        .valueOrPlaceholder (.lookup _ _))
  | destroy uniqueIdentifier =>
      cases unnamed
      exact .kmipVersionSupported (.valueOrPlaceholder (.lookup _ _))
  | encrypt payload =>
      exact .kmipVersionSupported (.payloadOrPlaceholder unnamed (.lookup _ _))
  | decrypt payload =>
      exact .kmipVersionSupported (.payloadOrPlaceholder unnamed (.lookup _ _))
  | signatureVerify payload =>
      exact .kmipVersionSupported (.payloadOrPlaceholder unnamed (.lookup _ _))
  | setAttribute payload =>
      exact .kmipVersionSupported (.payloadOrPlaceholder unnamed (.lookup _ _))
  | modifyAttribute payload =>
      exact .kmipVersionSupported (.payloadOrPlaceholder unnamed (.lookup _ _))
  | mac payload =>
      rcases payload with ⟨uniqueIdentifier, _, _⟩
      cases unnamed
      exact .kmipVersionSupported (.valueOrPlaceholder (.lookup _ _))
  | sign payload =>
      exact .kmipVersionSupported (.payloadOrPlaceholder unnamed (.lookup _ _))
  | _ => exact unnamed.elim

end Searching

end PyKMIP
