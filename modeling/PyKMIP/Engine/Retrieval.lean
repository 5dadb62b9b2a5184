import Mathlib.Data.List.Sort
import PyKMIP.Engine.ManagedAttributes

/-!
# Get and Locate

Get returns the secret of one object, wrapped on request under another.  Locate
filters the objects that the client may locate, sorts them by their initial
date and returns a page of identifiers.
-/

namespace PyKMIP

open StatefulExcept
open AttributePolicy

variable (world : World)

section Get

/-- `str` of an optional enumeration member. -/
def formatMember (enumeration : String) (member : Option String) : String :=
  match member with
  | some text => enumeration ++ "." ++ text
  | none => "None"

/-- A requested key format must be the one the key is stored in. -/
def checkKeyFormat (managedObject : ManagedObject)
    (keyFormatType : Option KeyFormatType) : Except PyError Unit :=
  match keyFormatType, managedObject.keyFields? with
  | none, _ => .ok ()
  | some _, none => .error (keyFormatTypeNotSupported
      "Key format is not applicable to the specified object.")
  | some requested, some fields =>
      if requested = fields.keyFormatType then .ok ()
      else .error (keyFormatTypeNotSupported
        ("Key format conversion from " ++ fields.keyFormatType.name ++ " to " ++
          requested.name ++ " is unsupported."))

/-- Any failure of the lookup of the wrapping key is reported as its absence. -/
def getWrappingKey (uniqueIdentifier : Option String) : EngineM StoredObject :=
  (getObjectWithAccessControls world uniqueIdentifier .get).adaptExcept
    fun _ => itemNotFound "Wrapping key does not exist."

/-- The checks of the wrapping key and of the rest of the specification. -/
def checkWrappingKey (specification : KeyWrappingSpecification)
    (uniqueIdentifier : Option String) (key : ManagedObject) :
    Except PyError Unit := do
  if key.objectType ≠ .symmetricKey then
    throw (illegalOperation
      ("The wrapping encryption key specified by the encryption key " ++
        "information is not a key."))
  let state ← getattr key.state?
  if state ≠ .active then
    throw (permissionDenied ("Encryption key " ++ formatText uniqueIdentifier ++
      " must be activated to be used for key wrapping."))
  let masks ← getattr key.cryptographicUsageMasks?
  if CryptographicUsageMask.wrapKey ∉ masks then
    throw (permissionDenied
      ("The WrapKey bit must be set in the cryptographic usage mask of " ++
        "encryption key " ++ formatText uniqueIdentifier ++
        " for it to be used for key wrapping."))
  if specification.attributeNames ≠ [] then
    throw (illegalOperation "Wrapping object attributes is not supported.")
  if specification.encodingOption ≠ some .noEncoding then
    throw (encodingOptionError ("Encoding option '" ++
      formatMember "EncodingOption"
        (specification.encodingOption.map EncodingOption.name) ++
      "' is not supported."))

/-- The secret of an object wrapped under a key. -/
def wrappedSecret (specification : KeyWrappingSpecification)
    (information : KeyInformation) (managedObject key : ManagedObject) :
    Except PyError CoreSecret := do
  let parameters ← getattr information.cryptographicParameters
  let wrapped ← world.cryptographyEngine.wrapKey managedObject.value .encrypt
    parameters.blockCipherMode key.value
  let coreSecret := buildCoreObject { managedObject with value := wrapped }
  coreSecret.withKeyWrappingData {
    wrappingMethod := some .encrypt
    encryptionKeyInformation := some information
    encodingOption := specification.encodingOption }

def wrapObject (specification : KeyWrappingSpecification)
    (managedObject : ManagedObject) : EngineM CoreSecret := do
  raiseIf (specification.wrappingMethod ≠ some .encrypt)
    (operationNotSupported ("Wrapping method '" ++
      formatMember "WrappingMethod"
        (specification.wrappingMethod.map WrappingMethod.name) ++
      "' is not supported."))
  match specification.encryptionKeyInformation with
  | some information => do
      let key ← getWrappingKey world information.uniqueIdentifier
      fromExcept (checkWrappingKey specification information.uniqueIdentifier
        key.managedObject)
      fromExcept (wrappedSecret world specification information managedObject
        key.managedObject)
  | none =>
      if specification.macSignatureKeyInformation.isSome then
        throw (permissionDenied
          "Key wrapping with MAC/signing key information is not supported.")
      else
        throw (permissionDenied
          ("Either the encryption key information or the MAC/signature key " ++
            "information must be specified for key wrapping to be performed."))

def processGet (payload : GetRequestPayload) : EngineM ResponsePayload := do
  kmipVersionSupported ⟨1, 0⟩ "Get"
  let uniqueIdentifier ← payloadOrPlaceholder payload.uniqueIdentifier
  raiseIf payload.keyCompressionType.isSome
    (keyCompressionTypeNotSupported "Key compression is not supported.")
  let storedObject ← getObjectWithAccessControls world uniqueIdentifier .get
  let managedObject := storedObject.managedObject
  fromExcept (checkKeyFormat managedObject payload.keyFormatType)
  match payload.keyWrappingSpecification with
  | some specification => do
      let coreSecret ← wrapObject world specification managedObject
      return .get managedObject.objectType uniqueIdentifier coreSecret
  | none =>
      return .get managedObject.objectType uniqueIdentifier
        (buildCoreObject managedObject)

end Get

section Locate

/-- The dates that the filters of one object have collected. -/
structure DateFilter where
  value : Option Int := none
  start : Option Int := none
  stop : Option Int := none
deriving DecidableEq, Repr

/-- `time.asctime(time.gmtime(time))` in a debug message.  The years since 1900
must be a C `int`, which gives the lower bound, and so must the year itself,
which gives the upper one. -/
def asctime (time : Int) : Except PyError Unit :=
  if -67768040609740800 ≤ time ∧ time ≤ 67767976233532799 then .ok ()
  else .error (.python .overflowError)

def isValidDate (value : Int) (start stop : Option Int) : Except PyError Bool :=
  match start, stop with
  | none, _ => .ok true
  | some start, none =>
      if start = value then .ok true
      else do
        asctime value
        asctime start
        return false
  | some start, some stop =>
      if value < start then do
        asctime value
        asctime start
        return false
      else if value > stop then do
        asctime value
        asctime stop
        return false
      else .ok true

def trackDateAttributes (dates : DateFilter) (value : Int) :
    Except PyError DateFilter :=
  match dates.start, dates.stop with
  | none, _ => .ok { dates with start := some value }
  | some start, none =>
      if value > start then .ok { dates with stop := some value }
      else .ok { dates with start := some value, stop := some start }
  | some _, some _ => .error (invalidField
      ("Too many Initial Date attributes provided. Include one for an exact " ++
        "match. Include two for a ranged match."))

/-- Whether the filters matched so far, and the dates they collected. -/
structure FilterOutcome where
  addObject : Bool
  dates : DateFilter
deriving DecidableEq, Repr

/-- One filter against the attribute that was read from the object.  `none`
means that the object does not match. -/
def matchesFilter (dates : DateFilter) (filter : Attribute)
    (existing : ObjectAttribute) : Except PyError (Option DateFilter) :=
  let keepIf (matched : Bool) : Option DateFilter :=
    if matched then some dates else none
  let equals (value : PyValue) : Except PyError (Option DateFilter) := do
    return keepIf ((← filter.attributeValue.pyValue) = value)
  match existing with
  | .applicationSpecificInformation values => do
      let value ← filter.attributeValue.asApplicationSpecificInformation
      return keepIf (value ∈ values)
  | .objectGroups values => do
      let value ← filter.attributeValue.pyValue
      return keepIf (value ∈ values.map .text)
  | .names values =>
      .ok (keepIf (filter.attributeValue ∈ values.map .name))
  | .state value => equals (.state value)
  | .objectType value => equals (.objectType value)
  | .cryptographicAlgorithm value => equals (.cryptographicAlgorithm value)
  | .integer value => equals (.number value)
  | .text value => equals (.text value)
  | .usageMasks values => do
      let value ← filter.attributeValue.asInteger
      return keepIf
        ((getEnumerationsFromBitMask value).all fun mask => mask ∈ values)
  | .certificateType value => equals (.certificateType value)
  | .dateTime value => do
      match filter.attributeValue with
      | .dateTime requested =>
          some <$> trackDateAttributes { dates with value := some value }
            requested
      | _ => throw (.python .attributeError)
  -- a Boolean primitive is never equal to a Python Boolean
  | .boolean _ => .ok none

/-- The loop over the filters of the payload for one object. -/
def evaluateFilters (storedObject : StoredObject) (dates : DateFilter) :
    List Attribute → Except PyError FilterOutcome
  | [] => .ok { addObject := true, dates := dates }
  | filter :: rest => do
      let applicable ← isAttributeApplicableToObjectType filter.attributeName
        storedObject.managedObject.objectType
      if applicable = false then return { addObject := false, dates := dates }
      else
        match ← getAttributeFromManagedObject storedObject
            filter.attributeName with
        | none => evaluateFilters storedObject dates rest
        | some existing =>
            match ← matchesFilter dates filter existing with
            | none => return { addObject := false, dates := dates }
            | some dates => evaluateFilters storedObject dates rest

/-- An initial date of zero is not checked. -/
def matchesFilters (filters : List Attribute) (storedObject : StoredObject) :
    Except PyError Bool := do
  let outcome ← evaluateFilters storedObject {} filters
  match outcome.dates.value with
  | none => return outcome.addObject
  | some value =>
      if value = 0 then return outcome.addObject
      else
        let valid ← isValidDate value outcome.dates.start outcome.dates.stop
        return outcome.addObject && valid

/-- The objects that match every filter, in the order of the list. -/
def filterObjects (filters : List Attribute) :
    List StoredObject → Except PyError (List StoredObject)
  | [] => .ok []
  | storedObject :: rest => do
      let matched ← matchesFilters filters storedObject
      let others ← filterObjects filters rest
      return if matched then storedObject :: others else others

/-- The position at which a slice bound cuts a list. -/
def sliceBound (length : Nat) (bound : Int) : Nat :=
  if bound < 0 then (length + bound).toNat else min bound.toNat length

/-- `values[start:stop]`. -/
def slice (values : List α) (start stop : Option Int) : List α :=
  let first := (start.map (sliceBound values.length)).getD 0
  let last := (stop.map (sliceBound values.length)).getD values.length
  (values.take last).drop first

def pageOf (payload : LocateRequestPayload) (values : List α) : List α :=
  match payload.offsetItems, payload.maximumItems with
  | some offset, some maximum =>
      slice values (some offset) (some (offset + maximum))
  | some offset, none => slice values (some offset) none
  | none, some maximum => slice values none (some maximum)
  | none, none => values

/-- The stable sort by descending initial date. -/
def newestFirst (values : List StoredObject) : List StoredObject :=
  values.insertionSort fun first second =>
    second.managedObject.initialDate ≤ first.managedObject.initialDate

def processLocate (payload : LocateRequestPayload) : EngineM ResponsePayload := do
  kmipVersionSupported ⟨1, 0⟩ "Locate"
  let managedObjects ← listObjectsWithAccessControls world .locate
  let filtered ← fromExcept
    (if payload.attributes = [] then .ok managedObjects
      else filterObjects payload.attributes managedObjects)
  return .locate ((pageOf payload (newestFirst filtered)).map fun storedObject =>
    toString storedObject.uniqueIdentifier)

end Locate

end PyKMIP
