import PyKMIP.Wire.Structures

/-!
# Attribute values

The classes of the objects that hold attribute values, and the two factories
that choose among them: by the name of the attribute, and by its tag.
-/

namespace PyKMIP.Wire

open Formats

section Classes

inductive ValueClass where
  | text | name | objectType | cryptographicAlgorithm | certificateType | state
  | integer | usageMask | interval | dateTime | boolean
  | cryptographicParameters | digest | applicationSpecificInformation
deriving DecidableEq

/-- Objects that are created without an argument may have no value. -/
def ValueClass.Data : ValueClass → Type
  | .text => String
  | .name => NameStructure
  | .objectType => Option ObjectType
  | .cryptographicAlgorithm => Option CryptographicAlgorithm
  | .certificateType => Option CertificateType
  | .state => Option State
  | .integer => Int
  | .usageMask => Int
  | .interval => Option Nat
  | .dateTime => Int
  | .boolean => Option Bool
  | .cryptographicParameters => CryptographicParameters
  | .digest => Digest
  | .applicationSpecificInformation => ApplicationInformationStructure

instance : (valueClass : ValueClass) → DecidableEq valueClass.Data
  | .text => inferInstanceAs (DecidableEq String)
  | .name => inferInstanceAs (DecidableEq NameStructure)
  | .objectType => inferInstanceAs (DecidableEq (Option ObjectType))
  | .cryptographicAlgorithm =>
      inferInstanceAs (DecidableEq (Option CryptographicAlgorithm))
  | .certificateType => inferInstanceAs (DecidableEq (Option CertificateType))
  | .state => inferInstanceAs (DecidableEq (Option State))
  | .integer => inferInstanceAs (DecidableEq Int)
  | .usageMask => inferInstanceAs (DecidableEq Int)
  | .interval => inferInstanceAs (DecidableEq (Option Nat))
  | .dateTime => inferInstanceAs (DecidableEq Int)
  | .boolean => inferInstanceAs (DecidableEq (Option Bool))
  | .cryptographicParameters => inferInstanceAs (DecidableEq CryptographicParameters)
  | .digest => inferInstanceAs (DecidableEq Digest)
  | .applicationSpecificInformation =>
      inferInstanceAs (DecidableEq ApplicationInformationStructure)

/-- The items of a class under a tag. -/
def ValueClass.item (tag : Tag) :
    (valueClass : ValueClass) → Item valueClass.Data
  | .text => textStringItem tag
  | .name => nameItem tag
  | .objectType => (enumerationItem ObjectType tag).orUnset .attributeError
  | .cryptographicAlgorithm =>
      (enumerationItem CryptographicAlgorithm tag).orUnset .attributeError
  | .certificateType =>
      (enumerationItem CertificateType tag).orUnset .attributeError
  | .state => (enumerationItem State tag).orUnset .attributeError
  | .integer => integerItem tag
  | .usageMask => integerItem tag
  | .interval => (intervalItem tag).orUnset .structError
  | .dateTime => dateTimeItem tag
  | .boolean => (booleanItem tag).orUnset .structError
  | .cryptographicParameters => cryptographicParametersItem tag
  | .digest => digestItem tag
  | .applicationSpecificInformation => applicationSpecificInformationItem tag

structure ValueObject where
  valueClass : ValueClass
  data : valueClass.Data
deriving DecidableEq

def ValueObject.write (tag : Tag) (value : ValueObject) :
    Except CodecError Bytes :=
  (value.valueClass.item tag).encode value.data

def ValueClass.read (valueClass : ValueClass) (tag : Tag) :
    Reader ValueObject := do
  return ⟨valueClass, ← (valueClass.item tag).decode⟩

/-- Whether a value has an encoding. -/
def ValueObject.fits (value : ValueObject) : Bool :=
  (value.valueClass.item .attributeValue).fits value.data

def ValueObject.size (value : ValueObject) : Nat :=
  (value.valueClass.item .attributeValue).size value.data

theorem ValueClass.tag_item (valueClass : ValueClass) (tag : Tag) :
    (valueClass.item tag).tag = tag := by
  cases valueClass <;> rfl

theorem ValueClass.lawful_item (valueClass : ValueClass) (tag : Tag) :
    (valueClass.item tag).Lawful nextTag := by
  cases valueClass with
  | text => exact lawful_textStringItem tag
  | name => exact lawful_nameItem tag
  | objectType => exact (lawful_enumerationItem ..).orUnset _
  | cryptographicAlgorithm => exact (lawful_enumerationItem ..).orUnset _
  | certificateType => exact (lawful_enumerationItem ..).orUnset _
  | state => exact (lawful_enumerationItem ..).orUnset _
  | integer => exact lawful_integerItem tag
  | usageMask => exact lawful_integerItem tag
  | interval => exact (lawful_intervalItem tag).orUnset _
  | dateTime => exact lawful_dateTimeItem tag
  | boolean => exact (lawful_booleanItem tag).orUnset _
  | cryptographicParameters => exact lawful_cryptographicParametersItem tag
  | digest => exact lawful_digestItem tag
  | applicationSpecificInformation =>
      exact lawful_applicationSpecificInformationItem tag

theorem ValueClass.sized_item (valueClass : ValueClass) (tag : Tag) :
    (valueClass.item tag).Sized := by
  cases valueClass with
  | text => exact sized_textStringItem tag
  | name => exact sized_nameItem tag
  | objectType => exact Format.Sized.orUnset (sized_enumerationItem _ _) _
  | cryptographicAlgorithm =>
      exact Format.Sized.orUnset (sized_enumerationItem _ _) _
  | certificateType => exact Format.Sized.orUnset (sized_enumerationItem _ _) _
  | state => exact Format.Sized.orUnset (sized_enumerationItem _ _) _
  | integer => exact sized_integerItem tag
  | usageMask => exact sized_integerItem tag
  | interval => exact (sized_intervalItem tag).orUnset _
  | dateTime => exact sized_dateTimeItem tag
  | boolean => exact (sized_booleanItem tag).orUnset _
  | cryptographicParameters => exact sized_cryptographicParametersItem tag
  | digest => exact sized_digestItem tag
  | applicationSpecificInformation =>
      exact sized_applicationSpecificInformationItem tag

theorem ValueObject.shows_write
    {tag : Tag} {value : ValueObject} {bytes : Bytes}
    (written : value.write tag = .ok bytes) (rest : Bytes) :
    nextTag (bytes ++ rest) = some tag := by
  have shown := (value.valueClass.lawful_item tag).shows written rest
  rwa [value.valueClass.tag_item] at shown

theorem ValueObject.reads_write
    {tag : Tag} {value : ValueObject} {bytes : Bytes}
    (written : value.write tag = .ok bytes) :
    Reads (value.valueClass.read tag) bytes value := by
  have reads := (value.valueClass.lawful_item tag).reads written
  exact reads.map (ValueObject.mk value.valueClass)

/-- Neither depends on the tag. -/
theorem ValueObject.yields_write (tag : Tag) (value : ValueObject) :
    Yields (value.write tag) value.fits value.size := by
  have yields := value.valueClass.sized_item tag value.data
  obtain ⟨valueClass, data⟩ := value
  cases valueClass <;> exact yields

end Classes

section Factory

/-- What a value can be created from.  A `Name` has both of its parts. -/
inductive Argument where
  | none
  | text (value : String)
  | integer (value : Int)
  | boolean (value : Bool)
  | objectType (value : ObjectType)
  | cryptographicAlgorithm (value : CryptographicAlgorithm)
  | certificateType (value : CertificateType)
  | state (value : State)
  | name (nameValue : String) (nameType : Option NameType)
  | usageMasks (flags : List CryptographicUsageMask)
  | cryptographicParameters (params : CryptographicParameters)
  | applicationInformation (applicationNamespace applicationData : Option String)

/-- `Integer.validate`, and that of the long integers. -/
def validateInteger (width : Nat) (value : Int) : Except CodecError Int :=
  if BigEndian.FitsSigned width value then .ok value else .error .valueError

/-- `Interval.validate`: the greatest value that is accepted has no encoding. -/
def validateInterval (value : Int) : Except CodecError (Option Nat) :=
  if 0 ≤ value ∧ value ≤ 4294967296 then .ok (some value.toNat)
  else .error .valueError

def validateParameters (params : CryptographicParameters) :
    Except CodecError CryptographicParameters :=
  if [params.ivLength, params.tagLength, params.fixedFieldLength,
      params.invocationFieldLength, params.counterLength,
      params.initialCounterValue].all
    (·.all fun value => BigEndian.FitsSigned 4 value) then .ok params
  else .error .valueError

/-- What the constructors make of an argument. -/
def ValueClass.create (now : Int) :
    (valueClass : ValueClass) → Argument → Except CodecError valueClass.Data
  | .text, .none => .ok ""
  | .text, .text value => .ok value
  | .name, .none => .ok (⟨none, none⟩ : NameStructure)
  | .name, .text value =>
      .ok (⟨some value, some .uninterpretedTextString⟩ : NameStructure)
  | .name, .name nameValue nameType =>
      .ok (⟨some nameValue, nameType⟩ : NameStructure)
  | .name, _ => .error .valueError
  | .objectType, .none => .ok (none : Option ObjectType)
  | .objectType, .objectType value => .ok (some value)
  | .cryptographicAlgorithm, .none => .ok (none : Option CryptographicAlgorithm)
  | .cryptographicAlgorithm, .cryptographicAlgorithm value => .ok (some value)
  | .certificateType, .none => .ok (none : Option CertificateType)
  | .certificateType, .certificateType value => .ok (some value)
  | .state, .none => .ok (none : Option State)
  | .state, .state value => .ok (some value)
  | .integer, .none => .ok (0 : Int)
  | .integer, .integer value => validateInteger 4 value
  | .usageMask, .none => .ok (0 : Int)
  | .usageMask, .usageMasks flags => validateInteger 4 (combinedMask flags)
  | .interval, .none => .ok (none : Option Nat)
  | .interval, .integer value => validateInterval value
  | .dateTime, .none => validateInteger 8 now
  | .dateTime, .integer value => validateInteger 8 value
  | .dateTime, .boolean value => .ok (if value then 1 else 0 : Int)
  | .boolean, .none => .ok (none : Option Bool)
  | .boolean, .boolean value => .ok (some value)
  | .cryptographicParameters, .none => .ok ({} : CryptographicParameters)
  | .cryptographicParameters, .cryptographicParameters params =>
      validateParameters params
  | .digest, _ => .ok ({} : Digest)
  | .applicationSpecificInformation, .none =>
      .ok (⟨none, none⟩ : ApplicationInformationStructure)
  | .applicationSpecificInformation, .applicationInformation space data =>
      .ok (⟨space, data⟩ : ApplicationInformationStructure)
  | _, _ => .error .typeError

/-- The classes of `create_attribute_value`. -/
def attributeValueClass : AttributeType → Except CodecError ValueClass
  | .uniqueIdentifier => .ok .text
  | .name => .ok .name
  | .objectType => .ok .objectType
  | .cryptographicAlgorithm => .ok .cryptographicAlgorithm
  | .cryptographicLength => .ok .integer
  | .cryptographicParameters => .ok .cryptographicParameters
  | .cryptographicDomainParameters => .error .notImplementedError
  | .certificateType => .ok .certificateType
  | .certificateLength => .ok .integer
  | .x509CertificateIdentifier => .error .notImplementedError
  | .x509CertificateSubject => .error .notImplementedError
  | .x509CertificateIssuer => .error .notImplementedError
  | .certificateIdentifier => .error .notImplementedError
  | .certificateSubject => .error .notImplementedError
  | .certificateIssuer => .error .notImplementedError
  | .digitalSignatureAlgorithm => .error .notImplementedError
  | .digest => .ok .digest
  | .operationPolicyName => .ok .text
  | .cryptographicUsageMask => .ok .usageMask
  | .leaseTime => .ok .interval
  | .usageLimits => .error .notImplementedError
  | .state => .ok .state
  | .initialDate => .ok .dateTime
  | .activationDate => .ok .dateTime
  | .processStartDate => .ok .dateTime
  | .protectStopDate => .ok .dateTime
  | .deactivationDate => .ok .dateTime
  | .destroyDate => .ok .dateTime
  | .compromiseOccurrenceDate => .ok .dateTime
  | .compromiseDate => .ok .dateTime
  | .revocationReason => .error .notImplementedError
  | .archiveDate => .ok .dateTime
  | .objectGroup => .ok .text
  | .fresh => .ok .boolean
  | .link => .error .notImplementedError
  | .applicationSpecificInformation => .ok .applicationSpecificInformation
  | .contactInformation => .ok .text
  | .lastChangeDate => .ok .dateTime
  | .sensitive => .ok .boolean
  | .alwaysSensitive => .ok .boolean
  | .extractable => .ok .boolean
  | .neverExtractable => .ok .boolean
  | .customAttribute => .ok .text
  | .originalCreationDate => .ok .dateTime
  | .alternativeName => .error .valueError
  | .keyValuePresent => .error .valueError
  | .keyValueLocation => .error .valueError

/-- The classes of `create_attribute_value_by_enum`. -/
def tagValueClass : Tag → Except CodecError ValueClass
  | .uniqueIdentifier => .ok .text
  | .name => .ok .name
  | .objectType => .ok .objectType
  | .cryptographicAlgorithm => .ok .cryptographicAlgorithm
  | .cryptographicLength => .ok .integer
  | .cryptographicParameters => .ok .cryptographicParameters
  | .cryptographicDomainParameters => .error .notImplementedError
  | .certificateType => .error .notImplementedError
  | .certificateLength => .ok .integer
  | .x509CertificateIdentifier => .error .notImplementedError
  | .x509CertificateSubject => .error .notImplementedError
  | .x509CertificateIssuer => .error .notImplementedError
  | .certificateIdentifier => .error .notImplementedError
  | .certificateSubject => .error .notImplementedError
  | .certificateIssuer => .error .notImplementedError
  | .digitalSignatureAlgorithm => .error .notImplementedError
  | .digest => .ok .digest
  | .operationPolicyName => .ok .text
  | .cryptographicUsageMask => .ok .usageMask
  | .leaseTime => .ok .interval
  | .usageLimits => .error .notImplementedError
  | .state => .ok .state
  | .initialDate => .ok .dateTime
  | .activationDate => .ok .dateTime
  | .processStartDate => .ok .dateTime
  | .protectStopDate => .ok .dateTime
  | .deactivationDate => .ok .dateTime
  | .destroyDate => .ok .dateTime
  | .compromiseOccurrenceDate => .ok .dateTime
  | .compromiseDate => .ok .dateTime
  | .revocationReason => .error .notImplementedError
  | .archiveDate => .ok .dateTime
  | .objectGroup => .ok .text
  | .fresh => .ok .boolean
  | .link => .error .notImplementedError
  | .applicationSpecificInformation => .ok .applicationSpecificInformation
  | .contactInformation => .ok .text
  | .lastChangeDate => .ok .dateTime
  | .sensitive => .ok .boolean
  | .customAttribute => .ok .text
  | _ => .error .valueError

def createAttributeValue
    (now : Int) (attributeType : AttributeType) (value : Argument) :
    Except CodecError ValueObject := do
  let valueClass ← attributeValueClass attributeType
  return ⟨valueClass, ← valueClass.create now value⟩

/-- `name.startswith('x-')`. -/
def isCustomName (name : String) : Bool := ['x', '-'].isPrefixOf name.toList

/-- `create_attribute_value` with a name that is not a member of
`AttributeType`. -/
def createCustomAttributeValue (name : String) (value : Argument) :
    Except CodecError (Option ValueObject) :=
  if isCustomName name then do
    return some ⟨.text, ← ValueClass.text.create 0 value⟩
  else .ok none

end Factory

end PyKMIP.Wire
