import Mathlib.Algebra.Group.Int.Defs
import PyKMIP.AttributePolicy

/-!
# Attributes

An attribute value carries the class that its name decodes to.  The factory
turns what the server reads from an object into such values.
-/

namespace PyKMIP

abbrev Bytes := List UInt8

/-- Python's truth value of an integer column. -/
def truthyInt (value : Option Int) : Bool := value.any (· ≠ 0)

def truthyBytes (value : Option Bytes) : Bool := value.any (· ≠ [])

def truthyText (value : Option String) : Bool := value.any (· ≠ "")

structure CryptographicParameters where
  blockCipherMode : Option BlockCipherMode := none
  paddingMethod : Option PaddingMethod := none
  hashingAlgorithm : Option HashingAlgorithm := none
  keyRoleType : Option KeyRoleType := none
  digitalSignatureAlgorithm : Option DigitalSignatureAlgorithm := none
  cryptographicAlgorithm : Option CryptographicAlgorithm := none
  randomIv : Option Bool := none
  ivLength : Option Int := none
  tagLength : Option Int := none
  fixedFieldLength : Option Int := none
  invocationFieldLength : Option Int := none
  counterLength : Option Int := none
  initialCounterValue : Option Int := none
deriving DecidableEq, Repr

structure ApplicationSpecificInformation where
  applicationNamespace : String
  applicationData : String
deriving DecidableEq, Repr

structure Name where
  nameValue : String
  nameType : NameType
deriving DecidableEq, Repr

/-- The value classes that the attribute factory can create. -/
inductive AttributeValue where
  | text (value : String)
  | name (value : Name)
  | objectType (value : ObjectType)
  | cryptographicAlgorithm (value : CryptographicAlgorithm)
  | certificateType (value : CertificateType)
  | state (value : State)
  | integer (value : Int)
  | interval (value : Int)
  | dateTime (value : Int)
  | boolean (value : Bool)
  | cryptographicParameters (value : CryptographicParameters)
  | digest
  | applicationSpecificInformation (value : ApplicationSpecificInformation)
deriving DecidableEq, Repr

/-- The attribute structure of the 1.x protocol versions. -/
structure Attribute where
  attributeName : AttributeName
  attributeIndex : Option Int := none
  attributeValue : AttributeValue
deriving DecidableEq

/-- An attribute of protocol version 2.0, whose tag tells its name. -/
structure TaggedAttribute where
  attributeName : AttributeName
  attributeValue : AttributeValue
deriving DecidableEq

/-- What `_get_attribute_from_managed_object` reads from an object. -/
inductive ObjectAttribute where
  | text (value : String)
  | names (values : List Name)
  | objectType (value : ObjectType)
  | cryptographicAlgorithm (value : CryptographicAlgorithm)
  | certificateType (value : CertificateType)
  | state (value : State)
  | integer (value : Int)
  | dateTime (value : Int)
  | usageMasks (values : List CryptographicUsageMask)
  | objectGroups (values : List String)
  | applicationSpecificInformation
      (values : List ApplicationSpecificInformation)
  | boolean (value : Bool)
deriving DecidableEq, Repr

/-- The bit mask of a list of usage masks. -/
def combinedMask (masks : List CryptographicUsageMask) : Nat :=
  masks.foldl (fun mask flag => mask ||| flag.value) 0

/-- The bits that `&` with a member sees of a signed 32-bit integer. -/
def maskBits (mask : Int) : Nat := (mask % 2 ^ 32).toNat

/-- The members of the enumeration that have a bit in the mask. -/
def masksOf (mask : Int) : List CryptographicUsageMask :=
  CryptographicUsageMask.all.filter fun flag =>
    flag.value &&& maskBits mask ≠ 0

/-- `enums.get_enumerations_from_bit_mask`. -/
def getEnumerationsFromBitMask (mask : Int) : List CryptographicUsageMask :=
  CryptographicUsageMask.all.filter fun flag =>
    flag.value &&& maskBits mask = flag.value

namespace AttributeFactory

/-- The instances to which an attribute read from an object expands: several,
numbered from zero, for a multivalued attribute, and one without an index
otherwise. -/
def instances : ObjectAttribute → List AttributeValue
  | .text value => [.text value]
  | .names values => values.map .name
  | .objectType value => [.objectType value]
  | .cryptographicAlgorithm value => [.cryptographicAlgorithm value]
  | .certificateType value => [.certificateType value]
  | .state value => [.state value]
  | .integer value => [.integer value]
  | .dateTime value => [.dateTime value]
  | .usageMasks values => [.integer (combinedMask values)]
  | .objectGroups values => values.map .text
  | .applicationSpecificInformation values =>
      values.map .applicationSpecificInformation
  | .boolean value => [.boolean value]

def createAttributes (attributeName : AttributeName) (multivalued : Bool)
    (value : ObjectAttribute) : List Attribute :=
  if multivalued then
    (instances value).zipIdx.map fun (instance_, count) =>
      { attributeName := attributeName
        attributeIndex := some count
        attributeValue := instance_ }
  else
    (instances value).map fun instance_ =>
      { attributeName := attributeName
        attributeValue := instance_ }

end AttributeFactory

end PyKMIP
