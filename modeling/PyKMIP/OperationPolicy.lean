import PyKMIP.Attributes
import PyKMIP.Lib.Dict

/-!
# Operation policies

A policy has a preset section and sections for groups; a section maps object
types and operations to permissions.  `isAllowedByOperationPolicy` decides
whether one of the groups of a session may carry out an operation.
-/

namespace PyKMIP

abbrev PolicySection := List (ObjectType × List (Operation × Policy))

structure PolicyBundle where
  preset : Option PolicySection := none
  groups : List (String × PolicySection) := []
deriving DecidableEq, Repr

section Comparison

/-- The sections of a policy are nested dictionaries. -/
def PolicySection.same (first second : PolicySection) : Bool :=
  Dict.sameItems (Dict.sameItems fun permission other => permission = other)
    first second

/-- A section that is missing has no key. -/
def PolicyBundle.same (first second : PolicyBundle) : Bool :=
  (match first.preset, second.preset with
    | none, none => true
    | some preset, some other => preset.same other
    | _, _ => false) &&
  Dict.sameItems PolicySection.same first.groups second.groups

end Comparison

abbrev OperationPolicies := List (String × PolicyBundle)

/-- What the session knows of the client: a user, and groups when it has them. -/
structure ClientIdentity where
  user : Option String := none
  groups : Option (List String) := none
deriving DecidableEq, Repr

section Owners

/-- The first characters of the blocks of ten decimal digits. -/
def decimalZeros : List Nat :=
  [0x30, 0x660, 0x6f0, 0x7c0, 0x966, 0x9e6, 0xa66, 0xae6, 0xb66, 0xbe6, 0xc66,
   0xce6, 0xd66, 0xde6, 0xe50, 0xed0, 0xf20, 0x1040, 0x1090, 0x17e0, 0x1810,
   0x1946, 0x19d0, 0x1a80, 0x1a90, 0x1b50, 0x1bb0, 0x1c40, 0x1c50, 0xa620,
   0xa8d0, 0xa900, 0xa9d0, 0xa9f0, 0xaa50, 0xabf0, 0xff10, 0x104a0, 0x10d30,
   0x11066, 0x110f0, 0x11136, 0x111d0, 0x112f0, 0x11450, 0x114d0, 0x11650,
   0x116c0, 0x11730, 0x118e0, 0x11950, 0x11c50, 0x11d50, 0x11da0, 0x16a60,
   0x16ac0, 0x16b50, 0x1d7ce, 0x1d7d8, 0x1d7e2, 0x1d7ec, 0x1d7f6, 0x1e140,
   0x1e2f0, 0x1e950, 0x1fbf0]

/-- The characters that `\d` matches. -/
def isDecimalDigit (char : Char) : Bool :=
  decimalZeros.any fun first => first ≤ char.toNat && char.toNat < first + 10

def stripPrefix (expected chars : List Char) : Option (List Char) :=
  if expected.isPrefixOf chars then some (chars.drop expected.length) else none

def stripSuffix (expected chars : List Char) : Option (List Char) :=
  if expected.isSuffixOf chars
  then some (chars.take (chars.length - expected.length)) else none

/-- The part of the pattern after `\.cc\.`: a region of at least one character,
none of them a line feed, before the suffix; the end anchor also matches before
a last line feed. -/
def matchRegion (chars : List Char) : Option (List Char) := do
  let suffix := ".cloud.sap".toList
  let region ← stripSuffix suffix chars <|>
    stripSuffix (suffix ++ [.ofNat 0x0a]) chars
  guard (region ≠ [] ∧ Char.ofNat 0x0a ∉ region)
  return region

/-- `re.search` of the host name of a vCenter: its zone letter and region. -/
def matchVcenter (hostname : String) : Option (Char × String) := do
  let afterPrefix ← stripPrefix "vc-".toList hostname.toList
  let letter ← afterPrefix.head?
  guard ('a' ≤ letter ∧ letter ≤ 'z')
  let digits ← stripPrefix "-".toList afterPrefix.tail
  guard ((digits.head?.map isDecimalDigit) = some true)
  let rest ← stripPrefix ".cc.".toList (digits.dropWhile isDecimalDigit)
  let region ← matchRegion rest
  return (letter, .ofList region)

/-- A zone of a vCenter, or the host name itself when it is not one. -/
inductive AvailabilityZone where
  | vcenter (letter : Char) (region : String)
  | host (hostname : Option String)
deriving DecidableEq, Repr

def extractVcenterAz (hostname : Option String) : AvailabilityZone :=
  match hostname.bind matchVcenter with
  | some (letter, region) => .vcenter letter region
  | none => .host hostname

def matchOwner (sessionUser objectOwner : Option String) : Bool :=
  extractVcenterAz sessionUser = extractVcenterAz objectOwner

end Owners

section Permissions

variable (operationPolicies : OperationPolicies)

/-- An empty group name selects the preset section. -/
def getRelevantPolicySection (policyName group : Option String) :
    Option PolicySection :=
  match policyName.bind fun name => List.lookup name operationPolicies with
  | none => none
  | some bundle =>
      if truthyText group then
        match group.bind fun name => List.lookup name bundle.groups with
        | none => none
        | some [] => none
        | some policySection => some policySection
      else bundle.preset

def isAllowed (policyName sessionUser sessionGroup objectOwner : Option String)
    (objectType : ObjectType) (operation : Operation) : Bool :=
  match getRelevantPolicySection operationPolicies policyName sessionGroup with
  | none => false
  | some policySection =>
      match (List.lookup objectType policySection).bind (List.lookup operation ·) with
      | some .allowAll => true
      | some .allowOwner => matchOwner sessionUser objectOwner
      | some .disallowAll => false
      | none => false

def isAllowedByOperationPolicy (policyName : Option String)
    (sessionIdentity : ClientIdentity) (objectOwner : Option String)
    (objectType : ObjectType) (operation : Operation) : Bool :=
  let sessionGroups :=
    match sessionIdentity.groups with
    | some groups => groups.map some
    | none => [none]
  sessionGroups.any fun sessionGroup =>
    isAllowed operationPolicies policyName sessionIdentity.user sessionGroup
      objectOwner objectType operation

end Permissions

end PyKMIP
