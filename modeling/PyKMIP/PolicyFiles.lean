import PyKMIP.Lib.Dict
import PyKMIP.Lib.StatefulExcept
import PyKMIP.Exceptions
import PyKMIP.OperationPolicy

/-!
# Policy files

A policy file holds a JSON object that maps policy names to policies.  The
readers walk the decoded object as if all its parts were mappings.
-/

namespace PyKMIP

/-- A decoded JSON value.  The members of an object are those of its text; a
repeated name counts once, with its last value. -/
inductive Json where
  | null
  | boolean (value : Bool)
  | number (value : Rat)
  | notANumber
  | string (value : String)
  | array (elements : List Json)
  | object (members : List (String × Json))

namespace Json

/-- `value.items()`; only a mapping has items. -/
def items : Json → Except PyError (List (String × Json))
  | .object members => .ok (Dict.ofPairs members).items
  | _ => .error (.python .attributeError)

def truthy : Json → Bool
  | .null => false
  | .boolean value => value
  | .number value => value ≠ 0
  | .notANumber => true
  | .string value => value ≠ ""
  | .array elements => !elements.isEmpty
  | .object members => !members.isEmpty

end Json

section Names

def operations : List Operation :=
  [.create, .createKeyPair, .register, .rekey, .deriveKey, .certify, .recertify,
    .locate, .check, .get, .getAttributes, .getAttributeList, .addAttribute,
    .modifyAttribute, .deleteAttribute, .obtainLease, .getUsageAllocation,
    .activate, .revoke, .destroy, .archive, .recover, .validate, .query, .cancel,
    .poll, .notify, .put, .rekeyKeyPair, .discoverVersions, .encrypt, .decrypt,
    .sign, .signatureVerify, .mac, .macVerify, .rngRetrieve, .rngSeed, .hash,
    .createSplitKey, .joinSplitKey, .importObject, .exportObject, .log, .login,
    .logout, .delegatedLogin, .adjustAttribute, .setAttribute, .setEndpointRole,
    .pkcs11, .interop, .reprovision]

def objectTypes : List ObjectType :=
  [.certificate, .symmetricKey, .publicKey, .privateKey, .splitKey, .template,
    .secretData, .opaqueData, .pgpKey, .certificateRequest]

def Policy.name : Policy → String
  | .allowAll => "ALLOW_ALL"
  | .allowOwner => "ALLOW_OWNER"
  | .disallowAll => "DISALLOW_ALL"

def policies : List Policy := [.allowAll, .allowOwner, .disallowAll]

/-- `Enumeration[name]`, whose failure is raised again as a `ValueError`. -/
def memberNamed (members : List α) (nameOf : α → String) (name : String) :
    Except PyError α :=
  match members.find? fun member => nameOf member = name with
  | some member => .ok member
  | none => .error (.python .valueError)

end Names

section Parsing

/-- One dictionary entry for every item that is not skipped. -/
def collect [DecidableEq κ]
    (read : String → Json → Except PyError (Option (κ × α))) :
    List (String × Json) → Dict κ α → Except PyError (Dict κ α)
  | [], dict => .ok dict
  | (name, value) :: rest, dict => do
      match ← read name value with
      | some (key, result) => collect read rest (dict.set key result)
      | none => collect read rest dict

def parsePermission (operation : String) (permission : Json) :
    Except PyError (Option (Operation × Policy)) := do
  let enumOperation ← memberNamed operations Operation.name operation
  match permission with
  | .string name => do
      let enumPolicy ← memberNamed policies Policy.name name
      return some (enumOperation, enumPolicy)
  -- a value that is not a string is no key of the enumeration, or not hashable
  | _ => .error (.python .valueError)

def parseOperationPolicies (objectType : String) (operationPolicies : Json) :
    Except PyError (Option (ObjectType × List (Operation × Policy))) := do
  let items ← operationPolicies.items
  let processed ← collect parsePermission items .empty
  let enumType ← memberNamed objectTypes ObjectType.name objectType
  return some (enumType, processed.items)

def parsePolicy (policy : Json) : Except PyError PolicySection := do
  let items ← policy.items
  let result ← collect parseOperationPolicies items .empty
  return result.items

def parseGroup (groupName : String) (groupPolicy : Json) :
    Except PyError (Option (String × PolicySection)) := do
  let policySection ← parsePolicy groupPolicy
  return some (groupName, policySection)

def parseGroups (groupPolicies : Json) :
    Except PyError (List (String × PolicySection)) := do
  let items ← groupPolicies.items
  let parsed ← collect parseGroup items .empty
  return parsed.items

def policySections : List String := ["groups", "preset"]

def objectTypeNames : List String := objectTypes.map ObjectType.name

/-- The value under a name of a mapping, if it is one that Python takes for
true. -/
def section? (items : List (String × Json)) (name : String) : Option Json :=
  (items.lookup name).filter Json.truthy

def parseSections (items : List (String × Json)) :
    Except PyError PolicyBundle := do
  let preset ← (section? items "preset").mapM parsePolicy
  let groups ← (section? items "groups").mapM parseGroups
  return { preset := preset, groups := groups.getD [] }

/-- One policy of a file; an empty one is skipped. -/
def readPolicy (name : String) (objectPolicy : Json) :
    Except PyError (Option (String × PolicyBundle)) := do
  let items ← objectPolicy.items
  let sections := items.map Prod.fst
  if sections = [] then return none
  else if sections ⊆ policySections then do
    let bundle ← parseSections items
    return some (name, bundle)
  else if sections ⊆ objectTypeNames then do
    let policy ← parsePolicy objectPolicy
    return some (name, { preset := some policy })
  -- the first of no invalid sections cannot be taken for the message
  else if sections ⊆ policySections ++ objectTypeNames then
    .error (.python .keyError)
  else .error (.python .valueError)

abbrev PolicyTable := Dict String PolicyBundle

/-- The content of a file: a JSON value, or a text that is none. -/
abbrev FileContent := Option Json

def readPolicyFromFile (content : FileContent) : Except PyError PolicyTable := do
  match content with
  | none => .error (.python .valueError)
  | some policyBlob => do
      let items ← policyBlob.items
      collect readPolicy items .empty

end Parsing

end PyKMIP
