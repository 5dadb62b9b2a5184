import PyKMIP.Session.Authentication

/-!
# Access decisions for a session identity

The groups of an identity are whatever the answer of a SLUGS service holds.
The access check iterates over them, and looks up each one in a policy.
-/

namespace PyKMIP

/-- `for session_group in session_groups`. -/
def Json.sessionGroups : Json → Except PythonException (List Json)
  | .null => .ok [.null]
  | .array elements => .ok elements
  | .string value => .ok (value.toList.map fun char => .string (.singleton char))
  | .object members =>
      .ok ((Dict.ofPairs members).keys.map .string)
  | .boolean _ | .number _ | .notANumber => .error .typeError

section Decisions

variable (operationPolicies : OperationPolicies)
  (policyName sessionUser objectOwner : Option String)
  (objectType : ObjectType) (operation : Operation)

/-- `is_allowed` for one of the groups.  A group that is no string has no
section, and one that cannot be hashed cannot be looked up. -/
def isAllowedGroup (group : Json) : Except PythonException Bool :=
  if group.truthy then
    match group with
    | .string name =>
        .ok (isAllowed operationPolicies policyName sessionUser (some name)
          objectOwner objectType operation)
    | .array _ | .object _ =>
        match policyName.bind fun name => List.lookup name operationPolicies with
        | some { groups := _ :: _, .. } => .error .typeError
        | _ => .ok false
    | _ => .ok false
  else
    .ok (isAllowed operationPolicies policyName sessionUser none objectOwner
      objectType operation)

/-- The loop over the groups. -/
def anyGroupAllowed : List Json → Except PythonException Bool
  | [] => .ok false
  | group :: rest => do
      let allowed ← isAllowedGroup operationPolicies policyName sessionUser
        objectOwner objectType operation group
      if allowed then return true else anyGroupAllowed rest

end Decisions

def SessionIdentity.isAllowed (identity : SessionIdentity)
    (operationPolicies : OperationPolicies)
    (policyName objectOwner : Option String) (objectType : ObjectType)
    (operation : Operation) : Except PythonException Bool := do
  let groups ← identity.groups.sessionGroups
  anyGroupAllowed operationPolicies policyName (some identity.user) objectOwner
    objectType operation groups

section Names

variable {operationPolicies : OperationPolicies}
  {policyName objectOwner : Option String}
  {objectType : ObjectType} {operation : Operation} {user : String}

theorem isAllowedGroup_string (name : String) :
    isAllowedGroup operationPolicies policyName (some user) objectOwner
        objectType operation (.string name) =
      .ok (isAllowed operationPolicies policyName (some user) (some name)
        objectOwner objectType operation) := by
  unfold isAllowedGroup
  by_cases empty : name = ""
  · -- an empty name selects the preset section, like no name
    subst empty
    rfl
  · simp [Json.truthy, empty]

/-- For groups that are names, and for none, the engine decides as for the
client identity with these groups. -/
theorem isAllowed_of_names (names : List String) :
    (⟨user, .array (names.map .string)⟩ : SessionIdentity).isAllowed
        operationPolicies policyName objectOwner objectType operation =
      .ok (isAllowedByOperationPolicy operationPolicies policyName
        { user := some user, groups := some names } objectOwner objectType
        operation) := by
  unfold SessionIdentity.isAllowed isAllowedByOperationPolicy
  simp only [Json.sessionGroups, List.any_map]
  change anyGroupAllowed _ _ _ _ _ _ _ = _
  induction names with
  | nil => rfl
  | cons name names ih =>
      rw [List.map_cons, anyGroupAllowed, isAllowedGroup_string]
      cases allowed : isAllowed operationPolicies policyName (some user)
        (some name) objectOwner objectType operation with
      | true => simp [bind, Except.bind, allowed, pure, Except.pure]
      | false => simpa [bind, Except.bind, allowed] using ih

theorem isAllowed_of_null :
    (⟨user, .null⟩ : SessionIdentity).isAllowed operationPolicies policyName
        objectOwner objectType operation =
      .ok (isAllowedByOperationPolicy operationPolicies policyName
        { user := some user } objectOwner objectType operation) := by
  have group : isAllowedGroup operationPolicies policyName (some user)
      objectOwner objectType operation .null =
      .ok (isAllowed operationPolicies policyName (some user) none objectOwner
        objectType operation) := rfl
  unfold SessionIdentity.isAllowed isAllowedByOperationPolicy
  simp only [Json.sessionGroups, List.any_cons, List.any_nil, Bool.or_false]
  change anyGroupAllowed _ _ _ _ _ _ _ = _
  rw [anyGroupAllowed, group]
  cases isAllowed operationPolicies policyName (some user) none objectOwner
    objectType operation <;> rfl

end Names

end PyKMIP
