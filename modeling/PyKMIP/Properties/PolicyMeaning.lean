import PyKMIP.OperationPolicy
import Mathlib.Tactic.Common

/-!
# The meaning of policies

The preset section applies to sessions without groups, the sections of its
groups to a session that has them.  A policy without a groups collection does
not support groups: none of its sections applies to a session that has some,
where the documentation has the preset section apply.
-/

namespace PyKMIP

section Documentation

/-- The collections that a policy defines; either may be missing or empty. -/
structure PolicyCollections where
  preset : Option PolicySection := none
  groups : Option (List (String × PolicySection)) := none
deriving Repr

abbrev PolicyCatalog := List (String × PolicyCollections)

/-- The engine treats a missing groups collection like an empty one. -/
def PolicyCollections.bundle (policy : PolicyCollections) : PolicyBundle where
  preset := policy.preset
  groups := policy.groups.getD []

def PolicyCatalog.table (policies : PolicyCatalog) : OperationPolicies :=
  policies.map fun entry => (entry.1, entry.2.bundle)

/-- The sections of a policy that apply to a session. -/
def applicableSections (sessionGroups : Option (List String))
    (policy : PolicyCollections) : List PolicySection :=
  match sessionGroups, policy.groups with
  | some names, some sections => names.filterMap (List.lookup · sections)
  | some _, none => []
  | none, _ => policy.preset.toList

/-- The sections that apply by the documentation. -/
def documentedSections (sessionGroups : Option (List String))
    (policy : PolicyCollections) : List PolicySection :=
  match sessionGroups, policy.groups with
  | some names, some sections => names.filterMap (List.lookup · sections)
  | some _, none => policy.preset.toList
  | none, _ => policy.preset.toList

/-- The section allows the operation to everyone, or to the owner, whom the user
matches. -/
def PolicySection.Grants (policySection : PolicySection)
    (sessionUser objectOwner : Option String) (objectType : ObjectType)
    (operation : Operation) : Prop :=
  ∃ operations, List.lookup objectType policySection = some operations ∧
    (List.lookup operation operations = some .allowAll ∨
      List.lookup operation operations = some .allowOwner ∧
        matchOwner sessionUser objectOwner = true)

variable (policies : PolicyCatalog) (policyName : Option String)
  (sessionIdentity : ClientIdentity) (objectOwner : Option String)
  (objectType : ObjectType) (operation : Operation)

/-- A section of the named policy that applies to the session grants the
operation. -/
def PolicyCatalog.Grants
    (sections : Option (List String) → PolicyCollections → List PolicySection) :
    Prop :=
  ∃ name policy, policyName = some name ∧
    List.lookup name policies = some policy ∧
    ∃ policySection ∈ sections sessionIdentity.groups policy,
      PolicySection.Grants policySection sessionIdentity.user objectOwner
        objectType operation

/-- If the session has groups and the named policy only defines preset controls,
these do not grant the operation. -/
def PolicyCatalog.PresetIsSilent : Prop :=
  ∀ names name policy, sessionIdentity.groups = some names →
    policyName = some name → List.lookup name policies = some policy →
    policy.groups = none → ∀ policySection ∈ policy.preset,
      ¬PolicySection.Grants policySection sessionIdentity.user objectOwner
        objectType operation

end Documentation

section Evaluation

variable {policies : PolicyCatalog} {policyName : Option String}
  {objectOwner : Option String} {objectType : ObjectType}
  {operation : Operation} {sessionUser : Option String}

theorem lookup_table
    (policies : PolicyCatalog) (name : String) :
    List.lookup name policies.table =
      (List.lookup name policies).map PolicyCollections.bundle := by
  induction policies with
  | nil => rfl
  | cons entry rest ih =>
      obtain ⟨key, policy⟩ := entry
      unfold PolicyCatalog.table at ih ⊢
      rw [List.map_cons, List.lookup_cons, List.lookup_cons]
      cases name == key with
      | true => rfl
      | false => exact ih

theorem isAllowed_iff_grants
    {operationPolicies : OperationPolicies} {sessionGroup : Option String} :
    isAllowed operationPolicies policyName sessionUser sessionGroup objectOwner
        objectType operation = true ↔
      ∃ policySection,
        getRelevantPolicySection operationPolicies policyName sessionGroup =
            some policySection ∧
          PolicySection.Grants policySection sessionUser objectOwner objectType
            operation := by
  unfold isAllowed
  cases relevant : getRelevantPolicySection operationPolicies policyName
      sessionGroup with
  | none => simp
  | some policySection =>
      cases typed : List.lookup objectType policySection with
      | none => simp [PolicySection.Grants, typed]
      | some operations =>
          cases entry : List.lookup operation operations with
          | none => simp [PolicySection.Grants, typed, entry]
          | some permission =>
              cases permission <;>
                simp [PolicySection.Grants, typed, entry]

/-- An empty section grants nothing, whether it counts as relevant or not. -/
theorem not_grants_nil :
    ¬PolicySection.Grants [] sessionUser objectOwner objectType operation := by
  rintro ⟨operations, found, _⟩
  cases found

theorem relevant_preset
    {name : String} {policy : PolicyCollections}
    (named : List.lookup name policies = some policy) :
    getRelevantPolicySection policies.table (some name) none = policy.preset := by
  unfold getRelevantPolicySection
  rw [Option.bind_some, lookup_table, named]
  rfl

theorem relevant_group
    {name group : String} {policy : PolicyCollections}
    (named : List.lookup name policies = some policy) (nonempty : group ≠ "")
    {policySection : PolicySection} :
    getRelevantPolicySection policies.table (some name) (some group) =
        some policySection ↔
      policySection ≠ [] ∧
        List.lookup group (policy.groups.getD []) = some policySection := by
  unfold getRelevantPolicySection
  rw [Option.bind_some, lookup_table, named]
  simp only [Option.map_some, Option.bind_some]
  have truthy : truthyText (some group) = true := by
    simpa [truthyText] using nonempty
  rw [if_pos truthy]
  rw [show policy.bundle.groups = policy.groups.getD [] from rfl]
  cases List.lookup group (policy.groups.getD []) with
  | none => simp
  | some found =>
      cases found with
      | nil => simp [eq_comm]
      | cons first rest =>
          constructor
          · intro same
            cases same
            exact ⟨List.cons_ne_nil _ _, rfl⟩
          · exact fun found => found.2

/-- One of the sections that the engine consults grants the operation. -/
theorem isAllowedByOperationPolicy_iff
    {operationPolicies : OperationPolicies}
    {sessionIdentity : ClientIdentity} :
    isAllowedByOperationPolicy operationPolicies policyName sessionIdentity
        objectOwner objectType operation = true ↔
      ∃ sessionGroup ∈ (sessionIdentity.groups.map
          fun names => names.map some).getD [none],
        ∃ policySection,
          getRelevantPolicySection operationPolicies policyName sessionGroup =
              some policySection ∧
            PolicySection.Grants policySection sessionIdentity.user objectOwner
              objectType operation := by
  unfold isAllowedByOperationPolicy
  cases sessionIdentity.groups with
  | none => simp [isAllowed_iff_grants]
  | some names => simp [isAllowed_iff_grants]

theorem getRelevantPolicySection_eq_some
    {group : Option String} {policySection : PolicySection}
    (relevant : getRelevantPolicySection policies.table policyName group =
      some policySection) :
    ∃ name policy, policyName = some name ∧
      List.lookup name policies = some policy := by
  unfold getRelevantPolicySection at relevant
  cases policyName with
  | none => cases relevant
  | some name =>
      rw [Option.bind_some, lookup_table] at relevant
      cases named : List.lookup name policies with
      | none =>
          rw [named] at relevant
          cases relevant
      | some policy => exact ⟨name, policy, rfl, named⟩

theorem mem_applicableSections
    {sessionGroups : Option (List String)} {policy : PolicyCollections}
    {policySection : PolicySection} :
    policySection ∈ applicableSections sessionGroups policy ↔
      (sessionGroups = none ∧ policy.preset = some policySection) ∨
        ∃ names, sessionGroups = some names ∧ ∃ group ∈ names,
          List.lookup group (policy.groups.getD []) = some policySection := by
  unfold applicableSections
  cases sessionGroups with
  | none => simp
  | some names =>
      cases policy.groups with
      | none => simp
      | some sections => simp

theorem isAllowedByOperationPolicy_table_iff
    {sessionIdentity : ClientIdentity}
    (nonempty : ∀ names, sessionIdentity.groups = some names → "" ∉ names) :
    isAllowedByOperationPolicy policies.table policyName sessionIdentity
        objectOwner objectType operation = true ↔
      policies.Grants policyName sessionIdentity objectOwner objectType
        operation applicableSections := by
  rw [isAllowedByOperationPolicy_iff]
  unfold PolicyCatalog.Grants
  constructor
  · rintro ⟨group, member, policySection, relevant, grants⟩
    obtain ⟨name, policy, rfl, named⟩ :=
      getRelevantPolicySection_eq_some relevant
    refine ⟨name, policy, rfl, named, policySection, ?_, grants⟩
    rw [mem_applicableSections]
    cases grouped : sessionIdentity.groups with
    | none =>
        rw [grouped] at member
        rw [List.mem_singleton.mp member, relevant_preset named] at relevant
        exact .inl ⟨rfl, relevant⟩
    | some names =>
        rw [grouped] at member
        obtain ⟨groupName, listed, rfl⟩ := List.mem_map.mp member
        have present : groupName ≠ "" := by
          rintro rfl
          exact nonempty names grouped listed
        exact .inr ⟨names, rfl, groupName, listed,
          ((relevant_group named present).mp relevant).2⟩
  · rintro ⟨name, policy, rfl, named, policySection, member, grants⟩
    rcases mem_applicableSections.mp member with
      ⟨ungrouped, preset⟩ | ⟨names, grouped, groupName, listed, found⟩
    · rw [ungrouped]
      refine ⟨none, .head _, policySection, ?_, grants⟩
      rw [relevant_preset named]
      exact preset
    · rw [grouped]
      have present : groupName ≠ "" := by
        rintro rfl
        exact nonempty names grouped listed
      refine ⟨some groupName, List.mem_map_of_mem listed, policySection, ?_,
        grants⟩
      refine (relevant_group named present).mpr ⟨?_, found⟩
      rintro rfl
      exact not_grants_nil grants

/-- The documentation is met unless a session with groups meets preset controls
that are the only ones and grant the operation. -/
theorem documentedSections_agree_iff
    {sessionIdentity : ClientIdentity} :
    (policies.Grants policyName sessionIdentity objectOwner objectType operation
          applicableSections ↔
        policies.Grants policyName sessionIdentity objectOwner objectType
          operation documentedSections) ↔
      policies.PresetIsSilent policyName sessionIdentity objectOwner objectType
        operation := by
  unfold PolicyCatalog.Grants PolicyCatalog.PresetIsSilent
  constructor
  · rintro agrees names name policy grouped rfl named ungrouped policySection
      preset grants
    have granted := agrees.mpr ⟨name, policy, rfl, named, policySection, by
      unfold documentedSections
      rw [grouped, ungrouped]
      exact Option.mem_toList.mpr preset, grants⟩
    obtain ⟨other, found, same, alsoNamed, granting, member, _⟩ := granted
    cases same
    rw [named] at alsoNamed
    cases alsoNamed
    rw [grouped] at member
    unfold applicableSections at member
    rw [ungrouped] at member
    cases member
  · intro silent
    apply exists_congr
    intro name
    apply exists_congr
    intro policy
    apply and_congr_right
    intro isName
    apply and_congr_right
    intro named
    unfold applicableSections documentedSections
    cases grouped : sessionIdentity.groups with
    | none => rfl
    | some names =>
        cases defined : policy.groups with
        | some sections => rfl
        | none =>
            constructor
            · rintro ⟨_, member, _⟩
              cases member
            · rintro ⟨policySection, member, grants⟩
              exact absurd grants (silent names name policy grouped isName
                named defined policySection (Option.mem_toList.mp member))

/-- The engine grants what an applicable section grants, and nothing else; more
groups never deny what fewer grant. -/
theorem policy_evaluation_has_meaning
    (policies : PolicyCatalog) (policyName : Option String)
    (sessionIdentity : ClientIdentity) (objectOwner : Option String)
    (objectType : ObjectType) (operation : Operation)
    (nonempty : ∀ names, sessionIdentity.groups = some names → "" ∉ names) :
    (isAllowedByOperationPolicy policies.table policyName sessionIdentity
          objectOwner objectType operation = true ↔
        policies.Grants policyName sessionIdentity objectOwner objectType
          operation applicableSections) ∧
      ∀ names larger, sessionIdentity.groups = some names → names ≠ [] →
        names ⊆ larger →
        isAllowedByOperationPolicy policies.table policyName sessionIdentity
          objectOwner objectType operation = true →
        isAllowedByOperationPolicy policies.table policyName
          { sessionIdentity with groups := some larger } objectOwner objectType
          operation = true := by
  constructor
  · exact isAllowedByOperationPolicy_table_iff nonempty
  · intro names larger grouped _ within
    rw [isAllowedByOperationPolicy_iff, isAllowedByOperationPolicy_iff, grouped]
    rintro ⟨group, member, grants⟩
    exact ⟨group, List.map_subset some within member, grants⟩

end Evaluation

section Samples

/-- A policy that allows a group to read keys. -/
def staffPolicy : PolicyCatalog :=
  [("default",
    { groups := some [("staff", [(.symmetricKey, [(.get, .allowAll)])])] })]

theorem policy_evaluation_has_meaning_staff :
    staffPolicy.Grants (some "default")
        { user := some "alice", groups := some ["staff"] } none .symmetricKey
        .get applicableSections ∧
      isAllowedByOperationPolicy staffPolicy.table (some "default")
        { user := some "alice", groups := some ["auditors", "staff"] } none
        .symmetricKey .get = true := by
  obtain ⟨meaning, grows⟩ := policy_evaluation_has_meaning staffPolicy
    (some "default") { user := some "alice", groups := some ["staff"] } none
    .symmetricKey .get
    (by
      rintro names grouped
      cases grouped
      decide)
  have allowed : isAllowedByOperationPolicy staffPolicy.table (some "default")
      { user := some "alice", groups := some ["staff"] } none .symmetricKey
      .get = true := by decide
  constructor
  · exact meaning.mp allowed
  · exact grows ["staff"] ["auditors", "staff"] rfl (by decide) (by decide)
      allowed

/-- A policy that only defines preset controls. -/
def presetOnly : PolicyCatalog :=
  [("default", { preset := some [(.symmetricKey, [(.get, .allowAll)])] })]

/-- A session with a group is denied what the preset section allows to all. -/
theorem policy_evaluation_is_not_documented :
    ¬∀ (policies : PolicyCatalog) (policyName : Option String)
      (sessionIdentity : ClientIdentity) (objectOwner : Option String)
      (objectType : ObjectType) (operation : Operation),
      (∀ names, sessionIdentity.groups = some names → "" ∉ names) →
      (isAllowedByOperationPolicy policies.table policyName sessionIdentity
          objectOwner objectType operation = true ↔
        policies.Grants policyName sessionIdentity objectOwner objectType
          operation documentedSections) := by
  intro documented
  have agrees := documented presetOnly (some "default")
    { user := some "alice", groups := some ["staff"] } none .symmetricKey .get
    (by
      rintro names grouped
      cases grouped
      decide)
  have granted : presetOnly.Grants (some "default")
      { user := some "alice", groups := some ["staff"] } none .symmetricKey
      .get documentedSections :=
    ⟨_, _, rfl, rfl, _, .head _, _, rfl, .inl rfl⟩
  exact absurd (agrees.mpr granted) (by decide)

end Samples

end PyKMIP
