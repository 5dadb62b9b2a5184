import PyKMIP.PolicyFiles

/-!
# The shapes of policy files

The readers of a policy file raise a `ValueError` for every name that they do
not know, but they take the values on the way for mappings.  A content has the
shape that they assume when every value that they get to is a mapping where they
go through its items.
-/

namespace PyKMIP

/-- A reader returns or raises the exception that a scan catches. -/
def Acceptable (outcome : Except PyError α) : Prop :=
  ∀ exception, outcome = .error exception → exception = .python .valueError

section Rules

theorem acceptable_ok (value : α) :
    Acceptable (.ok value : Except PyError α) := by
  intro exception raised
  cases raised

theorem acceptable_valueError :
    Acceptable (.error (.python .valueError) : Except PyError α) := by
  intro exception raised
  cases raised
  rfl

theorem acceptable_error_iff {exception : PyError} :
    Acceptable (.error exception : Except PyError α) ↔
      exception = .python .valueError := by
  constructor
  · intro acceptable
    exact acceptable exception rfl
  · rintro rfl
    exact acceptable_valueError

theorem acceptable_bind_iff
    {first : Except PyError α} {next : α → Except PyError β} :
    Acceptable (first >>= next) ↔
      Acceptable first ∧ ∀ value, first = .ok value → Acceptable (next value) := by
  cases first with
  | ok value =>
      constructor
      · intro acceptable
        refine ⟨acceptable_ok value, ?_⟩
        intro other same
        cases same
        exact acceptable
      · intro acceptable
        exact acceptable.2 value rfl
  | error exception =>
      have raised : (Except.error exception >>= next) = .error exception := rfl
      rw [raised, acceptable_error_iff, acceptable_error_iff]
      constructor
      · intro isValueError
        refine ⟨isValueError, ?_⟩
        intro value same
        cases same
      · intro acceptable
        exact acceptable.1

theorem acceptable_memberNamed
    (members : List α) (nameOf : α → String) (name : String) :
    Acceptable (memberNamed members nameOf name) := by
  unfold memberNamed
  split
  · exact acceptable_ok _
  · exact acceptable_valueError

theorem acceptable_then_ok {first : Except PyError α} (result : α → β) :
    Acceptable (first >>= fun value => .ok (result value)) ↔
      Acceptable first := by
  rw [acceptable_bind_iff]
  constructor
  · exact And.left
  · intro acceptable
    exact ⟨acceptable, fun value _ => acceptable_ok _⟩

end Rules

section Shapes

/-- All items have a shape, up to the first one that cannot be read. -/
def Reaches (read : String → Json → Except PyError α)
    (shaped : Json → Prop) : List (String × Json) → Prop
  | [] => True
  | (name, value) :: rest =>
      shaped value ∧
        ∀ result, read name value = .ok result → Reaches read shaped rest

theorem acceptable_collect_iff [DecidableEq κ]
    {read : String → Json → Except PyError (Option (κ × α))}
    {shaped : Json → Prop}
    (reads : ∀ name value, Acceptable (read name value) ↔ shaped value)
    (items : List (String × Json)) (dict : Dict κ α) :
    Acceptable (collect read items dict) ↔ Reaches read shaped items := by
  induction items generalizing dict with
  | nil =>
      constructor
      · exact fun _ => trivial
      · exact fun _ => acceptable_ok dict
  | cons item rest ih =>
      obtain ⟨name, value⟩ := item
      unfold collect Reaches
      rw [acceptable_bind_iff, reads]
      apply and_congr_right
      intro _
      apply forall_congr'
      intro result
      apply imp_congr_right
      intro _
      cases result with
      | none => exact ih dict
      | some entry => exact ih (dict.set entry.1 entry.2)

def Json.IsMapping (value : Json) : Prop :=
  ∃ members, value = .object members

/-- The items of a mapping have a shape. -/
def Json.Shaped (items : List (String × Json) → Prop) (value : Json) : Prop :=
  ∃ members, value = .object members ∧ items (Dict.ofPairs members).items

/-- A policy maps object types to mappings. -/
def PolicyShaped : Json → Prop :=
  Json.Shaped (Reaches parseOperationPolicies Json.IsMapping)

/-- The section of the groups maps their names to policies. -/
def GroupsShaped : Json → Prop :=
  Json.Shaped (Reaches parseGroup PolicyShaped)

/-- The parts of a policy are policies themselves. -/
def SectionsShaped (items : List (String × Json)) : Prop :=
  (∀ preset, section? items "preset" = some preset → PolicyShaped preset) ∧
    ((∀ preset, section? items "preset" = some preset →
      ∃ parsed, parsePolicy preset = .ok parsed) →
    ∀ groups, section? items "groups" = some groups → GroupsShaped groups)

/-- A policy has sections of one kind, or one of a kind that is unknown. -/
def EntryShaped (items : List (String × Json)) : Prop :=
  if items.map Prod.fst ⊆ policySections then SectionsShaped items
  else if items.map Prod.fst ⊆ objectTypeNames then
    Reaches parseOperationPolicies Json.IsMapping items
  else ¬items.map Prod.fst ⊆ policySections ++ objectTypeNames

/-- The text is no JSON, or a mapping of names to policies. -/
def FileShaped : FileContent → Prop
  | none => True
  | some policyBlob =>
      policyBlob.Shaped (Reaches readPolicy (Json.Shaped EntryShaped))

end Shapes

section Readers

theorem acceptable_items_iff
    {value : Json} {next : List (String × Json) → Except PyError α}
    {shaped : List (String × Json) → Prop}
    (reads : ∀ items, Acceptable (next items) ↔ shaped items) :
    Acceptable (value.items >>= next) ↔ value.Shaped shaped := by
  unfold Json.Shaped
  cases value with
  | object members =>
      have listed : (Json.object members).items >>= next =
        next (Dict.ofPairs members).items := rfl
      rw [listed, reads]
      constructor
      · intro holds
        exact ⟨members, rfl, holds⟩
      · rintro ⟨others, same, holds⟩
        cases same
        exact holds
  | null | boolean | number | notANumber | string | array =>
      constructor
      · intro acceptable
        cases acceptable _ rfl
      · rintro ⟨others, same, holds⟩
        cases same

theorem acceptable_parsePermission (operation : String) (permission : Json) :
    Acceptable (parsePermission operation permission) := by
  unfold parsePermission
  apply acceptable_bind_iff.mpr
  refine ⟨acceptable_memberNamed _ _ _, ?_⟩
  intro enumOperation _
  cases permission with
  | string name =>
      exact (acceptable_then_ok _).mpr (acceptable_memberNamed _ _ _)
  | null | boolean | number | notANumber | array | object =>
      exact acceptable_valueError

theorem acceptable_parseOperationPolicies_iff
    (objectType : String) (operationPolicies : Json) :
    Acceptable (parseOperationPolicies objectType operationPolicies) ↔
      operationPolicies.IsMapping := by
  have reads : ∀ items : List (String × Json),
      Acceptable (do
        let processed ← collect parsePermission items .empty
        let enumType ← memberNamed objectTypes ObjectType.name objectType
        return some (enumType, processed.items) :
          Except PyError (Option (ObjectType × List (Operation × Policy)))) ↔
        True := by
    intro items
    apply iff_of_true _ trivial
    apply acceptable_bind_iff.mpr
    constructor
    · have permissions : ∀ name value,
          Acceptable (parsePermission name value) ↔ (fun _ => True) value :=
        fun name value =>
          iff_of_true (acceptable_parsePermission name value) trivial
      apply (acceptable_collect_iff permissions items .empty).mpr
      induction items with
      | nil => trivial
      | cons item rest ih => exact ⟨trivial, fun _ _ => ih⟩
    · intro processed _
      exact (acceptable_then_ok _).mpr (acceptable_memberNamed _ _ _)
  unfold parseOperationPolicies
  rw [acceptable_items_iff reads]
  constructor
  · rintro ⟨members, same, _⟩
    exact ⟨members, same⟩
  · rintro ⟨members, same⟩
    exact ⟨members, same, trivial⟩

theorem acceptable_policyItems_iff (items : List (String × Json)) :
    Acceptable (do
      let result ← collect parseOperationPolicies items .empty
      return result.items : Except PyError PolicySection) ↔
      Reaches parseOperationPolicies Json.IsMapping items := by
  rw [← acceptable_collect_iff acceptable_parseOperationPolicies_iff items
    .empty]
  exact acceptable_then_ok _

theorem acceptable_parsePolicy_iff (policy : Json) :
    Acceptable (parsePolicy policy) ↔ PolicyShaped policy :=
  acceptable_items_iff acceptable_policyItems_iff

theorem acceptable_parseGroup_iff (groupName : String) (groupPolicy : Json) :
    Acceptable (parseGroup groupName groupPolicy) ↔
      PolicyShaped groupPolicy := by
  rw [← acceptable_parsePolicy_iff]
  exact acceptable_then_ok _

theorem acceptable_parseGroups_iff (groupPolicies : Json) :
    Acceptable (parseGroups groupPolicies) ↔ GroupsShaped groupPolicies := by
  apply acceptable_items_iff
  intro items
  rw [← acceptable_collect_iff acceptable_parseGroup_iff items .empty]
  exact acceptable_then_ok _

theorem mapM_some (read : Json → Except PyError α) (value : Json) :
    Option.mapM read (some value) =
      (read value >>= fun result => .ok (some result)) := by
  change (do return some (← read value)) = _
  cases read value <;> rfl

/-- A section is only read when it is there. -/
theorem acceptable_mapM_iff
    {part : Option Json} {read : Json → Except PyError α}
    {shaped : Json → Prop}
    (reads : ∀ value, Acceptable (read value) ↔ shaped value) :
    Acceptable (part.mapM read) ↔ ∀ value, part = some value → shaped value := by
  cases part with
  | none =>
      apply iff_of_true (acceptable_ok none)
      intro value missing
      cases missing
  | some value =>
      rw [mapM_some, acceptable_then_ok, reads]
      simp

theorem mapM_isOk_iff
    {part : Option Json} {read : Json → Except PyError α} :
    (∃ result, part.mapM read = .ok result) ↔
      ∀ value, part = some value → ∃ result, read value = .ok result := by
  cases part with
  | none =>
      apply iff_of_true ⟨none, rfl⟩
      intro value missing
      cases missing
  | some value =>
      rw [mapM_some]
      cases outcome : read value with
      | ok result =>
          apply iff_of_true ⟨some result, rfl⟩
          intro other same
          cases same
          exact ⟨result, outcome⟩
      | error exception =>
          apply iff_of_false
          · rintro ⟨result, same⟩
            cases same
          · intro reads
            obtain ⟨result, same⟩ := reads value rfl
            rw [outcome] at same
            cases same

theorem acceptable_parseSections_iff (items : List (String × Json)) :
    Acceptable (parseSections items) ↔ SectionsShaped items := by
  unfold parseSections SectionsShaped
  rw [acceptable_bind_iff, acceptable_mapM_iff acceptable_parsePolicy_iff]
  apply and_congr_right
  intro _
  rw [← acceptable_mapM_iff acceptable_parseGroups_iff, ← mapM_isOk_iff]
  constructor
  · rintro acceptable ⟨preset, parsed⟩
    exact (acceptable_then_ok _).mp (acceptable preset parsed)
  · intro acceptable preset parsed
    exact (acceptable_then_ok _).mpr (acceptable ⟨preset, parsed⟩)

theorem shaped_object_iff
    {shaped : List (String × Json) → Prop} {members : List (String × Json)} :
    (Json.object members).Shaped shaped ↔
      shaped (Dict.ofPairs members).items := by
  constructor
  · rintro ⟨others, same, holds⟩
    cases same
    exact holds
  · intro holds
    exact ⟨members, rfl, holds⟩

theorem acceptable_readPolicy_iff (name : String) (objectPolicy : Json) :
    Acceptable (readPolicy name objectPolicy) ↔
      objectPolicy.Shaped EntryShaped := by
  cases objectPolicy with
  | object members =>
      have parsed := acceptable_parsePolicy_iff (.object members)
      unfold PolicyShaped at parsed
      rw [shaped_object_iff] at parsed ⊢
      have listed : (Json.object members).items =
        .ok (Dict.ofPairs members).items := rfl
      unfold readPolicy EntryShaped
      rw [listed]
      generalize (Dict.ofPairs members).items = items at parsed
      show Acceptable (if items.map Prod.fst = [] then _ else _) ↔ _
      by_cases empty : items = []
      · subst empty
        apply iff_of_true (acceptable_ok none)
        constructor
        · intro preset missing
          cases missing
        · intro _ groups missing
          cases missing
      · rw [if_neg (by simpa using empty)]
        split
        · rw [← acceptable_parseSections_iff]
          exact acceptable_then_ok _
        · split
          · rw [← parsed]
            exact acceptable_then_ok _
          · split
            · rename_i known
              apply iff_of_false
              · intro acceptable
                cases acceptable _ rfl
              · exact fun unknown => unknown known
            · rename_i unknown
              exact iff_of_true acceptable_valueError unknown
  | null | boolean | number | notANumber | string | array =>
      apply iff_of_false
      · intro acceptable
        cases acceptable _ rfl
      · rintro ⟨members, same, _⟩
        cases same

/-- A file is read without surprises just when it has the expected shape. -/
theorem acceptable_readPolicyFromFile_iff (content : FileContent) :
    Acceptable (readPolicyFromFile content) ↔ FileShaped content := by
  cases content with
  | none => exact iff_of_true acceptable_valueError trivial
  | some policyBlob =>
      apply acceptable_items_iff
      intro items
      exact acceptable_collect_iff acceptable_readPolicy_iff items .empty

end Readers

end PyKMIP
