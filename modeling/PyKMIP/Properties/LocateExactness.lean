import Mathlib.Data.List.TakeWhile
import PyKMIP.Runs

/-!
# Locate

What a list of filters asks of an object, and when the filter loop of Locate
finds exactly the objects that have it.
-/

namespace PyKMIP

open EStateM StatefulExcept
open AttributePolicy

section Filters

/-- A filter over an attribute that the server stores. -/
inductive LocateFilter where
  | name (value : Name)
  | objectType (value : ObjectType)
  | state (value : State)
  | uniqueIdentifier (value : String)
  | cryptographicAlgorithm (value : CryptographicAlgorithm)
  | cryptographicLength (value : Int)
  | cryptographicUsageMask (value : Int)
  | certificateType (value : CertificateType)
  | operationPolicyName (value : String)
  | objectGroup (value : String)
  | applicationSpecificInformation (value : ApplicationSpecificInformation)
  | sensitive (value : Bool)
  | initialDate (value : Int)

namespace LocateFilter

def attributeName : LocateFilter → AttributeName
  | .name _ => .name
  | .objectType _ => .objectType
  | .state _ => .state
  | .uniqueIdentifier _ => .uniqueIdentifier
  | .cryptographicAlgorithm _ => .cryptographicAlgorithm
  | .cryptographicLength _ => .cryptographicLength
  | .cryptographicUsageMask _ => .cryptographicUsageMask
  | .certificateType _ => .certificateType
  | .operationPolicyName _ => .operationPolicyName
  | .objectGroup _ => .objectGroup
  | .applicationSpecificInformation _ => .applicationSpecificInformation
  | .sensitive _ => .sensitive
  | .initialDate _ => .initialDate

def attributeValue : LocateFilter → AttributeValue
  | .name value => .name value
  | .objectType value => .objectType value
  | .state value => .state value
  | .uniqueIdentifier value => .text value
  | .cryptographicAlgorithm value => .cryptographicAlgorithm value
  | .cryptographicLength value => .integer value
  | .cryptographicUsageMask value => .integer value
  | .certificateType value => .certificateType value
  | .operationPolicyName value => .text value
  | .objectGroup value => .text value
  | .applicationSpecificInformation value =>
      .applicationSpecificInformation value
  | .sensitive value => .boolean value
  | .initialDate value => .dateTime value

/-- An attribute of the payload that carries the filter, with any index. -/
def Spells (filter : LocateFilter) (entry : Attribute) : Prop :=
  entry.attributeName = filter.attributeName ∧
    entry.attributeValue = filter.attributeValue

def date : LocateFilter → Option Int
  | .initialDate value => some value
  | _ => none

def isSensitive : LocateFilter → Bool
  | .sensitive _ => true
  | _ => false

/-- Every bit of the filter is a bit of the stored masks. -/
def includesMask (masks : List CryptographicUsageMask) (value : Int) : Bool :=
  maskBits value &&& combinedMask masks = maskBits value

variable (storedObject : StoredObject)

/-- What a filter asks of an object; the dates are asked for together. -/
def satisfied : LocateFilter → Bool
  | .name value =>
      value ∈ storedObject.managedObject.names.map fun name =>
        { nameValue := name, nameType := .uninterpretedTextString : Name }
  | .objectType value => value = storedObject.managedObject.objectType
  | .state value => storedObject.managedObject.state? = some value
  | .uniqueIdentifier value => value = toString storedObject.uniqueIdentifier
  | .cryptographicAlgorithm value =>
      storedObject.managedObject.keyFields?.any fun fields =>
        value = fields.cryptographicAlgorithm
  | .cryptographicLength value =>
      storedObject.managedObject.keyFields?.any fun fields =>
        value = fields.cryptographicLength
  | .cryptographicUsageMask value =>
      storedObject.managedObject.cryptographicUsageMasks?.any fun masks =>
        includesMask masks value
  | .certificateType value =>
      storedObject.managedObject.certificateType? = some value
  | .operationPolicyName value =>
      storedObject.managedObject.operationPolicyName = some value
  | .objectGroup value => value ∈ storedObject.managedObject.objectGroups
  | .applicationSpecificInformation value =>
      value ∈ storedObject.managedObject.appSpecificInfo
  | .sensitive value => storedObject.managedObject.sensitive = value
  | .initialDate _ => true

/-- A filter that the loop lets pass.  It overlooks an unset policy name and the
bits of a mask that are no usage masks, and it never lets a Boolean pass. -/
def passes : LocateFilter → Bool
  | .cryptographicUsageMask value =>
      storedObject.managedObject.cryptographicUsageMasks?.any fun masks =>
        (getEnumerationsFromBitMask value).all fun mask => mask ∈ masks
  | .operationPolicyName value =>
      storedObject.managedObject.operationPolicyName.all (value = ·)
  | .sensitive _ => false
  | filter => filter.satisfied storedObject

/-- The attribute applies to the type of the object, which has no such field. -/
def unreadable : LocateFilter → Bool
  | .cryptographicAlgorithm _ =>
      storedObject.managedObject.objectType = .certificate
  | .cryptographicLength _ =>
      storedObject.managedObject.objectType = .certificate
  | _ => false

end LocateFilter

/-- One date is matched exactly, two in either order are a closed range. -/
def datesMatch (date : Int) : List Int → Bool
  | [] => true
  | [requested] => date = requested
  | first :: second :: _ => min first second ≤ date ∧ date ≤ max first second

/-- An object has everything that the filters ask for. -/
def satisfies (filters : List LocateFilter) (storedObject : StoredObject) :
    Bool :=
  filters.all (·.satisfied storedObject) &&
    datesMatch storedObject.managedObject.initialDate
      (filters.filterMap LocateFilter.date)

end Filters

section Masks

theorem flag_eq_of_and_ne_zero :
    ∀ first ∈ CryptographicUsageMask.all, ∀ second ∈ CryptographicUsageMask.all,
      first.value &&& second.value ≠ 0 → first = second := by
  decide

theorem CryptographicUsageMask.mem_all (flag : CryptographicUsageMask) :
    flag ∈ CryptographicUsageMask.all := by
  cases flag <;> decide

theorem CryptographicUsageMask.value_ne_zero (flag : CryptographicUsageMask) :
    flag.value ≠ 0 := by
  cases flag <;> decide

/-- A flag whose bit is in a combined mask was combined into it. -/
theorem mem_of_and_combinedMask
    {flag : CryptographicUsageMask} {masks : List CryptographicUsageMask}
    (shares : flag.value &&& combinedMask masks ≠ 0) : flag ∈ masks := by
  have general : ∀ (masks : List CryptographicUsageMask) (start : Nat),
      flag.value &&& (masks.foldl (fun mask flag => mask ||| flag.value) start)
        ≠ 0 → flag.value &&& start ≠ 0 ∨ flag ∈ masks := by
    intro masks
    induction masks with
    | nil => exact fun start shares => .inl shares
    | cons first rest ih =>
        intro start shares
        rcases ih (start ||| first.value) shares with early | later
        · rw [Nat.and_or_distrib_left] at early
          by_cases here : flag.value &&& start = 0
          · rw [here, Nat.zero_or] at early
            have same := flag_eq_of_and_ne_zero flag flag.mem_all first
              first.mem_all early
            exact .inr (same ▸ .head _)
          · exact .inl here
        · exact .inr (.tail _ later)
  rcases general masks 0 shares with none | member
  · exact absurd (Nat.and_zero _) none
  · exact member

theorem mem_of_includesMask
    {masks : List CryptographicUsageMask} {value : Int}
    (includes : LocateFilter.includesMask masks value = true) :
    ∀ flag ∈ getEnumerationsFromBitMask value, flag ∈ masks := by
  unfold LocateFilter.includesMask at includes
  have within := of_decide_eq_true includes
  intro flag member
  unfold getEnumerationsFromBitMask at member
  have contained := of_decide_eq_true (List.mem_filter.mp member).2
  apply mem_of_and_combinedMask
  have shared : flag.value &&& combinedMask masks = flag.value := by
    calc flag.value &&& combinedMask masks
        = (flag.value &&& maskBits value) &&& combinedMask masks := by
          rw [contained]
      _ = flag.value &&& (maskBits value &&& combinedMask masks) :=
          Nat.and_assoc _ _ _
      _ = flag.value &&& maskBits value := by rw [within]
      _ = flag.value := contained
  rw [shared]
  exact flag.value_ne_zero

theorem LocateFilter.passes_of_satisfied
    {storedObject : StoredObject} {filter : LocateFilter}
    (satisfied : filter.satisfied storedObject = true)
    (comparable : filter.isSensitive = false) :
    filter.passes storedObject = true := by
  cases filter with
  | cryptographicUsageMask value =>
      unfold LocateFilter.satisfied at satisfied
      unfold LocateFilter.passes
      cases found : storedObject.managedObject.cryptographicUsageMasks? with
      | none =>
          rw [found] at satisfied
          cases satisfied
      | some masks =>
          rw [found] at satisfied
          simpa using mem_of_includesMask satisfied
  | operationPolicyName value =>
      have set := of_decide_eq_true satisfied
      simp [LocateFilter.passes, set]
  | sensitive value => cases comparable
  | _ => exact satisfied

end Masks

section Loop

/-- The dates that the loop has collected for an object. -/
def DateFilter.collected (value : Int) : List Int → DateFilter
  | [] => {}
  | [requested] => { value := some value, start := some requested }
  | first :: second :: _ =>
      { value := some value
        start := some (min first second)
        stop := some (max first second) }

theorem trackDateAttributes_collected
    (value requested : Int) {dates : List Int} (few : dates.length ≤ 1) :
    trackDateAttributes
        { DateFilter.collected value dates with value := some value }
        requested =
      .ok (DateFilter.collected value (dates ++ [requested])) := by
  match dates, few with
  | [], _ => rfl
  | [first], _ =>
      unfold trackDateAttributes DateFilter.collected
      by_cases later : requested > first
      · simp only [List.singleton_append, if_pos later,
          min_eq_left (le_of_lt later), max_eq_right (le_of_lt later)]
      · have earlier : requested ≤ first := not_lt.mp later
        simp only [List.singleton_append, if_neg later, min_eq_right earlier,
          max_eq_left earlier]
  | _ :: _ :: _, few => simp at few

section Applicability

variable (managedObject : ManagedObject)

theorem applicable_cryptographicObjects :
    cryptographicObjects.contains managedObject.objectType =
      managedObject.cryptographic?.isSome := by
  unfold ManagedObject.objectType ManagedObject.cryptographic?
  rcases managedObject with ⟨_, _, _, _, _, _, _, _, ⟨kind, _, _⟩ | _ | _ | _⟩
  · cases kind <;> rfl
  all_goals rfl

theorem applicable_everyObjectButOpaque :
    everyObjectButOpaque.contains managedObject.objectType =
      managedObject.cryptographic?.isSome := by
  unfold ManagedObject.objectType ManagedObject.cryptographic?
  rcases managedObject with ⟨_, _, _, _, _, _, _, _, ⟨kind, _, _⟩ | _ | _ | _⟩
  · cases kind <;> rfl
  all_goals rfl

theorem applicable_certificate :
    [ObjectType.certificate].contains managedObject.objectType =
      managedObject.certificateType?.isSome := by
  unfold ManagedObject.objectType ManagedObject.certificateType?
  rcases managedObject with ⟨_, _, _, _, _, _, _, _, ⟨kind, _, _⟩ | _ | _ | _⟩
  · cases kind <;> rfl
  all_goals rfl

/-- The attributes of keys are also taken to apply to certificates. -/
theorem applicable_keysCertificatesTemplates :
    keysCertificatesTemplates.contains managedObject.objectType =
      (managedObject.keyFields?.isSome ||
        managedObject.objectType = .certificate) := by
  unfold ManagedObject.objectType ManagedObject.keyFields?
  rcases managedObject with ⟨_, _, _, _, _, _, _, _, ⟨kind, _, _⟩ | _ | _ | _⟩
  · cases kind <;> rfl
  all_goals rfl

theorem not_certificate_of_keyFields {fields : KeyFields}
    (keyed : managedObject.keyFields? = some fields) :
    managedObject.objectType ≠ .certificate := by
  unfold ManagedObject.objectType
  unfold ManagedObject.keyFields? at keyed
  rcases managedObject with ⟨_, _, _, _, _, _, _, _, ⟨kind, _, _⟩ | _ | _ | _⟩
  · cases kind <;> simp
  all_goals cases keyed

theorem applicable_everyObject :
    (Except.ok (everyObject.contains managedObject.objectType) :
      Except PyError Bool) = .ok true :=
  congrArg Except.ok managedObject.objectType_mem_everyObject

end Applicability

variable (storedObject : StoredObject) (dates : DateFilter)

/-- What a round of the loop does for a filter that is no date. -/
def Rounds (filter : LocateFilter) : Prop :=
  ∀ (entry : Attribute) (rest : List Attribute), filter.Spells entry →
    evaluateFilters storedObject dates (entry :: rest) =
      if filter.passes storedObject then
        evaluateFilters storedObject dates rest
      else if filter.unreadable storedObject then
        .error (.python .attributeError)
      else .ok { addObject := false, dates := dates }

variable {storedObject dates} {filter : LocateFilter}

theorem Rounds.compared
    {existing : ObjectAttribute}
    (applicable : isAttributeApplicableToObjectType filter.attributeName
      storedObject.managedObject.objectType = .ok true)
    (read : getAttributeFromManagedObject storedObject filter.attributeName =
      .ok (some existing))
    (compared : ∀ entry : Attribute,
      entry.attributeValue = filter.attributeValue →
      matchesFilter dates entry existing =
        .ok (if filter.passes storedObject then some dates else none))
    (readable : filter.unreadable storedObject = false) :
    Rounds storedObject dates filter := by
  intro entry rest ⟨named, valued⟩
  rw [evaluateFilters, named, applicable, read]
  show (matchesFilter dates entry existing >>= _) = _
  rw [compared entry valued, readable]
  cases filter.passes storedObject <;> rfl

theorem Rounds.unset
    (applicable : isAttributeApplicableToObjectType filter.attributeName
      storedObject.managedObject.objectType = .ok true)
    (unset : getAttributeFromManagedObject storedObject filter.attributeName =
      .ok none)
    (passes : filter.passes storedObject = true) :
    Rounds storedObject dates filter := by
  intro entry rest ⟨named, _⟩
  rw [evaluateFilters, named, applicable, unset, passes]
  rfl

theorem Rounds.inapplicable
    (inapplicable : isAttributeApplicableToObjectType filter.attributeName
      storedObject.managedObject.objectType = .ok false)
    (fails : filter.passes storedObject = false)
    (readable : filter.unreadable storedObject = false) :
    Rounds storedObject dates filter := by
  intro entry rest ⟨named, _⟩
  rw [evaluateFilters, named, inapplicable, fails, readable]
  rfl

theorem Rounds.unreadable
    (applicable : isAttributeApplicableToObjectType filter.attributeName
      storedObject.managedObject.objectType = .ok true)
    (raises : getAttributeFromManagedObject storedObject filter.attributeName =
      .error (.python .attributeError))
    (fails : filter.passes storedObject = false)
    (unreadable : filter.unreadable storedObject = true) :
    Rounds storedObject dates filter := by
  intro entry rest ⟨named, _⟩
  rw [evaluateFilters, named, applicable, raises, fails, unreadable]
  rfl

theorem rounds_of_undated (undated : filter.date = none) :
    Rounds storedObject dates filter := by
  have everywhere := applicable_everyObject storedObject.managedObject
  cases filter with
  | initialDate value => cases undated
  | name value =>
      apply Rounds.compared
      · exact everywhere
      · rfl
      · intro entry valued
        simp [matchesFilter, valued, LocateFilter.attributeValue,
          LocateFilter.passes, LocateFilter.satisfied]
      · rfl
  | objectType value =>
      apply Rounds.compared
      · exact everywhere
      · rfl
      · intro entry valued
        simp [matchesFilter, valued, LocateFilter.attributeValue,
          AttributeValue.pyValue, LocateFilter.passes, LocateFilter.satisfied]
      · rfl
  | uniqueIdentifier value =>
      apply Rounds.compared
      · exact everywhere
      · rfl
      · intro entry valued
        simp [matchesFilter, valued, LocateFilter.attributeValue,
          AttributeValue.pyValue, LocateFilter.passes, LocateFilter.satisfied]
      · rfl
  | objectGroup value =>
      apply Rounds.compared
      · exact everywhere
      · rfl
      · intro entry valued
        simp [matchesFilter, valued, LocateFilter.attributeValue,
          AttributeValue.pyValue, LocateFilter.passes, LocateFilter.satisfied]
      · rfl
  | applicationSpecificInformation value =>
      apply Rounds.compared
      · exact everywhere
      · rfl
      · intro entry valued
        simp [matchesFilter, valued, LocateFilter.attributeValue,
          AttributeValue.asApplicationSpecificInformation, LocateFilter.passes, LocateFilter.satisfied]
      · rfl
  | sensitive value =>
      apply Rounds.compared
      · exact everywhere
      · rfl
      · intro entry valued
        rfl
      · rfl
  | operationPolicyName value =>
      cases policyName : storedObject.managedObject.operationPolicyName with
      | none =>
          apply Rounds.unset
          · exact everywhere
          · simp [LocateFilter.attributeName, getAttributeFromManagedObject,
              policyName]
          · simp [LocateFilter.passes, policyName]
      | some stored =>
          apply Rounds.compared
          · exact everywhere
          · simp only [LocateFilter.attributeName, getAttributeFromManagedObject,
              policyName]
            rfl
          · intro entry valued
            simp [matchesFilter, valued, LocateFilter.attributeValue,
              AttributeValue.pyValue, LocateFilter.passes, policyName]
          · rfl
  | state value =>
      have applicable := congrArg (Except.ok (ε := PyError))
        (applicable_cryptographicObjects storedObject.managedObject)
      cases stateful : storedObject.managedObject.cryptographic? with
      | none =>
          rw [stateful] at applicable
          apply Rounds.inapplicable
          · exact applicable
          · simp [LocateFilter.passes, LocateFilter.satisfied,
              ManagedObject.state?, stateful]
          · rfl
      | some fields =>
          rw [stateful] at applicable
          apply Rounds.compared
          · exact applicable
          · simp only [LocateFilter.attributeName, getAttributeFromManagedObject,
              ManagedObject.state?, stateful]
            rfl
          · intro entry valued
            simp [matchesFilter, valued, LocateFilter.attributeValue,
              AttributeValue.pyValue, LocateFilter.passes,
              LocateFilter.satisfied, ManagedObject.state?, stateful, eq_comm]
          · rfl
  | cryptographicUsageMask value =>
      have applicable := congrArg (Except.ok (ε := PyError))
        (applicable_everyObjectButOpaque storedObject.managedObject)
      cases stateful : storedObject.managedObject.cryptographic? with
      | none =>
          rw [stateful] at applicable
          apply Rounds.inapplicable
          · exact applicable
          · simp [LocateFilter.passes, ManagedObject.cryptographicUsageMasks?,
              stateful]
          · rfl
      | some fields =>
          rw [stateful] at applicable
          apply Rounds.compared
          · exact applicable
          · simp only [LocateFilter.attributeName, getAttributeFromManagedObject,
              ManagedObject.cryptographicUsageMasks?, stateful]
            rfl
          · intro entry valued
            simp [matchesFilter, valued, LocateFilter.attributeValue,
              AttributeValue.asInteger, LocateFilter.passes,
              ManagedObject.cryptographicUsageMasks?, stateful]
          · rfl
  | certificateType value =>
      have applicable := congrArg (Except.ok (ε := PyError))
        (applicable_certificate storedObject.managedObject)
      cases certified : storedObject.managedObject.certificateType? with
      | none =>
          rw [certified] at applicable
          apply Rounds.inapplicable
          · exact applicable
          · simp [LocateFilter.passes, LocateFilter.satisfied, certified]
          · rfl
      | some stored =>
          rw [certified] at applicable
          apply Rounds.compared
          · exact applicable
          · simp only [LocateFilter.attributeName, getAttributeFromManagedObject,
              certified]
            rfl
          · intro entry valued
            simp [matchesFilter, valued, LocateFilter.attributeValue,
              AttributeValue.pyValue, LocateFilter.passes,
              LocateFilter.satisfied, certified, eq_comm]
          · rfl
  | cryptographicAlgorithm value =>
      have applicable := congrArg (Except.ok (ε := PyError))
        (applicable_keysCertificatesTemplates storedObject.managedObject)
      cases keyed : storedObject.managedObject.keyFields? with
      | some fields =>
          rw [keyed] at applicable
          have other := not_certificate_of_keyFields _ keyed
          apply Rounds.compared
          · exact applicable
          · simp only [LocateFilter.attributeName, getAttributeFromManagedObject,
              keyed]
            rfl
          · intro entry valued
            simp [matchesFilter, valued, LocateFilter.attributeValue,
              AttributeValue.pyValue, LocateFilter.passes,
              LocateFilter.satisfied, keyed]
          · simp [LocateFilter.unreadable, other]
      | none =>
          rw [keyed] at applicable
          have fails : (LocateFilter.cryptographicAlgorithm value).passes
              storedObject = false := by
            simp [LocateFilter.passes, LocateFilter.satisfied, keyed]
          by_cases certified :
              storedObject.managedObject.objectType = .certificate
          · apply Rounds.unreadable
            · exact applicable.trans (by simp [certified])
            · simp only [LocateFilter.attributeName,
                getAttributeFromManagedObject, keyed]
              rfl
            · exact fails
            · simp [LocateFilter.unreadable, certified]
          · apply Rounds.inapplicable
            · exact applicable.trans (by simp [certified])
            · exact fails
            · simp [LocateFilter.unreadable, certified]
  | cryptographicLength value =>
      have applicable := congrArg (Except.ok (ε := PyError))
        (applicable_keysCertificatesTemplates storedObject.managedObject)
      cases keyed : storedObject.managedObject.keyFields? with
      | some fields =>
          rw [keyed] at applicable
          have other := not_certificate_of_keyFields _ keyed
          apply Rounds.compared
          · exact applicable
          · simp only [LocateFilter.attributeName, getAttributeFromManagedObject,
              keyed]
            rfl
          · intro entry valued
            simp [matchesFilter, valued, LocateFilter.attributeValue,
              AttributeValue.pyValue, LocateFilter.passes,
              LocateFilter.satisfied, keyed]
          · simp [LocateFilter.unreadable, other]
      | none =>
          rw [keyed] at applicable
          have fails : (LocateFilter.cryptographicLength value).passes
              storedObject = false := by
            simp [LocateFilter.passes, LocateFilter.satisfied, keyed]
          by_cases certified :
              storedObject.managedObject.objectType = .certificate
          · apply Rounds.unreadable
            · exact applicable.trans (by simp [certified])
            · simp only [LocateFilter.attributeName,
                getAttributeFromManagedObject, keyed]
              rfl
            · exact fails
            · simp [LocateFilter.unreadable, certified]
          · apply Rounds.inapplicable
            · exact applicable.trans (by simp [certified])
            · exact fails
            · simp [LocateFilter.unreadable, certified]

/-- A date is collected, whatever the date of the object. -/
theorem evaluateFilters_date
    {requested : Int} {entry : Attribute}
    (spells : (LocateFilter.initialDate requested).Spells entry)
    {collected : List Int} (few : collected.length ≤ 1)
    (rest : List Attribute) :
    evaluateFilters storedObject
        (.collected storedObject.managedObject.initialDate collected)
        (entry :: rest) =
      evaluateFilters storedObject
        (.collected storedObject.managedObject.initialDate
          (collected ++ [requested])) rest := by
  obtain ⟨named, valued⟩ := spells
  have everywhere : isAttributeApplicableToObjectType entry.attributeName
      storedObject.managedObject.objectType = .ok true := by
    rw [named]
    exact applicable_everyObject storedObject.managedObject
  have tracked := trackDateAttributes_collected
    storedObject.managedObject.initialDate requested few
  rw [evaluateFilters, everywhere, named]
  show (matchesFilter _ entry
    (.dateTime storedObject.managedObject.initialDate) >>= _) = _
  unfold matchesFilter
  rw [valued]
  show (some <$> trackDateAttributes _ requested >>= _) = _
  rw [tracked]
  rfl

/-- The loop over filters that are spelled by the attributes of the payload. -/
theorem evaluateFilters_eq
    {filters : List LocateFilter} {entries : List Attribute}
    (spelled : List.Forall₂ LocateFilter.Spells filters entries)
    (collected : List Int)
    (few : (collected ++ filters.filterMap LocateFilter.date).length ≤ 2) :
    evaluateFilters storedObject
        (.collected storedObject.managedObject.initialDate collected) entries =
      match filters.dropWhile (·.passes storedObject) with
      | [] => .ok {
          addObject := true
          dates := .collected storedObject.managedObject.initialDate
            (collected ++ filters.filterMap LocateFilter.date) }
      | filter :: _ =>
          if filter.unreadable storedObject then
            .error (.python .attributeError)
          else .ok {
            addObject := false
            dates := .collected storedObject.managedObject.initialDate
              (collected ++ (filters.takeWhile
                (·.passes storedObject)).filterMap LocateFilter.date) } := by
  induction spelled generalizing collected with
  | nil => simp [evaluateFilters]
  | @cons filter entry filters entries spells spelled ih =>
      cases dated : filter.date with
      | none =>
          rw [rounds_of_undated dated entry entries spells]
          rw [List.filterMap_cons_none dated] at few ⊢
          cases passes : filter.passes storedObject with
          | true =>
              rw [List.dropWhile_cons_of_pos passes,
                List.takeWhile_cons_of_pos passes, List.filterMap_cons_none dated]
              exact ih collected few
          | false =>
              have stops : ¬filter.passes storedObject = true := by simp [passes]
              rw [List.dropWhile_cons_of_neg stops,
                List.takeWhile_cons_of_neg stops]
              simp
      | some requested =>
          obtain ⟨value, rfl⟩ : ∃ value, filter = .initialDate value := by
            cases filter <;> first | exact ⟨_, rfl⟩ | cases dated
          cases dated
          have passes : (LocateFilter.initialDate requested).passes
              storedObject = true := rfl
          have date_eq : (LocateFilter.initialDate requested).date =
            some requested := rfl
          have shift : ∀ later, collected ++ requested :: later =
              collected ++ [requested] ++ later := by simp
          rw [List.filterMap_cons_some date_eq, shift] at few ⊢
          rw [List.dropWhile_cons_of_pos passes,
            List.takeWhile_cons_of_pos passes,
            List.filterMap_cons_some date_eq,
            shift ((filters.takeWhile (·.passes storedObject)).filterMap
              LocateFilter.date)]
          have one : collected.length ≤ 1 := by
            simp only [List.length_append, List.length_singleton] at few
            omega
          rw [evaluateFilters_date spells one]
          exact ih (collected ++ [requested]) few

end Loop

section Objects

variable (storedObject : StoredObject) (filters : List LocateFilter)

/-- The filters that the loop has gone through when it ends. -/
def passedFilters : List LocateFilter :=
  filters.takeWhile (·.passes storedObject)

/-- The debug message about a date that does not match shows both dates. -/
def datesPrintable (date : Int) : List Int → Bool
  | [] => true
  | [requested] => date = requested ∨
      asctime date = .ok () ∧ asctime requested = .ok ()
  | first :: second :: _ =>
      (min first second ≤ date ∧ date ≤ max first second) ∨
        asctime date = .ok () ∧
        asctime (if date < min first second then min first second
          else max first second) = .ok ()

/-- When the filter loop decides rightly about one object. -/
structure Judged : Prop where
  readable : ∀ filter rest,
    filters.dropWhile (·.passes storedObject) = filter :: rest →
      filter.unreadable storedObject = false
  printable : storedObject.managedObject.initialDate = 0 ∨
    datesPrintable storedObject.managedObject.initialDate
      ((passedFilters storedObject filters).filterMap LocateFilter.date) = true
  found : satisfies filters storedObject = true →
    ∀ filter ∈ filters, filter.isSensitive = false
  excluded : satisfies filters storedObject = false →
    (∃ filter ∈ filters, filter.passes storedObject = false) ∨
      storedObject.managedObject.initialDate ≠ 0 ∧
        datesMatch storedObject.managedObject.initialDate
          (filters.filterMap LocateFilter.date) = false

/-- The check of the dates after the loop. -/
def checkDates (value : Int) (dates : List Int) : Except PyError Bool :=
  match (DateFilter.collected value dates).value with
  | none => .ok true
  | some date =>
      if date = 0 then .ok true
      else isValidDate date (DateFilter.collected value dates).start
        (DateFilter.collected value dates).stop

/-- A date that does not match is shown next to the bound that it misses. -/
theorem show_dates (value bound : Int) :
    (asctime value >>= fun _ => asctime bound >>= fun _ =>
        (.ok false : Except PyError Bool)) =
      if asctime value = .ok () ∧ asctime bound = .ok () then .ok false
      else .error (.python .overflowError) := by
  unfold asctime
  split
  · split
    · simp [bind, Except.bind]
    · simp [bind, Except.bind]
  · simp [bind, Except.bind]

theorem checkDates_eq (value : Int) (dates : List Int) :
    checkDates value dates =
      if value = 0 ∨ datesPrintable value dates then
        .ok (value = 0 || datesMatch value dates)
      else .error (.python .overflowError) := by
  unfold checkDates
  match dates with
  | [] => simp [DateFilter.collected, datesPrintable, datesMatch]
  | [requested] =>
      by_cases zero : value = 0
      · simp [DateFilter.collected, zero]
      · simp only [DateFilter.collected, isValidDate, zero, if_false,
          false_or, decide_false, Bool.false_or, datesPrintable, datesMatch]
        by_cases same : requested = value
        · simp [same]
        · have other : ¬value = requested := fun equal => same equal.symm
          rw [if_neg same]
          refine (show_dates value requested).trans ?_
          simp [other]
  | first :: second :: rest =>
      by_cases zero : value = 0
      · simp [DateFilter.collected, zero]
      · simp only [DateFilter.collected, isValidDate, zero, if_false,
          false_or, decide_false, Bool.false_or, datesPrintable, datesMatch]
        by_cases early : value < min first second
        · have outside : ¬(min first second ≤ value ∧
              value ≤ max first second) := fun within =>
            absurd within.1 (not_le.mpr early)
          rw [if_pos early, if_pos early]
          refine (show_dates value (min first second)).trans ?_
          simp only [outside, false_or, decide_false, decide_eq_true_eq]
        · by_cases late : value > max first second
          · have outside : ¬(min first second ≤ value ∧
                value ≤ max first second) := fun within =>
              absurd within.2 (not_le.mpr late)
            rw [if_neg early, if_pos late, if_neg early]
            refine (show_dates value (max first second)).trans ?_
            simp only [outside, false_or, decide_false, decide_eq_true_eq]
          · have within : min first second ≤ value ∧
                value ≤ max first second := ⟨not_lt.mp early, not_lt.mp late⟩
            rw [if_neg early, if_neg late]
            simp [within]

variable {storedObject filters}

theorem matchesFilters_of_ok
    {entries : List Attribute} {added : Bool} {value : Int} {dates : List Int}
    (looped : evaluateFilters storedObject {} entries =
      .ok { addObject := added, dates := .collected value dates }) :
    matchesFilters entries storedObject =
      (fun valid => added && valid) <$> checkDates value dates := by
  unfold matchesFilters checkDates
  rw [looped]
  show (match (DateFilter.collected value dates).value with
    | none => _ | some value => _) = _
  cases (DateFilter.collected value dates).value with
  | none => cases added <;> rfl
  | some date =>
      by_cases zero : date = 0
      · simp only [if_pos zero]
        cases added <;> rfl
      · simp only [if_neg zero]
        generalize isValidDate date (DateFilter.collected value dates).start
          (DateFilter.collected value dates).stop = outcome
        cases outcome <;> rfl

theorem matchesFilters_of_error
    {entries : List Attribute} {exception : PyError}
    (looped : evaluateFilters storedObject {} entries = .error exception) :
    matchesFilters entries storedObject = .error exception := by
  unfold matchesFilters
  rw [looped]
  rfl

theorem satisfies_eq_true_iff :
    satisfies filters storedObject = true ↔
      (∀ filter ∈ filters, filter.satisfied storedObject = true) ∧
        datesMatch storedObject.managedObject.initialDate
          (filters.filterMap LocateFilter.date) = true := by
  unfold satisfies
  rw [Bool.and_eq_true, List.all_eq_true]

/-- Without a filter for the Sensitive flag, the loop lets an object pass that
has everything. -/
theorem passes_of_satisfies
    (has : satisfies filters storedObject = true)
    (comparable : ∀ filter ∈ filters, filter.isSensitive = false) :
    ∀ filter ∈ filters, filter.passes storedObject = true :=
  fun filter member => LocateFilter.passes_of_satisfied
    ((satisfies_eq_true_iff.mp has).1 filter member) (comparable filter member)

theorem comparable_of_passes {filter : LocateFilter}
    (passes : filter.passes storedObject = true) :
    filter.isSensitive = false := by
  cases filter with
  | sensitive value => cases passes
  | _ => rfl

/-- The loop decides rightly about an object just when no kind of filter and no
date that it misjudges has a say. -/
theorem matchesFilters_eq_satisfies_iff
    {entries : List Attribute}
    (spelled : List.Forall₂ LocateFilter.Spells filters entries)
    (few : (filters.filterMap LocateFilter.date).length ≤ 2) :
    matchesFilters entries storedObject = .ok (satisfies filters storedObject) ↔
      Judged storedObject filters := by
  have looped := @evaluateFilters_eq storedObject filters entries spelled [] few
  have start : DateFilter.collected storedObject.managedObject.initialDate [] =
    {} := rfl
  simp only [start, List.nil_append] at looped
  cases stopped : filters.dropWhile (·.passes storedObject) with
  | nil =>
      have pass := List.dropWhile_eq_nil_iff.mp stopped
      have whole : passedFilters storedObject filters = filters :=
        List.takeWhile_eq_self_iff.mpr pass
      rw [stopped] at looped
      rw [matchesFilters_of_ok looped, checkDates_eq]
      by_cases printable : storedObject.managedObject.initialDate = 0 ∨
          datesPrintable storedObject.managedObject.initialDate
            (filters.filterMap LocateFilter.date) = true
      · rw [if_pos printable]
        constructor
        · intro same
          have verdict := Except.ok.inj same
          simp only [Bool.true_and] at verdict
          constructor
          · intro filter rest remaining
            rw [stopped] at remaining
            cases remaining
          · rw [whole]
            exact printable
          · intro _ filter member
            exact comparable_of_passes (pass filter member)
          · intro lacks
            rw [lacks] at verdict
            right
            simpa using verdict
        · intro judged
          refine congrArg Except.ok ?_
          simp only [Bool.true_and]
          cases has : satisfies filters storedObject with
          | true => simp [(satisfies_eq_true_iff.mp has).2]
          | false =>
              rcases judged.excluded has with ⟨filter, member, stops⟩ | missed
              · have passed := pass filter member
                rw [stops] at passed
                cases passed
              · simp [missed.1, missed.2]
      · rw [if_neg printable]
        constructor
        · intro same
          cases same
        · intro judged
          have printed := judged.printable
          rw [whole] at printed
          exact absurd printed printable
  | cons filter rest =>
      rw [stopped] at looped
      cases unreadable : filter.unreadable storedObject with
      | true =>
          simp only [unreadable, if_true] at looped
          rw [matchesFilters_of_error looped]
          constructor
          · intro same
            cases same
          · intro judged
            have readable := judged.readable filter rest stopped
            rw [unreadable] at readable
            cases readable
      | false =>
          simp only [unreadable, Bool.false_eq_true, if_false] at looped
          change _ = Except.ok (FilterOutcome.mk false (.collected _
            ((passedFilters storedObject filters).filterMap
              LocateFilter.date))) at looped
          rw [matchesFilters_of_ok looped, checkDates_eq]
          have member : filter ∈ filters := by
            have listed : filter ∈ filters.dropWhile
                (·.passes storedObject) := by
              rw [stopped]
              exact .head _
            exact (List.dropWhile_sublist _).mem listed
          have stops : filter.passes storedObject = false := by
            have nonempty : filters.dropWhile (·.passes storedObject) ≠ [] := by
              simp [stopped]
            have first := List.head_dropWhile_not _ nonempty
            simpa [stopped] using first
          by_cases printable : storedObject.managedObject.initialDate = 0 ∨
              datesPrintable storedObject.managedObject.initialDate
                ((passedFilters storedObject filters).filterMap
                  LocateFilter.date) = true
          · rw [if_pos printable]
            constructor
            · intro same
              have lacks := (Except.ok.inj same).symm
              simp only [Bool.false_and] at lacks
              constructor
              · intro other others remaining
                rw [stopped] at remaining
                cases remaining
                exact unreadable
              · exact printable
              · intro has
                rw [lacks] at has
                cases has
              · exact fun _ => .inl ⟨filter, member, stops⟩
            · intro judged
              cases has : satisfies filters storedObject with
              | false => rfl
              | true =>
                  have passed :=
                    passes_of_satisfies has (judged.found has) filter member
                  rw [stops] at passed
                  cases passed
          · rw [if_neg printable]
            constructor
            · intro same
              cases same
            · intro judged
              exact absurd judged.printable printable

end Objects

section Lists

theorem filterObjects_of_ok
    {entries : List Attribute} {verdict : StoredObject → Bool}
    {objects : List StoredObject}
    (decided : ∀ storedObject ∈ objects,
      matchesFilters entries storedObject = .ok (verdict storedObject)) :
    filterObjects entries objects = .ok (objects.filter verdict) := by
  induction objects with
  | nil => rfl
  | cons first rest ih =>
      unfold filterObjects
      rw [decided first (.head _),
        ih fun other member => decided other (.tail _ member)]
      cases kept : verdict first with
      | true =>
          rw [List.filter_cons_of_pos kept]
          rfl
      | false =>
          rw [List.filter_cons_of_neg (by simp [kept])]
          rfl

theorem decided_of_filterObjects
    {entries : List Attribute} {objects filtered : List StoredObject}
    (filters : filterObjects entries objects = .ok filtered) :
    ∀ storedObject ∈ objects, ∃ verdict,
      matchesFilters entries storedObject = .ok verdict := by
  induction objects generalizing filtered with
  | nil =>
      intro storedObject member
      cases member
  | cons first rest ih =>
      unfold filterObjects at filters
      obtain ⟨matched, decided, others⟩ := except_bind_ok_iff.mp filters
      obtain ⟨kept, restFilters, _⟩ := except_bind_ok_iff.mp others
      intro storedObject member
      rcases List.mem_cons.mp member with rfl | later
      · exact ⟨matched, decided⟩
      · exact ih restFilters storedObject later

/-- The first entries are dropped, and at most so many are kept. -/
def page (offset maximum : Option Nat) (values : List α) : List α :=
  let rest := values.drop (offset.getD 0)
  match maximum with
  | none => rest
  | some maximum => rest.take maximum

def pageRequest (entries : List Attribute) (offset maximum : Option Nat) :
    LocateRequestPayload where
  maximumItems := maximum.map fun items : Nat => (items : Int)
  offsetItems := offset.map fun items : Nat => (items : Int)
  attributes := entries

theorem sliceBound_natCast (length bound : Nat) :
    sliceBound length (bound : Int) = min bound length := by
  unfold sliceBound
  rw [if_neg (by omega)]
  rfl

theorem drop_min_length (values : List α) (offset : Nat) :
    values.drop (min offset values.length) = values.drop offset := by
  by_cases inside : offset ≤ values.length
  · rw [min_eq_left inside]
  · have outside : values.length ≤ offset := Nat.le_of_not_le inside
    rw [min_eq_right outside, List.drop_length, List.drop_eq_nil_of_le outside]

theorem pageOf_pageRequest
    (entries : List Attribute) (offset maximum : Option Nat) (values : List α) :
    pageOf (pageRequest entries offset maximum) values =
      page offset maximum values := by
  unfold pageOf pageRequest page slice
  cases offset with
  | none =>
      cases maximum with
      | none => rfl
      | some maximum =>
          simp only [Option.map_some, Option.map_none, Option.getD_some,
            Option.getD_none, sliceBound_natCast, List.drop_zero]
          exact List.take_eq_take_min.symm
  | some offset =>
      cases maximum with
      | none =>
          simp only [Option.map_some, Option.map_none, Option.getD_some,
            Option.getD_none, sliceBound_natCast, List.take_length]
          exact drop_min_length values offset
      | some maximum =>
          have shift : (offset : Int) + (maximum : Int) =
            ((offset + maximum : Nat) : Int) := rfl
          simp only [Option.map_some, Option.getD_some, shift,
            sliceBound_natCast]
          rw [← List.take_eq_take_min, List.drop_take]
          by_cases inside : offset ≤ values.length
          · rw [min_eq_left inside, Nat.add_sub_cancel_left]
          · have outside : values.length ≤ offset := Nat.le_of_not_le inside
            rw [drop_min_length, List.drop_eq_nil_of_le outside, List.take_nil,
              List.take_nil]

end Lists

section Locate

variable (world : World) (state : EngineState)

/-- The identifiers that Locate should return: those of the objects that the
client may locate and that have everything, newest first, and of them a page. -/
def locatedPage (filters : List LocateFilter) (offset maximum : Option Nat) :
    List String :=
  (page offset maximum (newestFirst
    ((permittedObjects world state .locate).filter (satisfies filters)))).map
      fun storedObject => toString storedObject.uniqueIdentifier

/-- Locate returns exactly the right identifiers, for every page. -/
def LocatesExactly (filters : List LocateFilter) (entries : List Attribute) :
    Prop :=
  ∀ offset maximum,
    (processLocate world (pageRequest entries offset maximum)).run state =
      .ok (.locate (locatedPage world state filters offset maximum)) state

variable {world state}

/-- Without filters every object stays. -/
theorem filterObjects_nil (objects : List StoredObject) :
    filterObjects [] objects = .ok objects := by
  have kept : filterObjects [] objects = .ok (objects.filter fun _ => true) :=
    filterObjects_of_ok fun _ _ => rfl
  rwa [List.filter_true] at kept

theorem run_processLocate
    (payload : LocateRequestPayload) (supported : ⟨1, 0⟩ ≤ state.protocolVersion)
    (active : state.dataStore.active = true) :
    (processLocate world payload).run state =
      match filterObjects payload.attributes
        (permittedObjects world state .locate) with
      | .ok filtered => .ok (.locate ((pageOf payload (newestFirst filtered)).map
          fun storedObject => toString storedObject.uniqueIdentifier)) state
      | .error exception => .error exception state := by
  have chosen : (if payload.attributes = [] then
        .ok (permittedObjects world state .locate)
      else filterObjects payload.attributes
        (permittedObjects world state .locate)) =
      filterObjects payload.attributes
        (permittedObjects world state .locate) := by
    split
    · rename_i empty
      rw [empty, filterObjects_nil]
    · rfl
  unfold processLocate
  rw [run_bind, run_kmipVersionSupported, run_raiseIf, if_neg (by simpa using
    supported)]
  simp only
  rw [run_bind, run_listObjectsWithAccessControls, if_neg (by simp [active])]
  simp only
  rw [run_bind, run_fromExcept, chosen]
  cases filterObjects payload.attributes
    (permittedObjects world state .locate) <;> rfl

/-- An inactive session refuses to list the objects. -/
theorem run_processLocate_inactive
    (payload : LocateRequestPayload) (supported : ⟨1, 0⟩ ≤ state.protocolVersion)
    (inactive : state.dataStore.active = false) :
    (processLocate world payload).run state =
      .error (.python .pendingRollbackError) state := by
  unfold processLocate
  rw [run_bind, run_kmipVersionSupported, run_raiseIf, if_neg (by simpa using
    supported)]
  simp only
  rw [run_bind, run_listObjectsWithAccessControls, if_pos inactive]

theorem toString_uniqueIdentifier_injective (column : IdentifierColumn)
    {first second : Nat} (same : toString first = toString second) :
    first = second := by
  have found := column.rowOf_toString first
  rw [same, column.rowOf_toString] at found
  exact (Option.some.inj found).symm

theorem eq_of_uniqueIdentifier_eq
    {first second : StoredObject}
    (firstListed : first ∈ permittedObjects world state .locate)
    (secondListed : second ∈ permittedObjects world state .locate)
    (same : first.uniqueIdentifier = second.uniqueIdentifier) :
    first = second := by
  have rowOf : ∀ storedObject ∈ permittedObjects world state .locate,
      (storedObject.uniqueIdentifier, storedObject.managedObject) ∈
        state.dataStore.session.rows := by
    intro storedObject listed
    obtain ⟨row, member, rfl⟩ :=
      List.mem_map.mp (List.mem_filter.mp listed).1
    exact member
  obtain ⟨key, firstObject⟩ := first
  obtain ⟨otherKey, secondObject⟩ := second
  cases same
  have firstRow : (key, firstObject) ∈ state.dataStore.session.rows :=
    rowOf ⟨key, firstObject⟩ firstListed
  have secondRow : (key, secondObject) ∈ state.dataStore.session.rows :=
    rowOf ⟨key, secondObject⟩ secondListed
  rw [Table.eq_of_mem_of_mem firstRow secondRow]

/-- Lists of the same identifiers come from the same filter. -/
theorem verdict_eq_of_identifiers
    (column : IdentifierColumn) {verdict right : StoredObject → Bool}
    (same : (newestFirst ((permittedObjects world state .locate).filter
          verdict)).map (fun storedObject =>
            toString storedObject.uniqueIdentifier) =
        (newestFirst ((permittedObjects world state .locate).filter
          right)).map fun storedObject =>
            toString storedObject.uniqueIdentifier) :
    ∀ storedObject ∈ permittedObjects world state .locate,
      verdict storedObject = right storedObject := by
  have transfer : ∀ first second : StoredObject → Bool,
      (newestFirst ((permittedObjects world state .locate).filter
          first)).map (fun storedObject =>
            toString storedObject.uniqueIdentifier) =
        (newestFirst ((permittedObjects world state .locate).filter
          second)).map (fun storedObject =>
            toString storedObject.uniqueIdentifier) →
      ∀ storedObject ∈ permittedObjects world state .locate,
        first storedObject = true → second storedObject = true := by
    intro first second same storedObject listed accepted
    have member : toString storedObject.uniqueIdentifier ∈
        (newestFirst ((permittedObjects world state .locate).filter
          first)).map fun storedObject =>
            toString storedObject.uniqueIdentifier := by
      apply List.mem_map_of_mem
      unfold newestFirst
      rw [List.mem_insertionSort]
      exact List.mem_filter.mpr ⟨listed, accepted⟩
    rw [same] at member
    obtain ⟨other, otherMember, identified⟩ := List.mem_map.mp member
    unfold newestFirst at otherMember
    rw [List.mem_insertionSort] at otherMember
    obtain ⟨otherListed, otherAccepted⟩ := List.mem_filter.mp otherMember
    have equal := eq_of_uniqueIdentifier_eq otherListed listed
      (toString_uniqueIdentifier_injective column identified)
    rwa [equal] at otherAccepted
  intro storedObject listed
  rw [Bool.eq_iff_iff]
  exact ⟨transfer verdict right same storedObject listed,
    transfer right verdict same.symm storedObject listed⟩

/-- Locate is exact just when the session is active and the filter loop decides
rightly about every object that the client may locate. -/
theorem locate_is_exact_iff
    (world : World) (state : EngineState)
    (supported : state.protocolVersion ∈ protocolVersions)
    (filters : List LocateFilter) (entries : List Attribute)
    (spelled : List.Forall₂ LocateFilter.Spells filters entries)
    (few : (filters.filterMap LocateFilter.date).length ≤ 2) :
    LocatesExactly world state filters entries ↔
      state.dataStore.active = true ∧
        ∀ storedObject ∈ permittedObjects world state .locate,
          Judged storedObject filters := by
  have listed : ⟨1, 0⟩ ≤ state.protocolVersion := by
    generalize state.protocolVersion = version at supported
    revert version
    decide
  simp only [← matchesFilters_eq_satisfies_iff spelled few]
  constructor
  · intro exact
    have whole := exact none none
    cases active : state.dataStore.active with
    | false =>
        rw [run_processLocate_inactive _ listed active] at whole
        cases whole
    | true =>
        rw [run_processLocate _ listed active] at whole
        refine ⟨rfl, ?_⟩
        change (match filterObjects entries
          (permittedObjects world state .locate) with
          | .ok filtered => _ | .error exception => _) = _ at whole
        cases filtering : filterObjects entries
            (permittedObjects world state .locate) with
        | error exception =>
            rw [filtering] at whole
            cases whole
        | ok filtered =>
            rw [filtering] at whole
            have decided := decided_of_filterObjects filtering
            have verdicts : ∀ storedObject ∈
                permittedObjects world state .locate,
                matchesFilters entries storedObject =
                  .ok ((matchesFilters entries storedObject).toOption.getD
                    false) := by
              intro storedObject member
              obtain ⟨verdict, equal⟩ := decided storedObject member
              rw [equal]
              rfl
            rw [filterObjects_of_ok verdicts] at filtering
            cases filtering
            have identifiers := ResponsePayload.locate.inj
              (Result.ok.inj whole).1
            rw [pageOf_pageRequest] at identifiers
            have agree := verdict_eq_of_identifiers world.identifierColumn
              identifiers
            intro storedObject member
            rw [verdicts storedObject member, agree storedObject member]
  · rintro ⟨active, decided⟩ offset maximum
    rw [run_processLocate _ listed active]
    change (match filterObjects entries
      (permittedObjects world state .locate) with
      | .ok filtered => _ | .error exception => _) = _
    rw [filterObjects_of_ok decided]
    show Result.ok (ResponsePayload.locate _) state = _
    rw [pageOf_pageRequest]
    rfl

end Locate

section Samples

/-- The engine after the creation of a key, asked by its owner. -/
def sampleListing : EngineState :=
  { (sampleExchange sampleWorld "alice"
      [{ requestPayload := sampleCreation }]).after (newEngine .empty []) with
    protocolVersion := ⟨1, 4⟩ }

theorem locate_is_exact_iff_objectType :
    LocatesExactly sampleWorld sampleListing [.objectType .symmetricKey]
      [{ attributeName := .objectType
         attributeValue := .objectType .symmetricKey }] := by
  apply (locate_is_exact_iff sampleWorld sampleListing (by decide)
    [.objectType .symmetricKey] _ (.cons ⟨rfl, rfl⟩ .nil) (by decide)).mpr
  have undated :
      [LocateFilter.objectType .symmetricKey].filterMap LocateFilter.date = [] :=
    rfl
  refine ⟨by decide, ?_⟩
  intro storedObject _
  constructor
  · intro filter rest remaining
    have member : filter ∈ [LocateFilter.objectType .symmetricKey] := by
      apply (List.dropWhile_sublist (·.passes storedObject)).mem
      rw [remaining]
      exact .head _
    rw [List.mem_singleton.mp member]
    rfl
  · right
    cases passes : (LocateFilter.objectType .symmetricKey).passes storedObject <;>
      simp [passedFilters, passes, undated, datesPrintable]
  · intro _ filter member
    rw [List.mem_singleton.mp member]
    rfl
  · intro lacks
    left
    refine ⟨_, .head _, ?_⟩
    simpa [satisfies, datesMatch, undated, LocateFilter.passes] using lacks

/-- A filter for the Sensitive flag finds no object that has it. -/
theorem locate_misses_sensitive_flag :
    ¬∀ (world : World) (state : EngineState) (filters : List LocateFilter)
        (entries : List Attribute),
      state.protocolVersion ∈ protocolVersions →
      List.Forall₂ LocateFilter.Spells filters entries →
      (filters.filterMap LocateFilter.date).length ≤ 2 →
      LocatesExactly world state filters entries := by
  intro exact
  have answered := exact sampleWorld sampleListing [.sensitive false]
    [{ attributeName := .sensitive, attributeValue := .boolean false }]
    (by decide) (.cons ⟨rfl, rfl⟩ .nil) (by decide) none none
  have answer : outcomeOf ((processLocate sampleWorld (pageRequest
      [{ attributeName := .sensitive, attributeValue := .boolean false }]
      none none)).run sampleListing) = .ok (.locate []) := by decide
  have expected : locatedPage sampleWorld sampleListing [.sensitive false]
    none none = ["1"] := by decide
  rw [answered, expected] at answer
  cases answer

end Samples

end PyKMIP
