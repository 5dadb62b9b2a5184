import PyKMIP.Lib.Screening
import PyKMIP.Properties.LocateExactness

/-!
# The order of filters

Locate stops at the first filter that an object does not match, so a filter
that raises, a third date and a date that cannot be printed only count where the
loop gets to them.
-/

namespace PyKMIP

open EStateM StatefulExcept
open AttributePolicy
open Screening

section Entries

/-- The date that a filter asks for. -/
def Attribute.date (entry : Attribute) : Option Int :=
  match entry.attributeName, entry.attributeValue with
  | .initialDate, .dateTime requested => some requested
  | _, _ => none

def askedDates (entries : List Attribute) : List Int :=
  entries.filterMap Attribute.date

/-- What the loop makes of a filter, whatever dates it has collected. -/
def verdict (storedObject : StoredObject) (entry : Attribute) : Verdict :=
  match isAttributeApplicableToObjectType entry.attributeName
      storedObject.managedObject.objectType with
  | .error _ => .raises
  | .ok false => .rejects
  | .ok true =>
      match getAttributeFromManagedObject storedObject entry.attributeName with
      | .error _ => .raises
      | .ok none => .passes
      | .ok (some existing) =>
          match matchesFilter {} entry existing with
          | .error _ => .raises
          | .ok none => .rejects
          | .ok (some _) => .passes

/-- The reason that the response gives for a failure. -/
def PyError.reason (exception : PyError) : ResultReason :=
  (reportedError exception).2.1

variable {storedObject : StoredObject} {entry : Attribute}

theorem spells_of_date
    {requested : Int} (dated : entry.date = some requested) :
    (LocateFilter.initialDate requested).Spells entry := by
  obtain ⟨attributeName, attributeIndex, attributeValue⟩ := entry
  unfold Attribute.date at dated
  split at dated
  · rename_i named valued
    cases dated
    exact ⟨named, valued⟩
  · cases dated

theorem verdict_of_date
    {requested : Int} (dated : entry.date = some requested) :
    verdict storedObject entry = .passes := by
  obtain ⟨named, valued⟩ := spells_of_date dated
  have everywhere := applicable_everyObject storedObject.managedObject
  unfold verdict
  rw [named]
  change (match (Except.ok (everyObject.contains
    storedObject.managedObject.objectType) : Except PyError Bool) with
    | .error _ => _ | .ok false => _ | .ok true => _) = _
  rw [everywhere]
  simp only [LocateFilter.attributeName, getAttributeFromManagedObject,
    matchesFilter, valued, LocateFilter.attributeValue]
  rfl

theorem initialDate_of_read
    {attributeName : AttributeName} {value : Int}
    (read : getAttributeFromManagedObject storedObject attributeName =
      .ok (some (.dateTime value))) : attributeName = .initialDate := by
  cases attributeName
  case initialDate => rfl
  case operationPolicyName =>
    obtain ⟨name, _, other⟩ := Option.map_eq_some_iff.mp (Except.ok.inj read)
    cases other
  case cryptographicAlgorithm | cryptographicLength | certificateType |
      cryptographicUsageMask | state =>
    obtain ⟨_, _, returned⟩ := except_bind_ok_iff.mp read
    cases returned
  all_goals cases read

theorem keepIf_map (matched : Bool) (dates : DateFilter) :
    (if matched then some dates else none) =
      (if matched then some ({} : DateFilter) else none).map fun _ => dates := by
  cases matched <;> rfl

/-- Only the filter for the date reads the collected dates. -/
theorem matchesFilter_of_undated
    (undated : entry.date = none) {existing : ObjectAttribute}
    (read : getAttributeFromManagedObject storedObject entry.attributeName =
      .ok (some existing)) (dates : DateFilter) :
    matchesFilter dates entry existing =
      (matchesFilter {} entry existing).map (Option.map fun _ => dates) := by
  obtain ⟨attributeName, attributeIndex, attributeValue⟩ := entry
  cases existing with
  | dateTime value =>
      cases attributeValue with
      | dateTime requested =>
          have named : attributeName = .initialDate := initialDate_of_read read
          subst named
          cases undated
      | _ => rfl
  | boolean value => rfl
  | names values => exact congrArg Except.ok (keepIf_map _ dates)
  | _ =>
      simp only [matchesFilter, keepIf_map _ dates]
      cases attributeValue <;> rfl

theorem reason_of_applicable
    {attributeName : AttributeName} {objectType : ObjectType}
    {exception : PyError}
    (raised : isAttributeApplicableToObjectType attributeName objectType =
      .error exception) : exception.reason = .generalFailure := by
  unfold isAttributeApplicableToObjectType ruleSetOf at raised
  split at raised
  · cases raised
  · cases raised
    rfl

theorem reason_of_getattr
    {field : Option α} {next : α → Except PyError β} {exception : PyError}
    (total : ∀ value, ∃ result, next value = .ok result)
    (raised : getattr field >>= next = .error exception) :
    exception.reason = .generalFailure := by
  cases field with
  | none =>
      cases raised
      rfl
  | some value =>
      obtain ⟨result, returned⟩ := total value
      change next value = .error exception at raised
      rw [returned] at raised
      cases raised

theorem reason_of_read
    {attributeName : AttributeName} {exception : PyError}
    (raised : getAttributeFromManagedObject storedObject attributeName =
      .error exception) : exception.reason = .generalFailure := by
  cases attributeName
  case cryptographicAlgorithm | cryptographicLength | certificateType |
      cryptographicUsageMask | state =>
    exact reason_of_getattr (fun _ => ⟨_, rfl⟩) raised
  all_goals cases raised

theorem reason_of_match
    {existing : ObjectAttribute} {exception : PyError}
    (raised : matchesFilter {} entry existing = .error exception) :
    exception.reason = .generalFailure := by
  obtain ⟨attributeName, attributeIndex, attributeValue⟩ := entry
  cases existing <;> cases attributeValue <;> cases raised <;> rfl

/-- A round of the loop for a filter that is no date. -/
theorem evaluateFilters_undated
    (storedObject : StoredObject) (undated : entry.date = none)
    (dates : DateFilter) (rest : List Attribute) :
    match verdict storedObject entry with
    | .passes => evaluateFilters storedObject dates (entry :: rest) =
        evaluateFilters storedObject dates rest
    | .rejects => evaluateFilters storedObject dates (entry :: rest) =
        .ok { addObject := false, dates := dates }
    | .raises => ∃ exception,
        evaluateFilters storedObject dates (entry :: rest) =
          .error exception ∧ exception.reason = .generalFailure := by
  unfold verdict
  rw [evaluateFilters]
  cases applicable : isAttributeApplicableToObjectType entry.attributeName
      storedObject.managedObject.objectType with
  | error exception => exact ⟨exception, rfl, reason_of_applicable applicable⟩
  | ok applies =>
      cases applies with
      | false => rfl
      | true =>
          cases read : getAttributeFromManagedObject storedObject
              entry.attributeName with
          | error exception => exact ⟨exception, rfl, reason_of_read read⟩
          | ok existing =>
              cases existing with
              | none => rfl
              | some existing =>
                  have same := matchesFilter_of_undated undated read dates
                  dsimp only
                  cases matched : matchesFilter {} entry existing with
                  | error exception =>
                      rw [matched] at same
                      refine ⟨exception, ?_, reason_of_match matched⟩
                      change (matchesFilter dates entry existing >>= _) = _
                      rw [same]
                      rfl
                  | ok kept =>
                      rw [matched] at same
                      cases kept with
                      | none =>
                          change (matchesFilter dates entry existing >>= _) = _
                          rw [same]
                          rfl
                      | some unread =>
                          change (matchesFilter dates entry existing >>= _) = _
                          rw [same]
                          rfl

end Entries

section Settling

variable (storedObject : StoredObject)

/-- The dates can be compared without a date that cannot be printed. -/
def Printable (requested : List Int) : Prop :=
  storedObject.managedObject.initialDate = 0 ∨
    datesPrintable storedObject.managedObject.initialDate requested = true

instance (requested : List Int) : Decidable (Printable storedObject requested) :=
  inferInstanceAs (Decidable (_ ∨ _))

/-- The check of the dates, with the reason that the response gives. -/
def settleDates (requested : List Int) : Except ResultReason Bool :=
  if Printable storedObject requested then
    .ok (storedObject.managedObject.initialDate = 0 ||
      datesMatch storedObject.managedObject.initialDate requested)
  else .error .generalFailure

/-- The filter loop and the check of the dates for one object. -/
def settle (collected : List Int) : List Attribute → Except ResultReason Bool
  | [] => settleDates storedObject collected
  | entry :: rest =>
      match verdict storedObject entry with
      | .raises => .error .generalFailure
      | .rejects => (settleDates storedObject collected).map fun _ => false
      | .passes =>
          match entry.date with
          | none => settle collected rest
          | some requested =>
              if collected.length ≤ 1 then settle (collected ++ [requested]) rest
              else .error .invalidField

/-- What is left to do for an object after its loop. -/
def finish (outcome : FilterOutcome) : Except PyError Bool :=
  match outcome.dates.value with
  | none => .ok outcome.addObject
  | some value =>
      if value = 0 then .ok outcome.addObject
      else do
        let valid ← isValidDate value outcome.dates.start outcome.dates.stop
        return outcome.addObject && valid

variable {storedObject} {collected : List Int}

theorem reason_finish (added : Bool) :
    (finish {
        addObject := added
        dates := .collected storedObject.managedObject.initialDate
          collected }).mapError PyError.reason =
      (settleDates storedObject collected).map fun valid => added && valid := by
  have checked := checkDates_eq storedObject.managedObject.initialDate collected
  have finished : finish {
        addObject := added
        dates := .collected storedObject.managedObject.initialDate collected } =
      (checkDates storedObject.managedObject.initialDate collected).map
        fun valid => added && valid := by
    unfold finish checkDates
    cases (DateFilter.collected storedObject.managedObject.initialDate
        collected).value with
    | none => cases added <;> rfl
    | some date =>
        by_cases zero : date = 0
        · simp only [if_pos zero]
          cases added <;> rfl
        · simp only [if_neg zero]
          rfl
  rw [finished, checked]
  unfold settleDates
  by_cases printable : Printable storedObject collected
  · rw [if_pos printable, if_pos (id printable : _ ∨ _)]
    rfl
  · rw [if_neg printable, if_neg (id printable : ¬(_ ∨ _))]
    rfl

theorem trackDateAttributes_third
    (value requested : Int) (two : collected.length = 2) :
    ∃ exception, trackDateAttributes
        { DateFilter.collected value collected with value := some value }
        requested = .error exception ∧ exception.reason = .invalidField := by
  match collected, two with
  | [first, second], _ => exact ⟨_, rfl, rfl⟩

/-- A third date is one too many. -/
theorem evaluateFilters_third
    {requested : Int} {entry : Attribute}
    (dated : entry.date = some requested) (two : collected.length = 2)
    (rest : List Attribute) :
    ∃ exception,
      evaluateFilters storedObject
          (.collected storedObject.managedObject.initialDate collected)
          (entry :: rest) = .error exception ∧
        exception.reason = .invalidField := by
  obtain ⟨named, valued⟩ := spells_of_date dated
  have everywhere : isAttributeApplicableToObjectType entry.attributeName
      storedObject.managedObject.objectType = .ok true := by
    rw [named]
    exact applicable_everyObject storedObject.managedObject
  obtain ⟨exception, tracked, reason⟩ := trackDateAttributes_third
    storedObject.managedObject.initialDate requested two
  refine ⟨exception, ?_, reason⟩
  rw [evaluateFilters, everywhere, named]
  change (matchesFilter _ entry
    (.dateTime storedObject.managedObject.initialDate) >>= _) = _
  unfold matchesFilter
  rw [valued]
  change (some <$> trackDateAttributes _ requested >>= _) = _
  rw [tracked]
  rfl

theorem reason_evaluateFilters
    (entries : List Attribute) (few : collected.length ≤ 2) :
    (evaluateFilters storedObject
          (.collected storedObject.managedObject.initialDate collected) entries >>=
        finish).mapError PyError.reason =
      settle storedObject collected entries := by
  induction entries generalizing collected with
  | nil =>
      refine (reason_finish true).trans ?_
      unfold settle
      cases settleDates storedObject collected <;> rfl
  | cons entry rest ih =>
      rw [settle]
      cases dated : entry.date with
      | some requested =>
          rw [verdict_of_date dated]
          by_cases one : collected.length ≤ 1
          · simp only [if_pos one]
            rw [evaluateFilters_date (spells_of_date dated) one]
            exact ih (by simpa using one)
          · simp only [if_neg one]
            obtain ⟨exception, raises, reason⟩ := evaluateFilters_third dated
              (by omega : collected.length = 2) rest
            rw [raises, ← reason]
            rfl
      | none =>
          have round := evaluateFilters_undated storedObject
            dated (.collected storedObject.managedObject.initialDate collected)
            rest
          cases outcome : verdict storedObject entry with
          | passes =>
              rw [outcome] at round
              rw [round]
              exact ih few
          | rejects =>
              rw [outcome] at round
              rw [round]
              refine (reason_finish false).trans ?_
              cases settleDates storedObject collected <;> rfl
          | raises =>
              rw [outcome] at round
              obtain ⟨exception, raises, reason⟩ := round
              rw [raises, ← reason]
              rfl

theorem reason_matchesFilters (entries : List Attribute) :
    (matchesFilters entries storedObject).mapError PyError.reason =
      settle storedObject [] entries := by
  have few : ([] : List Int).length ≤ 2 := Nat.zero_le _
  exact reason_evaluateFilters entries few

end Settling

section Stops

variable {storedObject : StoredObject} {collected : List Int}
  {before after entries : List Attribute} {stop : Attribute}

theorem askedDates_append (first second : List Attribute) :
    askedDates (first ++ second) = askedDates first ++ askedDates second :=
  List.filterMap_append

theorem askedDates_eq_nil
    (undated : ∀ entry ∈ entries, entry.date = none) :
    askedDates entries = [] :=
  List.filterMap_eq_nil_iff.mpr undated

/-- Filters that pass only collect their dates. -/
theorem settle_append
    (passes : ∀ entry ∈ before, verdict storedObject entry = .passes)
    (few : collected.length ≤ 2) :
    settle storedObject collected (before ++ after) =
      if (collected ++ askedDates before).length ≤ 2
      then settle storedObject (collected ++ askedDates before) after
      else .error .invalidField := by
  induction before generalizing collected with
  | nil =>
      rw [askedDates_eq_nil (by simp), List.append_nil, if_pos few,
        List.nil_append]
  | cons entry rest ih =>
      have later : ∀ entry ∈ rest, verdict storedObject entry = .passes :=
        fun other member => passes other (.tail _ member)
      rw [List.cons_append, settle, passes entry (.head _)]
      cases dated : entry.date with
      | none =>
          have same : askedDates (entry :: rest) = askedDates rest :=
            List.filterMap_cons_none dated
          rw [same]
          exact ih later few
      | some requested =>
          have same : collected ++ askedDates (entry :: rest) =
              collected ++ [requested] ++ askedDates rest := by
            unfold askedDates
            rw [List.filterMap_cons_some dated, List.append_assoc]
            rfl
          rw [same]
          by_cases one : collected.length ≤ 1
          · simp only [if_pos one]
            exact ih later (by simpa using one)
          · simp only [if_neg one]
            rw [if_neg]
            simp only [List.length_append, List.length_singleton]
            omega

theorem settle_of_passes
    (passes : ∀ entry ∈ entries, verdict storedObject entry = .passes) :
    settle storedObject [] entries =
      if (askedDates entries).length ≤ 2
      then settleDates storedObject (askedDates entries)
      else .error .invalidField := by
  have appended : settle storedObject [] (entries ++ []) = _ :=
    settle_append passes (by simp)
  rwa [List.append_nil, List.nil_append] at appended

theorem settle_of_rejects
    (passes : ∀ entry ∈ before, verdict storedObject entry = .passes)
    (rejects : verdict storedObject stop = .rejects) :
    settle storedObject [] (before ++ stop :: after) =
      if (askedDates before).length ≤ 2
      then (settleDates storedObject (askedDates before)).map fun _ => false
      else .error .invalidField := by
  rw [settle_append passes (by simp), List.nil_append, settle, rejects]

theorem settle_of_raises
    (passes : ∀ entry ∈ before, verdict storedObject entry = .passes)
    (raises : verdict storedObject stop = .raises) :
    settle storedObject [] (before ++ stop :: after) =
      if (askedDates before).length ≤ 2 then .error .generalFailure
      else .error .invalidField := by
  rw [settle_append passes (by simp), List.nil_append, settle, raises]

theorem settleDates_eq_ok
    (printable : Printable storedObject collected) :
    ∃ valid, settleDates storedObject collected = .ok valid := by
  unfold settleDates
  rw [if_pos printable]
  exact ⟨_, rfl⟩

theorem settleDates_eq_error
    (unprintable : ¬Printable storedObject collected) :
    settleDates storedObject collected = .error .generalFailure := by
  unfold settleDates
  rw [if_neg unprintable]

theorem settleDates_nil (storedObject : StoredObject) :
    settleDates storedObject [] = .ok true := by
  unfold settleDates
  rw [if_pos (.inr rfl)]
  simp [datesMatch]

/-- Where a filter stops the loop before a third date, it does not fail for the
dates being too many. -/
theorem settle_of_stop
    (passes : ∀ entry ∈ before, verdict storedObject entry = .passes)
    (stops : verdict storedObject stop ≠ .passes)
    (few : (askedDates before).length ≤ 2) :
    (∃ valid, settle storedObject [] (before ++ stop :: after) = .ok valid) ∨
      settle storedObject [] (before ++ stop :: after) =
        .error .generalFailure := by
  cases outcome : verdict storedObject stop with
  | passes => exact absurd outcome stops
  | rejects =>
      rw [settle_of_rejects passes outcome, if_pos few]
      by_cases printable : Printable storedObject (askedDates before)
      · obtain ⟨valid, settled⟩ := settleDates_eq_ok printable
        rw [settled]
        exact .inl ⟨false, rfl⟩
      · rw [settleDates_eq_error printable]
        exact .inr rfl
  | raises =>
      rw [settle_of_raises passes outcome, if_pos few]
      exact .inr rfl

theorem settle_of_front
    {front back : List Attribute} (few : (askedDates front).length ≤ 2)
    (stops : ∃ entry ∈ front, verdict storedObject entry ≠ .passes) :
    (∃ valid, settle storedObject [] (front ++ back) = .ok valid) ∨
      settle storedObject [] (front ++ back) = .error .generalFailure := by
  rcases all_pass_or_exists_stop (verdict storedObject) front with
    passes | ⟨before, stop, after, rfl, passes, stop_⟩
  · obtain ⟨entry, member, fails⟩ := stops
    exact absurd (passes entry member) fails
  · rw [List.append_assoc, List.cons_append]
    apply settle_of_stop passes stop_
    rw [askedDates_append, List.length_append] at few
    omega

/-- With few dates there is one reason for which the filters of an object
fail. -/
theorem settle_of_few
    (few : (askedDates entries).length ≤ 2) :
    (∃ valid, settle storedObject [] entries = .ok valid) ∨
      settle storedObject [] entries = .error .generalFailure := by
  by_cases passes : ∀ entry ∈ entries, verdict storedObject entry = .passes
  · rw [settle_of_passes passes, if_pos few]
    by_cases printable : Printable storedObject (askedDates entries)
    · exact .inl (settleDates_eq_ok printable)
    · exact .inr (settleDates_eq_error printable)
  · have stops : ∃ entry ∈ entries, verdict storedObject entry ≠ .passes := by
      simpa using passes
    rw [← List.append_nil entries]
    exact settle_of_front few stops

theorem settle_of_raises_first
    (few : (askedDates entries).length ≤ 2)
    (raises : Raises (verdict storedObject) entries) :
    settle storedObject [] entries = .error .generalFailure := by
  rcases all_pass_or_exists_stop (verdict storedObject) entries with
    passes | ⟨before, stop, after, rfl, passes, stops⟩
  · obtain ⟨entry, member, fails⟩ := exists_raises_of_raises raises
    rw [passes entry member] at fails
    cases fails
  · rw [raises_append_of_passes passes] at raises
    cases outcome : verdict storedObject stop with
    | passes => exact absurd outcome stops
    | rejects => exact absurd raises (not_raises_cons_of_rejects outcome)
    | raises =>
        rw [settle_of_raises passes outcome, if_pos]
        rw [askedDates_append, List.length_append] at few
        omega

/-- Filters that do not raise, ordered before all dates, settle the object. -/
theorem settle_of_not_raises
    {front back : List Attribute}
    (undated : ∀ entry ∈ front, entry.date = none)
    (silent : ¬Raises (verdict storedObject) front)
    (stops : ∃ entry ∈ front, verdict storedObject entry ≠ .passes) :
    settle storedObject [] (front ++ back) = .ok false := by
  rcases all_pass_or_exists_stop (verdict storedObject) front with
    passes | ⟨before, stop, after, rfl, passes, stop_⟩
  · obtain ⟨entry, member, fails⟩ := stops
    exact absurd (passes entry member) fails
  · have none_ : askedDates before = [] := askedDates_eq_nil fun entry member =>
      undated entry (List.mem_append_left _ member)
    rw [raises_append_of_passes passes] at silent
    cases outcome : verdict storedObject stop with
    | passes => exact absurd outcome stop_
    | raises => exact absurd (raises_cons_of_raises outcome) silent
    | rejects =>
        rw [List.append_assoc, List.cons_append,
          settle_of_rejects passes outcome, none_, if_pos (by simp),
          settleDates_nil]
        rfl

end Stops

section Permutations

variable {storedObject : StoredObject} {entries permuted : List Attribute}
  {first second : List Int}

theorem askedDates_perm (permutation : permuted.Perm entries) :
    (askedDates permuted).Perm (askedDates entries) :=
  permutation.filterMap _

theorem eq_of_perm_of_length_le_one
    (permutation : first.Perm second) (few : first.length ≤ 1) :
    first = second := by
  match first, few with
  | [], _ => exact permutation.nil_eq
  | [date], _ => exact List.singleton_perm.mp permutation

/-- Two dates are compared in either order alike. -/
theorem datesMatch_perm
    (permutation : first.Perm second) (few : first.length ≤ 2) (date : Int) :
    datesMatch date first = datesMatch date second ∧
      datesPrintable date first = datesPrintable date second := by
  induction permutation with
  | nil => exact ⟨rfl, rfl⟩
  | cons value rest _ =>
      rw [eq_of_perm_of_length_le_one rest (by simpa using few)]
      exact ⟨rfl, rfl⟩
  | swap left right rest =>
      obtain rfl : rest = [] := List.length_eq_zero_iff.mp (by simpa using few)
      simp only [datesMatch, datesPrintable]
      rw [min_comm right left, max_comm right left]
      exact ⟨rfl, rfl⟩
  | trans earlier later earlierSame laterSame =>
      obtain ⟨firstMatch, firstPrintable⟩ := earlierSame few
      obtain ⟨secondMatch, secondPrintable⟩ :=
        laterSame (by rwa [← earlier.length_eq])
      exact ⟨firstMatch.trans secondMatch, firstPrintable.trans secondPrintable⟩

theorem printable_perm
    (permutation : first.Perm second) (few : first.length ≤ 2) :
    Printable storedObject first ↔ Printable storedObject second := by
  unfold Printable
  rw [(datesMatch_perm permutation few _).2]

/-- Any of the dates can be asked for first. -/
theorem exists_perm_of_subperm
    {chosen : List Int} (inside : chosen.Subperm (askedDates entries)) :
    ∃ front back, (front ++ back).Perm entries ∧
      (∀ entry ∈ front, entry.date.isSome) ∧
      (askedDates front).Perm chosen := by
  obtain ⟨sublist, permutation, sublists⟩ := inside
  obtain ⟨selected, isSelected, rfl⟩ := List.sublist_filterMap_iff.mp sublists
  have front : (selected.filter fun entry => entry.date.isSome).Sublist entries :=
    List.filter_sublist.trans isSelected
  obtain ⟨back, splits⟩ := front.exists_perm_append
  refine ⟨_, back, splits.symm, ?_, ?_⟩
  · intro entry member
    simpa using (List.mem_filter.mp member).2
  · have same : (fun entry : Attribute =>
        if entry.date.isSome = true then entry.date else none) =
        Attribute.date := by
      funext entry
      cases entry.date <;> rfl
    unfold askedDates
    rw [List.filterMap_filter, same]
    exact permutation

end Permutations

section Screens

variable {entries : List Attribute} {objects before after : List StoredObject}
  {storedObject : StoredObject} {reason : ResultReason}

/-- The objects that the filters leave, or the reason of the first failure. -/
def screen (entries : List Attribute) :
    List StoredObject → Except ResultReason (List StoredObject)
  | [] => .ok []
  | storedObject :: rest => do
      let matched ← settle storedObject [] entries
      let others ← screen entries rest
      return if matched then storedObject :: others else others

theorem reason_filterObjects
    (entries : List Attribute) (objects : List StoredObject) :
    (filterObjects entries objects).mapError PyError.reason =
      screen entries objects := by
  induction objects with
  | nil => rfl
  | cons first rest ih =>
      rw [screen, ← ih, ← reason_matchesFilters, filterObjects]
      cases matchesFilters entries first with
      | error exception => rfl
      | ok matched => cases filterObjects entries rest <;> rfl

theorem screen_of_ok
    {kept : StoredObject → Bool}
    (settled : ∀ storedObject ∈ objects,
      settle storedObject [] entries = .ok (kept storedObject)) :
    screen entries objects = .ok (objects.filter kept) := by
  induction objects with
  | nil => rfl
  | cons first rest ih =>
      rw [screen, settled first (.head _),
        ih fun other member => settled other (.tail _ member)]
      cases keeps : kept first with
      | true =>
          rw [List.filter_cons_of_pos keeps]
          rfl
      | false =>
          rw [List.filter_cons_of_neg (by simp [keeps])]
          rfl

theorem settled_of_screen
    {filtered : List StoredObject} (screened : screen entries objects = .ok filtered)
    (member : storedObject ∈ objects) :
    ∃ valid, settle storedObject [] entries = .ok valid := by
  induction objects generalizing filtered with
  | nil => cases member
  | cons first rest ih =>
      obtain ⟨matched, settled, others⟩ := except_bind_ok_iff.mp screened
      obtain ⟨kept, later, _⟩ := except_bind_ok_iff.mp others
      rcases List.mem_cons.mp member with rfl | isLater
      · exact ⟨matched, settled⟩
      · exact ih later isLater

/-- If an object fails and no earlier object fails for another reason, then that
is the outcome. -/
theorem screen_of_failure
    (settled : ∀ other ∈ before,
      (∃ valid, settle other [] entries = .ok valid) ∨
        settle other [] entries = .error reason)
    (fails : settle storedObject [] entries = .error reason) :
    screen entries (before ++ storedObject :: after) = .error reason := by
  induction before with
  | nil =>
      rw [List.nil_append, screen, fails]
      rfl
  | cons first rest ih =>
      have later := ih fun other member => settled other (.tail _ member)
      rcases settled first (.head _) with ⟨valid, settles⟩ | alsoFails
      · rw [List.cons_append, screen, settles, later]
        rfl
      · rw [List.cons_append, screen, alsoFails]
        rfl

theorem exists_failure_of_screen
    (screened : screen entries objects = .error reason) :
    ∃ before storedObject after, objects = before ++ storedObject :: after ∧
      (∀ other ∈ before, ∃ valid, settle other [] entries = .ok valid) ∧
      settle storedObject [] entries = .error reason := by
  induction objects with
  | nil => cases screened
  | cons first rest ih =>
      cases settled : settle first [] entries with
      | error failure =>
          rw [screen, settled] at screened
          cases screened
          exact ⟨[], first, rest, rfl, by simp, settled⟩
      | ok matched =>
          rw [screen, settled] at screened
          cases later : screen entries rest with
          | ok others =>
              rw [later] at screened
              cases screened
          | error failure =>
              rw [later] at screened
              cases screened
              obtain ⟨before, storedObject, after, rfl, earlier, fails⟩ :=
                ih later
              refine ⟨first :: before, storedObject, after, rfl, ?_, fails⟩
              exact List.forall_mem_cons.mpr ⟨⟨matched, settled⟩, earlier⟩

theorem screen_of_one_reason
    (member : storedObject ∈ objects)
    (fails : settle storedObject [] entries = .error reason)
    (only : ∀ other ∈ objects,
      (∃ valid, settle other [] entries = .ok valid) ∨
        settle other [] entries = .error reason) :
    screen entries objects = .error reason := by
  obtain ⟨before, after, rfl⟩ := List.append_of_mem member
  exact screen_of_failure
    (fun other earlier => only other (List.mem_append_left _ earlier)) fails

end Screens

section Conditions

variable (entries : List Attribute) (objects : List StoredObject)

/-- No order of the filters fails for the object. -/
structure NeverFails (storedObject : StoredObject) : Prop where
  few : (askedDates entries).length ≤ 2
  silent : ∀ entry ∈ entries, verdict storedObject entry ≠ .raises
  printable : (∀ entry ∈ entries, verdict storedObject entry = .passes) →
    Printable storedObject (askedDates entries)
  printableParts : (∃ entry ∈ entries, verdict storedObject entry = .rejects) →
    ∀ part : List Int, part.Subperm (askedDates entries) →
      Printable storedObject part

/-- An object that passes all filters has dates that cannot be printed, or there
are stuck objects. -/
def AlwaysFails : Prop :=
  (∃ storedObject ∈ objects,
    (∀ entry ∈ entries, verdict storedObject entry = .passes) ∧
      ¬Printable storedObject (askedDates entries)) ∨
  ∃ stuck, stuck ⊆ objects ∧ Stuck verdict stuck entries

/-- An object passes all filters, and objects before it can only be rejected. -/
def AlwaysTooMany : Prop :=
  ∃ before storedObject after, objects = before ++ storedObject :: after ∧
    (∀ entry ∈ entries, verdict storedObject entry = .passes) ∧
    ∀ other ∈ before, (∀ entry ∈ entries, verdict other entry ≠ .raises) ∧
      ∀ part : List Int, part.Subperm (askedDates entries) →
        part.length ≤ 2 → Printable other part

/-- The order of the filters has no say in the outcome: none of them fails for
any object, or all of them fail for the same reason. -/
def OrderFree : Prop :=
  (∀ storedObject ∈ objects, NeverFails entries storedObject) ∨
    (askedDates entries).length ≤ 2 ∧ AlwaysFails entries objects ∨
    2 < (askedDates entries).length ∧ AlwaysTooMany entries objects

variable {entries objects} {permuted : List Attribute}
  {storedObject : StoredObject}

theorem askedDates_subperm
    {before after : List Attribute}
    (permutation : (before ++ after).Perm entries) :
    (askedDates before).Subperm (askedDates entries) := by
  apply List.Subperm.trans _ (askedDates_perm permutation).subperm
  rw [askedDates_append]
  exact (List.sublist_append_left _ _).subperm

/-- Whether the object is in the response. -/
def keptBy (entries : List Attribute) (storedObject : StoredObject) : Bool :=
  entries.all (fun entry => verdict storedObject entry = .passes) &&
    (storedObject.managedObject.initialDate = 0 ||
      datesMatch storedObject.managedObject.initialDate (askedDates entries))

theorem NeverFails.settles
    (never : NeverFails entries storedObject)
    (permutation : permuted.Perm entries) :
    settle storedObject [] permuted = .ok (keptBy entries storedObject) := by
  have dates := askedDates_perm permutation
  rcases all_pass_or_exists_stop (verdict storedObject) permuted with
    passes | ⟨before, stop, after, rfl, passes, stops⟩
  · have allPass : ∀ entry ∈ entries,
        verdict storedObject entry = .passes :=
      fun entry member => passes entry (permutation.mem_iff.mpr member)
    have few : (askedDates permuted).length ≤ 2 := by
      rw [dates.length_eq]
      exact never.few
    have printable := (printable_perm dates few).mpr (never.printable allPass)
    rw [settle_of_passes passes, if_pos few]
    unfold settleDates keptBy
    rw [if_pos printable, (datesMatch_perm dates few _).1,
      List.all_eq_true.mpr (fun entry member => decide_eq_true
        (allPass entry member)), Bool.true_and]
  · have member : stop ∈ entries := permutation.mem_iff.mp (by simp)
    have rejects : verdict storedObject stop = .rejects := by
      cases outcome : verdict storedObject stop with
      | passes => exact absurd outcome stops
      | rejects => rfl
      | raises => exact absurd outcome (never.silent stop member)
    have part := askedDates_subperm permutation
    obtain ⟨valid, settled⟩ := settleDates_eq_ok
      (never.printableParts ⟨stop, member, rejects⟩ _ part)
    have notKept : keptBy entries storedObject = false := by
      unfold keptBy
      rw [List.all_eq_false.mpr ⟨stop, member, by simp [rejects]⟩,
        Bool.false_and]
    rw [settle_of_rejects passes rejects,
      if_pos (le_trans part.length_le never.few), settled, notKept]
    rfl

theorem AlwaysFails.screens
    (always : AlwaysFails entries objects)
    (few : (askedDates entries).length ≤ 2)
    (permutation : permuted.Perm entries) :
    screen permuted objects = .error .generalFailure := by
  have dates := askedDates_perm permutation
  have fewPermuted : (askedDates permuted).length ≤ 2 := by
    rwa [dates.length_eq]
  have fails : ∃ storedObject ∈ objects,
      settle storedObject [] permuted = .error .generalFailure := by
    rcases always with ⟨storedObject, member, passes, unprintable⟩ |
        ⟨stuck, inside, isStuck⟩
    · refine ⟨storedObject, member, ?_⟩
      rw [settle_of_passes fun entry isEntry =>
        passes entry (permutation.mem_iff.mp isEntry), if_pos fewPermuted]
      exact settleDates_eq_error fun printable =>
        unprintable ((printable_perm dates fewPermuted).mp printable)
    · obtain ⟨storedObject, member, raises⟩ :=
        (isStuck.perm permutation).exists_raises
      exact ⟨storedObject, inside member,
        settle_of_raises_first fewPermuted raises⟩
  obtain ⟨storedObject, member, failed⟩ := fails
  exact screen_of_one_reason member failed fun other _ =>
    settle_of_few fewPermuted

theorem AlwaysTooMany.screens
    (always : AlwaysTooMany entries objects)
    (many : 2 < (askedDates entries).length)
    (permutation : permuted.Perm entries) :
    screen permuted objects = .error .invalidField := by
  obtain ⟨before, storedObject, after, rfl, passes, earlier⟩ := always
  have manyPermuted : ¬(askedDates permuted).length ≤ 2 := by
    rw [(askedDates_perm permutation).length_eq]
    omega
  apply screen_of_failure
  · intro other member
    obtain ⟨silent, printable⟩ := earlier other member
    rcases all_pass_or_exists_stop (verdict other) permuted with
      otherPasses | ⟨front, stop, back, rfl, otherPasses, stops⟩
    · right
      rw [settle_of_passes otherPasses, if_neg manyPermuted]
    · have isEntry : stop ∈ entries := permutation.mem_iff.mp (by simp)
      have rejects : verdict other stop = .rejects := by
        cases outcome : verdict other stop with
        | passes => exact absurd outcome stops
        | rejects => rfl
        | raises => exact absurd outcome (silent stop isEntry)
      rw [settle_of_rejects otherPasses rejects]
      by_cases fewFront : (askedDates front).length ≤ 2
      · obtain ⟨valid, settled⟩ := settleDates_eq_ok
          (printable _ (askedDates_subperm permutation) fewFront)
        rw [if_pos fewFront, settled]
        exact .inl ⟨false, rfl⟩
      · rw [if_neg fewFront]
        exact .inr rfl
  · rw [settle_of_passes fun entry member =>
      passes entry (permutation.mem_iff.mp member), if_neg manyPermuted]

end Conditions

section Orders

variable {entries : List Attribute} {objects : List StoredObject}
  {storedObject : StoredObject}

theorem passes_of_dated
    {entry : Attribute} (dated : entry.date.isSome) :
    verdict storedObject entry = .passes := by
  obtain ⟨requested, isDate⟩ := Option.isSome_iff_exists.mp dated
  exact verdict_of_date isDate

theorem undated_of_stops
    {entry : Attribute} (stops : verdict storedObject entry ≠ .passes) :
    entry.date = none := by
  cases dated : entry.date with
  | none => rfl
  | some requested => exact absurd (verdict_of_date dated) stops

/-- Dates come last. -/
def undatedFirst (entries : List Attribute) : List Attribute :=
  entries.filter (fun entry => entry.date.isNone) ++
    entries.filter fun entry => !entry.date.isNone

theorem undatedFirst_perm (entries : List Attribute) :
    (undatedFirst entries).Perm entries :=
  List.filter_append_perm _ entries

theorem mem_undated
    {entry : Attribute} (member : entry ∈ entries) (undated : entry.date = none) :
    entry ∈ entries.filter fun entry => entry.date.isNone :=
  List.mem_filter.mpr ⟨member, by rw [undated]; rfl⟩

theorem askedDates_undated :
    askedDates (entries.filter fun entry => entry.date.isNone) = [] :=
  askedDates_eq_nil fun entry member => by
    simpa using (List.mem_filter.mp member).2

/-- Some dates, the filter that stops an object, the other filters that are no
dates, and the other dates, in this order. -/
theorem exists_order_of_stop
    {stop : Attribute} {part : List Int} (member : stop ∈ entries)
    (undated : stop.date = none)
    (inside : part.Subperm (askedDates entries)) :
    ∃ front rest back, ((front ++ stop :: rest) ++ back).Perm entries ∧
      (∀ entry ∈ front, entry.date.isSome) ∧
      (askedDates front).Perm part ∧
      (∀ entry ∈ rest, entry.date = none) ∧
      ∀ entry ∈ entries, entry.date = none → entry ∈ stop :: rest := by
  obtain ⟨front, others, permutation, dated, same⟩ :=
    exists_perm_of_subperm inside
  have isOther : ∀ entry ∈ entries, entry.date = none → entry ∈ others := by
    intro entry isEntry isUndated
    rcases List.mem_append.mp (permutation.mem_iff.mpr isEntry) with
      isFront | isLater
    · have isDated := dated entry isFront
      rw [isUndated] at isDated
      cases isDated
    · exact isLater
  have stopFirst := List.perm_cons_erase (isOther stop member undated)
  refine ⟨front,
    (others.erase stop).filter (fun entry => entry.date.isNone),
    (others.erase stop).filter (fun entry => !entry.date.isNone), ?_, dated,
    same, ?_, ?_⟩
  · rw [List.append_assoc, List.cons_append]
    exact (((undatedFirst_perm _).cons stop).trans stopFirst.symm |>.append_left
      front).trans permutation
  · intro entry isRest
    simpa using (List.mem_filter.mp isRest).2
  · intro entry isEntry isUndated
    rcases List.mem_cons.mp (stopFirst.mem_iff.mp
      (isOther entry isEntry isUndated)) with rfl | isLater
    · exact .head _
    · exact .tail _ (mem_undated isLater isUndated)

/-- With all dates first, too many dates fail for every object. -/
theorem exists_order_of_many
    (many : 2 < (askedDates entries).length) :
    ∃ permuted, permuted.Perm entries ∧ ∀ storedObject,
      settle storedObject [] permuted = .error .invalidField := by
  obtain ⟨front, back, permutation, dated, same⟩ :=
    exists_perm_of_subperm (List.Subperm.refl (askedDates entries))
  refine ⟨_, permutation, fun storedObject => ?_⟩
  rw [settle_append (fun entry member => passes_of_dated (dated entry member))
    (by simp), if_neg]
  rw [List.nil_append, same.length_eq]
  omega

/-- Without an object or a set of objects that always fails, some order of few
dates settles all objects. -/
theorem exists_order_of_not_alwaysFails
    (few : (askedDates entries).length ≤ 2)
    (free : ¬AlwaysFails entries objects) :
    ∃ permuted, permuted.Perm entries ∧ ∀ storedObject ∈ objects,
      ∃ valid, settle storedObject [] permuted = .ok valid := by
  obtain ⟨order, permutation, silent⟩ := exists_order fun stuck inside isStuck =>
    free (.inr ⟨stuck, inside, isStuck⟩)
  have lastDates := (undatedFirst_perm order).trans permutation
  refine ⟨undatedFirst order, lastDates, fun storedObject member => ?_⟩
  by_cases passes : ∀ entry ∈ undatedFirst order,
      verdict storedObject entry = .passes
  · have dates := askedDates_perm lastDates
    have fewOrder : (askedDates (undatedFirst order)).length ≤ 2 := by
      rwa [dates.length_eq]
    rw [settle_of_passes passes, if_pos fewOrder]
    apply settleDates_eq_ok
    rw [printable_perm dates fewOrder]
    by_contra unprintable
    exact free (.inl ⟨storedObject, member, fun entry isEntry =>
      passes entry (lastDates.mem_iff.mpr isEntry), unprintable⟩)
  · have stops : ∃ entry ∈ undatedFirst order,
        verdict storedObject entry ≠ .passes := by
      simpa using passes
    obtain ⟨stop, isStop, fails⟩ := stops
    have isEntry : stop ∈ order :=
      (undatedFirst_perm order).mem_iff.mp isStop
    have silentUndated : ¬Raises (verdict storedObject)
        (order.filter fun entry => entry.date.isNone) := by
      rw [raises_filter_of_passes fun entry _ dated =>
        passes_of_dated (by simpa [Option.isSome_iff_ne_none] using dated)]
      exact silent storedObject member
    refine ⟨false, settle_of_not_raises (fun entry isUndated => ?_)
      silentUndated ⟨stop, mem_undated isEntry (undated_of_stops fails), fails⟩⟩
    simpa using (List.mem_filter.mp isUndated).2

end Orders

section Necessity

variable {entries : List Attribute} {objects : List StoredObject}

theorem neverFails_of_screens
    (screens : ∀ permuted, permuted.Perm entries →
      ∃ filtered, screen permuted objects = .ok filtered) :
    ∀ storedObject ∈ objects, NeverFails entries storedObject := by
  intro storedObject member
  have settles : ∀ permuted, permuted.Perm entries →
      ∃ valid, settle storedObject [] permuted = .ok valid := by
    intro permuted permutation
    obtain ⟨filtered, screened⟩ := screens permuted permutation
    exact settled_of_screen screened member
  have few : (askedDates entries).length ≤ 2 := by
    by_contra many
    obtain ⟨permuted, permutation, fails⟩ :=
      exists_order_of_many (not_le.mp many)
    obtain ⟨valid, settled⟩ := settles permuted permutation
    rw [fails] at settled
    cases settled
  constructor
  · exact few
  · intro entry isEntry raises
    have undated := undated_of_stops (by rw [raises]; simp)
    obtain ⟨front, rest, back, permutation, dated, same, _⟩ :=
      exists_order_of_stop isEntry undated (List.nil_subperm (l := _))
    obtain ⟨valid, settled⟩ := settles _ permutation
    rw [List.append_assoc, List.cons_append, settle_of_raises
      (fun other isFront => passes_of_dated (dated other isFront)) raises,
      if_pos (by rw [same.length_eq]; simp)] at settled
    cases settled
  · intro passes
    by_contra unprintable
    obtain ⟨valid, settled⟩ := settles entries (.refl _)
    rw [settle_of_passes passes, if_pos few,
      settleDates_eq_error unprintable] at settled
    cases settled
  · rintro ⟨stop, isEntry, rejects⟩ part inside
    by_contra unprintable
    have undated := undated_of_stops (by rw [rejects]; simp)
    obtain ⟨front, rest, back, permutation, dated, same, _⟩ :=
      exists_order_of_stop isEntry undated inside
    have fewFront : (askedDates front).length ≤ 2 := by
      rw [same.length_eq]
      exact le_trans inside.length_le few
    obtain ⟨valid, settled⟩ := settles _ permutation
    rw [List.append_assoc, List.cons_append, settle_of_rejects
      (fun other isFront => passes_of_dated (dated other isFront)) rejects,
      if_pos fewFront, settleDates_eq_error fun printable =>
        unprintable ((printable_perm same fewFront).mp printable)] at settled
    cases settled

theorem alwaysFails_of_screens
    (few : (askedDates entries).length ≤ 2) {reason : ResultReason}
    (screens : ∀ permuted, permuted.Perm entries →
      screen permuted objects = .error reason) :
    AlwaysFails entries objects := by
  by_contra free
  obtain ⟨permuted, permutation, settles⟩ :=
    exists_order_of_not_alwaysFails few free
  obtain ⟨before, storedObject, after, rfl, _, fails⟩ :=
    exists_failure_of_screen (screens permuted permutation)
  obtain ⟨valid, settled⟩ := settles storedObject (by simp)
  rw [settled] at fails
  cases fails

/-- If an object is stopped by a filter that raises or by a date before a filter
that rejects it, then an object that only passes comes before it. -/
theorem alwaysTooMany_of_screens
    (many : 2 < (askedDates entries).length) {reason : ResultReason}
    (screens : ∀ permuted, permuted.Perm entries →
      screen permuted objects = .error reason) :
    AlwaysTooMany entries objects := by
  have tooMany : ∀ permuted, permuted.Perm entries →
      screen permuted objects = .error .invalidField := by
    obtain ⟨permuted, permutation, fails⟩ := exists_order_of_many many
    obtain ⟨before, first, after, rfl, _, firstFails⟩ :=
      exists_failure_of_screen (screens permuted permutation)
    rw [fails] at firstFails
    cases firstFails
    exact screens
  have passing : ∃ storedObject ∈ objects,
      ∀ entry ∈ entries, verdict storedObject entry = .passes := by
    obtain ⟨before, storedObject, after, rfl, _, fails⟩ :=
      exists_failure_of_screen (tooMany _ (undatedFirst_perm entries))
    refine ⟨storedObject, by simp, fun entry isEntry => ?_⟩
    by_contra stops
    rcases settle_of_front (by rw [askedDates_undated]; simp)
      ⟨entry, mem_undated isEntry (undated_of_stops stops), stops⟩ with
      ⟨valid, settled⟩ | other
    · rw [undatedFirst, settled] at fails
      cases fails
    · rw [undatedFirst, other] at fails
      cases fails
  obtain ⟨before, storedObject, after, rfl, passes, earlier⟩ :
      ∃ before storedObject after, objects = before ++ storedObject :: after ∧
        (∀ entry ∈ entries, verdict storedObject entry = .passes) ∧
        ∀ other ∈ before, ¬∀ entry ∈ entries, verdict other entry = .passes := by
    have found : (objects.find? fun storedObject =>
        ∀ entry ∈ entries, verdict storedObject entry = .passes).isSome := by
      simpa [List.find?_isSome] using passing
    obtain ⟨first, isFirst⟩ := Option.isSome_iff_exists.mp found
    obtain ⟨passes, before, after, split, earlier⟩ :=
      List.find?_eq_some_iff_append.mp isFirst
    exact ⟨before, first, after, split, of_decide_eq_true passes,
      fun other member => by simpa using earlier other member⟩
  -- an order that makes the object fail for another reason, before any object
  -- can fail for its dates
  have contradicts : ∀ other ∈ before, ∀ stop ∈ entries, ∀ part : List Int,
      stop.date = none → part.Subperm (askedDates entries) → part.length ≤ 2 →
      (∀ front after : List Attribute, (∀ entry ∈ front, entry.date.isSome) →
        (askedDates front).Perm part →
        settle other [] (front ++ stop :: after) = .error .generalFailure) →
      False := by
    intro other member stop isEntry part undated inside few fails
    obtain ⟨front, rest, back, permutation, dated, same, restUndated, covers⟩ :=
      exists_order_of_stop isEntry undated inside
    have fewFront : (askedDates (front ++ stop :: rest)).length ≤ 2 := by
      have none_ : askedDates (stop :: rest) = [] :=
        askedDates_eq_nil (List.forall_mem_cons.mpr ⟨undated, restUndated⟩)
      rw [askedDates_append, none_, List.append_nil, same.length_eq]
      exact few
    have settles : ∀ another ∈ before,
        (∃ valid, settle another [] ((front ++ stop :: rest) ++ back) =
          .ok valid) ∨
        settle another [] ((front ++ stop :: rest) ++ back) =
          .error .generalFailure := by
      intro another isEarlier
      obtain ⟨entry, held, stops⟩ : ∃ entry ∈ entries,
          verdict another entry ≠ .passes := by
        simpa using earlier another isEarlier
      exact settle_of_front fewFront ⟨entry, List.mem_append_right _
        (covers entry held (undated_of_stops stops)), stops⟩
    have failed : settle other [] ((front ++ stop :: rest) ++ back) =
        .error .generalFailure := by
      rw [List.append_assoc, List.cons_append]
      exact fails front _ dated same
    have screened := tooMany _ permutation
    obtain ⟨first, second, rfl⟩ := List.append_of_mem member
    have regrouped : (first ++ other :: second) ++ storedObject :: after =
        first ++ other :: (second ++ storedObject :: after) := by simp
    rw [regrouped, screen_of_failure
      (fun another isFirst => settles another (List.mem_append_left _ isFirst))
      failed] at screened
    cases screened
  refine ⟨before, storedObject, after, rfl, passes, fun other member => ?_⟩
  have silent : ∀ entry ∈ entries, verdict other entry ≠ .raises := by
    intro entry isEntry raises
    apply contradicts other member entry isEntry [] (undated_of_stops (by
      rw [raises]
      simp)) (List.nil_subperm (l := _)) (by simp)
    intro front after dated same
    rw [settle_of_raises (fun other isFront =>
      passes_of_dated (dated other isFront)) raises,
      if_pos (by rw [same.length_eq]; simp)]
  refine ⟨silent, fun part inside few => ?_⟩
  by_contra unprintable
  obtain ⟨stop, isEntry, stops⟩ : ∃ entry ∈ entries,
      verdict other entry ≠ .passes := by
    simpa using earlier other member
  have rejects : verdict other stop = .rejects := by
    cases outcome : verdict other stop with
    | passes => exact absurd outcome stops
    | rejects => rfl
    | raises => exact absurd outcome (silent stop isEntry)
  apply contradicts other member stop isEntry part (undated_of_stops stops)
    inside few
  intro front after dated same
  have fewFront : (askedDates front).length ≤ 2 := by
    rwa [same.length_eq]
  rw [settle_of_rejects (fun other isFront =>
    passes_of_dated (dated other isFront)) rejects, if_pos fewFront,
    settleDates_eq_error fun printable =>
      unprintable ((printable_perm same fewFront).mp printable)]
  rfl

/-- Whatever the response shows of the filtered objects. -/
theorem orderFree_iff (shown : List StoredObject → γ) :
    (∀ permuted, permuted.Perm entries →
        (screen permuted objects).map shown =
          (screen entries objects).map shown) ↔
      OrderFree entries objects := by
  constructor
  · intro same
    cases screened : screen entries objects with
    | ok filtered =>
        left
        apply neverFails_of_screens
        intro permuted permutation
        have equal := same permuted permutation
        cases other : screen permuted objects with
        | ok others => exact ⟨others, rfl⟩
        | error reason =>
            rw [screened, other] at equal
            cases equal
    | error reason =>
        right
        have fails : ∀ permuted, permuted.Perm entries →
            screen permuted objects = .error reason := by
          intro permuted permutation
          have equal := same permuted permutation
          cases other : screen permuted objects with
          | ok others =>
              rw [screened, other] at equal
              cases equal
          | error otherReason =>
              rw [screened, other] at equal
              cases equal
              rfl
        by_cases few : (askedDates entries).length ≤ 2
        · exact .inl ⟨few, alwaysFails_of_screens few fails⟩
        · have many := not_le.mp few
          exact .inr ⟨many, alwaysTooMany_of_screens many fails⟩
  · intro free permuted permutation
    have equal : screen permuted objects = screen entries objects := by
      rcases free with never | ⟨few, always⟩ | ⟨many, always⟩
      · rw [screen_of_ok fun storedObject member =>
          (never storedObject member).settles permutation,
          screen_of_ok fun storedObject member =>
            (never storedObject member).settles (.refl _)]
      · rw [always.screens few permutation, always.screens few (.refl _)]
      · rw [always.screens many permutation, always.screens many (.refl _)]
    rw [equal]

end Necessity

section Claims

variable {world : World} {state : EngineState}

/-- What the client learns: the payload, or the reason of the failure. -/
def learned (result : Result PyError EngineState ResponsePayload) :
    Except ResultReason ResponsePayload :=
  match result with
  | .ok payload _ => .ok payload
  | .error exception _ => .error exception.reason

/-- Every order of the filters has the same outcome. -/
def LocateIgnoresOrder (world : World) (state : EngineState)
    (payload : LocateRequestPayload) : Prop :=
  ∀ permuted, permuted.Perm payload.attributes →
    learned ((processLocate world { payload with attributes := permuted }).run
        state) =
      learned ((processLocate world payload).run state)

theorem learned_processLocate
    (payload : LocateRequestPayload) (supported : ⟨1, 0⟩ ≤ state.protocolVersion)
    (active : state.dataStore.active = true) :
    learned ((processLocate world payload).run state) =
      (screen payload.attributes (permittedObjects world state .locate)).map
        fun filtered => .locate ((pageOf payload (newestFirst filtered)).map
          fun storedObject => toString storedObject.uniqueIdentifier) := by
  rw [run_processLocate payload supported active, ← reason_filterObjects]
  cases filterObjects payload.attributes
    (permittedObjects world state .locate) <;> rfl

/-- Locate does not depend on the order of its filters just when no order of
them fails, or all of them fail for the same reason. -/
theorem locate_ignores_order_iff
    (world : World) (state : EngineState) (payload : LocateRequestPayload)
    (supported : state.protocolVersion ∈ protocolVersions) :
    LocateIgnoresOrder world state payload ↔
      state.dataStore.active = false ∨
        OrderFree payload.attributes (permittedObjects world state .locate) := by
  have listed : ⟨1, 0⟩ ≤ state.protocolVersion := by
    generalize state.protocolVersion = version at supported
    revert version
    decide
  unfold LocateIgnoresOrder
  cases active : state.dataStore.active with
  | false =>
      refine iff_of_true (fun permuted _ => ?_) (.inl rfl)
      rw [run_processLocate_inactive _ listed active,
        run_processLocate_inactive _ listed active]
  | true =>
      simp only [learned_processLocate _ listed active, Bool.true_eq_false,
        false_or]
      exact orderFree_iff fun filtered => ResponsePayload.locate
        ((pageOf payload (newestFirst filtered)).map fun storedObject =>
          toString storedObject.uniqueIdentifier)

end Claims

section Samples

/-- Two filters, of which the key has one. -/
def mixedFilters : LocateRequestPayload where
  attributes := [
    { attributeName := .objectType
      attributeValue := .objectType .symmetricKey },
    { attributeName := .state
      attributeValue := .state .active }]

theorem locate_ignores_order_of_mixed :
    LocateIgnoresOrder sampleWorld sampleListing mixedFilters := by
  have judged : ∀ storedObject ∈
      permittedObjects sampleWorld sampleListing .locate,
      ∀ entry ∈ mixedFilters.attributes,
        verdict storedObject entry ≠ .raises := by
    decide +kernel
  have undated : askedDates mixedFilters.attributes = [] := by decide
  apply (locate_ignores_order_iff sampleWorld sampleListing mixedFilters
    (by decide)).mpr (.inr (.inl fun storedObject member => ?_))
  constructor
  · rw [undated]
    simp
  · exact judged storedObject member
  · intro _
    rw [undated]
    exact .inr rfl
  · intro _ part inside
    rw [undated] at inside
    rw [List.subperm_nil.mp inside]
    exact .inr rfl

def dateFilter (date : Int) : Attribute where
  attributeName := .initialDate
  attributeValue := .dateTime date

def certificateFilter : Attribute where
  attributeName := .objectType
  attributeValue := .objectType .certificate

/-- Three dates fail before a filter that rejects the key, and not after it. -/
theorem locate_depends_on_order :
    ¬∀ (world : World) (state : EngineState) (payload : LocateRequestPayload),
      state.protocolVersion ∈ protocolVersions →
      LocateIgnoresOrder world state payload := by
  intro ignores
  have same := ignores sampleWorld sampleListing
    { attributes := [certificateFilter, dateFilter 0, dateFilter 1,
        dateFilter 2] } (by decide)
    [dateFilter 0, dateFilter 1, dateFilter 2, certificateFilter]
    (by decide)
  have rejected : learned ((processLocate sampleWorld
      { attributes := [certificateFilter, dateFilter 0, dateFilter 1,
        dateFilter 2] }).run sampleListing) = .ok (.locate []) := by
    decide +kernel
  have fails : learned ((processLocate sampleWorld
      { attributes := [dateFilter 0, dateFilter 1, dateFilter 2,
        certificateFilter] }).run sampleListing) = .error .invalidField := by
    decide +kernel
  rw [rejected] at same
  exact absurd (fails.symm.trans same) (by simp)

end Samples

end PyKMIP
