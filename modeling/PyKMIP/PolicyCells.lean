import PyKMIP.PolicyMonitor

/-!
# What the monitor holds for one policy

Every step of a scan treats the policies one by one.  A cell is what the three
tables hold for one policy, and each step is an operation on cells.
-/

namespace PyKMIP

open EStateM StatefulExcept

@[ext] structure PolicyCell where
  store : Option PolicyBundle
  map : Option (Option String)
  cache : Option (List CachedPolicy)

namespace PolicyCell

def vacant : PolicyCell := ⟨none, none, none⟩

variable (fileName : String) (cell : PolicyCell)

def disassociate : PolicyCell :=
  { cell with cache := cell.cache.map (withoutFile fileName) }

def restore : PolicyCell :=
  match (cell.cache.getD []).getLast? with
  | none => vacant
  | some entry =>
      { store := some entry.definition
        map := some entry.file
        cache := some (cell.cache.getD []).dropLast }

/-- A file is deleted. -/
def forget : PolicyCell :=
  if cell.map = some (some fileName) then (cell.disassociate fileName).restore
  else cell.disassociate fileName

/-- The stack once a file defines the policy, if there is one to add to. -/
def shadowed (time : Rat) : Option (List CachedPolicy) :=
  match cell.store with
  | none => some []
  | some existing =>
      cell.cache.map fun cached =>
        if cell.map.join = some fileName then cached
        else cached ++
          [{ time := time, file := cell.map.join, definition := existing }]

end PolicyCell

namespace PolicyMonitor

def cell (monitor : PolicyMonitor) (policy : String) : PolicyCell where
  store := monitor.policyStore.get policy
  map := monitor.policyMap.get policy
  cache := monitor.policyCache.get policy

/-- What the monitor has tracked of the directory. -/
structure SameFiles (before after : PolicyMonitor) : Prop where
  fileTimestamps : after.fileTimestamps = before.fileTimestamps
  policyFiles : after.policyFiles = before.policyFiles

theorem SameFiles.refl (monitor : PolicyMonitor) : SameFiles monitor monitor :=
  ⟨rfl, rfl⟩

theorem SameFiles.trans {first second third : PolicyMonitor}
    (before : SameFiles first second) (after : SameFiles second third) :
    SameFiles first third :=
  ⟨after.fileTimestamps.trans before.fileTimestamps,
    after.policyFiles.trans before.policyFiles⟩

end PolicyMonitor

section Operations

variable (policy fileName : String) (monitor : PolicyMonitor) (other : String)

theorem cell_disassociatePolicyAndFile :
    (disassociatePolicyAndFile policy fileName monitor).cell other =
      if other = policy then (monitor.cell policy).disassociate fileName
      else monitor.cell other := by
  unfold disassociatePolicyAndFile
  cases cached : monitor.policyCache.get policy with
  | none =>
      by_cases same : other = policy
      · rw [if_pos same, same]
        ext1
        · rfl
        · rfl
        · simp [PolicyMonitor.cell, PolicyCell.disassociate, cached]
      · rw [if_neg same]
  | some entries =>
      by_cases same : other = policy
      · rw [if_pos same, same]
        ext1
        · rfl
        · rfl
        · simp [PolicyMonitor.cell, PolicyCell.disassociate, cached]
      · rw [if_neg same]
        ext1
        · rfl
        · rfl
        · simp [PolicyMonitor.cell, Dict.get_set_of_ne _ _ same]

theorem cell_restoreOrDeletePolicy :
    (restoreOrDeletePolicy policy monitor).cell other =
      if other = policy then (monitor.cell policy).restore
      else monitor.cell other := by
  unfold restoreOrDeletePolicy PolicyCell.restore
  show PolicyMonitor.cell (match ((monitor.policyCache.get policy).getD
    []).getLast? with | none => _ | some entry => _) other = if _ then
      (match ((monitor.policyCache.get policy).getD []).getLast? with
        | none => _ | some entry => _) else _
  cases ((monitor.policyCache.get policy).getD []).getLast? with
  | none =>
      by_cases same : other = policy
      · subst same
        simp [PolicyMonitor.cell, PolicyCell.vacant]
      · simp [PolicyMonitor.cell, same, Dict.get_erase_of_ne _ same]
  | some entry =>
      by_cases same : other = policy
      · subst same
        simp [PolicyMonitor.cell]
      · simp [PolicyMonitor.cell, same, Dict.get_set_of_ne _ _ same]

theorem sameFiles_disassociatePolicyAndFile :
    monitor.SameFiles (disassociatePolicyAndFile policy fileName monitor) := by
  unfold disassociatePolicyAndFile
  split
  · exact .refl monitor
  · exact ⟨rfl, rfl⟩

theorem sameFiles_restoreOrDeletePolicy :
    monitor.SameFiles (restoreOrDeletePolicy policy monitor) := by
  unfold restoreOrDeletePolicy
  split
  · exact ⟨rfl, rfl⟩
  · exact ⟨rfl, rfl⟩

end Operations

section Loops

/-- A loop over distinct policies changes each of their cells once. -/
theorem cell_foldl
    {step : PolicyMonitor → String → PolicyMonitor}
    (change : PolicyCell → PolicyCell)
    (steps : ∀ monitor policy other, (step monitor policy).cell other =
      if other = policy then change (monitor.cell policy)
      else monitor.cell other)
    {policies : List String} (distinct : policies.Nodup)
    (monitor : PolicyMonitor) (other : String) :
    (policies.foldl step monitor).cell other =
      if other ∈ policies then change (monitor.cell other)
      else monitor.cell other := by
  induction policies generalizing monitor with
  | nil => simp
  | cons policy rest ih =>
      obtain ⟨fresh, restDistinct⟩ := List.nodup_cons.mp distinct
      rw [List.foldl_cons, ih restDistinct, steps]
      by_cases same : other = policy
      · subst same
        simp [fresh]
      · simp [same]

theorem sameFiles_foldl
    {step : PolicyMonitor → String → PolicyMonitor}
    (steps : ∀ (monitor : PolicyMonitor) policy,
      monitor.SameFiles (step monitor policy))
    (policies : List String) (monitor : PolicyMonitor) :
    monitor.SameFiles (policies.foldl step monitor) := by
  induction policies generalizing monitor with
  | nil => exact .refl monitor
  | cons policy rest ih =>
      rw [List.foldl_cons]
      exact (steps monitor policy).trans (ih (step monitor policy))

theorem PolicyMonitor.policiesOf_nodup (monitor : PolicyMonitor)
    (file : String) : (monitor.policiesOf file).Nodup := by
  unfold PolicyMonitor.policiesOf
  apply List.pairwise_map.mpr
  exact monitor.policyMap.distinct.filter _

theorem PolicyMonitor.mem_policiesOf_iff
    {monitor : PolicyMonitor} {file policy : String} :
    policy ∈ monitor.policiesOf file ↔
      (monitor.cell policy).map = some (some file) := by
  unfold PolicyMonitor.policiesOf PolicyMonitor.cell
  rw [Dict.get_eq_some_iff]
  simp only [List.mem_map, List.mem_filter, decide_eq_true_eq]
  constructor
  · rintro ⟨⟨name, value⟩, ⟨member, rfl⟩, rfl⟩
    exact member
  · intro member
    exact ⟨_, ⟨member, rfl⟩, rfl⟩

theorem cell_disassociateFile
    (fileName : String) (monitor : PolicyMonitor) (policy : String) :
    (disassociateFile fileName monitor).cell policy =
      (monitor.cell policy).disassociate fileName := by
  unfold disassociateFile
  rw [cell_foldl (PolicyCell.disassociate fileName)
    (fun monitor policy other =>
      cell_disassociatePolicyAndFile policy fileName monitor other)
    monitor.policyCache.keys_nodup]
  split
  · rfl
  · rename_i untouched
    have missing : (monitor.cell policy).cache = none :=
      Dict.get_eq_none_iff.mpr untouched
    ext1
    · rfl
    · rfl
    · simp [PolicyCell.disassociate, missing]

theorem cell_restorePolicies
    (fileName : String) (monitor : PolicyMonitor) (policy : String) :
    (restorePolicies fileName monitor).cell policy =
      if (monitor.cell policy).map = some (some fileName) then
        (monitor.cell policy).restore
      else monitor.cell policy := by
  unfold restorePolicies
  rw [cell_foldl PolicyCell.restore
    (fun monitor policy other => cell_restoreOrDeletePolicy policy monitor other)
    (monitor.policiesOf_nodup fileName)]
  simp only [PolicyMonitor.mem_policiesOf_iff]

/-- A deleted file is forgotten for every policy. -/
theorem cell_removeFile
    (monitor : PolicyMonitor) (fileName policy : String) :
    (removeFile monitor fileName).cell policy =
      (monitor.cell policy).forget fileName := by
  unfold removeFile
  rw [cell_restorePolicies, cell_disassociateFile]
  rfl

theorem cell_dropPolicies
    {dropped : List String} (distinct : dropped.Nodup)
    (fileName : String) (monitor : PolicyMonitor) (policy : String) :
    (dropPolicies fileName dropped monitor).cell policy =
      if policy ∈ dropped then
        ((monitor.cell policy).disassociate fileName).restore
      else monitor.cell policy := by
  unfold dropPolicies
  apply cell_foldl (fun cell => (cell.disassociate fileName).restore) _ distinct
  intro monitor policy other
  rw [cell_restoreOrDeletePolicy]
  split
  · rw [cell_disassociatePolicyAndFile, if_pos rfl]
  · rename_i different
    rw [cell_disassociatePolicyAndFile, if_neg different]

end Loops

section Stacks

theorem eraseIdx_shifted
    (first : α) (rest : List α) (positions : List Nat) :
    (positions.map (· + 1)).foldr (fun position values =>
        values.eraseIdx position) (first :: rest) =
      first :: positions.foldr (fun position values =>
        values.eraseIdx position) rest := by
  induction positions with
  | nil => rfl
  | cons position others ih =>
      rw [List.map_cons, List.foldr_cons, ih]
      rfl

/-- No entry is the same as an earlier one. -/
def DistinctEntries (cached : List CachedPolicy) : Prop :=
  cached.Pairwise fun earlier later => earlier.same later = false

theorem CachedPolicy.same_self (entry : CachedPolicy) :
    entry.same entry = true := by
  simp [CachedPolicy.same]

/-- Without repeated entries exactly those of the file are taken out. -/
theorem withoutFile_eq_filter
    (fileName : String) {cached : List CachedPolicy}
    (distinct : DistinctEntries cached) :
    withoutFile fileName cached =
      cached.filter fun entry => entry.file ≠ some fileName := by
  unfold withoutFile
  rw [List.foldl_reverse]
  induction cached with
  | nil => rfl
  | cons first rest ih =>
      obtain ⟨fresh, restDistinct⟩ := List.pairwise_cons.mp distinct
      have shifted : ((rest.filter fun entry => entry.file = some fileName).map
            fun entry => (first :: rest).findIdx (·.same entry)) =
          ((rest.filter fun entry => entry.file = some fileName).map
            fun entry => rest.findIdx (·.same entry)).map (· + 1) := by
        rw [List.map_map]
        apply List.map_congr_left
        intro entry member
        have different := fresh entry (List.mem_filter.mp member).1
        simp [List.findIdx_cons, different]
      have foremost : (first :: rest).findIdx (·.same first) = 0 := by
        simp [List.findIdx_cons, first.same_self]
      by_cases isFile : first.file = some fileName
      · rw [List.filter_cons_of_pos (by simpa using isFile),
          List.filter_cons_of_neg (by simpa using isFile), List.map_cons,
          foremost, List.foldr_cons, shifted, eraseIdx_shifted,
          ih restDistinct]
        rfl
      · rw [List.filter_cons_of_neg (by simpa using isFile),
          List.filter_cons_of_pos (by simpa using isFile), shifted,
          eraseIdx_shifted, ih restDistinct]

/-- A definition with its file. -/
abbrev Definition := Option String × PolicyBundle

def CachedPolicy.entry (cached : CachedPolicy) : Definition :=
  (cached.file, cached.definition)

/-- All definitions of a policy, the served one last. -/
def PolicyCell.stack (cell : PolicyCell) : List Definition :=
  match cell.store with
  | none => []
  | some definition =>
      (cell.cache.getD []).map CachedPolicy.entry ++
        [(cell.map.join, definition)]

/-- The newest definition of a file in a stack. -/
def newest (fileName : String) (stack : List Definition) :
    Option PolicyBundle :=
  (stack.reverse.find? fun entry => entry.1 = some fileName).map Prod.snd

theorem newest_append
    (fileName : String) (stack : List Definition) (entry : Definition) :
    newest fileName (stack ++ [entry]) =
      if entry.1 = some fileName then some entry.2
      else newest fileName stack := by
  unfold newest
  rw [List.reverse_append, List.reverse_singleton, List.singleton_append,
    List.find?_cons]
  by_cases same : entry.1 = some fileName
  · simp [same]
  · simp [same]

theorem newest_filter (fileName other : String) (stack : List Definition) :
    newest other (stack.filter fun entry => entry.1 ≠ some fileName) =
      if other = fileName then none else newest other stack := by
  unfold newest
  rw [← List.filter_reverse, List.find?_filter]
  split
  · rename_i same
    subst same
    rw [Option.map_eq_none_iff, List.find?_eq_none]
    intro entry _
    simp
  · rename_i different
    congr 2
    funext entry
    by_cases named : entry.1 = some other
    · simp [named, different]
    · simp [named]

/-- A cell without repeated entries, each of which has a file. -/
inductive PolicyCell.Consistent : PolicyCell → Prop where
  | vacant : Consistent .vacant
  | stacked (definition : PolicyBundle) (fileName : String)
      (cached : List CachedPolicy) (distinct : DistinctEntries cached)
      (named : ∀ entry ∈ cached, ∃ fileName, entry.file = some fileName) :
      Consistent ⟨some definition, some (some fileName), some cached⟩

/-- What is left of a policy once the entries of a file are gone. -/
theorem PolicyCell.stack_restore
    (store : Option PolicyBundle) (map : Option (Option String))
    (cached : List CachedPolicy) :
    (PolicyCell.restore ⟨store, map, some cached⟩).stack =
      cached.map CachedPolicy.entry := by
  unfold PolicyCell.restore
  rcases List.eq_nil_or_concat' cached with rfl | ⟨earlier, last, rfl⟩
  · rfl
  · simp [PolicyCell.stack, CachedPolicy.entry]

theorem PolicyCell.restore_consistent
    (store : Option PolicyBundle) (map : Option (Option String))
    {cached : List CachedPolicy} (distinct : DistinctEntries cached)
    (named : ∀ entry ∈ cached, ∃ fileName, entry.file = some fileName) :
    (PolicyCell.restore ⟨store, map, some cached⟩).Consistent := by
  unfold PolicyCell.restore
  rcases List.eq_nil_or_concat' cached with rfl | ⟨earlier, last, rfl⟩
  · exact .vacant
  · obtain ⟨fileName, isNamed⟩ := named last (by simp)
    simp only [Option.getD_some, List.getLast?_append, List.getLast?_singleton,
      Option.some_or, List.dropLast_concat, isNamed]
    exact .stacked _ _ _ (List.pairwise_append.mp distinct).1
      fun entry member => named entry (List.mem_append_left _ member)

/-- The entries of a file are taken out of the whole stack. -/
theorem PolicyCell.Consistent.forgotten
    {cell : PolicyCell} (consistent : cell.Consistent) (fileName : String) :
    (cell.forget fileName).Consistent ∧
      (cell.forget fileName).stack =
        cell.stack.filter fun entry => entry.1 ≠ some fileName := by
  cases consistent with
  | vacant => exact ⟨.vacant, rfl⟩
  | stacked definition owner cached distinct named =>
      have keptDistinct : DistinctEntries (cached.filter fun entry =>
          entry.file ≠ some fileName) := List.Pairwise.filter _ distinct
      have keptNamed : ∀ entry ∈ cached.filter fun entry =>
          entry.file ≠ some fileName, ∃ file, entry.file = some file :=
        fun entry member => named entry (List.mem_filter.mp member).1
      have entries : (cached.filter fun entry =>
            entry.file ≠ some fileName).map CachedPolicy.entry =
          (cached.map CachedPolicy.entry).filter
            fun entry => entry.1 ≠ some fileName := by
        rw [List.filter_map]
        rfl
      unfold PolicyCell.forget PolicyCell.disassociate
      simp only [Option.map_some, withoutFile_eq_filter fileName distinct]
      by_cases owns : owner = fileName
      · rw [if_pos (by rw [owns])]
        constructor
        · exact PolicyCell.restore_consistent _ _ keptDistinct keptNamed
        · rw [PolicyCell.stack_restore, entries]
          simp [PolicyCell.stack, owns]
      · rw [if_neg (by simpa using owns)]
        constructor
        · exact .stacked _ _ _ keptDistinct keptNamed
        · simp only [PolicyCell.stack, Option.getD_some, entries]
          simp [owns]

/-- A cell whose served definition comes from a file. -/
theorem PolicyCell.restore_disassociate
    {cell : PolicyCell} {fileName : String}
    (served : cell.map = some (some fileName)) :
    (cell.disassociate fileName).restore = cell.forget fileName := by
  unfold PolicyCell.forget
  rw [if_pos served]

/-- The cell of a policy that a file has just defined. -/
def PolicyCell.defined (fileName : String) (definition : PolicyBundle)
    (cached : List CachedPolicy) : PolicyCell :=
  ⟨some definition, some (some fileName), some cached⟩

/-- The entry that a file would put on the stack is not the same as one that is
on it already. -/
def PolicyCell.Fresh (fileName : String) (time : Rat) (cell : PolicyCell) :
    Prop :=
  ∀ existing cached, cell.store = some existing → cell.cache = some cached →
    cell.map ≠ some (some fileName) →
      ∀ entry ∈ cached, entry.same
        { time := time, file := cell.map.join, definition := existing } = false

/-- A file that defines a policy replaces its own definition or shadows the one
of another file. -/
theorem PolicyCell.Consistent.shadows
    {cell : PolicyCell} (consistent : cell.Consistent) (fileName : String)
    {time : Rat} (fresh : cell.Fresh fileName time)
    (definition : PolicyBundle) :
    ∃ cached, cell.shadowed fileName time = some cached ∧
      (PolicyCell.defined fileName definition cached).Consistent ∧
      ∀ other, newest other
          (PolicyCell.defined fileName definition cached).stack =
        if other = fileName then some definition
        else newest other cell.stack := by
  have onTop : ∀ (cached : List CachedPolicy) (other : String),
      newest other (PolicyCell.defined fileName definition cached).stack =
        if other = fileName then some definition
        else newest other (cached.map CachedPolicy.entry) := by
    intro cached other
    simp only [PolicyCell.defined, PolicyCell.stack, newest_append,
      Option.join_some, Option.getD_some, Option.some.injEq, eq_comm]
  cases consistent with
  | vacant =>
      refine ⟨[], rfl, .stacked _ _ _ .nil (by simp), ?_⟩
      exact onTop []
  | stacked existing owner cached distinct named =>
      by_cases owns : owner = fileName
      · refine ⟨cached, ?_, .stacked _ _ _ distinct named, ?_⟩
        · simp [PolicyCell.shadowed, owns]
        · intro other
          rw [onTop]
          split
          · rfl
          · rename_i different
            simp only [PolicyCell.stack, Option.getD_some, newest_append,
              Option.join_some, Option.some.injEq, owns, Ne.symm different,
              if_false]
      · refine ⟨cached ++ [⟨time, some owner, existing⟩], ?_,
          .stacked _ _ _ ?_ ?_, ?_⟩
        · simp [PolicyCell.shadowed, owns]
        · apply List.pairwise_append.mpr
          refine ⟨distinct, List.pairwise_singleton _ _, ?_⟩
          intro entry member other isLast
          rw [List.mem_singleton.mp isLast]
          exact fresh existing cached rfl rfl (by simpa using owns) entry member
        · intro entry member
          rcases List.mem_append.mp member with old | isLast
          · exact named entry old
          · rw [List.mem_singleton.mp isLast]
            exact ⟨owner, rfl⟩
        · intro other
          rw [onTop, List.map_append]
          rfl

end Stacks

end PyKMIP
