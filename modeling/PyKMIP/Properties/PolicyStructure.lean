import PyKMIP.Properties.PolicyFileErrors

/-!
# The tables of the policy monitor

The store, the map and the cache have the same policies after every scan.  All
their files are tracked, and the order in which deleted files are visited does
not matter, as long as no stack has an entry twice: a file is taken off a stack
at the indices of the first entries that are equal to its own.
-/

namespace PyKMIP

open EStateM StatefulExcept

section Cells

/-- The tables have the policy, or none of them has it. -/
structure PolicyCell.Together (cell : PolicyCell) : Prop where
  mapped : cell.map.isSome = cell.store.isSome
  cached : cell.cache.isSome = cell.store.isSome

theorem PolicyCell.together_restore (cell : PolicyCell) :
    cell.restore.Together := by
  unfold restore
  split
  · exact ⟨rfl, rfl⟩
  · exact ⟨rfl, rfl⟩

namespace PolicyCell.Together

variable {cell : PolicyCell} {fileName : String}

theorem disassociate (together : cell.Together) :
    (cell.disassociate fileName).Together :=
  ⟨together.mapped, Option.isSome_map.trans together.cached⟩

theorem forget (together : cell.Together) :
    (cell.forget fileName).Together := by
  unfold PolicyCell.forget
  split
  · exact PolicyCell.together_restore _
  · exact together.disassociate

theorem define (together : cell.Together) (time : Rat)
    (definition : PolicyBundle) :
    (cell.define fileName time definition).Together := by
  unfold PolicyCell.define
  split
  · exact together
  · exact ⟨rfl, rfl⟩

theorem load (together : cell.Together) (world : ScanWorld)
    (table : PolicyTable) (policy : String) :
    (cell.load world fileName table policy).Together := by
  unfold PolicyCell.load
  split
  · exact together.define _ _
  · split
    · exact together.forget
    · exact together

theorem backed (together : cell.Together) : cell.Backed := by
  intro served missing
  have cached := together.cached
  rw [missing] at cached
  exact served (Option.isNone_iff_eq_none.mp (by
    simpa [Option.isNone_eq_false_iff] using cached.symm))

end PolicyCell.Together

/-- The cell of a policy with these definitions, the served one last. -/
def PolicyCell.ofStack (stack : List CachedPolicy) : PolicyCell :=
  PolicyCell.restore ⟨none, none, some stack⟩

theorem PolicyCell.ofStack_append
    (earlier : List CachedPolicy) (last : CachedPolicy) :
    ofStack (earlier ++ [last]) =
      ⟨some last.definition, some last.file, some earlier⟩ := by
  simp [ofStack, restore]

theorem PolicyCell.Consistent.exists_stack
    {cell : PolicyCell} (consistent : cell.Consistent) :
    ∃ stack, DistinctEntries stack.dropLast ∧ cell = .ofStack stack := by
  cases consistent with
  | vacant => exact ⟨[], .nil, rfl⟩
  | stacked definition fileName cached distinct named =>
      refine ⟨cached ++ [⟨0, some fileName, definition⟩], ?_, ?_⟩
      · rwa [List.dropLast_concat]
      · rw [ofStack_append]

theorem distinct_dropLast_filter
    {stack : List CachedPolicy} (distinct : DistinctEntries stack.dropLast)
    (kept : CachedPolicy → Bool) :
    DistinctEntries (stack.filter kept).dropLast := by
  rcases List.eq_nil_or_concat' stack with rfl | ⟨earlier, last, rfl⟩
  · exact .nil
  · rw [List.dropLast_concat] at distinct
    have filtered := List.Pairwise.filter kept distinct
    rw [List.filter_append]
    by_cases keptLast : kept last = true
    · rw [List.filter_cons_of_pos keptLast, List.filter_nil,
        List.dropLast_concat]
      exact filtered
    · rw [List.filter_cons_of_neg keptLast, List.filter_nil, List.append_nil]
      exact filtered.sublist (List.dropLast_sublist _)

/-- Forgetting a file takes its entries from the stack, the served one too. -/
theorem PolicyCell.forget_ofStack
    {stack : List CachedPolicy} (distinct : DistinctEntries stack.dropLast)
    (fileName : String) :
    (ofStack stack).forget fileName =
      ofStack (stack.filter fun entry => entry.file ≠ some fileName) := by
  rcases List.eq_nil_or_concat' stack with rfl | ⟨earlier, last, rfl⟩
  · rfl
  · rw [List.dropLast_concat] at distinct
    rw [ofStack_append, List.filter_append]
    unfold forget disassociate
    simp only [Option.map_some, withoutFile_eq_filter fileName distinct]
    by_cases owns : last.file = some fileName
    · rw [if_pos (by rw [owns]),
        List.filter_cons_of_neg (by simpa using owns), List.filter_nil,
        List.append_nil]
      rfl
    · rw [if_neg (by simpa using owns),
        List.filter_cons_of_pos (by simpa using owns), List.filter_nil,
        ofStack_append]

/-- Forgetting several files, in any order, takes all their entries. -/
theorem PolicyCell.forget_each
    (removed : List String) {stack : List CachedPolicy}
    (distinct : DistinctEntries stack.dropLast) :
    removed.foldl (fun cell fileName => PolicyCell.forget fileName cell)
        (ofStack stack) =
      ofStack (stack.filter fun entry =>
        ∀ fileName ∈ removed, entry.file ≠ some fileName) := by
  induction removed generalizing stack with
  | nil => simp
  | cons fileName rest ih =>
      rw [List.foldl_cons, forget_ofStack distinct,
        ih (distinct_dropLast_filter distinct _), List.filter_filter]
      congr 2
      funext entry
      simp [Bool.and_comm]

/-- A loaded file leaves the entries of the others and adds its own. -/
theorem PolicyCell.Consistent.loaded
    {cell : PolicyCell} {world : ScanWorld} {path policy : String}
    {table : PolicyTable} (consistent : cell.Consistent)
    (fresh : policy ∈ table.keys → cell.Fresh path (world.time path policy)) :
    (cell.load world path table policy).Consistent ∧
      ∀ entry ∈ (cell.load world path table policy).stack,
        entry ∈ cell.stack ∨ entry.1 = some path := by
  unfold PolicyCell.load
  cases found : table.get policy with
  | some definition =>
      have listed : policy ∈ table.keys :=
        List.mem_map_of_mem (Dict.get_eq_some_iff.mp found)
      obtain ⟨cached, shadows, after, _⟩ :=
        consistent.shadows path (fresh listed) definition
      simp only [PolicyCell.define, shadows]
      refine ⟨after, ?_⟩
      intro entry member
      simp only [PolicyCell.defined, PolicyCell.stack, Option.getD_some,
        List.mem_append, List.mem_singleton] at member
      rcases member with earlier | rfl
      · left
        cases consistent with
        | vacant =>
            cases shadows
            cases earlier
        | stacked existing owner entries distinct named =>
            unfold PolicyCell.shadowed at shadows
            simp only [Option.map_some, Option.some.injEq] at shadows
            subst shadows
            split at earlier
            · exact List.mem_append_left _ earlier
            · simpa [PolicyCell.stack, CachedPolicy.entry] using earlier
      · exact .inr rfl
  | none =>
      dsimp only
      split
      · obtain ⟨after, stack⟩ := consistent.forgotten path
        refine ⟨after, ?_⟩
        intro entry member
        rw [stack] at member
        exact .inl (List.mem_filter.mp member).1
      · exact ⟨consistent, fun _ member => .inl member⟩

end Cells

section Tracking

variable {monitor after : PolicyMonitor} {world : ScanWorld} {file : PolicyFile}

/-- The files that a scan finds deleted, in the order in which it visits
them. -/
def removedFiles (world : ScanWorld) (monitor : PolicyMonitor) : List String :=
  world.setOrder (monitor.policyFiles.filter
    (· ∉ world.directory.files.map PolicyFile.path))

theorem mem_removedFiles {path : String} :
    path ∈ removedFiles world monitor ↔
      path ∈ monitor.policyFiles ∧
        path ∉ world.directory.files.map PolicyFile.path := by
  unfold removedFiles
  rw [(world.setOrder_perm _).mem_iff, List.mem_filter, decide_eq_true_eq]

theorem cell_removeFiles
    (removed : List String) (monitor : PolicyMonitor) (policy : String) :
    (removed.foldl removeFile monitor).cell policy =
      removed.foldl (fun cell fileName => PolicyCell.forget fileName cell)
        (monitor.cell policy) := by
  induction removed generalizing monitor with
  | nil => rfl
  | cons fileName rest ih =>
      rw [List.foldl_cons, ih, cell_removeFile]
      rfl

theorem cell_trackFiles (policy : String) :
    (trackFiles world monitor).cell policy =
      (removedFiles world monitor).foldl
        (fun cell fileName => PolicyCell.forget fileName cell)
        (monitor.cell policy) := by
  obtain ⟨cells, _⟩ := @addFiles_tracks monitor (world.setOrder
    ((world.directory.files.map PolicyFile.path).filter
      (· ∉ monitor.policyFiles)))
  rw [← cells policy, ← cell_removeFiles]
  rfl

/-- The time stamps do not depend on the order of the files. -/
theorem timestamps_trackFiles (path : String) :
    (trackFiles world monitor).fileTimestamps.get path =
      if path ∈ monitor.policyFiles ∧
          path ∉ world.directory.files.map PolicyFile.path then none
      else if path ∈ world.directory.files.map PolicyFile.path ∧
          path ∉ monitor.policyFiles then some 0
      else monitor.fileTimestamps.get path := by
  obtain ⟨_, _, stamps⟩ := @addFiles_tracks monitor (world.setOrder
    ((world.directory.files.map PolicyFile.path).filter
      (· ∉ monitor.policyFiles)))
  have removes := timestamps_removeFiles (removedFiles world monitor)
    ((world.setOrder ((world.directory.files.map PolicyFile.path).filter
      (· ∉ monitor.policyFiles))).foldl addFile monitor) path
  simp only [stamps path, (world.setOrder_perm _).mem_iff, List.mem_filter,
    decide_eq_true_eq, mem_removedFiles] at removes
  exact removes

/-- The cell of a policy that no file has defined. -/
theorem cell_trackFiles_untracked
    {policy : String} (unmapped : (monitor.cell policy).map = none)
    (uncached : (monitor.cell policy).cache = none) :
    (trackFiles world monitor).cell policy = monitor.cell policy := by
  rw [cell_trackFiles]
  induction removedFiles world monitor with
  | nil => rfl
  | cons fileName rest ih =>
      rw [List.foldl_cons, forget_of_untracked fileName unmapped uncached]
      exact ih

/-- The entries that are left belong to files that are not deleted. -/
theorem PolicyCell.Consistent.stack_forget_each
    {cell : PolicyCell} (consistent : cell.Consistent)
    (removed : List String) :
    (removed.foldl (fun cell fileName => PolicyCell.forget fileName cell)
        cell).Consistent ∧
      ∀ entry ∈ (removed.foldl
          (fun cell fileName => PolicyCell.forget fileName cell) cell).stack,
        entry ∈ cell.stack ∧ ∀ path ∈ removed, entry.1 ≠ some path := by
  induction removed generalizing cell with
  | nil =>
      exact ⟨consistent, fun entry member => ⟨member, fun _ empty =>
        nomatch empty⟩⟩
  | cons fileName rest ih =>
      obtain ⟨after, stack⟩ := consistent.forgotten fileName
      obtain ⟨final, entries⟩ := ih after
      refine ⟨final, fun entry member => ?_⟩
      obtain ⟨kept, others⟩ := entries entry member
      rw [stack, List.mem_filter, decide_eq_true_eq] at kept
      refine ⟨kept.1, ?_⟩
      intro path listed
      rcases List.mem_cons.mp listed with rfl | later
      · exact kept.2
      · exact others path later

end Tracking

section Loading

variable {monitor : PolicyMonitor} {world : ScanWorld} {file : PolicyFile}

/-- What loading a file leaves for a policy. -/
def loadedCell (world : ScanWorld) (file : PolicyFile)
    (monitor : PolicyMonitor) (policy : String) : PolicyCell :=
  match readPolicyFromFile file.content with
  | .error _ => monitor.cell policy
  | .ok table =>
      if policy ∉ reservedPolicies ∧ Changed monitor file then
        (monitor.cell policy).load world file.path table policy
      else monitor.cell policy

/-- What loading a file that parses does to the monitor. -/
structure Loads (world : ScanWorld) (file : PolicyFile)
    (monitor after : PolicyMonitor) : Prop where
  policyFiles : after.policyFiles = monitor.policyFiles
  fileTimestamps : ∀ path, after.fileTimestamps.get path =
    if path = file.path ∧ Changed monitor file then some file.modified
    else monitor.fileTimestamps.get path
  cells : ∀ policy, after.cell policy = loadedCell world file monitor policy

theorem run_loadFile_loads
    (world : ScanWorld) (ready : monitor.Ready)
    (parses : ∃ table, readPolicyFromFile file.content = .ok table) :
    ∃ after, (loadFile world file).run monitor = .ok () after ∧
      Loads world file monitor after ∧ after.Ready := by
  obtain ⟨table, read⟩ := parses
  have acceptable : Changed monitor file →
      Acceptable (readPolicyFromFile file.content) := by
    intro _
    rw [read]
    exact acceptable_ok table
  obtain ⟨after, ran, afterReady, _⟩ := ready.loadFile world acceptable
  refine ⟨after, ran, ?_, afterReady⟩
  by_cases changed : Changed monitor file
  · obtain ⟨same, ranAgain, sameFiles, reservedCells, cells⟩ :=
      run_loadFile_ok world changed read ready.backed ready.unmapped
    rw [ran] at ranAgain
    cases ranAgain
    constructor
    · exact sameFiles.policyFiles
    · intro path
      rw [sameFiles.fileTimestamps]
      by_cases isFile : path = file.path
      · rw [if_pos ⟨isFile, changed⟩, isFile]
        exact Dict.get_set_self ..
      · rw [if_neg fun both => isFile both.1]
        exact Dict.get_set_of_ne _ _ isFile
    · intro policy
      unfold loadedCell
      rw [read]
      dsimp only
      by_cases live : policy ∉ reservedPolicies
      · rw [if_pos ⟨live, changed⟩, cells policy live]
      · rw [if_neg fun both => live both.1,
          reservedCells policy (not_not.mp live)]
  · have unchanged := @run_loadFile_unchanged world _ _ changed
    rw [ran] at unchanged
    cases unchanged
    constructor
    · rfl
    · intro path
      rw [if_neg fun both => changed both.2]
    · intro policy
      unfold loadedCell
      rw [read]
      dsimp only
      rw [if_neg fun both => changed both.2]

end Loading

section Synchronising

/-- The tables have the same policies, and the reserved ones are what they were
in the beginning. -/
structure PolicyMonitor.Synchronised (start monitor : PolicyMonitor) :
    Prop where
  mapped : ∀ policy, policy ∈ monitor.policyMap.keys ↔
    policy ∈ monitor.policyStore.keys ∧ policy ∉ reservedPolicies
  cached : ∀ policy, policy ∈ monitor.policyCache.keys ↔
    policy ∈ monitor.policyMap.keys
  reserved : ∀ policy ∈ reservedPolicies,
    monitor.policyStore.get policy = start.policyStore.get policy

/-- The same, policy by policy. -/
structure PolicyMonitor.Coherent (start monitor : PolicyMonitor) : Prop where
  together : ∀ policy, policy ∉ reservedPolicies →
    (monitor.cell policy).Together
  reserved : ∀ policy ∈ reservedPolicies,
    monitor.cell policy = ⟨start.policyStore.get policy, none, none⟩

variable {start monitor after : PolicyMonitor} {world : ScanWorld}
  {file : PolicyFile}

namespace PolicyMonitor.Coherent

theorem synchronised (coherent : Coherent start monitor) :
    Synchronised start monitor := by
  constructor
  · intro policy
    rw [Dict.mem_keys_iff, Dict.mem_keys_iff]
    by_cases live : policy ∉ reservedPolicies
    · have mapped : (monitor.policyMap.get policy).isSome =
          (monitor.policyStore.get policy).isSome :=
        (coherent.together policy live).mapped
      rw [mapped]
      exact (and_iff_left live).symm
    · have unmapped : monitor.policyMap.get policy = none :=
        congrArg PolicyCell.map (coherent.reserved policy (not_not.mp live))
      rw [unmapped]
      exact iff_of_false nofun fun both => live both.2
  · intro policy
    rw [Dict.mem_keys_iff, Dict.mem_keys_iff]
    by_cases live : policy ∉ reservedPolicies
    · have together := coherent.together policy live
      have same : (monitor.policyCache.get policy).isSome =
          (monitor.policyMap.get policy).isSome :=
        together.cached.trans together.mapped.symm
      rw [same]
    · have untracked := coherent.reserved policy (not_not.mp live)
      have unmapped : monitor.policyMap.get policy = none :=
        congrArg PolicyCell.map untracked
      have uncached : monitor.policyCache.get policy = none :=
        congrArg PolicyCell.cache untracked
      rw [unmapped, uncached]
      exact iff_of_false nofun nofun
  · intro policy reserved
    exact congrArg PolicyCell.store (coherent.reserved policy reserved)

theorem ready (coherent : Coherent start monitor) : monitor.Ready := by
  constructor
  · intro policy live
    exact (coherent.together policy live).backed
  · intro policy reserved
    rw [coherent.reserved policy reserved]

theorem trackFiles (coherent : Coherent start monitor) (world : ScanWorld) :
    Coherent start (PyKMIP.trackFiles world monitor) := by
  constructor
  · intro policy live
    rw [cell_trackFiles]
    have together := coherent.together policy live
    generalize monitor.cell policy = cell at together
    induction removedFiles world monitor generalizing cell with
    | nil => exact together
    | cons fileName rest ih => exact ih _ together.forget
  · intro policy reserved
    have untracked := coherent.reserved policy reserved
    rw [cell_trackFiles_untracked (by rw [untracked]) (by rw [untracked])]
    exact untracked

theorem loads (coherent : Coherent start monitor)
    (loads : Loads world file monitor after) : Coherent start after := by
  constructor
  · intro policy live
    have together := coherent.together policy live
    rw [loads.cells]
    unfold loadedCell
    split
    · exact together
    · split
      · exact together.load _ _ _
      · exact together
  · intro policy reserved
    rw [loads.cells]
    unfold loadedCell
    split
    · exact coherent.reserved policy reserved
    · rw [if_neg fun both => both.1 reserved]
      exact coherent.reserved policy reserved

end PolicyMonitor.Coherent

theorem coherent_initializeTrackingStructures (monitor : PolicyMonitor) :
    PolicyMonitor.Coherent monitor (initializeTrackingStructures monitor) := by
  constructor
  · intro policy live
    rw [cell_initializeTrackingStructures monitor live]
    exact ⟨rfl, rfl⟩
  · intro policy reserved
    have kept : (initializeTrackingStructures monitor).policyStore.get policy =
        monitor.policyStore.get policy := by
      unfold initializeTrackingStructures
      rw [get_foldl_erase, if_neg]
      intro listed
      have live := (List.mem_filter.mp listed).2
      rw [decide_eq_true_eq] at live
      exact live reserved
    ext1
    · exact kept
    · rfl
    · rfl

end Synchronising

section Naming

variable {monitor after : PolicyMonitor} {world : ScanWorld}
  {file : PolicyFile} {files : List String}

/-- Every file in the map or on a stack is a tracked one. -/
structure PolicyMonitor.NamesTracked (monitor : PolicyMonitor) : Prop where
  mapped : ∀ item ∈ monitor.policyMap.items,
    ∃ path ∈ monitor.policyFiles, item.2 = some path
  cached : ∀ item ∈ monitor.policyCache.items, ∀ entry ∈ item.2,
    ∃ path ∈ monitor.policyFiles, entry.file = some path

/-- The stacks have no entry twice, and only files of the list. -/
structure PolicyMonitor.Names (files : List String) (monitor : PolicyMonitor) :
    Prop where
  wellFormed : monitor.WellFormed
  named : ∀ policy, policy ∉ reservedPolicies →
    ∀ entry ∈ (monitor.cell policy).stack, ∃ path ∈ files, entry.1 = some path

namespace PolicyMonitor.Names

theorem namesTracked (names : Names monitor.policyFiles monitor) :
    monitor.NamesTracked := by
  have stacked : ∀ policy, (monitor.cell policy).map ≠ none ∨
      (monitor.cell policy).cache ≠ none →
      policy ∉ reservedPolicies ∧ ∃ definition owner cached,
        monitor.cell policy = ⟨some definition, some (some owner), some cached⟩ := by
    intro policy present
    have live : policy ∉ reservedPolicies := by
      intro reserved
      obtain ⟨unmapped, uncached⟩ := names.wellFormed.reserved policy reserved
      rcases present with mapped | cached
      · exact mapped unmapped
      · exact cached uncached
    refine ⟨live, ?_⟩
    have consistent := names.wellFormed.consistent policy live
    generalize monitor.cell policy = cell at consistent present
    cases consistent with
    | vacant => rcases present with mapped | cached <;> contradiction
    | stacked definition owner cached => exact ⟨definition, owner, cached, rfl⟩
  constructor
  · rintro ⟨policy, value⟩ member
    have found : (monitor.cell policy).map = some value :=
      Dict.get_eq_some_iff.mpr member
    obtain ⟨live, definition, owner, cached, cell⟩ :=
      stacked policy (.inl (by simp [found]))
    rw [cell] at found
    cases found
    apply names.named policy live (some owner, definition)
    rw [cell]
    exact List.mem_append_right _ (List.mem_singleton.mpr rfl)
  · rintro ⟨policy, value⟩ member entry listed
    have found : (monitor.cell policy).cache = some value :=
      Dict.get_eq_some_iff.mpr member
    obtain ⟨live, definition, owner, cached, cell⟩ :=
      stacked policy (.inr (by simp [found]))
    rw [cell] at found
    cases found
    apply names.named policy live entry.entry
    rw [cell]
    exact List.mem_append_left _ (List.mem_map_of_mem listed)

theorem trackFiles (names : Names monitor.policyFiles monitor)
    (world : ScanWorld) :
    Names (world.directory.files.map PolicyFile.path)
      (PyKMIP.trackFiles world monitor) := by
  refine ⟨⟨?_, ?_⟩, ?_⟩
  · intro policy live
    rw [cell_trackFiles]
    exact ((names.wellFormed.consistent policy live).stack_forget_each _).1
  · intro policy reserved
    obtain ⟨unmapped, uncached⟩ := names.wellFormed.reserved policy reserved
    rw [cell_trackFiles_untracked unmapped uncached]
    exact ⟨unmapped, uncached⟩
  · intro policy live entry member
    rw [cell_trackFiles] at member
    obtain ⟨kept, present⟩ :=
      ((names.wellFormed.consistent policy live).stack_forget_each _).2
        entry member
    obtain ⟨path, known, isPath⟩ := names.named policy live entry kept
    refine ⟨path, ?_, isPath⟩
    by_contra missing
    exact present path (mem_removedFiles.mpr ⟨known, missing⟩) isPath

end PolicyMonitor.Names

/-- No entry that loading the file pushes is on its stack already. -/
def FreshLoad (world : ScanWorld) (file : PolicyFile)
    (monitor : PolicyMonitor) : Prop :=
  ∀ table, readPolicyFromFile file.content = .ok table →
    ∀ policy ∈ table.keys,
      (monitor.cell policy).Fresh file.path (world.time file.path policy)

def FreshLoads (world : ScanWorld) : List PolicyFile → PolicyMonitor → Prop
  | [], _ => True
  | file :: rest, monitor =>
      (Changed monitor file → FreshLoad world file monitor) ∧
        ∀ after, (loadFile world file).run monitor = .ok () after →
          FreshLoads world rest after

theorem PolicyMonitor.Names.loads
    (names : Names files monitor) (loads : Loads world file monitor after)
    (fresh : Changed monitor file → FreshLoad world file monitor)
    (tracked : file.path ∈ files) : Names files after := by
  have each : ∀ policy, policy ∉ reservedPolicies →
      (after.cell policy).Consistent ∧ ∀ entry ∈ (after.cell policy).stack,
        entry ∈ (monitor.cell policy).stack ∨ entry.1 = some file.path := by
    intro policy live
    have consistent := names.wellFormed.consistent policy live
    rw [loads.cells]
    unfold loadedCell
    split
    · exact ⟨consistent, fun _ member => .inl member⟩
    · rename_i table read
      by_cases changed : Changed monitor file
      · rw [if_pos ⟨live, changed⟩]
        exact consistent.loaded (fresh changed table read policy)
      · rw [if_neg fun both => changed both.2]
        exact ⟨consistent, fun _ member => .inl member⟩
  refine ⟨⟨fun policy live => (each policy live).1, ?_⟩, ?_⟩
  · intro policy reserved
    have same : after.cell policy = monitor.cell policy := by
      rw [loads.cells]
      unfold loadedCell
      split
      · rfl
      · rw [if_neg fun both => both.1 reserved]
    rw [same]
    exact names.wellFormed.reserved policy reserved
  · intro policy live entry member
    rcases (each policy live).2 entry member with old | own
    · exact names.named policy live entry old
    · exact ⟨file.path, tracked, own⟩

end Naming

section Agreement

/-- The same tables, as mappings, and the same files. -/
structure PolicyMonitor.Agrees (first second : PolicyMonitor) : Prop where
  cells : ∀ policy, second.cell policy = first.cell policy
  fileTimestamps : ∀ path,
    second.fileTimestamps.get path = first.fileTimestamps.get path
  policyFiles : second.policyFiles = first.policyFiles

/-- The same scan, with another order of the sets. -/
structure ScanWorld.Reorders (world other : ScanWorld) : Prop where
  directory : other.directory = world.directory
  time : other.time = world.time

variable {monitor first second firstAfter secondAfter : PolicyMonitor}
  {world other : ScanWorld} {file : PolicyFile}

theorem trackFiles_agrees
    (wellFormed : monitor.WellFormed) (reorders : world.Reorders other) :
    (trackFiles world monitor).Agrees (trackFiles other monitor) := by
  constructor
  · intro policy
    by_cases live : policy ∉ reservedPolicies
    · obtain ⟨stack, distinct, isStack⟩ :=
        (wellFormed.consistent policy live).exists_stack
      have sameFiles : ∀ path, path ∈ removedFiles other monitor ↔
          path ∈ removedFiles world monitor := by
        intro path
        rw [mem_removedFiles, mem_removedFiles, reorders.directory]
      rw [cell_trackFiles, cell_trackFiles, isStack,
        PolicyCell.forget_each _ distinct, PolicyCell.forget_each _ distinct]
      congr 2
      funext entry
      apply decide_eq_decide.mpr
      exact forall_congr' fun path => imp_congr_left (sameFiles path)
    · obtain ⟨unmapped, uncached⟩ :=
        wellFormed.reserved policy (not_not.mp live)
      rw [cell_trackFiles_untracked unmapped uncached,
        cell_trackFiles_untracked unmapped uncached]
  · intro path
    rw [timestamps_trackFiles, timestamps_trackFiles, reorders.directory]
  · show other.directory.files.map PolicyFile.path = _
    rw [reorders.directory]
    rfl

theorem PolicyMonitor.Agrees.loads
    (agrees : first.Agrees second) (time : other.time = world.time)
    (left : Loads world file first firstAfter)
    (right : Loads other file second secondAfter) :
    firstAfter.Agrees secondAfter := by
  have changed : Changed second file ↔ Changed first file :=
    changed_of_stamp (agrees.fileTimestamps file.path)
  constructor
  · intro policy
    rw [left.cells, right.cells]
    unfold loadedCell PolicyCell.load
    simp only [agrees.cells, changed, time]
  · intro path
    rw [left.fileTimestamps, right.fileTimestamps]
    simp only [agrees.fileTimestamps, changed]
  · rw [left.policyFiles, right.policyFiles, agrees.policyFiles]

end Agreement

section Runs

variable {start monitor after first second : PolicyMonitor}
  {world other : ScanWorld} {pending : List PolicyFile} {files : List String}

/-- All files that the scan finds parse. -/
def ScanWorld.Parses (world : ScanWorld) : Prop :=
  ∀ file ∈ world.directory.files, ∃ table,
    readPolicyFromFile file.content = .ok table

theorem run_loadFiles_coherent
    (coherent : PolicyMonitor.Coherent start monitor)
    (parses : ∀ file ∈ pending, ∃ table,
      readPolicyFromFile file.content = .ok table) :
    ∃ after, (pending.forM (loadFile world)).run monitor = .ok () after ∧
      PolicyMonitor.Coherent start after ∧
      after.policyFiles = monitor.policyFiles ∧
      (FreshLoads world pending monitor → monitor.Names files →
        (∀ file ∈ pending, file.path ∈ files) → after.Names files) := by
  induction pending generalizing monitor with
  | nil => exact ⟨monitor, rfl, coherent, rfl, fun _ names _ => names⟩
  | cons file rest ih =>
      obtain ⟨middle, ran, loads, _⟩ :=
        run_loadFile_loads world coherent.ready (parses file (.head _))
      obtain ⟨after, ranRest, afterCoherent, sameFiles, names⟩ :=
        ih (coherent.loads loads) fun other member => parses other (.tail _ member)
      refine ⟨after, ?_, afterCoherent, sameFiles.trans loads.policyFiles, ?_⟩
      · rw [run_forM_loadFile_cons, run_bind, ran]
        exact ranRest
      · intro fresh before tracked
        exact names (fresh.2 middle ran)
          (before.loads loads fresh.1 (tracked file (.head _)))
          fun other member => tracked other (.tail _ member)

/-- The order of the sets makes no difference to the files that are loaded. -/
theorem run_loadFiles_agrees
    (agrees : first.Agrees second) (time : other.time = world.time)
    (leftReady : first.Ready) (rightReady : second.Ready)
    (parses : ∀ file ∈ pending, ∃ table,
      readPolicyFromFile file.content = .ok table) :
    ∃ firstAfter secondAfter,
      (pending.forM (loadFile world)).run first = .ok () firstAfter ∧
      (pending.forM (loadFile other)).run second = .ok () secondAfter ∧
      firstAfter.Agrees secondAfter := by
  induction pending generalizing first second with
  | nil => exact ⟨first, second, rfl, rfl, agrees⟩
  | cons file rest ih =>
      obtain ⟨left, ranLeft, loadsLeft, leftAfter⟩ :=
        run_loadFile_loads world leftReady (parses file (.head _))
      obtain ⟨right, ranRight, loadsRight, rightAfter⟩ :=
        run_loadFile_loads other rightReady (parses file (.head _))
      obtain ⟨firstAfter, secondAfter, leftRest, rightRest, last⟩ :=
        ih (agrees.loads time loadsLeft loadsRight) leftAfter rightAfter
          fun other member => parses other (.tail _ member)
      refine ⟨firstAfter, secondAfter, ?_, ?_, last⟩
      · rw [run_forM_loadFile_cons, run_bind, ranLeft]
        exact leftRest
      · rw [run_forM_loadFile_cons, run_bind, ranRight]
        exact rightRest

theorem run_scanPolicies_coherent
    (coherent : PolicyMonitor.Coherent start monitor)
    (parses : world.Parses) :
    ∃ after, (scanPolicies world).run monitor = .ok () after ∧
      PolicyMonitor.Coherent start after ∧
      (FreshLoads world world.directory.files (trackFiles world monitor) →
        monitor.Names monitor.policyFiles → after.Names after.policyFiles) := by
  obtain ⟨after, ran, afterCoherent, sameFiles, names⟩ :=
    @run_loadFiles_coherent start _ world _
      (world.directory.files.map PolicyFile.path)
      (coherent.trackFiles world) parses
  refine ⟨after, ?_, afterCoherent, ?_⟩
  · unfold scanPolicies
    rw [run_bind, run_modify]
    exact ran
  · intro fresh before
    rw [sameFiles]
    exact names fresh (before.trackFiles world) fun _ member =>
      List.mem_map_of_mem member

/-- A scan leaves the same tables in whichever order it visits the deleted
files. -/
def OrderIndependent (monitor : PolicyMonitor) : Prop :=
  ∀ world other : ScanWorld, world.Parses → world.Reorders other →
    ∃ first second, (scanPolicies world).run monitor = .ok () first ∧
      (scanPolicies other).run monitor = .ok () second ∧ first.Agrees second

theorem orderIndependent_of_wellFormed
    (wellFormed : monitor.WellFormed)
    (coherent : PolicyMonitor.Coherent start monitor) :
    OrderIndependent monitor := by
  intro world other parses reorders
  obtain ⟨first, second, ranFirst, ranSecond, agrees⟩ :=
    run_loadFiles_agrees (trackFiles_agrees wellFormed reorders) reorders.time
      (coherent.trackFiles world).ready (coherent.trackFiles other).ready parses
  refine ⟨first, second, ?_, ?_, agrees⟩
  · unfold scanPolicies
    rw [run_bind, run_modify]
    exact ranFirst
  · unfold scanPolicies
    rw [run_bind, run_modify, reorders.directory]
    exact ranSecond

/-- In no scan of the run a file pushes an entry that is on the stack. -/
def FreshScans : PolicyMonitor → List ScanWorld → Prop
  | _, [] => True
  | monitor, world :: rest =>
      FreshLoads world world.directory.files (trackFiles world monitor) ∧
        ∀ after, (scanPolicies world).run monitor = .ok () after →
          FreshScans after rest

theorem run_scans_coherent
    {worlds : List ScanWorld}
    (coherent : PolicyMonitor.Coherent start monitor)
    (parses : ∀ world ∈ worlds, world.Parses) :
    ∃ after, (worlds.forM scanPolicies).run monitor = .ok () after ∧
      PolicyMonitor.Coherent start after ∧
      (FreshScans monitor worlds → monitor.Names monitor.policyFiles →
        after.Names after.policyFiles) := by
  induction worlds generalizing monitor with
  | nil => exact ⟨monitor, rfl, coherent, fun _ names => names⟩
  | cons world rest ih =>
      obtain ⟨middle, ran, between, namesMiddle⟩ :=
        run_scanPolicies_coherent coherent (parses world (.head _))
      obtain ⟨after, ranRest, afterCoherent, names⟩ :=
        ih between fun other member => parses other (.tail _ member)
      refine ⟨after, ?_, afterCoherent, ?_⟩
      · have unrolled : ((world :: rest).forM scanPolicies).run monitor =
            (scanPolicies world >>= fun _ =>
              rest.forM scanPolicies).run monitor := rfl
        rw [unrolled, run_bind, ran]
        exact ranRest
      · intro fresh before
        exact names (fresh.2 middle ran) (namesMiddle fresh.1 before)

theorem names_initializeTrackingStructures (monitor : PolicyMonitor) :
    (initializeTrackingStructures monitor).Names [] := by
  refine ⟨wellFormed_initializeTrackingStructures monitor, ?_⟩
  intro policy live entry member
  rw [cell_initializeTrackingStructures monitor live] at member
  cases member

end Runs

/-- After every sequence of scans the tables have the same policies and the
reserved ones are untouched.  If no entry was pushed twice, all named files are
tracked and the order of the deleted files makes no difference. -/
theorem policy_tables_are_synchronised
    (monitor : PolicyMonitor) (worlds : List ScanWorld)
    (parses : ∀ world ∈ worlds, world.Parses) :
    ∃ after, (worlds.forM scanPolicies).run
        (initializeTrackingStructures monitor) = .ok () after ∧
      monitor.Synchronised after ∧
      (FreshScans (initializeTrackingStructures monitor) worlds →
        after.NamesTracked ∧ OrderIndependent after) := by
  obtain ⟨after, ran, coherent, names⟩ :=
    run_scans_coherent (coherent_initializeTrackingStructures monitor) parses
  refine ⟨after, ran, coherent.synchronised, ?_⟩
  intro fresh
  have named := names fresh (names_initializeTrackingStructures monitor)
  exact ⟨named.namesTracked,
    orderIndependent_of_wellFormed named.wellFormed coherent⟩

section Samples

theorem freshLoads_of_clean
    {world : ScanWorld} {pending : List PolicyFile} {monitor : PolicyMonitor}
    (clean : CleanLoads world pending monitor) :
    FreshLoads world pending monitor := by
  induction pending generalizing monitor with
  | nil => exact trivial
  | cons file rest ih =>
      obtain ⟨cleanFile, cleanRest⟩ := clean
      exact ⟨fun changed => (cleanFile changed).fresh,
        fun after ran => ih (cleanRest after ran)⟩

theorem freshScans_of_clean
    {worlds : List ScanWorld} {monitor : PolicyMonitor}
    (clean : CleanScans monitor worlds) : FreshScans monitor worlds := by
  induction worlds generalizing monitor with
  | nil => exact trivial
  | cons world rest ih =>
      obtain ⟨cleanFirst, cleanRest⟩ := clean
      exact ⟨freshLoads_of_clean cleanFirst,
        fun after ran => ih (cleanRest after ran)⟩

theorem orderlyScans_parse : ∀ world ∈ orderlyScans, world.Parses := by
  simp [orderlyScans, ScanWorld.Parses, scanOf, twoFiles, oneFile,
    table_readableKeys]

theorem policy_tables_are_synchronised_orderly :
    ∃ after, (orderlyScans.forM scanPolicies).run
        (initializeTrackingStructures emptyMonitor) = .ok () after ∧
      emptyMonitor.Synchronised after ∧
      after.NamesTracked ∧ OrderIndependent after := by
  obtain ⟨after, ran, synchronised, fresh⟩ :=
    policy_tables_are_synchronised emptyMonitor orderlyScans orderlyScans_parse
  exact ⟨after, ran, synchronised,
    fresh (freshScans_of_clean orderlyScans_clean)⟩

/-- Two files with the same policy, last modified at some times. -/
def sharedPolicy (first second : Rat) : PolicyDirectory where
  files := [⟨"a.json", first, readableKeys⟩, ⟨"b.json", second, readableKeys⟩]
  sorted := List.pairwise_pair.mpr (show "a.json" < "b.json" by decide)

/-- The files take turns.  In the third scan the clock shows the time of the
first one again, and then the first file is deleted. -/
def repeatedClock : List ScanWorld :=
  [scanOf (sharedPolicy 1 1) 1, scanOf (sharedPolicy 2 1) 2,
    scanOf (sharedPolicy 2 2) 1, scanOf (oneFile "b.json" 2 readableKeys) 3]

theorem repeatedClock_parses : ∀ world ∈ repeatedClock, world.Parses := by
  simp [repeatedClock, ScanWorld.Parses, scanOf, sharedPolicy, oneFile,
    table_readableKeys]

theorem deleted_file_stays_on_stack :
    ¬∀ (monitor : PolicyMonitor) (worlds : List ScanWorld),
      (∀ world ∈ worlds, world.Parses) →
        ∃ after, (worlds.forM scanPolicies).run
            (initializeTrackingStructures monitor) = .ok () after ∧
          after.NamesTracked := by
  intro always
  obtain ⟨after, ran, tracked⟩ :=
    always emptyMonitor repeatedClock repeatedClock_parses
  have shadowed : (finalState ((repeatedClock.forM scanPolicies).run
      (initializeTrackingStructures emptyMonitor))).policyCache.items.map
        (fun item => item.2.map CachedPolicy.file) = [[some "a.json"]] := by
    decide
  have files : (finalState ((repeatedClock.forM scanPolicies).run
      (initializeTrackingStructures emptyMonitor))).policyFiles =
        ["b.json"] := by
    decide
  rw [ran] at shadowed files
  change after.policyCache.items.map
    (fun item => item.2.map CachedPolicy.file) = _ at shadowed
  change after.policyFiles = _ at files
  have listed : [some "a.json"] ∈ after.policyCache.items.map
      fun item => item.2.map CachedPolicy.file := by
    rw [shadowed]
    exact List.mem_cons_self
  obtain ⟨item, member, stack⟩ := List.mem_map.mp listed
  have named : some "a.json" ∈ item.2.map CachedPolicy.file := by
    rw [stack]
    exact List.mem_cons_self
  obtain ⟨entry, cached, isFile⟩ := List.mem_map.mp named
  obtain ⟨path, known, isPath⟩ := tracked.cached item member entry cached
  rw [files] at known
  rw [isFile] at isPath
  cases isPath
  exact absurd known (by decide)

end Samples

end PyKMIP
