import PyKMIP.PolicyCells

/-!
# Scans of the policy directory

Deleting files and loading changed ones keeps the tables of the monitor in step
with the contents of the files that it has tracked.
-/

namespace PyKMIP

open EStateM StatefulExcept

section Definitions

variable {monitor : PolicyMonitor} {policy fileName : String} {time : Rat}
  {definition : PolicyBundle}

/-- A policy that is served has a stack to shadow it on. -/
def PolicyCell.Backed (cell : PolicyCell) : Prop :=
  cell.store ≠ none → cell.cache ≠ none

def PolicyMonitor.Backed (monitor : PolicyMonitor) : Prop :=
  ∀ policy, policy ∉ reservedPolicies → (monitor.cell policy).Backed

/-- The cell once a file has defined the policy. -/
def PolicyCell.define (fileName : String) (time : Rat)
    (definition : PolicyBundle) (cell : PolicyCell) : PolicyCell :=
  match cell.shadowed fileName time with
  | none => cell
  | some cached => .defined fileName definition cached

theorem PolicyCell.Backed.shadowed
    {cell : PolicyCell} (backed : cell.Backed) (fileName : String)
    (time : Rat) : ∃ cached, cell.shadowed fileName time = some cached := by
  unfold PolicyCell.shadowed
  cases served : cell.store with
  | none => exact ⟨[], rfl⟩
  | some existing =>
      have stacked : cell.cache ≠ none := backed (by simp [served])
      obtain ⟨cached, found⟩ := Option.ne_none_iff_exists'.mp stacked
      exact ⟨_, by rw [found]; rfl⟩

theorem PolicyCell.Backed.define
    {cell : PolicyCell} (backed : cell.Backed) :
    (cell.define fileName time definition).Backed := by
  obtain ⟨cached, shadows⟩ := backed.shadowed fileName time
  unfold PolicyCell.define
  rw [shadows]
  intro _ missing
  cases missing

theorem PolicyCell.Backed.disassociate
    {cell : PolicyCell} (backed : cell.Backed) :
    (cell.disassociate fileName).Backed := by
  intro served missing
  exact backed served (Option.map_eq_none_iff.mp missing)

theorem PolicyCell.restore_backed (cell : PolicyCell) :
    cell.restore.Backed := by
  unfold PolicyCell.restore
  split
  · exact fun served => absurd rfl served
  · intro _ missing
    cases missing

theorem PolicyCell.Backed.forget
    {cell : PolicyCell} (backed : cell.Backed) :
    (cell.forget fileName).Backed := by
  unfold PolicyCell.forget
  split
  · exact PolicyCell.restore_backed _
  · exact backed.disassociate

theorem PolicyCell.Consistent.backed
    {cell : PolicyCell} (consistent : cell.Consistent) : cell.Backed := by
  cases consistent with
  | vacant => exact fun served => absurd rfl served
  | stacked =>
      intro _ missing
      cases missing

theorem run_definePolicy_reserved (reserved : policy ∈ reservedPolicies) :
    (definePolicy policy fileName time definition).run monitor =
      .ok () monitor := by
  unfold definePolicy
  rw [if_pos reserved]
  rfl

/-- The tables after a policy has been defined. -/
def definedIn (monitor : PolicyMonitor) (policy fileName : String)
    (definition : PolicyBundle) (cached : List CachedPolicy) : PolicyMonitor :=
  { monitor with
    policyCache := monitor.policyCache.set policy cached
    policyStore := monitor.policyStore.set policy definition
    policyMap := monitor.policyMap.set policy (some fileName) }

theorem cell_definedIn (cached : List CachedPolicy) (other : String) :
    (definedIn monitor policy fileName definition cached).cell other =
      if other = policy then .defined fileName definition cached
      else monitor.cell other := by
  by_cases same : other = policy
  · subst same
    simp [definedIn, PolicyMonitor.cell, PolicyCell.defined]
  · simp [definedIn, PolicyMonitor.cell, Dict.get_set_of_ne _ _ same, same]

theorem run_definePolicy
    (definition : PolicyBundle) (live : policy ∉ reservedPolicies)
    {cached : List CachedPolicy}
    (shadows : (monitor.cell policy).shadowed fileName time = some cached) :
    ∃ after, (definePolicy policy fileName time definition).run monitor =
        .ok () after ∧
      monitor.SameFiles after ∧
      ∀ other, after.cell other =
        if other = policy then .defined fileName definition cached
        else monitor.cell other := by
  unfold PolicyCell.shadowed at shadows
  unfold definePolicy
  rw [if_neg live]
  cases stored : monitor.policyStore.get policy with
  | none =>
      have vacant : (monitor.cell policy).store = none := stored
      rw [vacant] at shadows
      cases shadows
      refine ⟨definedIn monitor policy fileName definition [], ?_, ⟨rfl, rfl⟩,
        cell_definedIn []⟩
      simp only [run_bind, run_get, stored]
      rfl
  | some existing =>
      have occupied : (monitor.cell policy).store = some existing := stored
      rw [occupied] at shadows
      obtain ⟨entries, found, rfl⟩ := Option.map_eq_some_iff.mp shadows
      have foundCache : monitor.policyCache.get policy = some entries := found
      by_cases owns : monitor.fileOf policy = some fileName
      · have own : (monitor.cell policy).map.join = some fileName := owns
        rw [if_pos own]
        refine ⟨{ monitor with
          policyStore := monitor.policyStore.set policy definition
          policyMap := monitor.policyMap.set policy (some fileName) }, ?_,
          ⟨rfl, rfl⟩, ?_⟩
        · simp only [run_bind, run_get, stored, owns, ne_eq, not_true,
            if_false]
          rfl
        · intro other
          by_cases same : other = policy
          · subst same
            simp [PolicyMonitor.cell, PolicyCell.defined, foundCache]
          · simp [PolicyMonitor.cell, Dict.get_set_of_ne _ _ same, same]
      · have foreign : ¬(monitor.cell policy).map.join = some fileName := owns
        rw [if_neg foreign]
        refine ⟨definedIn monitor policy fileName definition _, ?_, ⟨rfl, rfl⟩,
          cell_definedIn _⟩
        simp only [run_bind, run_get, stored, owns, ne_eq, not_false_eq_true,
          if_true, foundCache]
        rfl

/-- Defining the policies of a file changes the cell of each of them once. -/
theorem run_definePolicies
    (fileName : String) (time : String → Rat)
    {items : List (String × PolicyBundle)}
    (distinct : items.Pairwise fun first second => first.1 ≠ second.1)
    (backed : monitor.Backed) :
    ∃ after,
      (items.forM fun item =>
        definePolicy item.1 fileName (time item.1) item.2).run monitor =
          .ok () after ∧
      monitor.SameFiles after ∧
      (∀ policy, policy ∈ reservedPolicies ∨ policy ∉ items.map Prod.fst →
        after.cell policy = monitor.cell policy) ∧
      ∀ policy definition, policy ∉ reservedPolicies →
        (policy, definition) ∈ items → after.cell policy =
          (monitor.cell policy).define fileName (time policy) definition := by
  induction items generalizing monitor with
  | nil =>
      refine ⟨monitor, rfl, .refl monitor, fun _ _ => rfl, ?_⟩
      intro policy definition _ member
      cases member
  | cons item rest ih =>
      obtain ⟨policy, definition⟩ := item
      obtain ⟨fromFirst, restDistinct⟩ := List.pairwise_cons.mp distinct
      have later : ∀ other ∈ rest.map Prod.fst, other ≠ policy := by
        intro other member same
        obtain ⟨entry, listed, rfl⟩ := List.mem_map.mp member
        exact fromFirst entry listed same.symm
      have first : ∃ middle,
          (definePolicy policy fileName (time policy) definition).run monitor =
            .ok () middle ∧
          monitor.SameFiles middle ∧
          ∀ other, middle.cell other =
            if other = policy ∧ policy ∉ reservedPolicies then
              (monitor.cell policy).define fileName (time policy) definition
            else monitor.cell other := by
        by_cases reserved : policy ∈ reservedPolicies
        · refine ⟨monitor, run_definePolicy_reserved reserved, .refl monitor, ?_⟩
          intro other
          rw [if_neg fun both => both.2 reserved]
        · obtain ⟨cached, shadows⟩ :=
            (backed policy reserved).shadowed fileName (time policy)
          obtain ⟨middle, ran, sameFiles, cells⟩ :=
            run_definePolicy definition reserved shadows
          refine ⟨middle, ran, sameFiles, ?_⟩
          intro other
          rw [cells]
          simp only [PolicyCell.define, shadows, reserved, not_false_eq_true,
            and_true]
      obtain ⟨middle, ran, sameFiles, cells⟩ := first
      have middleBacked : middle.Backed := by
        intro other live
        rw [cells]
        split
        · rename_i defined
          exact (backed policy defined.2).define
        · exact backed other live
      obtain ⟨after, ranRest, restFiles, kept, defined⟩ :=
        ih restDistinct middleBacked
      refine ⟨after, ?_, sameFiles.trans restFiles, ?_, ?_⟩
      · have unrolled :
            (((policy, definition) :: rest).forM fun item =>
              definePolicy item.1 fileName (time item.1) item.2).run monitor =
            (definePolicy policy fileName (time policy) definition >>= fun _ =>
              rest.forM fun item => definePolicy item.1 fileName (time item.1)
                item.2).run monitor := rfl
        rw [unrolled, run_bind, ran]
        exact ranRest
      · intro other untouched
        have restUntouched :
            other ∈ reservedPolicies ∨ other ∉ rest.map Prod.fst :=
          untouched.imp_right fun missing member => missing (.tail _ member)
        rw [kept other restUntouched, cells, if_neg]
        rintro ⟨rfl, live⟩
        rcases untouched with reserved | missing
        · exact live reserved
        · exact missing (.head _)
      · intro other otherDefinition live member
        rcases List.mem_cons.mp member with same | listed
        · cases same
          have unlisted : policy ∉ rest.map Prod.fst :=
            fun member => later policy member rfl
          rw [kept policy (.inr unlisted), cells, if_pos ⟨rfl, live⟩]
        · have different := later other (List.mem_map_of_mem listed)
          rw [defined other otherDefinition live listed, cells,
            if_neg fun both => different both.1]

end Definitions

section Loading

/-- The files of a directory, each with its own path. -/
theorem PolicyDirectory.distinct (directory : PolicyDirectory) :
    directory.files.Pairwise fun first second => first.path ≠ second.path :=
  directory.sorted.imp fun {_ _} before same => by
    rw [same] at before
    exact String.lt_irrefl _ before

variable {world : ScanWorld} {monitor : PolicyMonitor}

theorem sameFiles_dropPolicies
    (fileName : String) (dropped : List String) (monitor : PolicyMonitor) :
    monitor.SameFiles (dropPolicies fileName dropped monitor) := by
  apply sameFiles_foldl
  intro monitor policy
  exact (sameFiles_disassociatePolicyAndFile policy fileName monitor).trans
    (sameFiles_restoreOrDeletePolicy policy _)

/-- Whether a scan loads a file. -/
def Changed (monitor : PolicyMonitor) (file : PolicyFile) : Prop :=
  (monitor.fileTimestamps.get file.path).getD 0 < file.modified

instance (monitor : PolicyMonitor) (file : PolicyFile) :
    Decidable (Changed monitor file) :=
  inferInstanceAs (Decidable (_ < _))

theorem run_loadFile_unchanged
    {file : PolicyFile} (unchanged : ¬Changed monitor file) :
    (loadFile world file).run monitor = .ok () monitor := by
  unfold Changed at unchanged
  unfold loadFile
  simp only [run_bind, run_get, if_neg unchanged]
  rfl

/-- The monitor remembers when a file was modified before it reads it. -/
def stamp (file : PolicyFile) (monitor : PolicyMonitor) : PolicyMonitor :=
  { monitor with
    fileTimestamps := monitor.fileTimestamps.set file.path file.modified }

@[simp] theorem cell_stamp (file : PolicyFile) (monitor : PolicyMonitor)
    (policy : String) : (stamp file monitor).cell policy = monitor.cell policy :=
  rfl

theorem run_loadFile_error
    {file : PolicyFile} {exception : PyError}
    (changed : Changed monitor file)
    (fails : readPolicyFromFile file.content = .error exception) :
    (loadFile world file).run monitor =
      if exception = .python .valueError then .ok () (stamp file monitor)
      else .error exception (stamp file monitor) := by
  unfold Changed at changed
  unfold loadFile
  simp only [run_bind, run_get, if_pos changed, fails, run_modify]
  split <;> rfl

/-- What a file with the given policies leaves of a cell. -/
def PolicyCell.load (world : ScanWorld) (path : String) (table : PolicyTable)
    (policy : String) (cell : PolicyCell) : PolicyCell :=
  match table.get policy with
  | some definition => cell.define path (world.time path policy) definition
  | none =>
      if cell.map = some (some path) then cell.forget path else cell

/-- Loading a file is one step on every cell. -/
theorem run_loadFile_ok
    (world : ScanWorld) {file : PolicyFile} {table : PolicyTable}
    (changed : Changed monitor file)
    (parses : readPolicyFromFile file.content = .ok table)
    (backed : monitor.Backed)
    (unmapped : ∀ policy ∈ reservedPolicies, (monitor.cell policy).map = none) :
    ∃ after, (loadFile world file).run monitor = .ok () after ∧
      (stamp file monitor).SameFiles after ∧
      (∀ policy ∈ reservedPolicies, after.cell policy = monitor.cell policy) ∧
      ∀ policy, policy ∉ reservedPolicies → after.cell policy =
        (monitor.cell policy).load world file.path table policy := by
  have stampedBacked : (stamp file monitor).Backed := backed
  obtain ⟨middle, ran, sameFiles, kept, defined⟩ :=
    run_definePolicies file.path (world.time file.path) table.distinct
      stampedBacked
  obtain ⟨dropped, listed⟩ : ∃ dropped, world.setOrder
    ((monitor.policiesOf file.path).filter (· ∉ table.keys)) = dropped :=
    ⟨_, rfl⟩
  have perm := world.setOrder_perm
    ((monitor.policiesOf file.path).filter (· ∉ table.keys))
  rw [listed] at perm
  have distinct : dropped.Nodup :=
    perm.nodup_iff.mpr ((monitor.policiesOf_nodup file.path).filter _)
  have mem_dropped : ∀ policy, policy ∈ dropped ↔
      (monitor.cell policy).map = some (some file.path) ∧
        policy ∉ table.keys := by
    intro policy
    rw [perm.mem_iff, List.mem_filter, PolicyMonitor.mem_policiesOf_iff,
      decide_eq_true_eq]
  refine ⟨dropPolicies file.path dropped middle, ?_,
    sameFiles.trans (sameFiles_dropPolicies file.path dropped middle), ?_, ?_⟩
  · unfold Changed at changed
    unfold stamp at ran
    unfold loadFile
    simp only [run_bind, run_get, if_pos changed, parses, run_modify, ran,
      listed]
  · intro policy reserved
    have keptPolicy : policy ∉ dropped := by
      intro drops
      have served := ((mem_dropped policy).mp drops).1
      rw [unmapped policy reserved] at served
      cases served
    rw [cell_dropPolicies distinct, if_neg keptPolicy, kept policy (.inl reserved),
      cell_stamp]
  · intro policy live
    rw [cell_dropPolicies distinct]
    unfold PolicyCell.load
    cases found : table.get policy with
    | some definition =>
        have item := Dict.get_eq_some_iff.mp found
        have listedKey : policy ∈ table.keys := List.mem_map_of_mem item
        have keptPolicy : policy ∉ dropped :=
          fun drops => ((mem_dropped policy).mp drops).2 listedKey
        rw [if_neg keptPolicy, defined policy definition live item, cell_stamp]
    | none =>
        have missing := Dict.get_eq_none_iff.mp found
        rw [kept policy (.inr missing), cell_stamp]
        by_cases served : (monitor.cell policy).map = some (some file.path)
        · rw [if_pos ((mem_dropped policy).mpr ⟨served, missing⟩),
            PolicyCell.restore_disassociate served]
          exact (if_pos served).symm
        · rw [if_neg fun drops => served ((mem_dropped policy).mp drops).1]
          exact (if_neg served).symm

end Loading

section Tracking

/-- The tables belong to policies that files define. -/
structure PolicyMonitor.WellFormed (monitor : PolicyMonitor) : Prop where
  consistent : ∀ policy, policy ∉ reservedPolicies →
    (monitor.cell policy).Consistent
  reserved : ∀ policy ∈ reservedPolicies,
    (monitor.cell policy).map = none ∧ (monitor.cell policy).cache = none

/-- What the monitor has read from each file. -/
abbrev Contents := String → Option PolicyTable

/-- The newest definition of every file is the one that the file holds. -/
def Tracks (contents : Contents) (monitor : PolicyMonitor) : Prop :=
  ∀ policy, policy ∉ reservedPolicies → ∀ fileName,
    newest fileName (monitor.cell policy).stack =
      (contents fileName).bind (·.get policy)

def Contents.without (contents : Contents) (fileName : String) : Contents :=
  fun other => if other = fileName then none else contents other

def Contents.with (contents : Contents) (fileName : String)
    (table : PolicyTable) : Contents :=
  fun other => if other = fileName then some table else contents other

variable {monitor : PolicyMonitor} {contents : Contents}

theorem PolicyMonitor.WellFormed.of_cells {other : PolicyMonitor}
    (wellFormed : monitor.WellFormed)
    (cells : ∀ policy, other.cell policy = monitor.cell policy) :
    other.WellFormed := by
  constructor
  · intro policy live
    rw [cells]
    exact wellFormed.consistent policy live
  · intro policy reserved
    rw [cells]
    exact wellFormed.reserved policy reserved

theorem Tracks.of_cells {other : PolicyMonitor}
    (tracks : Tracks contents monitor)
    (cells : ∀ policy, other.cell policy = monitor.cell policy) :
    Tracks contents other := by
  intro policy live fileName
  rw [cells]
  exact tracks policy live fileName

theorem get_foldl_erase
    {α : Type} (names : List String) (dict : Dict String α) (key : String) :
    (names.foldl Dict.erase dict).get key =
      if key ∈ names then none else dict.get key := by
  induction names generalizing dict with
  | nil => simp
  | cons name rest ih =>
      rw [List.foldl_cons, ih, Dict.get_erase]
      by_cases same : key = name
      · simp [same]
      · simp [same]

theorem cell_initializeTrackingStructures
    (monitor : PolicyMonitor) {policy : String}
    (live : policy ∉ reservedPolicies) :
    (initializeTrackingStructures monitor).cell policy = .vacant := by
  have missing : ((monitor.policyStore.keys.filter
      (· ∉ reservedPolicies)).foldl Dict.erase monitor.policyStore).get
        policy = none := by
    rw [get_foldl_erase]
    split
    · rfl
    · rename_i kept
      apply Dict.get_eq_none_iff.mpr
      intro listed
      exact kept (List.mem_filter.mpr ⟨listed, by simpa using live⟩)
  ext1
  · exact missing
  · rfl
  · rfl

theorem wellFormed_initializeTrackingStructures (monitor : PolicyMonitor) :
    (initializeTrackingStructures monitor).WellFormed := by
  constructor
  · intro policy live
    rw [cell_initializeTrackingStructures monitor live]
    exact .vacant
  · intro policy reserved
    exact ⟨rfl, rfl⟩

theorem forget_of_untracked
    {cell : PolicyCell} (fileName : String) (unmapped : cell.map = none)
    (uncached : cell.cache = none) : cell.forget fileName = cell := by
  unfold PolicyCell.forget PolicyCell.disassociate
  rw [unmapped, uncached]
  ext1
  · rfl
  · exact unmapped.symm
  · exact uncached.symm

theorem removeFile_wellFormed
    (wellFormed : monitor.WellFormed) (fileName : String) :
    (removeFile monitor fileName).WellFormed := by
  constructor
  · intro policy live
    rw [cell_removeFile]
    exact ((wellFormed.consistent policy live).forgotten fileName).1
  · intro policy reserved
    obtain ⟨unmapped, uncached⟩ := wellFormed.reserved policy reserved
    rw [cell_removeFile, forget_of_untracked fileName unmapped uncached]
    exact ⟨unmapped, uncached⟩

theorem removeFile_tracks
    (wellFormed : monitor.WellFormed) (tracks : Tracks contents monitor)
    (fileName : String) :
    Tracks (contents.without fileName) (removeFile monitor fileName) := by
  intro policy live other
  rw [cell_removeFile,
    ((wellFormed.consistent policy live).forgotten fileName).2, newest_filter,
    tracks policy live]
  unfold Contents.without
  split <;> rfl

theorem timestamps_removeFile (fileName path : String) :
    (removeFile monitor fileName).fileTimestamps.get path =
      if path = fileName then none else monitor.fileTimestamps.get path := by
  have restored := sameFiles_foldl
    (fun monitor policy => sameFiles_restoreOrDeletePolicy policy monitor)
  have disassociated := sameFiles_foldl
    (fun monitor policy =>
      sameFiles_disassociatePolicyAndFile policy fileName monitor)
  unfold removeFile restorePolicies disassociateFile
  rw [(restored _ _).fileTimestamps, (disassociated _ _).fileTimestamps,
    Dict.get_erase]

theorem timestamps_removeFiles
    (removed : List String) (monitor : PolicyMonitor) (path : String) :
    (removed.foldl removeFile monitor).fileTimestamps.get path =
      if path ∈ removed then none else monitor.fileTimestamps.get path := by
  induction removed generalizing monitor with
  | nil => simp
  | cons fileName rest ih =>
      rw [List.foldl_cons, ih, timestamps_removeFile]
      by_cases same : path = fileName
      · simp [same]
      · simp [same]

/-- The files that are gone leave neither definitions nor time stamps. -/
theorem removeFiles_tracks
    (removed : List String) (wellFormed : monitor.WellFormed)
    (tracks : Tracks contents monitor) :
    (removed.foldl removeFile monitor).WellFormed ∧
      Tracks (fun path => if path ∈ removed then none else contents path)
        (removed.foldl removeFile monitor) ∧
      ∀ path, (removed.foldl removeFile monitor).fileTimestamps.get path =
        if path ∈ removed then none else monitor.fileTimestamps.get path := by
  induction removed generalizing monitor contents with
  | nil => simpa using ⟨wellFormed, tracks⟩
  | cons fileName rest ih =>
      rw [List.foldl_cons]
      obtain ⟨restWellFormed, restTracks, _⟩ :=
        ih (removeFile_wellFormed wellFormed fileName)
          (removeFile_tracks wellFormed tracks fileName)
      refine ⟨restWellFormed, ?_, timestamps_removeFiles (fileName :: rest) monitor⟩
      intro policy live path
      rw [restTracks policy live path]
      unfold Contents.without
      by_cases same : path = fileName
      · simp [same]
      · simp [same]

/-- A file that is new has no time stamp yet. -/
def addFile (monitor : PolicyMonitor) (fileName : String) : PolicyMonitor :=
  { monitor with fileTimestamps := monitor.fileTimestamps.set fileName 0 }

theorem addFiles_tracks (added : List String) :
    (∀ policy, (added.foldl addFile monitor).cell policy =
        monitor.cell policy) ∧
      (added.foldl addFile monitor).policyFiles = monitor.policyFiles ∧
      ∀ path, (added.foldl addFile monitor).fileTimestamps.get path =
        if path ∈ added then some 0 else monitor.fileTimestamps.get path := by
  induction added generalizing monitor with
  | nil => simp
  | cons fileName rest ih =>
      obtain ⟨cells, files, stamps⟩ := @ih (addFile monitor fileName)
      rw [List.foldl_cons]
      refine ⟨cells, files, ?_⟩
      intro path
      rw [stamps]
      by_cases same : path = fileName
      · simp [same, addFile]
      · simp [same, addFile, Dict.get_set_of_ne]

end Tracking

section CleanLoading

variable {world : ScanWorld} {monitor : PolicyMonitor} {contents : Contents}

/-- A loaded file drops only policies that it serves or has no entry for, and
the clock does not repeat itself for a definition that is shadowed again. -/
structure LoadsCleanly (world : ScanWorld) (file : PolicyFile)
    (monitor : PolicyMonitor) : Prop where
  drops : ∀ table, readPolicyFromFile file.content = .ok table →
    ∀ policy, table.get policy = none →
      (monitor.cell policy).map ≠ some (some file.path) →
      ∀ cached, (monitor.cell policy).cache = some cached →
        ∀ entry ∈ cached, entry.file ≠ some file.path
  fresh : ∀ table, readPolicyFromFile file.content = .ok table →
    ∀ policy ∈ table.keys,
      (monitor.cell policy).Fresh file.path (world.time file.path policy)

/-- No policy has a definition that another one shadows. -/
def PolicyMonitor.Unshadowed (monitor : PolicyMonitor) : Prop :=
  ∀ item ∈ monitor.policyCache.items, item.2 = []

instance (monitor : PolicyMonitor) : Decidable monitor.Unshadowed :=
  inferInstanceAs (Decidable (∀ item ∈ monitor.policyCache.items, item.2 = []))

theorem PolicyMonitor.Unshadowed.loadsCleanly
    (unshadowed : monitor.Unshadowed) (file : PolicyFile) :
    LoadsCleanly world file monitor := by
  have empty : ∀ policy cached,
      (monitor.cell policy).cache = some cached → cached = [] :=
    fun policy cached found => unshadowed _ (Dict.get_eq_some_iff.mp found)
  constructor
  · intro table _ policy _ _ cached found entry member
    rw [empty policy cached found] at member
    cases member
  · intro table _ policy _ existing cached _ found _ entry member
    rw [empty policy cached found] at member
    cases member

theorem newest_of_foreign
    {cell : PolicyCell} {fileName : String} (consistent : cell.Consistent)
    (foreign : cell.map ≠ some (some fileName))
    (absent : ∀ cached, cell.cache = some cached →
      ∀ entry ∈ cached, entry.file ≠ some fileName) :
    newest fileName cell.stack = none := by
  cases consistent with
  | vacant => rfl
  | stacked definition owner cached distinct named =>
      unfold newest
      rw [Option.map_eq_none_iff, List.find?_eq_none]
      intro entry member
      simp only [PolicyCell.stack, List.mem_reverse, List.mem_append,
        List.mem_singleton, Option.getD_some, List.mem_map] at member
      rcases member with ⟨shadowed, listed, rfl⟩ | rfl
      · have other := absent cached rfl shadowed listed
        simp only [CachedPolicy.entry, other, decide_false,
          Bool.false_eq_true, not_false_eq_true]
      · simpa using foreign

/-- A file that is loaded cleanly replaces its own definition in a cell. -/
theorem PolicyCell.Consistent.load
    {file : PolicyFile} {table : PolicyTable} {policy : String}
    (consistent : (monitor.cell policy).Consistent)
    (parses : readPolicyFromFile file.content = .ok table)
    (clean : LoadsCleanly world file monitor) :
    ((monitor.cell policy).load world file.path table policy).Consistent ∧
      ∀ other, newest other
          ((monitor.cell policy).load world file.path table policy).stack =
        if other = file.path then table.get policy
        else newest other (monitor.cell policy).stack := by
  unfold PolicyCell.load
  cases found : table.get policy with
  | some definition =>
      have listed : policy ∈ table.keys :=
        List.mem_map_of_mem (Dict.get_eq_some_iff.mp found)
      obtain ⟨cached, shadows, after, onTop⟩ :=
        consistent.shadows file.path (clean.fresh table parses policy listed)
          definition
      simp only [PolicyCell.define, shadows]
      exact ⟨after, onTop⟩
  | none =>
      by_cases served : (monitor.cell policy).map = some (some file.path)
      · simp only [if_pos served]
        obtain ⟨after, stack⟩ := consistent.forgotten file.path
        refine ⟨after, ?_⟩
        intro other
        rw [stack, newest_filter]
      · simp only [if_neg served]
        refine ⟨consistent, ?_⟩
        intro other
        split
        · rename_i same
          rw [same]
          exact newest_of_foreign consistent served
            (clean.drops table parses policy found served)
        · rfl

theorem PolicyMonitor.WellFormed.backed (wellFormed : monitor.WellFormed) :
    monitor.Backed :=
  fun policy live => (wellFormed.consistent policy live).backed

theorem run_loadFile
    {file : PolicyFile} {table : PolicyTable}
    (changed : Changed monitor file)
    (parses : readPolicyFromFile file.content = .ok table)
    (clean : LoadsCleanly world file monitor)
    (wellFormed : monitor.WellFormed) (tracks : Tracks contents monitor) :
    ∃ after, (loadFile world file).run monitor = .ok () after ∧
      after.WellFormed ∧ after.policyFiles = monitor.policyFiles ∧
      after.fileTimestamps =
        monitor.fileTimestamps.set file.path file.modified ∧
      Tracks (contents.with file.path table) after := by
  obtain ⟨after, ran, sameFiles, reservedCells, cells⟩ :=
    run_loadFile_ok world changed parses wellFormed.backed
      fun policy reserved => (wellFormed.reserved policy reserved).1
  refine ⟨after, ran, ⟨?_, ?_⟩, sameFiles.policyFiles,
    sameFiles.fileTimestamps, ?_⟩
  · intro policy live
    rw [cells policy live]
    exact ((wellFormed.consistent policy live).load parses clean).1
  · intro policy reserved
    rw [reservedCells policy reserved]
    exact wellFormed.reserved policy reserved
  · intro policy live other
    rw [cells policy live,
      ((wellFormed.consistent policy live).load parses clean).2,
      tracks policy live]
    unfold Contents.with
    split <;> rfl

end CleanLoading

end PyKMIP
