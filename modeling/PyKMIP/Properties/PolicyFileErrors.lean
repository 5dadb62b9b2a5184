import PyKMIP.Properties.PolicyTracking
import PyKMIP.PolicyShapes

/-!
# Policy files that cannot be read

A scan goes on after a file that raises a `ValueError`, as if that file had not
changed.  Any other exception of a reader ends it.
-/

namespace PyKMIP

open EStateM StatefulExcept

section Readiness

/-- The tables that a scan relies on: what is served has a stack, and the
reserved policies belong to no file. -/
structure PolicyMonitor.Ready (monitor : PolicyMonitor) : Prop where
  backed : monitor.Backed
  unmapped : ∀ policy ∈ reservedPolicies, (monitor.cell policy).map = none

variable {monitor after : PolicyMonitor} {world : ScanWorld} {file : PolicyFile}

theorem PolicyMonitor.Ready.of_cells
    (ready : monitor.Ready)
    (cells : ∀ policy, after.cell policy = monitor.cell policy) :
    after.Ready := by
  constructor
  · intro policy live
    rw [cells]
    exact ready.backed policy live
  · intro policy reserved
    rw [cells]
    exact ready.unmapped policy reserved

theorem ready_initializeTrackingStructures (monitor : PolicyMonitor) :
    (initializeTrackingStructures monitor).Ready := by
  have mirrors := wellFormed_initializeTrackingStructures monitor
  constructor
  · exact mirrors.backed
  · intro policy reserved
    exact (mirrors.reserved policy reserved).1

theorem PolicyMonitor.Ready.removeFile
    (ready : monitor.Ready) (fileName : String) :
    (PyKMIP.removeFile monitor fileName).Ready := by
  constructor
  · intro policy live
    rw [cell_removeFile]
    exact (ready.backed policy live).forget
  · intro policy reserved
    have unmapped := ready.unmapped policy reserved
    rw [cell_removeFile]
    unfold PolicyCell.forget
    rw [if_neg (by simp [unmapped])]
    exact unmapped

theorem PolicyMonitor.Ready.trackFiles
    (ready : monitor.Ready) (world : ScanWorld) :
    (PyKMIP.trackFiles world monitor).Ready := by
  have removed : ∀ (names : List String) (monitor : PolicyMonitor),
      monitor.Ready → (names.foldl PyKMIP.removeFile monitor).Ready := by
    intro names
    induction names with
    | nil => exact fun _ ready => ready
    | cons name rest ih =>
        intro monitor ready
        exact ih _ (ready.removeFile name)
  have added : ∀ names : List String, (names.foldl addFile monitor).Ready :=
    fun names => ready.of_cells (addFiles_tracks names).1
  exact (removed _ _ (added _)).of_cells fun _ => rfl

/-- A file that is not changed, or can be read or raises a `ValueError`, leaves
the monitor ready. -/
theorem PolicyMonitor.Ready.loadFile
    (world : ScanWorld) (ready : monitor.Ready)
    (acceptable : Changed monitor file →
      Acceptable (readPolicyFromFile file.content)) :
    ∃ after, (loadFile world file).run monitor = .ok () after ∧ after.Ready ∧
      ∀ path, path ≠ file.path →
        after.fileTimestamps.get path = monitor.fileTimestamps.get path := by
  have stamped : ∀ path, path ≠ file.path →
      (stamp file monitor).fileTimestamps.get path =
        monitor.fileTimestamps.get path := by
    intro path different
    exact Dict.get_set_of_ne _ _ different
  by_cases changed : Changed monitor file
  · cases read : readPolicyFromFile file.content with
    | ok table =>
        obtain ⟨after, ran, sameFiles, reservedCells, cells⟩ :=
          run_loadFile_ok world changed read ready.backed ready.unmapped
        refine ⟨after, ran, ⟨?_, ?_⟩, ?_⟩
        · intro policy live
          rw [cells policy live]
          unfold PolicyCell.load
          split
          · exact (ready.backed policy live).define
          · split
            · exact (ready.backed policy live).forget
            · exact ready.backed policy live
        · intro policy reserved
          rw [reservedCells policy reserved]
          exact ready.unmapped policy reserved
        · intro path different
          rw [sameFiles.fileTimestamps]
          exact stamped path different
    | error exception =>
        have isValueError := acceptable changed exception read
        refine ⟨stamp file monitor, ?_, ready.of_cells fun _ => rfl, stamped⟩
        rw [run_loadFile_error changed read, if_pos isValueError]
  · exact ⟨monitor, run_loadFile_unchanged changed, ready, fun _ _ => rfl⟩

/-- A scan that loads a file can read it, or gets a `ValueError`. -/
theorem acceptable_of_run_loadFile
    (ran : (loadFile world file).run monitor = .ok () after)
    (changed : Changed monitor file) :
    Acceptable (readPolicyFromFile file.content) := by
  cases read : readPolicyFromFile file.content with
  | ok table => exact acceptable_ok table
  | error exception =>
      rw [acceptable_error_iff]
      by_contra other
      rw [run_loadFile_error changed read, if_neg other] at ran
      cases ran

end Readiness

section Loops

variable {monitor after : PolicyMonitor} {world : ScanWorld}

/-- Going through a list of files is loading the first and then the others. -/
theorem run_forM_loadFile_cons
    (file : PolicyFile) (rest : List PolicyFile) (monitor : PolicyMonitor) :
    ((file :: rest).forM (loadFile world)).run monitor =
      (loadFile world file >>= fun _ =>
        rest.forM (loadFile world)).run monitor := rfl

theorem changed_of_stamp
    {other : PolicyMonitor} {file : PolicyFile}
    (same : other.fileTimestamps.get file.path =
      monitor.fileTimestamps.get file.path) :
    Changed other file ↔ Changed monitor file := by
  unfold Changed
  rw [same]

/-- A scan returns just when every file that it loads can be read or raises a
`ValueError`. -/
theorem acceptable_of_run_loadFiles
    {pending : List PolicyFile}
    (distinct : pending.Pairwise fun first second => first.path ≠ second.path)
    (ready : monitor.Ready)
    (ran : (pending.forM (loadFile world)).run monitor = .ok () after) :
    after.Ready ∧ ∀ file ∈ pending, Changed monitor file →
      Acceptable (readPolicyFromFile file.content) := by
  induction pending generalizing monitor with
  | nil =>
      cases ran
      refine ⟨ready, ?_⟩
      intro file member
      cases member
  | cons file rest ih =>
      obtain ⟨fromFirst, restDistinct⟩ := List.pairwise_cons.mp distinct
      rw [run_forM_loadFile_cons, bind_ok_iff] at ran
      obtain ⟨_, middle, ranFirst, ranRest⟩ := ran
      have first : Changed monitor file →
          Acceptable (readPolicyFromFile file.content) :=
        acceptable_of_run_loadFile ranFirst
      obtain ⟨between, ranAgain, middleReady, stamps⟩ :=
        ready.loadFile world first
      rw [ranFirst] at ranAgain
      cases ranAgain
      obtain ⟨afterReady, others⟩ := ih restDistinct middleReady ranRest
      refine ⟨afterReady, ?_⟩
      intro other member changed
      rcases List.mem_cons.mp member with rfl | listed
      · exact first changed
      · apply others other listed
        have sameStamp := stamps other.path (fromFirst other listed).symm
        exact (changed_of_stamp sameStamp).mpr changed

theorem PolicyMonitor.Ready.scanPolicies
    (ready : monitor.Ready)
    (ran : (PyKMIP.scanPolicies world).run monitor = .ok () after) :
    after.Ready ∧ ∀ file ∈ world.directory.files,
      Changed (PyKMIP.trackFiles world monitor) file →
        Acceptable (readPolicyFromFile file.content) := by
  unfold PyKMIP.scanPolicies at ran
  rw [run_bind, run_modify] at ran
  exact acceptable_of_run_loadFiles world.directory.distinct
    (ready.trackFiles world) ran

theorem ready_of_run_scans
    {seen : List ScanWorld} (ready : monitor.Ready)
    (ran : (seen.forM scanPolicies).run monitor = .ok () after) :
    after.Ready := by
  induction seen generalizing monitor with
  | nil =>
      cases ran
      exact ready
  | cons world rest ih =>
      have unrolled : ((world :: rest).forM scanPolicies).run monitor =
          (scanPolicies world >>= fun _ =>
            rest.forM scanPolicies).run monitor := rfl
      rw [unrolled, bind_ok_iff] at ran
      obtain ⟨_, middle, ranFirst, ranRest⟩ := ran
      exact ih (ready.scanPolicies ranFirst).1 ranRest

end Loops

section Sparing

/-- A file that cannot be read, as the monitor has seen it last. -/
def PolicyFile.spared (monitor : PolicyMonitor) (file : PolicyFile) :
    PolicyFile :=
  match readPolicyFromFile file.content with
  | .ok _ => file
  | .error _ =>
      { file with
        modified := (monitor.fileTimestamps.get file.path).getD 0 }

variable {monitor left right : PolicyMonitor}

@[simp] theorem PolicyFile.spared_path (file : PolicyFile) :
    (file.spared monitor).path = file.path := by
  unfold PolicyFile.spared
  split <;> rfl

theorem map_spared_path (files : List PolicyFile) :
    (files.map fun file => file.spared monitor).map PolicyFile.path =
      files.map PolicyFile.path := by
  rw [List.map_map]
  exact List.map_congr_left fun file _ => file.spared_path

/-- The directory as if the files that cannot be read had not changed. -/
def ScanWorld.sparing (world : ScanWorld) (monitor : PolicyMonitor) :
    ScanWorld :=
  { world with
    directory :=
      { files := world.directory.files.map fun file =>
          file.spared (trackFiles world monitor)
        sorted := by
          apply List.pairwise_map.mpr
          simpa using world.directory.sorted } }

theorem trackFiles_sparing (world : ScanWorld) :
    trackFiles (world.sparing monitor) monitor = trackFiles world monitor := by
  have paths : (world.sparing monitor).directory.files.map PolicyFile.path =
      world.directory.files.map PolicyFile.path :=
    map_spared_path world.directory.files
  unfold trackFiles
  rw [paths]
  rfl

/-- Two monitors hold the same policies. -/
def SamePolicies (left right : PolicyMonitor) : Prop :=
  ∀ policy, left.cell policy = right.cell policy

theorem run_loadFile_spared
    (world : ScanWorld) {file : PolicyFile} (same : SamePolicies left right) (ready : left.Ready)
    (leftStamp : left.fileTimestamps.get file.path =
      monitor.fileTimestamps.get file.path)
    (rightStamp : right.fileTimestamps.get file.path =
      monitor.fileTimestamps.get file.path)
    (acceptable : Changed left file →
      Acceptable (readPolicyFromFile file.content)) :
    ∃ after spared, (loadFile world file).run left = .ok () after ∧
      (loadFile world (file.spared monitor)).run right = .ok () spared ∧
      SamePolicies after spared ∧ after.Ready ∧
      ∀ path, path ≠ file.path →
        after.fileTimestamps.get path = left.fileTimestamps.get path ∧
          spared.fileTimestamps.get path = right.fileTimestamps.get path := by
  have rightReady : right.Ready := ready.of_cells fun policy => (same policy).symm
  have changes : Changed right file ↔ Changed left file :=
    changed_of_stamp (rightStamp.trans leftStamp.symm)
  obtain ⟨after, ran, afterReady, stamps⟩ :=
    ready.loadFile world acceptable
  cases read : readPolicyFromFile file.content with
  | ok table =>
      have kept : file.spared monitor = file := by
        unfold PolicyFile.spared
        rw [read]
      rw [kept]
      have readable : Changed right file →
          Acceptable (readPolicyFromFile file.content) :=
        fun _ => read ▸ acceptable_ok table
      obtain ⟨spared, ranSpared, sparedReady, sparedStamps⟩ :=
        rightReady.loadFile world readable
      refine ⟨after, spared, ran, ranSpared, ?_, afterReady,
        fun path different =>
          ⟨stamps path different, sparedStamps path different⟩⟩
      by_cases changed : Changed left file
      · obtain ⟨leftAfter, leftRan, _, leftReserved, leftCells⟩ :=
          run_loadFile_ok world changed read ready.backed
            ready.unmapped
        obtain ⟨rightAfter, rightRan, _, rightReserved, rightCells⟩ :=
          run_loadFile_ok world (changes.mpr changed) read
            rightReady.backed rightReady.unmapped
        rw [ran] at leftRan
        rw [ranSpared] at rightRan
        cases leftRan
        cases rightRan
        intro policy
        by_cases reserved : policy ∈ reservedPolicies
        · rw [leftReserved policy reserved, rightReserved policy reserved]
          exact same policy
        · rw [leftCells policy reserved, rightCells policy reserved, same policy]
      · rw [run_loadFile_unchanged changed] at ran
        rw [run_loadFile_unchanged fun changedRight =>
          changed (changes.mp changedRight)] at ranSpared
        cases ran
        cases ranSpared
        exact same
  | error exception =>
      have unchanged : ¬Changed right (file.spared monitor) := by
        unfold Changed PolicyFile.spared
        rw [read]
        simp [rightStamp]
      refine ⟨after, right, ran, run_loadFile_unchanged unchanged, ?_,
        afterReady, fun path different => ⟨stamps path different, rfl⟩⟩
      by_cases changed : Changed left file
      · rw [run_loadFile_error changed read,
          if_pos (acceptable changed exception read)] at ran
        cases ran
        exact same
      · rw [run_loadFile_unchanged changed] at ran
        cases ran
        exact same

theorem run_loadFiles_spared
    (world : ScanWorld) {pending : List PolicyFile}
    (distinct : pending.Pairwise fun first second => first.path ≠ second.path)
    (same : SamePolicies left right) (ready : left.Ready)
    (leftStamps : ∀ file ∈ pending, left.fileTimestamps.get file.path =
      monitor.fileTimestamps.get file.path)
    (rightStamps : ∀ file ∈ pending, right.fileTimestamps.get file.path =
      monitor.fileTimestamps.get file.path)
    (acceptable : ∀ file ∈ pending, Changed left file →
      Acceptable (readPolicyFromFile file.content)) :
    ∃ after spared, (pending.forM (loadFile world)).run left = .ok () after ∧
      ((pending.map fun file => file.spared monitor).forM
        (loadFile world)).run right = .ok () spared ∧
      SamePolicies after spared := by
  induction pending generalizing left right with
  | nil => exact ⟨left, right, rfl, rfl, same⟩
  | cons file rest ih =>
      obtain ⟨fromFirst, restDistinct⟩ := List.pairwise_cons.mp distinct
      obtain ⟨middle, between, ran, ranSpared, sameMiddle, middleReady,
        stamps⟩ :=
        run_loadFile_spared world same ready
          (leftStamps file (.head _)) (rightStamps file (.head _))
          (acceptable file (.head _))
      have restStamps := fun other member =>
        stamps other.path (fromFirst other member).symm
      obtain ⟨after, spared, ranRest, ranSparedRest, sameAfter⟩ :=
        ih restDistinct sameMiddle middleReady
          (fun other member => (restStamps other member).1.trans
            (leftStamps other (.tail _ member)))
          (fun other member => (restStamps other member).2.trans
            (rightStamps other (.tail _ member)))
          (fun other member changed => acceptable other (.tail _ member)
            ((changed_of_stamp (restStamps other member).1).mp changed))
      refine ⟨after, spared, ?_, ?_, sameAfter⟩
      · rw [run_forM_loadFile_cons, run_bind, ran]
        exact ranRest
      · rw [List.map_cons, run_forM_loadFile_cons, run_bind, ranSpared]
        exact ranSparedRest

/-- A scan returns, with the policies that it would have left if the files that
cannot be read had not changed. -/
def Harmless (world : ScanWorld) (monitor : PolicyMonitor) : Prop :=
  ∃ after spared, (scanPolicies world).run monitor = .ok () after ∧
    (scanPolicies (world.sparing monitor)).run monitor = .ok () spared ∧
    SamePolicies after spared

theorem PolicyMonitor.Ready.harmless_iff
    (ready : monitor.Ready) (world : ScanWorld) :
    Harmless world monitor ↔
      ∀ file ∈ world.directory.files,
        Changed (PyKMIP.trackFiles world monitor) file →
          FileShaped file.content := by
  simp only [← acceptable_readPolicyFromFile_iff]
  constructor
  · rintro ⟨after, spared, ran, _, _⟩
    exact (ready.scanPolicies ran).2
  · intro acceptable
    obtain ⟨after, spared, ran, ranSpared, same⟩ :=
      run_loadFiles_spared world world.directory.distinct (fun _ => rfl)
        (ready.trackFiles world) (fun _ _ => rfl) (fun _ _ => rfl) acceptable
    refine ⟨after, spared, ?_, ?_, same⟩
    · unfold PyKMIP.scanPolicies
      rw [run_bind, run_modify]
      exact ran
    · unfold PyKMIP.scanPolicies
      rw [run_bind, run_modify, trackFiles_sparing]
      exact ranSpared

/-- Reading a file ends in a table or a `ValueError`, and a scan after any run
of scans is harmless, just when the files have the expected shape. -/
theorem policy_files_are_harmless_iff
    (content : FileContent) (start monitor : PolicyMonitor)
    (seen : List ScanWorld)
    (ran : (seen.forM scanPolicies).run (initializeTrackingStructures start) =
      .ok () monitor)
    (world : ScanWorld) :
    (Acceptable (readPolicyFromFile content) ↔ FileShaped content) ∧
      (Harmless world monitor ↔
        ∀ file ∈ world.directory.files,
          Changed (trackFiles world monitor) file →
            FileShaped file.content) := by
  constructor
  · exact acceptable_readPolicyFromFile_iff content
  · have ready := ready_of_run_scans
      (ready_initializeTrackingStructures start) ran
    exact ready.harmless_iff world

end Sparing

section Samples

/-- A list where the reader expects a mapping of policy names. -/
def listOfPolicies : FileContent := some (.array [])

/-- A text that is no JSON. -/
def noJson : FileContent := none

/-- A file that has been loaded is replaced by such a text. -/
def badReplacement : ScanWorld := scanOf (oneFile "a.json" 2 noJson) 2

theorem policy_files_are_harmless_bad_text :
    Acceptable (readPolicyFromFile noJson) ∧
      ∃ monitor,
        ([scanOf (oneFile "a.json" 1 readableKeys) 1].forM scanPolicies).run
            (initializeTrackingStructures emptyMonitor) = .ok () monitor ∧
          (∀ file ∈ badReplacement.directory.files,
            Changed (trackFiles badReplacement monitor) file) ∧
          Harmless badReplacement monitor := by
  have loads : ∃ monitor,
      ([scanOf (oneFile "a.json" 1 readableKeys) 1].forM scanPolicies).run
          (initializeTrackingStructures emptyMonitor) = .ok () monitor ∧
        ∀ file ∈ badReplacement.directory.files,
          Changed (trackFiles badReplacement monitor) file :=
    ⟨_, rfl, by decide⟩
  obtain ⟨monitor, ran, changed⟩ := loads
  obtain ⟨reads, scans⟩ := policy_files_are_harmless_iff noJson emptyMonitor
    monitor _ ran badReplacement
  refine ⟨reads.mpr trivial, monitor, ran, changed, scans.mpr ?_⟩
  intro file member _
  cases List.mem_singleton.mp member
  trivial

theorem policy_files_are_not_harmless :
    ¬((∀ content, Acceptable (readPolicyFromFile content)) ∨
      ∀ world, Harmless world (initializeTrackingStructures emptyMonitor)) := by
  rintro (acceptable | harmless)
  · cases acceptable listOfPolicies _ rfl
  · obtain ⟨after, spared, ran, _, _⟩ :=
      harmless (scanOf (oneFile "a.json" 1 listOfPolicies) 1)
    have raises : outcomeOf ((scanPolicies (scanOf (oneFile "a.json" 1
        listOfPolicies) 1)).run (initializeTrackingStructures emptyMonitor)) =
          .error (.python .attributeError) := by decide
    rw [ran] at raises
    cases raises

end Samples

end PyKMIP
