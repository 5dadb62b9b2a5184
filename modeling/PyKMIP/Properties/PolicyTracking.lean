import PyKMIP.PolicyScans

/-!
# The policy store follows the policy directory

A scan whose files drop no policy that another file has shadowed leaves the
newest definition of every present file on the stacks, and nothing else.  The
served definition is one of them.
-/

namespace PyKMIP

open EStateM StatefulExcept

section Mirroring

/-- The policies of a file, if it can be read. -/
def PolicyFile.table (file : PolicyFile) : Option PolicyTable :=
  (readPolicyFromFile file.content).toOption

def PolicyFile.definition (file : PolicyFile) (policy : String) :
    Option PolicyBundle :=
  file.table.bind (·.get policy)

/-- The monitor has loaded the file as it is. -/
structure UpToDate (contents : Contents) (monitor : PolicyMonitor)
    (file : PolicyFile) : Prop where
  loaded : contents file.path = file.table
  stamped : monitor.fileTimestamps.get file.path = some file.modified

/-- The monitor has loaded the files of a directory and no others. -/
structure Mirrors (directory : PolicyDirectory) (monitor : PolicyMonitor) :
    Prop where
  wellFormed : monitor.WellFormed
  policyFiles : monitor.policyFiles = directory.files.map PolicyFile.path
  current : ∃ contents, Tracks contents monitor ∧
    (∀ file ∈ directory.files, UpToDate contents monitor file) ∧
    ∀ path, path ∉ directory.files.map PolicyFile.path → contents path = none

def PolicyDirectory.empty : PolicyDirectory := ⟨[], .nil⟩

theorem mirrors_initializeTrackingStructures (monitor : PolicyMonitor) :
    Mirrors .empty (initializeTrackingStructures monitor) := by
  constructor
  · exact wellFormed_initializeTrackingStructures monitor
  · rfl
  · refine ⟨fun _ => none, ?_, ?_, fun _ _ => rfl⟩
    · intro policy live fileName
      rw [cell_initializeTrackingStructures monitor live]
      rfl
    · intro file member
      cases member

end Mirroring

section Steps

variable {monitor : PolicyMonitor} {contents : Contents}

theorem run_trackFiles
    (world : ScanWorld) {previous : PolicyDirectory} (mirrors : Mirrors previous monitor) :
    (trackFiles world monitor).WellFormed ∧
      (trackFiles world monitor).policyFiles =
        world.directory.files.map PolicyFile.path ∧
      ∃ contents, Tracks contents (trackFiles world monitor) ∧
        (∀ file ∈ world.directory.files, file ∈ previous.files →
          UpToDate contents (trackFiles world monitor) file) ∧
        (∀ old ∈ previous.files,
          old.path ∈ world.directory.files.map PolicyFile.path →
          (trackFiles world monitor).fileTimestamps.get old.path =
            some old.modified) ∧
        (∀ path, path ∈ world.directory.files.map PolicyFile.path →
          path ∉ previous.files.map PolicyFile.path →
          (trackFiles world monitor).fileTimestamps.get path = some 0) ∧
        ∀ path, path ∉ world.directory.files.map PolicyFile.path →
          contents path = none := by
  obtain ⟨wellFormed, policyFiles, contents, tracks, upToDate, absent⟩ :=
    mirrors
  obtain ⟨paths, listed⟩ : ∃ paths,
      world.directory.files.map PolicyFile.path = paths := ⟨_, rfl⟩
  obtain ⟨added, addedIs⟩ : ∃ added, world.setOrder
      (paths.filter (· ∉ monitor.policyFiles)) = added := ⟨_, rfl⟩
  obtain ⟨removed, removedIs⟩ : ∃ removed, world.setOrder
      (monitor.policyFiles.filter (· ∉ paths)) = removed := ⟨_, rfl⟩
  have mem_added : ∀ path, path ∈ added ↔
      path ∈ paths ∧ path ∉ previous.files.map PolicyFile.path := by
    intro path
    rw [← addedIs, (world.setOrder_perm _).mem_iff, List.mem_filter,
      policyFiles, decide_eq_true_eq]
  have mem_removed : ∀ path, path ∈ removed ↔
      path ∈ previous.files.map PolicyFile.path ∧ path ∉ paths := by
    intro path
    rw [← removedIs, (world.setOrder_perm _).mem_iff, List.mem_filter,
      policyFiles, decide_eq_true_eq]
  obtain ⟨addedCells, _, addedStamps⟩ := @addFiles_tracks monitor added
  obtain ⟨removedWellFormed, removedTracks, removedStamps⟩ :=
    removeFiles_tracks removed (wellFormed.of_cells addedCells)
      (tracks.of_cells addedCells)
  have shape : trackFiles world monitor =
      { removed.foldl removeFile (added.foldl addFile monitor) with
        policyFiles := paths } := by
    rw [← addedIs, ← removedIs, ← listed]
    rfl
  have stamps : ∀ path,
      (trackFiles world monitor).fileTimestamps.get path =
        if path ∈ removed then none
        else if path ∈ added then some 0
        else monitor.fileTimestamps.get path := by
    intro path
    rw [shape, ← addedStamps]
    exact removedStamps path
  have keptPath : ∀ old ∈ previous.files, old.path ∈ paths →
      old.path ∉ removed ∧ old.path ∉ added := by
    intro old member present
    have known : old.path ∈ previous.files.map PolicyFile.path :=
      List.mem_map_of_mem member
    exact ⟨fun gone => ((mem_removed _).mp gone).2 present,
      fun isNew => ((mem_added _).mp isNew).2 known⟩
  rw [listed]
  refine ⟨?_, ?_, fun path => if path ∈ removed then none else contents path,
    ?_, ?_, ?_, ?_, ?_⟩
  · exact removedWellFormed.of_cells fun _ => by rw [shape]; rfl
  · rw [shape]
  · exact removedTracks.of_cells fun _ => by rw [shape]; rfl
  · intro file member known
    have present : file.path ∈ paths := by
      rw [← listed]
      exact List.mem_map_of_mem member
    obtain ⟨kept, old⟩ := keptPath file known present
    constructor
    · rw [if_neg kept]
      exact (upToDate file known).loaded
    · rw [stamps, if_neg kept, if_neg old]
      exact (upToDate file known).stamped
  · intro old member present
    obtain ⟨kept, known⟩ := keptPath old member present
    rw [stamps, if_neg kept, if_neg known]
    exact (upToDate old member).stamped
  · intro path present unknown
    have kept : path ∉ removed :=
      fun gone => ((mem_removed path).mp gone).2 present
    rw [stamps, if_neg kept, if_pos ((mem_added path).mpr ⟨present, unknown⟩)]
  · intro path missing
    by_cases gone : path ∈ removed
    · exact if_pos gone
    · apply (if_neg gone).trans
      apply absent path
      intro known
      exact gone ((mem_removed path).mpr ⟨known, missing⟩)

/-- Every file that a scan loads is loaded cleanly. -/
def CleanLoads (world : ScanWorld) : List PolicyFile → PolicyMonitor → Prop
  | [], _ => True
  | file :: rest, monitor =>
      (Changed monitor file → LoadsCleanly world file monitor) ∧
        ∀ after, (loadFile world file).run monitor = .ok () after →
          CleanLoads world rest after

variable {world : ScanWorld}

theorem run_loadFiles
    {pending : List PolicyFile}
    (distinct : pending.Pairwise fun first second => first.path ≠ second.path)
    (parses : ∀ file ∈ pending, ∃ table,
      readPolicyFromFile file.content = .ok table)
    (clean : CleanLoads world pending monitor)
    (wellFormed : monitor.WellFormed) (tracks : Tracks contents monitor)
    (current : ∀ file ∈ pending, ¬Changed monitor file →
      UpToDate contents monitor file) :
    ∃ after loaded, (pending.forM (loadFile world)).run monitor =
        .ok () after ∧
      after.WellFormed ∧ after.policyFiles = monitor.policyFiles ∧
      Tracks loaded after ∧
      (∀ file ∈ pending, UpToDate loaded after file) ∧
      ∀ path, path ∉ pending.map PolicyFile.path →
        loaded path = contents path ∧
          after.fileTimestamps.get path = monitor.fileTimestamps.get path := by
  induction pending generalizing monitor contents with
  | nil =>
      refine ⟨monitor, contents, rfl, wellFormed, rfl, tracks, ?_, ?_⟩
      · intro file member
        cases member
      · exact fun path _ => ⟨rfl, rfl⟩
  | cons file rest ih =>
      obtain ⟨fromFirst, restDistinct⟩ := List.pairwise_cons.mp distinct
      obtain ⟨cleanFile, cleanRest⟩ := clean
      have restParses := fun other member =>
        parses other (List.mem_cons_of_mem file member)
      have unlisted : file.path ∉ rest.map PolicyFile.path := by
        intro member
        obtain ⟨other, listed, same⟩ := List.mem_map.mp member
        exact fromFirst other listed same.symm
      have step : ∃ middle between,
          (loadFile world file).run monitor = .ok () middle ∧
          middle.WellFormed ∧ middle.policyFiles = monitor.policyFiles ∧
          Tracks between middle ∧ UpToDate between middle file ∧
          ∀ path, path ≠ file.path → between path = contents path ∧
            middle.fileTimestamps.get path =
              monitor.fileTimestamps.get path := by
        by_cases changed : Changed monitor file
        · obtain ⟨table, read⟩ := parses file (.head _)
          obtain ⟨middle, ran, middleWellFormed, files, stamps, between⟩ :=
            run_loadFile changed read (cleanFile changed) wellFormed tracks
          refine ⟨middle, contents.with file.path table, ran,
            middleWellFormed, files, between, ⟨?_, ?_⟩, ?_⟩
          · simp [Contents.with, PolicyFile.table, read, Except.toOption]
          · rw [stamps, Dict.get_set_self]
          · intro path different
            constructor
            · simp [Contents.with, different]
            · rw [stamps, Dict.get_set_of_ne _ _ different]
        · exact ⟨monitor, contents, run_loadFile_unchanged changed,
            wellFormed, rfl, tracks, current file (.head _) changed,
            fun _ _ => ⟨rfl, rfl⟩⟩
      obtain ⟨middle, between, ran, middleWellFormed, files, middleTracks,
        fileUpToDate, others⟩ := step
      have restCurrent : ∀ other ∈ rest, ¬Changed middle other →
          UpToDate between middle other := by
        intro other member unchanged
        obtain ⟨sameContents, sameStamp⟩ :=
          others other.path (fromFirst other member).symm
        have before : ¬Changed monitor other := by
          unfold Changed at unchanged ⊢
          rwa [sameStamp] at unchanged
        have upToDate := current other (.tail _ member) before
        exact ⟨sameContents.trans upToDate.loaded,
          sameStamp.trans upToDate.stamped⟩
      obtain ⟨after, loaded, ranRest, afterWellFormed, afterFiles,
        afterTracks, upToDate, untouched⟩ :=
        ih restDistinct restParses (cleanRest middle ran) middleWellFormed
          middleTracks restCurrent
      refine ⟨after, loaded, ?_, afterWellFormed, afterFiles.trans files,
        afterTracks, ?_, ?_⟩
      · have unrolled : ((file :: rest).forM (loadFile world)).run monitor =
            (loadFile world file >>= fun _ =>
              rest.forM (loadFile world)).run monitor := rfl
        rw [unrolled, run_bind, ran]
        exact ranRest
      · intro other member
        rcases List.mem_cons.mp member with rfl | listed
        · obtain ⟨sameContents, sameStamp⟩ := untouched other.path unlisted
          exact ⟨sameContents.trans fileUpToDate.loaded,
            sameStamp.trans fileUpToDate.stamped⟩
        · exact upToDate other listed
      · intro path missing
        rw [List.map_cons, List.mem_cons, not_or] at missing
        obtain ⟨sameContents, sameStamp⟩ := untouched path missing.2
        obtain ⟨before, stampBefore⟩ := others path missing.1
        exact ⟨sameContents.trans before, sameStamp.trans stampBefore⟩

/-- Between two scans files come, go and change.  All that are there can be
read, and a file with another content is younger than the one it replaces. -/
structure Edited (previous : PolicyDirectory) (world : ScanWorld) : Prop where
  parses : ∀ file ∈ world.directory.files, ∃ table,
    readPolicyFromFile file.content = .ok table
  rewritten : ∀ file ∈ world.directory.files, ∀ old ∈ previous.files,
    old.path = file.path → old = file ∨ old.modified < file.modified
  added : ∀ file ∈ world.directory.files,
    file.path ∉ previous.files.map PolicyFile.path → 0 < file.modified

theorem run_scanPolicies
    {previous : PolicyDirectory} (mirrors : Mirrors previous monitor)
    (edited : Edited previous world)
    (clean : CleanLoads world world.directory.files (trackFiles world monitor)) :
    ∃ after, (scanPolicies world).run monitor = .ok () after ∧
      Mirrors world.directory after := by
  obtain ⟨wellFormed, policyFiles, contents, tracks, kept, rewritten, added,
    absent⟩ := run_trackFiles world mirrors
  have current : ∀ file ∈ world.directory.files,
      ¬Changed (trackFiles world monitor) file →
        UpToDate contents (trackFiles world monitor) file := by
    intro file member unchanged
    have present : file.path ∈ world.directory.files.map PolicyFile.path :=
      List.mem_map_of_mem member
    by_cases known : file.path ∈ previous.files.map PolicyFile.path
    · obtain ⟨old, listed, same⟩ := List.mem_map.mp known
      rcases edited.rewritten file member old listed same with rfl | later
      · exact kept old member listed
      · have stamp := rewritten old listed (same ▸ present)
        rw [same] at stamp
        unfold Changed at unchanged
        rw [stamp] at unchanged
        exact absurd later unchanged
    · have stamp := added file.path present known
      unfold Changed at unchanged
      rw [stamp] at unchanged
      exact absurd (edited.added file member known) unchanged
  obtain ⟨after, loaded, ran, afterWellFormed, afterFiles, afterTracks,
    upToDate, untouched⟩ :=
    run_loadFiles world.directory.distinct edited.parses clean wellFormed
      tracks current
  refine ⟨after, ?_, afterWellFormed, afterFiles.trans policyFiles, loaded,
    afterTracks, upToDate, ?_⟩
  · unfold scanPolicies
    rw [run_bind, run_modify]
    exact ran
  · intro path missing
    rw [(untouched path missing).1]
    exact absent path missing

end Steps

section Runs

/-- Scans of a directory that is edited between them. -/
def EditedScans : PolicyDirectory → List ScanWorld → Prop
  | _, [] => True
  | previous, world :: rest =>
      Edited previous world ∧ EditedScans world.directory rest

/-- No scan of the run leaves a definition on a stack that its file has
dropped. -/
def CleanScans : PolicyMonitor → List ScanWorld → Prop
  | _, [] => True
  | monitor, world :: rest =>
      CleanLoads world world.directory.files (trackFiles world monitor) ∧
        ∀ after, (scanPolicies world).run monitor = .ok () after →
          CleanScans after rest

/-- The directory that the last scan has seen. -/
def scannedDirectory (previous : PolicyDirectory) (worlds : List ScanWorld) :
    PolicyDirectory :=
  worlds.foldl (fun _ world => world.directory) previous

/-- The store has the policies of the present files, each with the definition of
the file that the map names. -/
structure Serves (directory : PolicyDirectory) (monitor : PolicyMonitor)
    (policy : String) : Prop where
  present : (monitor.policyStore.get policy).isSome ↔
    ∃ file ∈ directory.files, (file.definition policy).isSome
  mapped : ∀ definition, monitor.policyStore.get policy = some definition →
    ∃ file ∈ directory.files,
      monitor.policyMap.get policy = some (some file.path) ∧
        file.definition policy = some definition

variable {directory : PolicyDirectory} {monitor : PolicyMonitor}

theorem Mirrors.serves
    (mirrors : Mirrors directory monitor) {policy : String}
    (live : policy ∉ reservedPolicies) : Serves directory monitor policy := by
  obtain ⟨wellFormed, policyFiles, contents, tracks, upToDate, absent⟩ :=
    mirrors
  have onStack : ∀ file ∈ directory.files,
      newest file.path (monitor.cell policy).stack =
        file.definition policy := by
    intro file member
    rw [tracks policy live, (upToDate file member).loaded]
    rfl
  have consistent := wellFormed.consistent policy live
  generalize held : monitor.cell policy = cell at consistent onStack
  cases consistent with
  | vacant =>
      have missing : monitor.policyStore.get policy = none :=
        congrArg PolicyCell.store held
      constructor
      · rw [missing]
        constructor
        · intro served
          cases served
        · rintro ⟨file, member, defines⟩
          rw [← onStack file member] at defines
          cases defines
      · intro definition served
        rw [missing] at served
        cases served
  | stacked definition owner cached distinct named =>
      have served : monitor.policyStore.get policy = some definition :=
        congrArg PolicyCell.store held
      have mapped : monitor.policyMap.get policy = some (some owner) :=
        congrArg PolicyCell.map held
      have onTop : newest owner (monitor.cell policy).stack =
          some definition := by
        rw [held]
        simp only [PolicyCell.stack, newest_append, Option.join_some, if_true]
      have read : (contents owner).bind (·.get policy) = some definition :=
        (tracks policy live owner).symm.trans onTop
      obtain ⟨file, member, rfl⟩ :
          ∃ file ∈ directory.files, file.path = owner := by
        by_contra missing
        have unknown : owner ∉ directory.files.map PolicyFile.path := by
          intro listed
          obtain ⟨file, member, same⟩ := List.mem_map.mp listed
          exact missing ⟨file, member, same⟩
        rw [absent owner unknown] at read
        cases read
      have defined : file.definition policy = some definition := by
        rw [(upToDate file member).loaded] at read
        exact read
      constructor
      · rw [served]
        constructor
        · intro _
          exact ⟨file, member, by rw [defined]; rfl⟩
        · intro _
          rfl
      · intro other same
        rw [served] at same
        cases same
        exact ⟨file, member, mapped, defined⟩

theorem run_scans
    {worlds : List ScanWorld} (mirrors : Mirrors directory monitor)
    (edited : EditedScans directory worlds)
    (clean : CleanScans monitor worlds) :
    ∃ after, (worlds.forM scanPolicies).run monitor = .ok () after ∧
      Mirrors (scannedDirectory directory worlds) after := by
  induction worlds generalizing directory monitor with
  | nil => exact ⟨monitor, rfl, mirrors⟩
  | cons world rest ih =>
      obtain ⟨editedFirst, editedRest⟩ := edited
      obtain ⟨cleanFirst, cleanRest⟩ := clean
      obtain ⟨middle, ran, between⟩ :=
        run_scanPolicies mirrors editedFirst cleanFirst
      obtain ⟨after, ranRest, mirrorsAfter⟩ :=
        ih between editedRest (cleanRest middle ran)
      refine ⟨after, ?_, mirrorsAfter⟩
      have unrolled : ((world :: rest).forM scanPolicies).run monitor =
          (scanPolicies world >>= fun _ =>
            rest.forM scanPolicies).run monitor := rfl
      rw [unrolled, run_bind, ran]
      exact ranRest

/-- After every scan of a clean run the store serves the present files. -/
theorem clean_scans_serve_present_files
    (monitor : PolicyMonitor) (worlds : List ScanWorld)
    (edited : EditedScans .empty worlds)
    (clean : CleanScans (initializeTrackingStructures monitor) worlds) :
    ∃ after, (worlds.forM scanPolicies).run
        (initializeTrackingStructures monitor) = .ok () after ∧
      ∀ policy, policy ∉ reservedPolicies →
        Serves (scannedDirectory .empty worlds) after policy := by
  obtain ⟨after, ran, mirrors⟩ :=
    run_scans (mirrors_initializeTrackingStructures monitor) edited clean
  exact ⟨after, ran, fun policy live => mirrors.serves live⟩

end Runs

section Samples

/-- A file whose policy lets everybody read symmetric keys. -/
def readableKeys : FileContent :=
  some (.object [("keys",
    .object [("SYMMETRIC_KEY", .object [("GET", .string "ALLOW_ALL")])])])

def noPolicies : FileContent := some (.object [])

def scanOf (directory : PolicyDirectory) (time : Rat) : ScanWorld where
  directory := directory
  setOrder := id
  setOrder_perm := fun _ => .refl _
  time := fun _ _ => time

def twoFiles (first second : FileContent) (modified : Rat) :
    PolicyDirectory where
  files := [⟨"a.json", modified, first⟩, ⟨"b.json", 1, second⟩]
  sorted := List.pairwise_pair.mpr (show "a.json" < "b.json" by decide)

def oneFile (path : String) (modified : Rat) (content : FileContent) :
    PolicyDirectory where
  files := [⟨path, modified, content⟩]
  sorted := List.pairwise_singleton _ _

def emptyMonitor : PolicyMonitor := ⟨.empty, .empty, [], .empty, .empty⟩

/-- The first file drops a policy that the second one shadows, and then the
second file is deleted. -/
def staleScans : List ScanWorld :=
  [scanOf (twoFiles readableKeys readableKeys 1) 1,
    scanOf (twoFiles noPolicies readableKeys 2) 2,
    scanOf (oneFile "a.json" 2 noPolicies) 3]

theorem table_readableKeys : ∃ table,
    readPolicyFromFile readableKeys = .ok table := ⟨_, rfl⟩

theorem table_noPolicies : ∃ table,
    readPolicyFromFile noPolicies = .ok table := ⟨_, rfl⟩

theorem staleScans_edited : EditedScans .empty staleScans := by
  have positive : (0 : Rat) < 1 := by decide
  have later : (1 : Rat) < 2 := by decide
  refine ⟨⟨?_, ?_, ?_⟩, ⟨?_, ?_, ?_⟩, ⟨?_, ?_, ?_⟩, trivial⟩
  all_goals
    simp [scanOf, twoFiles, oneFile, PolicyDirectory.empty,
      table_readableKeys, table_noPolicies, positive, later]

theorem store_serves_dropped_definition :
    ¬∀ (monitor : PolicyMonitor) (worlds : List ScanWorld),
      EditedScans .empty worlds →
        ∃ after, (worlds.forM scanPolicies).run
            (initializeTrackingStructures monitor) = .ok () after ∧
          ∀ policy, policy ∉ reservedPolicies →
            Serves (scannedDirectory .empty worlds) after policy := by
  intro always
  obtain ⟨after, ran, serves⟩ := always emptyMonitor staleScans staleScans_edited
  have served : ((finalState ((staleScans.forM scanPolicies).run
      (initializeTrackingStructures emptyMonitor))).policyStore.get
        "keys").isSome = true := by decide
  rw [ran] at served
  obtain ⟨file, member, defines⟩ := (serves "keys" (by decide)).present.mp served
  cases List.mem_singleton.mp member
  cases defines

/-- The second file shadows a policy of the first one, which is then deleted. -/
def orderlyScans : List ScanWorld :=
  [scanOf (twoFiles readableKeys readableKeys 1) 1,
    scanOf (oneFile "b.json" 1 readableKeys) 2]

theorem orderlyScans_edited : EditedScans .empty orderlyScans := by
  have positive : (0 : Rat) < 1 := by decide
  refine ⟨⟨?_, ?_, ?_⟩, ⟨?_, ?_, ?_⟩, trivial⟩
  all_goals
    simp [scanOf, twoFiles, oneFile, PolicyDirectory.empty,
      table_readableKeys, positive]

theorem orderlyScans_clean :
    CleanScans (initializeTrackingStructures emptyMonitor) orderlyScans := by
  have unshadowed : (trackFiles (scanOf (twoFiles readableKeys readableKeys 1) 1)
      (initializeTrackingStructures emptyMonitor)).Unshadowed := by decide
  have second : (finalState ((loadFile
      (scanOf (twoFiles readableKeys readableKeys 1) 1)
      ⟨"a.json", 1, readableKeys⟩).run (trackFiles
        (scanOf (twoFiles readableKeys readableKeys 1) 1)
        (initializeTrackingStructures emptyMonitor)))).Unshadowed := by decide
  have third : (trackFiles (scanOf (oneFile "b.json" 1 readableKeys) 2)
      (finalState ((scanPolicies (scanOf (twoFiles readableKeys readableKeys 1)
        1)).run (initializeTrackingStructures emptyMonitor)))).Unshadowed := by
    decide
  refine ⟨⟨fun _ => unshadowed.loadsCleanly _, ?_⟩, ?_⟩
  · intro after ran
    rw [ran] at second
    exact ⟨fun _ => second.loadsCleanly _, fun _ _ => trivial⟩
  · intro after ran
    rw [ran] at third
    exact ⟨⟨fun _ => third.loadsCleanly _, fun _ _ => trivial⟩,
      fun _ _ => trivial⟩

theorem clean_scans_serve_present_files_shadowing :
    EditedScans .empty orderlyScans ∧
      CleanScans (initializeTrackingStructures emptyMonitor) orderlyScans ∧
      ∃ after, (orderlyScans.forM scanPolicies).run
          (initializeTrackingStructures emptyMonitor) = .ok () after ∧
        ∀ policy, policy ∉ reservedPolicies →
          Serves (scannedDirectory .empty orderlyScans) after policy :=
  ⟨orderlyScans_edited, orderlyScans_clean,
    clean_scans_serve_present_files emptyMonitor orderlyScans
      orderlyScans_edited orderlyScans_clean⟩

end Samples

end PyKMIP
