import PyKMIP.PolicyFiles

/-!
# The policy directory monitor

A scan compares the policy directory with what the monitor has tracked, forgets
deleted files and loads new and changed ones.  A definition that another file
takes over is kept on a stack until its file is deleted or drops it.
-/

namespace PyKMIP

open StatefulExcept

/-- A file of the policy directory, as a scan finds it. -/
structure PolicyFile where
  path : String
  modified : Rat
  content : FileContent

/-- The files in the order of their paths. -/
structure PolicyDirectory where
  files : List PolicyFile
  sorted : files.Pairwise fun first second => first.path < second.path

/-- A shadowed definition: when it was shadowed, its file and itself. -/
structure CachedPolicy where
  time : Rat
  file : Option String
  definition : PolicyBundle
deriving DecidableEq

/-- Entries are tuples whose definitions are compared as dictionaries; an entry
is always the same as itself. -/
def CachedPolicy.same (first second : CachedPolicy) : Bool :=
  first = second || (first.time = second.time && first.file = second.file &&
    first.definition.same second.definition)

structure PolicyMonitor where
  fileTimestamps : Dict String Rat
  policyCache : Dict String (List CachedPolicy)
  policyFiles : List String
  policyMap : Dict String (Option String)
  policyStore : Dict String PolicyBundle

abbrev MonitorM := EStateM PyError PolicyMonitor

def reservedPolicies : List String := ["default", "public"]

/-- What a scan sees: the directory, the order in which Python goes through a
set, and the clock when a policy of a file shadows another one. -/
structure ScanWorld where
  directory : PolicyDirectory
  setOrder : List String → List String
  setOrder_perm : ∀ names, (setOrder names).Perm names
  time : String → String → Rat

namespace PolicyMonitor

variable (monitor : PolicyMonitor)

def fileOf (policy : String) : Option String :=
  (monitor.policyMap.get policy).join

/-- The policies whose served definition comes from a file. -/
def policiesOf (file : String) : List String :=
  (monitor.policyMap.items.filter fun item => item.2 = some file).map Prod.fst

end PolicyMonitor

def initializeTrackingStructures (monitor : PolicyMonitor) : PolicyMonitor where
  fileTimestamps := .empty
  policyCache := .empty
  policyFiles := []
  policyMap := .empty
  policyStore :=
    (monitor.policyStore.keys.filter (· ∉ reservedPolicies)).foldl Dict.erase
      monitor.policyStore

section Policies

variable (policy fileName : String) (monitor : PolicyMonitor)

/-- The entries of a stack without those at the indices that `index` finds for
the entries of a file. -/
def withoutFile (cached : List CachedPolicy) : List CachedPolicy :=
  (((cached.filter fun entry => entry.file = some fileName).map
    fun entry => cached.findIdx (·.same entry)).reverse).foldl List.eraseIdx
      cached

def disassociatePolicyAndFile : PolicyMonitor :=
  match monitor.policyCache.get policy with
  | none => monitor
  | some cached =>
      { monitor with
        policyCache := monitor.policyCache.set policy
          (withoutFile fileName cached) }

def restoreOrDeletePolicy : PolicyMonitor :=
  match ((monitor.policyCache.get policy).getD []).getLast? with
  | none =>
      { monitor with
        policyStore := monitor.policyStore.erase policy
        policyMap := monitor.policyMap.erase policy
        policyCache := monitor.policyCache.erase policy }
  | some entry =>
      { monitor with
        policyCache := monitor.policyCache.set policy
          ((monitor.policyCache.get policy).getD []).dropLast
        policyStore := monitor.policyStore.set policy entry.definition
        policyMap := monitor.policyMap.set policy entry.file }

/-- One policy of a file that has been loaded. -/
def definePolicy (time : Rat) (definition : PolicyBundle) : MonitorM Unit := do
  if policy ∈ reservedPolicies then return ()
  let monitor ← get
  match monitor.policyStore.get policy with
  | some existing =>
      if monitor.fileOf policy ≠ some fileName then
        match monitor.policyCache.get policy with
        | none => throw (.python .attributeError)
        | some cached =>
            modify fun monitor =>
              { monitor with
                policyCache := monitor.policyCache.set policy (cached ++
                  [{ time := time
                     file := monitor.fileOf policy
                     definition := existing }]) }
  | none =>
      modify fun monitor =>
        { monitor with policyCache := monitor.policyCache.set policy [] }
  modify fun monitor =>
    { monitor with
      policyStore := monitor.policyStore.set policy definition
      policyMap := monitor.policyMap.set policy (some fileName) }

end Policies

section Scans

variable (world : ScanWorld)

def disassociateFile (fileName : String) (monitor : PolicyMonitor) :
    PolicyMonitor :=
  monitor.policyCache.keys.foldl
    (fun monitor policy => disassociatePolicyAndFile policy fileName monitor)
    monitor

def restorePolicies (fileName : String) (monitor : PolicyMonitor) :
    PolicyMonitor :=
  (monitor.policiesOf fileName).foldl
    (fun monitor policy => restoreOrDeletePolicy policy monitor) monitor

/-- A file that is no longer in the directory. -/
def removeFile (monitor : PolicyMonitor) (fileName : String) : PolicyMonitor :=
  restorePolicies fileName (disassociateFile fileName
    { monitor with fileTimestamps := monitor.fileTimestamps.erase fileName })

/-- The policies that a file served and no longer defines. -/
def dropPolicies (fileName : String) (dropped : List String)
    (monitor : PolicyMonitor) : PolicyMonitor :=
  dropped.foldl
    (fun monitor policy => restoreOrDeletePolicy policy
      (disassociatePolicyAndFile policy fileName monitor)) monitor

def loadFile (file : PolicyFile) : MonitorM Unit := do
  let monitor ← get
  if (monitor.fileTimestamps.get file.path).getD 0 < file.modified then do
    let oldPolicies := monitor.policiesOf file.path
    modify fun monitor =>
      { monitor with
        fileTimestamps :=
          monitor.fileTimestamps.set file.path file.modified }
    match readPolicyFromFile file.content with
    | .error exception =>
        if exception = .python .valueError then return () else throw exception
    | .ok newPolicies => do
        newPolicies.items.forM fun item =>
          definePolicy item.1 file.path (world.time file.path item.1) item.2
        modify (dropPolicies file.path
          (world.setOrder (oldPolicies.filter (· ∉ newPolicies.keys))))

/-- The part of a scan before any file is read. -/
def trackFiles (monitor : PolicyMonitor) : PolicyMonitor :=
  let policyFiles := world.directory.files.map PolicyFile.path
  let added := world.setOrder
    (policyFiles.filter (· ∉ monitor.policyFiles))
  let removed := world.setOrder
    (monitor.policyFiles.filter (· ∉ policyFiles))
  let tracked := added.foldl
    (fun monitor fileName =>
      { monitor with fileTimestamps := monitor.fileTimestamps.set fileName 0 })
    monitor
  { removed.foldl removeFile tracked with policyFiles := policyFiles }

/-- The tracked files are those of the directory when they are loaded. -/
def scanPolicies : MonitorM Unit := do
  modify (trackFiles world)
  world.directory.files.forM (loadFile world)

end Scans

end PyKMIP
