import JobFlow.System.Context
import JobFlow.Record.Path

/-!
# Projects

A project is a directory of jobs: the record `n.<ext>` and the working directory `n_files`
of each job `n`, and sub-projects.
-/

namespace JobFlow

/-- A project directory. -/
structure Project where
  path : String
  deriving DecidableEq, Inhabited, Repr

/-- What a name in a project stands for: the record of a job, or a sub-project. -/
inductive ProjectEntry where
  | job (storagePath : String)
  | project (p : Project)
  deriving DecidableEq, Inhabited, Repr

/-- What repairing the index changed: rows moved to the status of their record (with the
status before and after), rows whose record is gone, and rows whose record would not open. -/
structure RepairReport where
  updated : List (Nat × Status × Status) := []
  removed : List Nat := []
  skipped : List Nat := []
  deriving Inhabited

namespace Project

/-- Opens a project, making its directory. -/
def «open» (path : String) : Sys Project := do
  Sys.createDirAll path
  pure ⟨Disk.normal path⟩

/-- The suffix of record directories. -/
def suffix : Sys String := do return "." ++ (← Sys.config).storage.extension

/-- The text before a suffix, if the text ends with it. -/
def stripSuffix (s suf : String) : Option String :=
  if s.endsWith suf then some (s.take (s.length - suf.length)).toString else none

/-- The names of the jobs whose records are in the project, sorted. -/
def recordNames (p : Project) : Sys (List String) := do
  let suf ← suffix
  let names := (← Sys.subdirectories p.path).filterMap (fun n => stripSuffix n suf)
  return (names.filter (!·.isEmpty)).mergeSort (fun a b => decide (a ≤ b))

/-- Opens a sub-project; names that belong to a job are refused. -/
def subproject (p : Project) (name : String) : Sys Project := do
  Sys.ofOutcome (RecordPath.validateSegment name)
  let suf ← suffix
  let jobs ← p.recordNames
  let stripped := (stripSuffix name suf).orElse (fun _ => stripSuffix name "_files")
  let job := (stripped.filter (jobs.contains ·)).orElse (fun _ => if jobs.contains name then some name else none)
  if name.endsWith suf ∨ job.isSome then
    Sys.fail (.conflict s!"'{name}' in {p.path} is reserved for job {job.getD name}")
  Project.open (Path.join p.path name)

/-- A new job of a registered type. -/
def createJob (p : Project) (name type : String) : Sys Job := do
  Sys.ofOutcome (validateJobName name)
  let cls := Registry.classPart type
  if let some row ← Sys.findByName p.path name then
    match (← Sys.config).existingJobPolicy with
    | .error => Sys.fail (.conflict s!"job {name} already exists in {p.path} with id {row.id}")
    | .load =>
      if row.jobType ≠ cls then
        Sys.fail (.conflict s!"job {name} already exists as {row.jobType}, not {cls}")
      return ← Job.fromStorage row.storagePath
  if ← Sys.isDir (Path.join p.path name) then
    Sys.fail (.conflict s!"{p.path} already holds a sub-project named {name}")
  Job.create p.path name type

/-- The row of a job name in the project. -/
def rowByName (p : Project) (name : String) : Sys IndexRow := do
  match ← Sys.findByName p.path name with
  | some row => pure row
  | none => Sys.fail (.notFound s!"job {name} in {p.path}")

/-- A job of the project read back by its name. -/
def loadByName (p : Project) (name : String) : Sys Job := do
  Job.fromStorage (← p.rowByName name).storagePath

/-- The rows a filter admits; a filter without a project looks at this one. -/
def table (p : Project) (f : JobFilter) : Sys (List IndexRow) :=
  Sys.query (if f.project.isNone then { f with project := some p.path } else f)

/-- Removes the children of a job, one after another, with `remove`. -/
def removeChildren (remove : Nat → Sys Unit) (id : Nat) : Sys Unit := do
  for child in ← Sys.query (JobFilter.childrenOf id) do
    remove child.id

/-- Removes a job's record and working directory where they are, then its row. -/
def removeOwn (id : Nat) (row : IndexRow) : Sys Unit := do
  if RecordStore.exists (← Sys.disk) row.storagePath then
    Sys.removeRecord row.storagePath
  if ← Sys.pathExists row.workingDirectory then
    Sys.onDisk (fun d => (d.removeDirAll (Disk.locate row.workingDirectory)).map (·, ()))
  let _ ← Sys.deleteRow id

/-- Removes a job below `fuel` levels of children: children first, then its record, its
working directory and its row. -/
def removeTree : Nat → Nat → Sys Unit
  | 0, _ => Sys.fail (.internal "children nest too deep")
  | fuel + 1, id => do
    let row ← Sys.row id
    if row.status.isActive then
      Sys.fail (.conflict s!"job {row.jobName} is {row.status}; cancel it before removing it")
    removeChildren (removeTree fuel) id
    removeOwn id row

/-- Removes a job with its children, its record, its working directory and its row. -/
def removeJob (id : Nat) : Sys Unit := do
  removeTree ((← Sys.index).rows.length + 1) id

/-- Removes a job of the project by its name. -/
def removeByName (p : Project) (name : String) : Sys Unit := do
  removeJob (← p.rowByName name).id

/-- Waits for a job to end. -/
def waitForJob (id : Nat) (timeout : Option Duration) : Sys Status := do
  let row ← Sys.row id
  if row.status.isTerminal then return row.status
  match timeout with
  | some t => Sys.fail (.timeout s!"job {id} (currently {row.status})" t)
  | none => Sys.stall s!"job {id}"

/-- Asks a job to stop; answers its status afterwards. -/
def cancelJob (id : Nat) : Sys Status := do
  let row ← Sys.row id
  if row.status.isTerminal then return row.status
  let _ ← Sys.requestCancel id
  if let some q := row.queueId then Sys.cancelInQueue q
  let now := match row.status with
    | .initialized | .created | .suspended => true
    | .submitted => row.queueId.isSome
    | _ => false
  if !now then return row.status
  let c ← JobContext.open id row.jobName row.storagePath
  c.abort Failure.cancelled

/-- Parks a job that has not ended, to be run again later. -/
def suspendJob (id : Nat) : Sys Status := do
  let row ← Sys.row id
  if !(row.status = .created ∨ row.status = .submitted ∨ row.status = .running) then
    Sys.fail (.conflict s!"job {row.jobName} is {row.status} and cannot be suspended")
  if let some q := row.queueId then
    Sys.cancelInQueue q
    Sys.updateRow id { queueId := some none }
  let c ← JobContext.open id row.jobName row.storagePath
  let stored ← c.storedStatus
  c.transition stored .suspended
  return .suspended

/-- What the queuing system says of a queued job; `none` for a job never queued. -/
def queueStatus (id : Nat) : Sys (Option QueueState) := do
  let row ← Sys.row id
  let some q := row.queueId | return none
  let some sched ← Sys.scheduler?
    | Sys.fail (.configuration s!"job {id} is queued as {q} but no queue adapter is configured")
  some <$> Sys.ofOutcome (sched.poll q)

/-- Gives a row the summary of the failure its record holds, where it holds one. -/
def copyFailure (id : Nat) (r : Record) : Sys Unit := do
  if let some v ← Sys.ofOutcome (r.readOpt Layout.failure) then
    let f ← Sys.ofOutcome (readValue Failure.read v)
    Sys.updateRow id { reason := some (some f.summary) }

/-- Moves a row whose record opened to the status the record holds. -/
def followRecord (report : RepairReport) (row : IndexRow) (r : Record) : Sys RepairReport := do
  let stored ← Sys.storedStatus r
  if stored = row.status then return report
  Sys.forceStatus row.id stored
  if stored = .aborted then copyFailure row.id r
  return { report with updated := report.updated ++ [(row.id, row.status, stored)] }

/-- Makes one row of a project tree follow its record. -/
def repairRow (report : RepairReport) (row : IndexRow) : Sys RepairReport := do
  if !RecordStore.exists (← Sys.disk) row.storagePath then
    let _ ← Sys.deleteRow row.id
    return { report with removed := report.removed ++ [row.id] }
  match ← Sys.attempt (Sys.openRecord row.storagePath) with
  | .error _ => return { report with skipped := report.skipped ++ [row.id] }
  | .ok r => followRecord report row r

/-- Makes every row of the project tree follow its record. -/
def repair (p : Project) : Sys RepairReport := do
  (← Sys.query (JobFilter.ofProject p.path true)).foldlM repairRow {}

/-- Adds to the records found what the directory `name` right below `dir` holds: itself if it
is a record, what `deeper` finds below it unless it is a working directory. -/
def findAt (suf : String) (deeper : String → Sys (List String)) (dir : String) (found : List String)
    (name : String) : Sys (List String) := do
  let path := Path.join dir name
  if name.endsWith suf then return found ++ [path]
  if name.endsWith "_files" then return found
  return found ++ (← deeper path)

/-- The record directories below a directory, looking at most `fuel` levels deep and never
inside records or working directories. -/
def findRecords (suf : String) : Nat → String → Sys (List String)
  | 0, _ => pure []
  | fuel + 1, dir => do (← Sys.subdirectories dir).foldlM (findAt suf (findRecords suf fuel) dir) []

/-- Paths ordered part by part. -/
def pathBefore (a b : String) : Bool :=
  let rec go : List String → List String → Bool
    | [], [] => false
    | [], _ :: _ => true
    | _ :: _, [] => false
    | x :: xs, y :: ys => if x = y then go xs ys else decide (x < y)
  go (Path.names a) (Path.names b)

/-- Adds back a row for the record at `path`, which opened, when the index holds neither its
job's id nor its name. -/
def restoreRecord (p : Project) (ext : String) (restored : List Nat) (path : String) (r : Record) :
    Sys (List Nat) := do
  let g ← Sys.readAs r Layout.generic GenericRecord.read
  if (← Sys.row? g.jobId).isSome then return restored
  let project := (Path.parent? path).getD p.path
  if (← Sys.findByName project g.jobName).isSome then return restored
  let identity ← Sys.ofOutcome (Identity.make project g.jobName g.jobType ext)
  Sys.restoreRow
    { id := g.jobId, project, jobName := g.jobName, jobType := g.jobType, status := g.status,
      workingDirectory := identity.workingDirectory, storagePath := path, masterId := g.masterId,
      queueId := g.server.queueId, reason := g.failure.map Failure.summary }
  return restored ++ [g.jobId]

/-- Adds back a row for the record found at `path` when it opens and the index lost its job. -/
def restoreFound (p : Project) (ext : String) (restored : List Nat) (path : String) : Sys (List Nat) := do
  match ← Sys.attempt (Sys.openRecord path) with
  | .ok r => p.restoreRecord ext restored path r
  | .error _ => return restored

/-- Adds rows back for records below the project that the index lost, keeping their ids;
answers the ids added. -/
def rebuild (p : Project) : Sys (List Nat) := do
  let suf ← suffix
  let ext := (← Sys.config).storage.extension
  let depth := (← Sys.disk).nodes.length + 1
  ((← findRecords suf depth p.path).mergeSort pathBefore).foldlM (p.restoreFound ext) []

/-- The names of the sub-projects: directories that are neither records nor working
directories of the project's jobs, sorted. -/
def groups (p : Project) : Sys (List String) := do
  let suf ← suffix
  let jobs ← p.recordNames
  let names := (← Sys.subdirectories p.path).filter (fun n =>
    !n.endsWith suf && (match stripSuffix n "_files" with
      | some job => !jobs.contains job
      | none => true))
  return names.mergeSort (fun a b => decide (a ≤ b))

/-- What a name in the project stands for. -/
def child (p : Project) (name : String) : Sys ProjectEntry := do
  if (← p.recordNames).contains name then
    return .job (Path.join p.path (name ++ (← suffix)))
  if (← p.groups).contains name then
    return .project ⟨Path.join p.path name⟩
  Sys.fail (.notFound s!"no job or sub-project '{name}' in {p.path}")

/-- Whether a name in the project is a job or a sub-project. -/
def contains (p : Project) (name : String) : Sys Bool := do
  return (← p.recordNames).contains name ∨ (← p.groups).contains name

end Project

end JobFlow
