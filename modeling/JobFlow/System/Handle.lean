import JobFlow.System.Basic
import JobFlow.Jobs.Archive

/-!
# Job handles

A handle is a snapshot of one job: its identity, the status the last action through the
handle saw, its server settings, its input, its master and its type.
-/

namespace JobFlow

/-- A handle on one job. -/
structure Job where
  identity : Identity
  status : Status := .initialized
  server : ServerConfig
  input : List (String × Json)
  masterId : Option Nat := none
  runnable : Runnable
  deriving Inhabited

/-- An action on a job handle in a job system. -/
abbrev JobAct := ExceptT Stop (StateT Job (StateM JobSystem))

/-- An action of the system, seen as one on a handle that it leaves alone. -/
instance : MonadLift Sys JobAct := ⟨fun x => ExceptT.mk (StateT.lift x.run)⟩

namespace Job

/-- The name. -/
def name (j : Job) : String := j.identity.jobName

/-- The name with the id once there is one. -/
def label (j : Job) : String := j.identity.label

/-- Whether the input and the settings may still change. -/
def isEditable (j : Job) : Bool := j.status = .initialized ∨ j.status = .created

/-- Refuses changes to a job that started. -/
def ensureEditable (j : Job) : Outcome Unit :=
  if j.isEditable then pure ()
  else throw (.conflict s!"job {j.label} is {j.status}; its input is locked")

/-- The job with one member of its input set, while it may change. -/
def setInput (j : Job) (key : String) (v : Json) : Outcome Job := do
  j.ensureEditable
  pure { j with input := Json.insertField key v j.input }

/-- The job with its whole input replaced, while it may change. -/
def replaceInput (j : Job) (input : List (String × Json)) : Outcome Job := do
  j.ensureEditable
  pure { j with input := (Json.mkObj input).fields }

/-- The id of a saved job. -/
def jobId (j : Job) : Outcome Nat :=
  match j.identity.jobId with
  | some id => pure id
  | none => throw (.notFound s!"job '{j.name}' has not been saved")

/-- Runs an action on a handle: its outcome and the handle afterwards. -/
def act {α : Type} (j : Job) (x : JobAct α) : Sys (Except JobError α × Job) := do
  let s ← get
  let ((r, j'), s') := ((x.run).run j).run s
  set s'
  match r with
  | .ok a => pure (.ok a, j')
  | .error (.fault e) => pure (.error e, j')
  | .error (.stall w) => Sys.stall w

/-- A new, unsaved job of a registered type. -/
def create (project name type : String) : Sys Job := do
  let cfg ← Sys.config
  let runnable ← Sys.ofOutcome ((← get).registry.lookup type)
  let identity ← Sys.ofOutcome (Identity.make project name (Registry.classPart type) cfg.storage.extension)
  pure { identity, server := cfg.server.toServer, input := runnable.defaultInput, runnable }

/-- A job read back from its record. -/
def fromStorage (path : String) : Sys Job := do
  let r ← Sys.openRecord path
  let g ← Sys.readAs r Layout.generic GenericRecord.read
  let input := match ← Sys.ofOutcome (r.readOpt Layout.input) with
    | some (.obj fields) => fields
    | _ => []
  let runnable ← Sys.ofOutcome ((← get).registry.lookup g.jobType)
  let project := (Path.parent? path).getD ""
  let identity ← Sys.ofOutcome (Identity.make project g.jobName g.jobType (← Sys.config).storage.extension)
  pure { identity := { identity with jobId := some g.jobId, storagePath := path }, status := g.status,
         server := g.server, input, masterId := g.masterId, runnable }

/-- A job read back by its id. -/
def loadById (id : Nat) : Sys Job := do fromStorage (← Sys.row id).storagePath

/-- An unsaved job of another name with this job's type, input, settings and master. -/
def respawn (j : Job) (name : String) : Sys Job := do
  let identity ← Sys.ofOutcome (Identity.make j.identity.project name j.identity.jobType
    (← Sys.config).storage.extension)
  pure { j with identity, status := .initialized, server := { j.server with queueId := none } }

/-- Opens the job's record. -/
def record (j : Job) : Sys Record := Sys.openRecord j.identity.storagePath

/-- Writes the record of a job saved for the first time. -/
def writeNewRecord (j : Job) (id : Nat) : Sys Unit := do
  let typePath ← Sys.ofOutcome ((← get).registry.qualifiedName j.identity.jobType)
  let r ← Sys.createRecord j.identity.storagePath typePath j.name j.runnable.version
  let g : GenericRecord :=
    { jobId := id, jobName := j.name, jobType := j.identity.jobType, typePath,
      version := j.runnable.version, status := .created, server := j.server, masterId := j.masterId }
  let _ ← Sys.writeScoped r [(Layout.generic, g.toJson), (Layout.input, Json.mkObj j.input)]

/-- Saves the job and answers its id. -/
def save : JobAct Nat := do
  let j ← getThe Job
  Sys.ofOutcome (j.runnable.validateInput j.name j.input)
  Sys.ofOutcome j.server.validate
  match j.identity.jobId with
  | some id =>
    let r ← j.record
    let stored ← Sys.storedStatus r
    if !(stored = .initialized ∨ stored = .created) then
      modifyThe Job fun j => { j with status := stored }
      return id
    let _ ← Sys.writeScoped r [(Layout.input, Json.mkObj j.input), (Layout.server, j.server.toJson),
      (Layout.masterId, .ofOptNat j.masterId)]
    return id
  | none =>
    let group := Path.join j.identity.project j.name
    if ← Sys.isDir group then
      Sys.fail (.conflict s!"{group} is a sub-project, not a free job name")
    let path := j.identity.storagePath
    if RecordStore.exists (← Sys.disk) path then
      Sys.fail (.conflict s!"job record {path} exists but is not indexed; rebuild the index")
    let id ← Sys.insertRow
      { project := j.identity.project, jobName := j.name, jobType := j.identity.jobType,
        status := .initialized, workingDirectory := j.identity.workingDirectory,
        storagePath := path, masterId := j.masterId }
    match ← Sys.attempt (writeNewRecord j id) with
    | .error e =>
      let _ ← Sys.attempt (Sys.deleteRow id)
      let _ ← Sys.attempt (Sys.removeRecord path)
      Sys.fail e
    | .ok () => pure ()
    modifyThe Job fun j => { j with identity := { j.identity with jobId := some id }, status := .created }
    let _ ← Sys.updateStatus id .initialized .created
    return id

/-- Reads the status, the settings and the master back from the record. -/
def refresh : JobAct Status := do
  let r ← (← getThe Job).record
  let st ← Sys.storedStatus r
  modifyThe Job fun j => { j with status := st }
  let server ← Sys.readAs r Layout.server ServerConfig.read
  modifyThe Job fun j => { j with server }
  let masterId ← Sys.readAs r Layout.masterId (Doc.readOption Doc.readU64)
  modifyThe Job fun j => { j with masterId }
  return st

/-- One entry of the output. -/
def output (j : Job) (p : String) : Sys Json := do
  let r ← j.record
  let inner := String.ofList ((p.toList.dropWhile (· = '/')).reverse.dropWhile (· = '/')).reverse
  Sys.ofOutcome (r.read (RecordPath.join Layout.output inner))

/-- The whole output. -/
def outputAll (j : Job) : Sys Json := do Sys.ofOutcome ((← j.record).read Layout.output)

/-- The failure of an aborted job. -/
def failure (j : Job) : Sys (Option Failure) := do
  let r ← j.record
  match ← Sys.ofOutcome (r.readOpt Layout.failure) with
  | some v => some <$> Sys.ofOutcome (readValue Failure.read v)
  | none => pure none

/-- Copies the job under another name in its project, without a master. -/
def copyTo (j : Job) (newName : String) (withOutput : Bool) : Sys Job := do
  let _ ← Sys.ofOutcome j.jobId
  let r ← j.record
  let stored ← Sys.storedStatus r
  let output ← if withOutput then
      if !stored.isSuccess then
        Sys.fail (.conflict s!"job {j.label} is {stored}; only successfully ended jobs are copied with output")
      some <$> Sys.ofOutcome (r.read Layout.output)
    else pure none
  let copy ← j.respawn newName
  let (saved, copy) ← { copy with masterId := none }.act save
  let copyId ← Sys.ofOutcome saved
  match output with
  | none => pure copy
  | some out =>
    let src := j.identity.workingDirectory
    if ← Sys.pathExists src then
      let (d, _) ← Sys.ofOutcome (Archive.copyTree (← Sys.disk) src copy.identity.workingDirectory)
      Sys.setDisk d
    let r ← copy.record
    let _ ← Sys.writeScoped r [(Layout.output, out), (Layout.status, .str stored.name)]
    Sys.forceStatus copyId stored
    pure { copy with status := stored }

/-- Refuses to touch the working directory of a job that is active. -/
def ensureIdle (j : Job) (action : String) : Sys Unit := do
  let stored ← Sys.storedStatus (← j.record)
  if stored.isActive then
    Sys.fail (.conflict s!"job {j.label} is {stored}; cannot {action} its working directory")

/-- Packs the working directory into one archive; answers the number of files packed. -/
def compress (j : Job) : Sys Nat := do
  j.ensureIdle "compress"
  let (d, n) ← Sys.ofOutcome (Archive.pack (← Sys.disk) j.identity.workingDirectory)
  Sys.setDisk d
  pure n

/-- Restores a packed working directory; answers the number of files restored. -/
def decompress (j : Job) : Sys Nat := do
  j.ensureIdle "decompress"
  let (d, n) := Archive.unpack (← Sys.disk) j.identity.workingDirectory
  Sys.setDisk d
  Sys.ofOutcome n

/-- Whether the working directory is packed. -/
def isCompressed (j : Job) : Sys Bool := do
  return Archive.isPacked (← Sys.disk) j.identity.workingDirectory

end Job

end JobFlow
