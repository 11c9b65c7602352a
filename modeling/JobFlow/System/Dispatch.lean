import JobFlow.System.Pipeline
import JobFlow.System.Project

/-!
# Running jobs

Running a job first validates and saves it while it may still change.
-/

namespace JobFlow

/-- How a restart treats the job that ran before. -/
inductive RestartPolicy where
  | inPlace
  | copyToNew
  deriving DecidableEq, Inhabited, Repr

/-- Whether and how a run may restart a job that ended or is stuck. -/
structure RunOptions where
  allowRestart : Bool := false
  policy : RestartPolicy := .inPlace
  deriving DecidableEq, Inhabited, Repr

/-- What a run did with the job. -/
inductive RunOutcome where
  | finished (r : Report)
  | background (jobId : Nat)
  | queued (jobId : Nat) (queueId : String)
  | manual (jobId : Nat) (workingDirectory : String) (command : String)
  | master (jobId : Nat) (status : Status)
  | alreadyTerminal (jobId : Nat) (status : Status)
  deriving Inhabited

namespace Dispatch

/-- The checks that need nothing stored: the input, the settings, and the queue of a queued
job. -/
def preflight (j : Job) : Sys Unit := do
  Sys.ofOutcome (j.runnable.validateInput j.name j.input)
  Sys.ofOutcome j.server.validate
  if j.server.runMode = .queue ∧ !j.runnable.isMaster then
    let _ ← Sys.ofOutcome ((← Sys.config).queue.resolve j.server)
    if (← Sys.scheduler?).isNone then
      Sys.fail (.configuration "run mode is queue but no queue adapter is configured")

/-- Sets the handle's status. -/
def setStatus (s : Status) : JobAct Unit := modifyThe Job fun j => { j with status := s }

/-- Claims the job and executes it now. -/
def runModal (c : JobContext) : JobAct RunOutcome := do
  let _ ← c.claim
  setStatus .busy
  let report ← Pipeline.execute (← getThe Job) c .busy
  setStatus report.status
  match report.failure with
  | some f => Sys.fail (.execution report.jobId f)
  | none => return .finished report

/-- Submits the job to the queuing system. -/
def submitToQueue (c : JobContext) : JobAct RunOutcome := do
  let j ← getThe Job
  let cfg := (← Sys.config).queue
  let some sched ← Sys.scheduler?
    | Sys.fail (.configuration "run mode is queue but no queue adapter is configured")
  let q ← Sys.ofOutcome (cfg.resolve j.server)
  Sys.createDirAll j.identity.workingDirectory
  let req := cfg.request q c.jobId j.identity.workingDirectory j.server
  match sched.submit req with
  | .ok (sched, qid) =>
    Sys.setScheduler sched
    modifyThe Job fun j => { j with server := { j.server with queueId := some qid } }
    let _ ← Sys.writeRecord (← c.record) Layout.server (← getThe Job).server.toJson
    Sys.updateRow c.jobId { queueId := some (some qid) }
    return .queued c.jobId qid
  | .error e =>
    let st ← c.abort (.plain .queueSubmitFailed e.text)
    setStatus st
    Sys.fail (.queue s!"submitting job {j.label}: {e.text}")

/-- Prepares the job to be run by hand. -/
def prepareManual (c : JobContext) : JobAct RunOutcome := do
  let j ← getThe Job
  let wd := j.identity.workingDirectory
  Sys.createDirAll wd
  if let .executable _ := j.runnable.body then
    let (d, written) := InputFiles.write j.input wd (← Sys.disk)
    Sys.setDisk d
    if let .error m := written then
      let f := Failure.plain .writeInputFailed m
      let st ← c.abort f
      setStatus st
      Sys.fail (.execution c.jobId f)
  return .manual c.jobId wd ((← Sys.config).queue.wrapperCommandLine wd c.jobId)

/-- The first name `<name>_restart_<n>` that no job of the project has and no record uses. -/
def nextRestartName (j : Job) : Sys String := do
  let ext := (← Sys.config).storage.extension
  let rec go : Nat → Nat → Sys String
    | 0, _ => Sys.fail (.internal "no free restart name left")
    | fuel + 1, k => do
      let name := s!"{j.name}_restart_{k}"
      let taken := (← Sys.findByName j.identity.project name).isSome
      let storage := Path.join j.identity.project (name ++ "." ++ ext)
      if !taken ∧ !RecordStore.exists (← Sys.disk) storage then return name
      go fuel (k + 1)
  go ((← Sys.index).rows.length + (← Sys.disk).nodes.length + 1) 1

mutual

/-- Runs the handle's job. -/
def run : Nat → RunOptions → JobAct RunOutcome
  | 0, _ => Sys.fail (.internal "jobs nest too deep")
  | n + 1, opts => do
    let j ← getThe Job
    if j.isEditable then
      preflight j
      let _ ← Job.save
    let id ← Sys.ofOutcome (← getThe Job).jobId
    let st ← Job.refresh
    if st = .created ∨ st = .suspended then start n
    else if opts.allowRestart then restart n opts.policy
    else if st.isTerminal then return .alreadyTerminal id st
    else Sys.fail (.conflict s!"job {(← getThe Job).label} is already {st}; allow a restart to run it again")

/-- Moves a `created` or `suspended` job to `submitted` and hands it on. -/
def start : Nat → JobAct RunOutcome
  | 0 => Sys.fail (.internal "jobs nest too deep")
  | n + 1 => do
    let j ← getThe Job
    preflight j
    let id ← Sys.ofOutcome j.jobId
    if j.runnable.isMaster then return ← startMaster n
    let c ← JobContext.open id j.name j.identity.storagePath
    if j.status = .suspended then
      c.transition .suspended .refresh
      c.transition .refresh .submitted
    else c.transition .created .submitted
    setStatus .submitted
    match j.server.runMode with
    | .modal => runModal c
    | .nonModal => return .background id
    | .queue => submitToQueue c
    | .manual => prepareManual c

/-- Starts a master; a modal one then waits for its children. -/
def startMaster : Nat → JobAct RunOutcome
  | 0 => Sys.fail (.internal "jobs nest too deep")
  | n + 1 => do
    let id ← Sys.ofOutcome (← getThe Job).jobId
    let st ← startChildren n
    if (← getThe Job).server.runMode = .modal ∧ !st.isTerminal then
      let _ ← Master.waitForChildren id none false
      let st ← Master.refresh id
      setStatus st
      return .master id st
    return .master id st

/-- Moves a master to `running`, runs its children that are `created` or `suspended`, whose
failures do not matter, and refreshes it; answers its status. -/
def startChildren : Nat → JobAct Status
  | 0 => Sys.fail (.internal "jobs nest too deep")
  | n + 1 => do
    let j ← getThe Job
    if !j.runnable.isMaster then
      Sys.fail (.configuration s!"job {j.name} is not a master job")
    let id ← Sys.ofOutcome j.jobId
    let c ← JobContext.open id j.name j.identity.storagePath
    match j.status with
    | .created => c.transition .created .submitted
    | .suspended =>
      c.transition .suspended .refresh
      c.transition .refresh .submitted
    | other => Sys.fail (.conflict s!"master job {j.name} is {other} and cannot be started")
    c.transition .submitted .running
    setStatus .running
    for row in ← Master.children id do
      if row.status = .created ∨ row.status = .suspended then
        let child ← Job.loadById row.id
        let _ ← child.act (run n {})
    let st ← Master.refresh id
    setStatus st
    return st

/-- Runs a fresh attempt of a job that ended or is stuck. -/
def restart : Nat → RestartPolicy → JobAct RunOutcome
  | 0, _ => Sys.fail (.internal "jobs nest too deep")
  | n + 1, policy => do
    let j ← getThe Job
    if j.runnable.isMaster then
      Sys.fail (.conflict s!"master job {j.label} cannot be restarted; restart its children instead")
    let _ ← Project.open j.identity.project
    let oldId ← Sys.ofOutcome j.jobId
    let fresh ← match policy with
      | .inPlace => do
        if !j.status.isTerminal then
          let st ← Project.cancelJob oldId
          if !st.isTerminal then
            let c ← JobContext.open oldId j.name j.identity.storagePath
            let _ ← c.abort (.plain .cancelled "superseded by a restart")
        Project.removeJob oldId
        j.respawn j.name
      | .copyToNew => do j.respawn (← nextRestartName j)
    set fresh
    preflight fresh
    let _ ← Job.save
    start n

end

/-- The fuel of a run: every job may run once below every other. -/
def fuel : Sys Nat := do return 4 * ((← Sys.index).rows.length + 2)

/-- Runs the handle's job with options. -/
def runJob (opts : RunOptions) : JobAct RunOutcome := do run (← fuel) opts

/-- Starts a master's children and refreshes it. -/
def startMasterJob : JobAct Status := do startChildren (← fuel)

/-- Whether two directories are the same: equal part by part, or resolving to one path. -/
def sameDirectory (d : Disk) (a b : String) : Bool :=
  decide (Path.parts a = Path.parts b) ||
    (match d.canonical? a, d.canonical? b with
     | some x, some y => x == y
     | _, _ => false)

/-- Reloads, claims and executes the job of an index row. -/
def runRow (row : IndexRow) : Sys Report := do
  let j ← Job.fromStorage row.storagePath
  let id ← Sys.ofOutcome j.jobId
  if id ≠ row.id then
    Sys.fail (.conflict s!"record {row.storagePath} belongs to job {id}, not {row.id}")
  let c ← JobContext.open row.id j.name j.identity.storagePath
  let _ ← c.claim
  Pipeline.execute { j with status := .busy } c .busy

/-- Runs a job as a wrapper process in its working directory does. -/
def wrapperRun (wd : String) (id : Nat) : Sys Report := do
  let row ← Sys.row id
  if !sameDirectory (← Sys.disk) row.workingDirectory wd then
    Sys.fail (.conflict s!"job {id} works in {row.workingDirectory}, not {wd}")
  runRow row

/-- Runs a job known only by its id. -/
def runById (id : Nat) : Sys Report := do runRow (← Sys.row id)

end Dispatch

end JobFlow
