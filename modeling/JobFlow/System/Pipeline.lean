import JobFlow.System.Command
import JobFlow.System.Master

/-!
# Executing a claimed job

A claimed job runs in steps.
-/

namespace JobFlow

/-- What one execution of a job came to. -/
structure Report where
  jobId : Nat
  status : Status
  failure : Option Failure := none
  deriving Inhabited

namespace Pipeline

/-- The output of a function's result. -/
def functionOutput (result : Json) : Json :=
  match result.field? "converged" with
  | some (.bool b) => Json.mkObj [("converged", .bool b), ("result", result)]
  | _ => Json.mkObj [("result", result)]

/-- Whether an output says the job did not converge. -/
def unconverged (output : Json) : Bool :=
  match output.field? "converged" with
  | some (.bool false) => true
  | _ => false

/-- The output of what a command's collector read: an object as it is, any other value
under `result`. -/
def commandOutput : Json → Json
  | .obj fields => .obj fields
  | other => Json.mkObj [("result", other)]

/-- The output a command left, read by its collector. -/
def collectOutput (s : ScriptJob) (wd : String) : Sys (Except Failure Json) := do
  match s.collect (← Sys.disk) wd with
  | .error m => return .error (.plain .collectOutputFailed m)
  | .ok v => return .ok (commandOutput v)

/-- The steps of one execution: a failure of the job is the value, an error of the system
fails the action. -/
def runSteps (j : Job) (c : JobContext) (src : Status) : Sys (Except Failure Status) := do
  c.transition src .running
  if ← c.cancelRequested then return .error Failure.cancelled
  let output ← match j.runnable.body with
    | .function f =>
      match f j.input with
      | .error (.error m) => return .error (.plain .functionError m)
      | .error (.panic m) => return .error (.plain .panicked m)
      | .ok v =>
        c.transition .running .collect
        pure (functionOutput v)
    | .executable s => do
      if let .error f ← runExecutable c s j.input j.server j.identity.workingDirectory then
        return .error f
      c.transition .running .collect
      match ← collectOutput s j.identity.workingDirectory with
      | .error f => return .error f
      | .ok out => pure out
    | .master => Sys.fail (.internal "master jobs are not executed")
  if ← c.cancelRequested then return .error Failure.cancelled
  let final : Status := if unconverged output then .notConverged else .finished
  let _ ← Sys.writeScoped (← c.record) [(Layout.output, output)]
  c.transition .collect final
  return .ok final

/-- Refreshes the master of a job, if it has one; nothing here fails. -/
def notifyMaster (c : JobContext) : Sys Unit := do
  let master ← Sys.attempt (do Sys.readAs (← c.record) Layout.masterId (Doc.readOption Doc.readU64))
  if let .ok (some m) := master then
    let _ ← Sys.attempt (Master.refresh m)

/-- Runs the steps of a claimed job and aborts it when they fail; answers the report. -/
def settle (j : Job) (c : JobContext) (src : Status) : Sys Report := do
  match ← Sys.attempt (runSteps j c src) with
  | .ok (.ok st) => pure { jobId := c.jobId, status := st }
  | .ok (.error f) => do
    let st ← c.abort f
    pure { jobId := c.jobId, status := st, failure := some f }
  | .error e => do
    let f := Failure.plain .internal e.text
    let st ← c.abort f
    pure { jobId := c.jobId, status := st, failure := if st = .aborted then some f else none }

/-- What follows a report: the working directory of a successful job may be packed, and the
master is refreshed. -/
def wrapUp (j : Job) (c : JobContext) (report : Report) : Sys Unit := do
  if report.failure.isNone ∧ report.status.isSuccess ∧ (← Sys.config).execution.compressFinished then
    let _ ← Sys.attempt j.compress
  notifyMaster c

/-- Drives a claimed job to a status that ended. -/
def execute (j : Job) (c : JobContext) (src : Status) : Sys Report := do
  if j.runnable.isMaster then
    Sys.fail (.configuration s!"job {j.name} is a master job; its status follows its children")
  let report ← settle j c src
  wrapUp j c report
  return report

end Pipeline

end JobFlow
