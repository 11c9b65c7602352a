import JobFlow.System.Handle

/-!
# Moving a saved job between statuses

A context names a saved job and its record.
-/

namespace JobFlow

/-- A saved job driven through its statuses. -/
structure JobContext where
  jobId : Nat
  jobName : String
  storagePath : String
  deriving DecidableEq, Inhabited, Repr

namespace JobContext

/-- The name with the id. -/
def label (c : JobContext) : String := s!"{c.jobName} (id {c.jobId})"

/-- Opens the context of a saved job; its record must exist. -/
def «open» (id : Nat) (name path : String) : Sys JobContext := do
  let _ ← Sys.openRecord path
  pure ⟨id, name, path⟩

/-- The context of the job an index row describes. -/
def ofRow (id : Nat) : Sys JobContext := do
  let row ← Sys.row id
  JobContext.open id row.jobName row.storagePath

/-- The job's record. -/
def record (c : JobContext) : Sys Record := Sys.openRecord c.storagePath

/-- The status the record holds. -/
def storedStatus (c : JobContext) : Sys Status := do Sys.storedStatus (← c.record)

/-- Moves the index row from `src` to `dst`; a row already at `dst` counts as moved. -/
def syncIndex (c : JobContext) (src dst : Status) : Sys Unit := do
  if ← Sys.updateStatus c.jobId src dst then return
  let row ← Sys.row c.jobId
  if row.status ≠ dst then
    Sys.fail (.conflict s!"index shows job {c.label} as {row.status} while moving {src} -> {dst}")

/-- Moves the job from `src` to `dst`, in the record, then in the index. -/
def transition (c : JobContext) (src dst : Status) : Sys Unit := do
  Sys.ofOutcome (Status.check src dst c.label)
  let r ← c.record
  let stored ← Sys.storedStatus r
  if stored ≠ src ∧ stored ≠ dst then
    Sys.fail (.conflict s!"job {c.label} is {stored} in storage, expected {src}")
  if stored = src then
    let _ ← Sys.writeRecord r Layout.status (.str dst.name)
  c.syncIndex src dst

/-- Records a failure and moves the job to `aborted`; answers the status the job ends in. -/
def abort (c : JobContext) (f : Failure) : Sys Status := do
  let r ← c.record
  let stored ← Sys.storedStatus r
  if stored.isTerminal then return stored
  let _ ← Sys.writeScoped r [(Layout.failure, f.toJson), (Layout.status, .str Status.aborted.name)]
  if !(← Sys.updateStatus c.jobId stored .aborted) then
    Sys.forceStatus c.jobId .aborted
  Sys.updateRow c.jobId { reason := some (some f.summary) }
  return .aborted

/-- Whether cancelling the job was asked for through the index. -/
def cancelRequested (c : JobContext) : Sys Bool := do
  return ((← Sys.row? c.jobId).map (·.cancelRequested)).getD false

/-- Tries to claim the job at most `attempts` more times. -/
def claimRetry (c : JobContext) (token : String) (total : Nat) : Nat → Sys Status
  | 0 => Sys.fail (.conflict s!"could not claim job {c.jobName} after {total} attempts")
  | n + 1 => do
    let row ← Sys.row c.jobId
    if row.status = .running then
      Sys.fail (.conflict s!"job {c.jobName} is running in another process")
    if !row.status.isResumable then
      Sys.fail (.conflict s!"job {c.jobName} is {row.status} and cannot be claimed")
    if ← Sys.claimRow c.jobId row.status token then
      let confirmed := match ← Sys.row? c.jobId with
        | some r => r.status = .busy ∧ r.claimToken = some token
        | none => false
      if !confirmed then
        Sys.fail (.conflict s!"job {c.jobName} was claimed by another process")
      let _ ← Sys.writeRecord (← c.record) Layout.status (.str Status.busy.name)
      return row.status
    claimRetry c token total n

/-- Claims the job for this process by moving it to `busy`; answers the status it was
claimed from. -/
def claim (c : JobContext) : Sys Status := do
  let attempts := (← Sys.config).execution.claimAttempts
  let token ← Sys.newToken
  let stored ← c.storedStatus
  if stored.isTerminal then
    Sys.forceStatus c.jobId stored
    Sys.fail (.conflict s!"job {c.jobName} is already {stored}")
  claimRetry c token attempts attempts

end JobContext

end JobFlow
