import JobFlow.System.Context
import JobFlow.Master.Aggregate

/-!
# Master jobs

A master job runs nothing of its own; its status follows its children, the jobs whose index
rows name it as their master.
-/

namespace JobFlow

namespace Master

/-- The input member that holds the policy. -/
def policyKey : String := "aggregate_policy"

/-- The policy an input asks for. -/
def policyOf (input : List (String × Json)) : Outcome AggregatePolicy :=
  match input.lookup policyKey with
  | some v =>
    match AggregatePolicy.read "." (Doc.ofJson v) with
    | .ok p => pure p
    | .error e => throw (.configuration s!"invalid {policyKey}: {e.message}")
  | none => pure .collectAll

/-- The rows of a master's children, in id order. -/
def children (masterId : Nat) : Sys (List IndexRow) := Sys.query (JobFilter.childrenOf masterId)

/-- The report of children rows. -/
def reportOf (rows : List IndexRow) : ChildrenReport :=
  ChildrenReport.ofRows (rows.map (fun r => (r.id, r.status)))

/-- The status the children give under a policy. -/
def aggregate (masterId : Nat) (policy : AggregatePolicy) : Sys Status := do
  return aggregateStatus policy ((← children masterId).map (·.status))

/-- Ids as a list is printed for people: `[2, 3]`. -/
def idsText (ids : List Nat) : String := "[" ++ ", ".intercalate (ids.map toString) ++ "]"

/-- The output of a master whose children ended. -/
def output (rows : List IndexRow) (report : ChildrenReport) : Json :=
  let ids (xs : List Nat) : Json := .arr (xs.map Json.ofNat)
  Json.mkObj [("children", Json.mkObj (rows.map (fun r => (r.jobName, .str r.status.name)))),
    ("finished", ids report.finished), ("not_converged", ids report.notConverged),
    ("aborted", ids report.aborted)]

/-- Moves a running master to the status its children give; answers its status. -/
def refresh (masterId : Nat) : Sys Status := do
  let row ← match ← Sys.row? masterId with
    | some r => pure r
    | none => Sys.fail (.notFound s!"master job {masterId} in index")
  if row.status ≠ .running then return row.status
  let master ← Job.fromStorage row.storagePath
  let policy ← Sys.ofOutcome (policyOf master.input)
  let rows ← children masterId
  let target := aggregateStatus policy (rows.map (·.status))
  if target = .running then return target
  let c ← JobContext.open masterId master.name master.identity.storagePath
  let stored ← c.storedStatus
  if stored.isTerminal then return stored
  let report := reportOf rows
  if target = .aborted then
    return ← c.abort ⟨.childrenFailed, s!"aborted children: {idsText report.aborted}", none, none⟩
  if stored = .running then c.transition .running .collect
  let _ ← Sys.writeScoped (← c.record) [(Layout.output, output rows report)]
  c.transition .collect target
  return target

/-- Waits for a master's children to end. -/
def waitForChildren (masterId : Nat) (timeout : Option Duration) (cancelled : Bool) :
    Sys ChildrenReport := do
  let report := reportOf (← children masterId)
  if report.isComplete then return report
  match timeout with
  | some t =>
    if t.isZero ∨ !cancelled then return { report with timedOut := true }
    Sys.fail (.cancelled s!"waiting for children of job {masterId}")
  | none =>
    if cancelled then Sys.fail (.cancelled s!"waiting for children of job {masterId}")
    Sys.stall s!"children of job {masterId}"

/-- Makes the handle's job a child of a master and saves it; answers the child's id. -/
def addChild (master : Job) : JobAct Nat := do
  if !master.runnable.isMaster then
    Sys.fail (.configuration s!"job {master.name} is not a master job")
  let masterId ← Sys.ofOutcome master.jobId
  let child ← getThe Job
  if !child.isEditable then
    Sys.fail (.conflict s!"job {child.name} is {child.status} and cannot become a child")
  modifyThe Job fun j => { j with masterId := some masterId }
  let id ← Job.save
  Sys.updateRow id { masterId := some (some masterId) }
  return id

end Master

end JobFlow
