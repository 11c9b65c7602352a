import JobFlow.System.Dispatch
import JobFlow.Service.Catalog
import JobFlow.Service.Files
import JobFlow.Service.Indexes
import JobFlow.Config.Read

/-!
# Sessions on a job system

A `system` request builds a job system and runs steps on it.
-/

namespace JobFlow.Service

/-- The state of a session: the system, its project, the handles by name, and the runs
started in the background by handle, waiting to be run. -/
structure Session where
  system : JobSystem
  project : Project
  handles : List (String × Job) := []
  pending : List (String × Nat) := []
  deriving Inhabited

/-- A step of a session: a fault ends the step, a wait that never ends ends the session. -/
abbrev Step := ExceptT Fault (ExceptT String (StateM Session))

namespace Step

/-- The value of an answer. -/
def answer {α : Type} (a : Answer α) : Step α :=
  match a with
  | .ok v => pure v
  | .error f => throw f

/-- Runs an action of the system. -/
def sys {α : Type} (x : Sys α) : Step α := do
  let s ← getThe Session
  let (r, system) := (x.run).run s.system
  set { s with system }
  match r with
  | .ok a => pure a
  | .error (.fault e) => throw (.job e)
  | .error (.stall w) => throwThe String w

/-- Runs an action of the system, its library error as a value. -/
def trySys {α : Type} (x : Sys α) : Step (Answer α) := do
  tryCatch (.ok <$> sys x) (fun f => pure (.error f))

/-- The job a handle holds. -/
def handle (name : String) : Step Job := do
  match (← getThe Session).handles.lookup name with
  | some j => pure j
  | none => throw (.badInput s!"no job handle '{name}'")

/-- Puts a job into a handle. -/
def setHandle (name : String) (j : Job) : Step Unit :=
  modifyThe Session fun s => { s with handles := (s.handles.filter (·.1 != name)) ++ [(name, j)] }

/-- Runs an action on a handle's job, keeping the handle as the action left it; its library
error is a value. -/
def actKeep {α : Type} (name : String) (x : JobAct α) : Step (Except JobError α × Job) := do
  let (r, j) ← sys ((← handle name).act x)
  setHandle name j
  pure (r, j)

/-- Runs an action on a handle's job, keeping the handle as the action left it. -/
def act {α : Type} (name : String) (x : JobAct α) : Step α := do
  match (← actKeep name x).1 with
  | .ok a => pure a
  | .error e => throw (.job e)

/-- The id a step names: `id`, or the saved id of the job of handle `job`. -/
def jobIdOf (r : Request) : Step Nat := do
  match r.get? "id" with
  | some (.num (.nat n)) => pure n
  | _ =>
    let j ← handle (← answer (r.str "job"))
    sys (Sys.ofOutcome j.jobId)

/-- The project a step names by a `/`-separated chain of sub-project names below the
session's project. -/
def projectOf (r : Request) : Step Project := do
  let base := (← getThe Session).project
  match ← answer (r.str? "project") with
  | none => pure base
  | some chain => (chain.splitOn "/").foldlM (fun p n => sys (p.subproject n)) base

/-- A typed value of a step's member. -/
def read {α : Type} (r : Request) (k : String) (reader : String → Doc → DocRead α) : Step α := do
  answer (readJson reader (← answer (r.need k)))

end Step

/-- A job as a step shows it. -/
def summaryFields (j : Job) : List (String × Json) :=
  [("name", .str j.name), ("type", .str j.identity.jobType), ("id", .ofOptNat j.identity.jobId),
    ("status", .str j.status.name), ("editable", .bool j.isEditable), ("master_id", .ofOptNat j.masterId)]

/-- A job as a step shows it. -/
def summary (j : Job) : Json := Json.mkObj (summaryFields j)

/-- A failure or `null`. -/
def failureJson (f : Option Failure) : Json := (f.map Failure.toJson).getD .null

/-- The id, status and failure of a report. -/
def reportFields (r : Report) : List (String × Json) :=
  [("job_id", .ofNat r.jobId), ("status", .str r.status.name), ("failure", failureJson r.failure)]

/-- A report with whether it is a success. -/
def reportJson (r : Report) : Json :=
  Json.mkObj (reportFields r ++ [("success", .bool r.status.isSuccess)])

/-- What a run did, as JSON. -/
def outcomeFields : RunOutcome → List (String × Json)
  | .finished r => ("outcome", .str "finished") :: reportFields r ++ [("success", .bool r.status.isSuccess)]
  | .background id => [("outcome", .str "background"), ("job_id", .ofNat id)]
  | .queued id q => [("outcome", .str "queued"), ("job_id", .ofNat id), ("queue_id", .str q)]
  | .manual id wd cmd =>
    [("outcome", .str "manual"), ("job_id", .ofNat id), ("working_directory", .str wd), ("command", .str cmd)]
  | .master id st => [("outcome", .str "master"), ("job_id", .ofNat id), ("status", .str st.name)]
  | .alreadyTerminal id st =>
    [("outcome", .str "already_terminal"), ("job_id", .ofNat id), ("status", .str st.name)]

/-- An index row as a session shows it: whether a claim token is set, not the token. -/
def sessionRowJson (r : IndexRow) : Json := r.toJsonWith (fun t => .bool t.isSome)

/-- The configuration every session starts from. -/
def sessionConfig : JobsConfig :=
  let c := JobsConfig.development
  { c with queue := { c.queue with
      limits := [("short", { coresMin := 1, coresMax := some 4, runTimeMax := some 3600 })],
      defaultQueue := some "short" } }

/-- The project directory of a session. -/
def sessionProject : String := "$ROOT/project"

/-- Builds the system a `system` request asks for. -/
def openSession (r : Request) : Answer Session := do
  let cfg ← match r.get? "config" with
    | some patch => readJson ConfigRead.config (Json.merge sessionConfig.toJson patch)
    | none => pure sessionConfig
  let onFile := match r.get? "index_file" with
    | none | some .null | some (.bool false) => false
    | _ => true
  let cfg := { cfg with indexUrl := if onFile then "sqlite://$ROOT/index.db" else "sqlite::memory:" }
  lift cfg.validate
  let noQueue ← r.boolD "no_queue" false
  let system : JobSystem :=
    { config := cfg, registry := catalog, disk := rootDisk, scheduler := if noQueue then none else some {} }
  match ((Project.open sessionProject).run).run system with
  | (.ok p, system) => pure { system, project := p }
  | (.error (.fault e), _) => throw (.job e)
  | (.error (.stall w), _) => throw (.timeout w)

end JobFlow.Service
