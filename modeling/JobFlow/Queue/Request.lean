import JobFlow.Config

/-!
# Submission requests

What a queue adapter is given to submit a job: the queue, the resources, the wrapper command
line that reloads and runs the job on a compute node, and the batch script around it.
-/

namespace JobFlow

/-- The resources a job asks the queue for. -/
structure Resources where
  cores : Nat
  threads : Nat
  gpus : Option Nat
  runTime : Option Nat
  memoryMb : Option Nat
  deriving DecidableEq, Inhabited, Repr

/-- Everything a queue adapter needs to submit one job. -/
structure SubmitRequest where
  jobId : Nat
  queueJobName : String
  queue : String
  workingDirectory : String
  resources : Resources
  command : String
  script : String
  deriving DecidableEq, Inhabited, Repr

/-- A job's state as the queue reports it. -/
inductive QueueState where
  | pending
  | running
  | done
  | failed
  deriving DecidableEq, Inhabited, Repr

namespace QueueState

/-- Every state, in declaration order. -/
def all : List QueueState := [.pending, .running, .done, .failed]

/-- The written name of a state. -/
def name : QueueState → String
  | .pending => "pending"
  | .running => "running"
  | .done => "done"
  | .failed => "failed"

/-- Reads a state written as its name. -/
def read (path : String) (d : Doc) : DocRead QueueState := do
  let i ← Doc.readVariant (all.map name) path d
  pure (all.getD i .pending)

end QueueState

namespace Resources

/-- The resources a job's settings ask for. -/
def ofServer (s : ServerConfig) : Resources := ⟨s.cores, s.threads, s.gpus, s.runTime, s.memoryMb⟩

/-- The resources as a JSON object. -/
def toJson (r : Resources) : Json :=
  Json.mkObj [("cores", .ofNat r.cores), ("threads", .ofNat r.threads), ("gpus", .ofOptNat r.gpus),
    ("run_time", .ofOptNat r.runTime), ("memory_mb", .ofOptNat r.memoryMb)]

end Resources

namespace SubmitRequest

/-- The request as a JSON object. -/
def toJson (r : SubmitRequest) : Json :=
  Json.mkObj [("job_id", .ofNat r.jobId), ("queue_job_name", .str r.queueJobName), ("queue", .str r.queue),
    ("working_directory", .str r.workingDirectory), ("resources", r.resources.toJson),
    ("command", .str r.command), ("script", .str r.script)]

end SubmitRequest

namespace QueueConfig

/-- The queue a job goes to, checked against the queue's limits. -/
def resolve (c : QueueConfig) (s : ServerConfig) : Outcome String := do
  let q ← match s.queue <|> c.defaultQueue with
    | some q => pure q
    | none => throw (.configuration "no queue selected and no default queue configured")
  match c.limits.lookup q with
  | none => throw (.configuration s!"queue '{q}' is not declared in the configuration")
  | some l => l.check q s
  pure q

/-- The command line that reloads and runs job `id` in `wd`. -/
def wrapperCommandLine (c : QueueConfig) (wd : String) (id : Nat) : String :=
  s!"{c.wrapperCommand} --working-directory {shellQuote wd} --job-id {id}"

/-- The submission request of job `id` to queue `q`. -/
def request (c : QueueConfig) (q : String) (id : Nat) (wd : String) (s : ServerConfig) : SubmitRequest :=
  let name := c.jobNamePrefix ++ toString id
  let command := c.wrapperCommandLine wd id
  let res := Resources.ofServer s
  let script := renderScript c.scriptTemplate [
    ("command", command), ("job_id", toString id), ("job_name", name),
    ("working_directory", shellQuote wd), ("cores", toString res.cores),
    ("threads", toString res.threads),
    ("run_time", (res.runTime.map toString).getD ""),
    ("memory_mb", (res.memoryMb.map toString).getD "")]
  ⟨id, name, q, wd, res, command, script⟩

end QueueConfig

end JobFlow
