import JobFlow.Server
import JobFlow.Queue.Script

/-!
# Configuration

The settings a job system is built from: where the index lives, how job records are stored,
the defaults of new jobs, the queues and their limits, the tuning of execution and waiting,
and what creating a job of a taken name does.
-/

/-! ### Queue limits

The declared limits of one queue: at least `coresMin` cores (positive), at most `coresMax`,
and optional ceilings on run time and memory.
-/

namespace JobFlow

/-- The declared limits of one queue. -/
structure QueueLimits where
  coresMin : Nat := 1
  coresMax : Option Nat := none
  runTimeMax : Option Nat := none
  memoryMaxMb : Option Nat := none
  deriving DecidableEq, Inhabited, Repr

namespace QueueLimits

/-- The first rule the limits themselves break, if any. -/
def validate (l : QueueLimits) : Except String Unit := do
  if l.coresMin = 0 then throw "cores_min must be greater than 0"
  if let some m := l.coresMax then
    if m < l.coresMin then throw "cores_max cannot be smaller than cores_min"

/-- Checks a resource request against the limits of queue `q`. -/
def check (l : QueueLimits) (q : String) (s : ServerConfig) : Outcome Unit := do
  if s.cores < l.coresMin then
    throw (.configuration s!"queue '{q}' requires at least {l.coresMin} cores, {s.cores} requested")
  if let some m := l.coresMax then
    if s.cores > m then
      throw (.configuration s!"queue '{q}' allows at most {m} cores, {s.cores} requested")
  if let (some m, some r) := (l.runTimeMax, s.runTime) then
    if r > m then
      throw (.configuration s!"queue '{q}' allows at most {m}s run time, {r}s requested")
  if let (some m, some r) := (l.memoryMaxMb, s.memoryMb) then
    if r > m then
      throw (.configuration s!"queue '{q}' allows at most {m} MB memory, {r} MB requested")

/-- The limits as a JSON object. -/
def toJson (l : QueueLimits) : Json :=
  Json.mkObj [("cores_min", .ofNat l.coresMin), ("cores_max", .ofOptNat l.coresMax),
    ("run_time_max", .ofOptNat l.runTimeMax), ("memory_max_mb", .ofOptNat l.memoryMaxMb)]

/-- Reads limits; missing members take their defaults. -/
def read (path : String) (d : Doc) : DocRead QueueLimits :=
  Doc.readStruct "QueueLimits" ["cores_min", "cores_max", "run_time_max", "memory_max_mb"] {}
    (fun l k p v =>
      match k with
      | "cores_min" => return { l with coresMin := ← Doc.readU32 p v }
      | "cores_max" => return { l with coresMax := ← Doc.readOption Doc.readU32 p v }
      | "run_time_max" => return { l with runTimeMax := ← Doc.readOption Doc.readU64 p v }
      | "memory_max_mb" => return { l with memoryMaxMb := ← Doc.readOption Doc.readU64 p v }
      | _ => pure l) path d

end QueueLimits

end JobFlow


namespace JobFlow

/-- How job records are stored. -/
structure StorageConfig where
  extension : String := "jrk"
  compressionThreshold : Nat := 65536
  compressionLevel : Int := 3
  openRetries : Nat := 40
  openRetryInterval : Duration := Duration.ofMillis 50
  flushOnCommit : Bool := true
  deriving DecidableEq, Inhabited, Repr

/-- The settings new jobs start with. -/
structure ServerDefaults where
  runMode : RunMode := .modal
  cores : Nat := 1
  threads : Nat := 1
  queue : Option String := none
  deriving DecidableEq, Inhabited, Repr

/-- The queues, their limits and how jobs are handed to them. -/
structure QueueConfig where
  limits : List (String × QueueLimits) := []
  defaultQueue : Option String := none
  jobNamePrefix : String := "jr_"
  scriptTemplate : String := defaultScriptTemplate
  wrapperCommand : String := "jobrack-wrapper"
  deriving DecidableEq, Inhabited, Repr

/-- Tuning of the execution of jobs. -/
structure ExecutionConfig where
  cancelPollInterval : Duration := Duration.ofMillis 500
  killGracePeriod : Duration := Duration.ofSecs 5
  claimAttempts : Nat := 3
  claimRetryDelay : Duration := Duration.ofMillis 50
  stderrTailBytes : Nat := 4096
  compressFinished : Bool := false
  deriving DecidableEq, Inhabited, Repr

/-- Tuning of blocking waits. -/
structure WaitConfig where
  initialInterval : Duration := Duration.ofMillis 100
  maxInterval : Duration := Duration.ofSecs 5
  multiplier : Float := 2.0
  deriving Inhabited

/-- What creating a job of a taken name does. -/
inductive ExistingJobPolicy where
  | load
  | error
  deriving DecidableEq, Inhabited, Repr

/-- The written name of a policy. -/
def ExistingJobPolicy.name : ExistingJobPolicy → String
  | .load => "load"
  | .error => "error"

/-- The settings of a job system. -/
structure JobsConfig where
  indexUrl : String := "sqlite://jobrack.db"
  indexMaxConnections : Nat := 8
  indexBusyTimeout : Duration := Duration.ofSecs 5
  storage : StorageConfig := {}
  server : ServerDefaults := {}
  queue : QueueConfig := {}
  execution : ExecutionConfig := {}
  wait : WaitConfig := {}
  existingJobPolicy : ExistingJobPolicy := .load
  deriving Inhabited

namespace ServerDefaults

/-- The settings of a new job. -/
def toServer (d : ServerDefaults) : ServerConfig :=
  { runMode := d.runMode, cores := d.cores, threads := d.threads, queue := d.queue }

end ServerDefaults

namespace JobsConfig

/-- Short intervals and an in-memory index, for interactive use and tests. -/
def development : JobsConfig :=
  { indexUrl := "sqlite::memory:", indexMaxConnections := 1, indexBusyTimeout := Duration.ofSecs 1,
    storage := { flushOnCommit := false, openRetryInterval := Duration.ofMillis 10 },
    execution := { cancelPollInterval := Duration.ofMillis 50, killGracePeriod := Duration.ofMillis 500,
                   claimRetryDelay := Duration.ofMillis 5 },
    wait := { initialInterval := Duration.ofMillis 10, maxInterval := Duration.ofMillis 200, multiplier := 1.5 } }

/-- Whether a text is empty or blank. -/
def blank (s : String) : Bool := s.all Char.isWhitespace

/-- The first rule the configuration breaks, if any. -/
def validate (c : JobsConfig) : Outcome Unit := do
  if blank c.indexUrl then throw (.configuration "index_url must not be empty")
  if c.indexMaxConnections = 0 then throw (.configuration "index_max_connections must be greater than 0")
  if c.storage.extension.isEmpty ∨ c.storage.extension.contains '/' then
    throw (.configuration "storage.extension must be a non-empty file extension")
  if c.storage.compressionLevel < 1 ∨ c.storage.compressionLevel > 22 then
    throw (.configuration "storage.compression_level must be between 1 and 22")
  if c.server.cores = 0 ∨ c.server.threads = 0 then
    throw (.configuration "server.cores and server.threads must be greater than 0")
  for (name, l) in c.queue.limits do
    match l.validate with
    | .error e => throw (.configuration s!"queue '{name}': {e}")
    | .ok () => pure ()
  if let some q := c.queue.defaultQueue then
    if (c.queue.limits.lookup q).isNone then
      throw (.configuration s!"default queue '{q}' has no declared limits")
  if blank c.queue.wrapperCommand then throw (.configuration "queue.wrapper_command must not be empty")
  if c.execution.claimAttempts = 0 then throw (.configuration "execution.claim_attempts must be greater than 0")
  if c.execution.cancelPollInterval.isZero then
    throw (.configuration "execution.cancel_poll_interval must be greater than 0")
  if c.wait.multiplier < 1.0 then throw (.configuration "wait.multiplier must be >= 1.0")
  if c.wait.initialInterval.isZero then throw (.configuration "wait.initial_interval must be greater than 0")
  if ¬ c.wait.initialInterval ≤ c.wait.maxInterval then
    throw (.configuration "wait.initial_interval cannot exceed wait.max_interval")

/-- A span of time as a JSON object. -/
def durationJson (d : Duration) : Json := Json.mkObj [("secs", .ofNat d.secs), ("nanos", .ofNat d.nanos)]

/-- The storage settings as a JSON object. -/
def storageJson (s : StorageConfig) : Json :=
  Json.mkObj [("extension", .str s.extension),
    ("compression_threshold", .ofNat s.compressionThreshold),
    ("compression_level", .ofInt s.compressionLevel),
    ("open_retries", .ofNat s.openRetries),
    ("open_retry_interval", durationJson s.openRetryInterval),
    ("flush_on_commit", .bool s.flushOnCommit)]

/-- The configuration as a JSON object. -/
def toJson (c : JobsConfig) : Json :=
  Json.mkObj [
    ("index_url", .str c.indexUrl),
    ("index_max_connections", .ofNat c.indexMaxConnections),
    ("index_busy_timeout", durationJson c.indexBusyTimeout),
    ("storage", storageJson c.storage),
    ("server", Json.mkObj [("run_mode", .str c.server.runMode.name), ("cores", .ofNat c.server.cores),
      ("threads", .ofNat c.server.threads), ("queue", .ofOptString c.server.queue)]),
    ("queue", Json.mkObj [("limits", Json.mkObj (c.queue.limits.map (fun kv => (kv.1, kv.2.toJson)))),
      ("default_queue", .ofOptString c.queue.defaultQueue),
      ("job_name_prefix", .str c.queue.jobNamePrefix),
      ("script_template", .str c.queue.scriptTemplate),
      ("wrapper_command", .str c.queue.wrapperCommand)]),
    ("execution", Json.mkObj [("cancel_poll_interval", durationJson c.execution.cancelPollInterval),
      ("kill_grace_period", durationJson c.execution.killGracePeriod),
      ("claim_attempts", .ofNat c.execution.claimAttempts),
      ("claim_retry_delay", durationJson c.execution.claimRetryDelay),
      ("stderr_tail_bytes", .ofNat c.execution.stderrTailBytes),
      ("compress_finished", .bool c.execution.compressFinished)]),
    ("wait", Json.mkObj [("initial_interval", durationJson c.wait.initialInterval),
      ("max_interval", durationJson c.wait.maxInterval),
      ("multiplier", .num (.float c.wait.multiplier))]),
    ("existing_job_policy", .str c.existingJobPolicy.name)]

end JobsConfig

end JobFlow
