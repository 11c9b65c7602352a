import JobFlow.Config

/-!
# Reading a configuration

A configuration read from a JSON value or a YAML document.
-/

namespace JobFlow

/-- Inserts into a list sorted by key, replacing an equal key. -/
def insertSorted {α : Type} (k : String) (v : α) : List (String × α) → List (String × α)
  | [] => [(k, v)]
  | (k', v') :: rest =>
    if k < k' then (k, v) :: (k', v') :: rest
    else if k = k' then (k, v) :: rest
    else (k', v') :: insertSorted k v rest

namespace ConfigRead

/-- Reads a span of time written as `{secs, nanos}`. -/
def duration (path : String) (d : Doc) : DocRead Duration := do
  match ← Doc.members "Duration" path d with
  | .named entries =>
    let (s, n) ← entries.foldlM (fun (acc : Option Nat × Option Nat) kv => do
      match ← Doc.keyName "`secs` or `nanos`" path kv.1 with
      | "secs" =>
        if acc.1.isSome then Doc.fail path d "duplicate field `secs`"
        else return (some (← Doc.readU64 (Doc.childPath path "secs") kv.2), acc.2)
      | "nanos" =>
        if acc.2.isSome then Doc.fail path d "duplicate field `nanos`"
        else return (acc.1, some (← Doc.readU32 (Doc.childPath path "nanos") kv.2))
      | other => Doc.fail path d s!"unknown field `{other}`, expected `secs` or `nanos`") (none, none)
    let secs ← match s with
      | some s => pure s
      | none => Doc.fail path d "missing field `secs`"
    let nanos ← match n with
      | some n => pure n
      | none => Doc.fail path d "missing field `nanos`"
    if secs + nanos / 1000000000 ≥ Nat.pow 2 64 then Doc.fail path d "overflow deserializing Duration"
    pure (Duration.make secs nanos)
  | .positional items =>
    match items with
    | [] => Doc.fail path d "invalid length 0, expected struct Duration"
    | [_] => Doc.fail path d "invalid length 1, expected struct Duration"
    | s :: n :: rest =>
      if !rest.isEmpty then
        Doc.fail path d s!"invalid length {items.length}, expected fewer elements in array"
      else do
        let secs ← Doc.readU64 (Doc.itemPath path 0) s
        let nanos ← Doc.readU32 (Doc.itemPath path 1) n
        if secs + nanos / 1000000000 ≥ Nat.pow 2 64 then Doc.fail path d "overflow deserializing Duration"
        pure (Duration.make secs nanos)

/-- Reads storage settings over `base`. -/
def storage (base : StorageConfig) (path : String) (d : Doc) : DocRead StorageConfig :=
  Doc.readStruct "StorageConfig" ["extension", "compression_threshold", "compression_level", "open_retries",
    "open_retry_interval", "flush_on_commit"] base (fun s k p v =>
    match k with
    | "extension" => return { s with extension := ← Doc.readString p v }
    | "compression_threshold" => return { s with compressionThreshold := ← Doc.readUsize p v }
    | "compression_level" => return { s with compressionLevel := ← Doc.readI32 p v }
    | "open_retries" => return { s with openRetries := ← Doc.readU32 p v }
    | "open_retry_interval" => return { s with openRetryInterval := ← duration p v }
    | "flush_on_commit" => return { s with flushOnCommit := ← Doc.readBool p v }
    | _ => pure s) path d

/-- Reads the defaults of new jobs over `base`. -/
def serverDefaults (base : ServerDefaults) (path : String) (d : Doc) : DocRead ServerDefaults :=
  Doc.readStruct "ServerDefaults" ["run_mode", "cores", "threads", "queue"] base (fun s k p v =>
    match k with
    | "run_mode" => return { s with runMode := ← RunMode.read p v }
    | "cores" => return { s with cores := ← Doc.readU32 p v }
    | "threads" => return { s with threads := ← Doc.readU32 p v }
    | "queue" => return { s with queue := ← Doc.readOption Doc.readString p v }
    | _ => pure s) path d

/-- Reads queue settings over `base`. -/
def queue (base : QueueConfig) (path : String) (d : Doc) : DocRead QueueConfig :=
  Doc.readStruct "QueueConfig" ["limits", "default_queue", "job_name_prefix", "script_template",
    "wrapper_command"] base (fun s k p v =>
    match k with
    | "limits" => do
      let ls ← Doc.readMap QueueLimits.read p v
      return { s with limits := ls.foldl (fun acc kv => insertSorted kv.1 kv.2 acc) [] }
    | "default_queue" => return { s with defaultQueue := ← Doc.readOption Doc.readString p v }
    | "job_name_prefix" => return { s with jobNamePrefix := ← Doc.readString p v }
    | "script_template" => return { s with scriptTemplate := ← Doc.readString p v }
    | "wrapper_command" => return { s with wrapperCommand := ← Doc.readString p v }
    | _ => pure s) path d

/-- Reads execution tuning over `base`. -/
def execution (base : ExecutionConfig) (path : String) (d : Doc) : DocRead ExecutionConfig :=
  Doc.readStruct "ExecutionConfig" ["cancel_poll_interval", "kill_grace_period", "claim_attempts",
    "claim_retry_delay", "stderr_tail_bytes", "compress_finished"] base (fun s k p v =>
    match k with
    | "cancel_poll_interval" => return { s with cancelPollInterval := ← duration p v }
    | "kill_grace_period" => return { s with killGracePeriod := ← duration p v }
    | "claim_attempts" => return { s with claimAttempts := ← Doc.readU32 p v }
    | "claim_retry_delay" => return { s with claimRetryDelay := ← duration p v }
    | "stderr_tail_bytes" => return { s with stderrTailBytes := ← Doc.readUsize p v }
    | "compress_finished" => return { s with compressFinished := ← Doc.readBool p v }
    | _ => pure s) path d

/-- Reads wait tuning over `base`. -/
def wait (base : WaitConfig) (path : String) (d : Doc) : DocRead WaitConfig :=
  Doc.readStruct "WaitConfig" ["initial_interval", "max_interval", "multiplier"] base (fun s k p v =>
    match k with
    | "initial_interval" => return { s with initialInterval := ← duration p v }
    | "max_interval" => return { s with maxInterval := ← duration p v }
    | "multiplier" => return { s with multiplier := ← Doc.readF64 p v }
    | _ => pure s) path d

/-- Reads a policy for taken names. -/
def policy (path : String) (d : Doc) : DocRead ExistingJobPolicy := do
  let i ← Doc.readVariant ["load", "error"] path d
  pure (if i = 0 then .load else .error)

/-- Reads a whole configuration; what the document leaves out keeps the defaults. -/
def config (path : String) (d : Doc) : DocRead JobsConfig :=
  let base : JobsConfig := {}
  Doc.readStruct "JobsConfig" ["index_url", "index_max_connections", "index_busy_timeout", "storage",
    "server", "queue", "execution", "wait", "existing_job_policy"] base (fun c k p v =>
    match k with
    | "index_url" => return { c with indexUrl := ← Doc.readString p v }
    | "index_max_connections" => return { c with indexMaxConnections := ← Doc.readU32 p v }
    | "index_busy_timeout" => return { c with indexBusyTimeout := ← duration p v }
    | "storage" => return { c with storage := ← storage {} p v }
    | "server" => return { c with server := ← serverDefaults {} p v }
    | "queue" => return { c with queue := ← queue {} p v }
    | "execution" => return { c with execution := ← execution {} p v }
    | "wait" => return { c with wait := ← wait {} p v }
    | "existing_job_policy" => return { c with existingJobPolicy := ← policy p v }
    | _ => pure c) path d

end ConfigRead

end JobFlow
