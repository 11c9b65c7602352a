import JobFlow.Service.Basic
import JobFlow.Config.Read
import JobFlow.Queue.Request
import JobFlow.Yaml.Load
import JobFlow.Disk

/-!
# Requests on configurations and queues

Configurations read from JSON, presets, configurations built setting by setting, queue limits,
queue resolution, submission requests and batch scripts.
-/

namespace JobFlow.Service

/-- A configuration that passed its checks, or the first rule it breaks. -/
def checked (c : JobsConfig) : Answer Json := do
  lift c.validate
  pure c.toJson

/-- A configuration read from YAML text, or the YAML error that stops it. -/
def yamlConfig (text : String) : Outcome JobsConfig :=
  (Yaml.read ConfigRead.config text).mapError (fun e => .yaml e.yamlText)

/-- `config_load`: the configuration file under the root read and checked; without a file
there is nothing to read. -/
def configLoad (r : Request) : Answer Json := do
  match ← r.str? "yaml" with
  | none => lift (.error (.io OsError.noEntry.text))
  | some text => checked (← lift (yamlConfig text))

/-- `config_json`: a configuration read from JSON and checked. -/
def configJson (r : Request) : Answer Json := do
  checked (← readJson ConfigRead.config (← r.need "config"))

/-- `config_preset`: the development configuration or the default one. -/
def configPreset (r : Request) : Answer Json := do
  let c := if (← r.str "name") = "development" then JobsConfig.development else {}
  pure c.toJson

/-- One setter of the configuration builder. -/
def builderStep (c : JobsConfig) (s : Request) : Answer JobsConfig := do
  let v ← s.need "value"
  match ← s.str "set" with
  | "index_url" => return { c with indexUrl := ← readJson Doc.readString v }
  | "index_path" => return { c with indexUrl := "sqlite://" ++ (← readJson Doc.readString v) }
  | "index_max_connections" => return { c with indexMaxConnections := ← readJson Doc.readU32 v }
  | "index_busy_timeout_ms" => return { c with indexBusyTimeout := Duration.ofMillis (← readJson Doc.readU64 v) }
  | "compression_threshold" =>
    return { c with storage := { c.storage with compressionThreshold := ← readJson Doc.readUsize v } }
  | "storage" => return { c with storage := ← readJson (ConfigRead.storage {}) v }
  | "default_run_mode" => return { c with server := { c.server with runMode := ← readJson RunMode.read v } }
  | "queue_limits" => do
    let l ← readJson QueueLimits.read v
    let name ← s.str "name"
    return { c with queue := { c.queue with limits := insertSorted name l c.queue.limits } }
  | "default_queue" => return { c with queue := { c.queue with defaultQueue := some (← readJson Doc.readString v) } }
  | "wrapper_command" => return { c with queue := { c.queue with wrapperCommand := ← readJson Doc.readString v } }
  | "existing_job_policy" => return { c with existingJobPolicy := ← readJson ConfigRead.policy v }
  | "server" => return { c with server := ← readJson (ConfigRead.serverDefaults {}) v }
  | "execution" => return { c with execution := ← readJson (ConfigRead.execution {}) v }
  | "wait" => return { c with wait := ← readJson (ConfigRead.wait {}) v }
  | other => bad s!"unknown setter {other}"

/-- `config_builder`: a configuration built setting by setting, then checked. -/
def configBuilder (r : Request) : Answer Json := do
  let start := if ← r.boolD "development" false then JobsConfig.development else {}
  let c ← (← r.list "steps").foldlM builderStep start
  checked c

/-- `limits_validate`: whether queue limits are consistent. -/
def limitsValidate (r : Request) : Answer Json := do
  let l ← readJson QueueLimits.read (← r.need "limits")
  match l.validate with
  | .ok () => pure (Json.mkObj [("ok", .bool true), ("limits", l.toJson)])
  | .error m => pure (Json.mkObj [("ok", .bool false), ("message", .str m), ("limits", l.toJson)])

/-- The job settings of a request, defaults where absent. -/
def serverOf (r : Request) : Answer ServerConfig :=
  readJson ServerConfig.read ((r.get? "server").getD (Json.obj []))

/-- The queue settings of a request, defaults where absent. -/
def queueConfigOf (r : Request) : Answer QueueConfig :=
  readJson (ConfigRead.queue {}) ((r.get? "queue_config").getD (Json.obj []))

/-- `limits_check`: whether a request fits a queue's limits. -/
def limitsCheck (r : Request) : Answer Json := do
  let l ← readJson QueueLimits.read (← r.need "limits")
  let s ← serverOf r
  lift (l.check (← r.strD "queue" "q") s)
  pure (Json.mkObj [("ok", .bool true)])

/-- `resolve_queue`: the queue a job goes to. -/
def resolveQueue (r : Request) : Answer Json := do
  let c ← queueConfigOf r
  let s ← serverOf r
  pure (.str (← lift (c.resolve s)))

/-- `build_request`: the submission request of a job. -/
def buildRequest (r : Request) : Answer Json := do
  let c ← queueConfigOf r
  let s ← serverOf r
  pure (c.request (← r.str "queue") (← r.nat "job_id") (← r.str "working_directory") s).toJson

/-- `wrapper_command_line`: the command line that runs a job. -/
def wrapperCommand (r : Request) : Answer Json := do
  let c ← queueConfigOf r
  pure (.str (c.wrapperCommandLine (← r.str "working_directory") (← r.nat "job_id")))

/-- `render_script`: a template filled with values in order. -/
def renderScriptOp (r : Request) : Answer Json := do
  let values ← (← r.list "values").mapM (fun v =>
    match v with
    | .arr [.str n, .str x] => pure (n, x)
    | _ => bad "values must be pairs of strings")
  pure (.str (renderScript (← r.str "template") values))

/-- `shell_quote`: a text quoted for a shell. -/
def shellQuoteOp (r : Request) : Answer Json := do
  pure (.str (shellQuote (← r.str "value")))

/-- `queue_state`: a queue state read from JSON. -/
def queueState (r : Request) : Answer Json := do
  let st ← readJson QueueState.read (← r.need "value")
  pure (Json.mkObj [("display", .str st.name), ("serde", .str st.name)])

end JobFlow.Service
