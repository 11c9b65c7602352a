import JobFlow.Service.Answer
import JobFlow.Server
import JobFlow.Jobs.Layout

/-!
# Requests on statuses, names, settings, failures and errors

The requests that ask one question of a single value: what a status allows, whether a name
or move is valid, how settings or failures read and print, and how an error is classified.
-/

namespace JobFlow.Service

/-- Reads a typed value out of a JSON value, a fault worded as a JSON error. -/
def readJson {α : Type} (r : String → Doc → DocRead α) (v : Json) : Answer α :=
  lift (readValue r v)

/-- Parses a status name; an unknown name is an internal error. -/
def parseStatus (s : String) : Outcome Status :=
  match Status.ofName? s with
  | some st => pure st
  | none => throw (.internal s!"Unknown job status: {s}")

/-- `status_info`: the predicates and successors of a status. -/
def statusInfo (r : Request) : Answer Json := do
  let st ← lift (parseStatus (← r.str "status"))
  pure (Json.mkObj [("as_str", .str st.name), ("display", .str st.name), ("serde", .str st.name),
    ("is_terminal", .bool st.isTerminal), ("is_success", .bool st.isSuccess),
    ("is_active", .bool st.isActive), ("is_resumable", .bool st.isResumable),
    ("successors", .ofStrings (st.successors.map Status.name))])

/-- `status_serde`: a status read from JSON. -/
def statusSerde (r : Request) : Answer Json := do
  let st ← readJson Status.read (← r.need "value")
  pure (.str st.name)

/-- `check_transition`: whether a move is allowed. -/
def checkTransition (r : Request) : Answer Json := do
  let src ← lift (parseStatus (← r.str "from"))
  let dst ← lift (parseStatus (← r.str "to"))
  lift (Status.check src dst (← r.strD "job" "toy"))
  pure (Json.mkObj [("ok", .bool true), ("can", .bool true)])

/-- `run_mode`: a run mode parsed from its name. -/
def runMode (r : Request) : Answer Json := do
  let m ← lift (RunMode.parse (← r.str "value"))
  pure (Json.mkObj [("as_str", .str m.name), ("display", .str m.name), ("serde", .str m.name)])

/-- `run_mode_serde`: a run mode read from JSON. -/
def runModeSerde (r : Request) : Answer Json := do
  let m ← readJson RunMode.read (← r.need "value")
  pure (.str m.name)

/-- `job_name`: whether a job name is valid. -/
def jobName (r : Request) : Answer Json := do
  lift (validateJobName (← r.str "name"))
  pure (Json.mkObj [("ok", .bool true)])

/-- `identity`: the identity of a job and its labels before and after it has an id. -/
def identity (r : Request) : Answer Json := do
  let i ← lift (Identity.make (← r.str "project") (← r.str "name") (← r.strD "job_type" "Toy")
    (← r.strD "extension" "jrk"))
  let saved := { i with jobId := ← r.nat? "job_id" }
  pure (Json.mkObj [("identity", saved.toJson), ("label", .str saved.label), ("unsaved_label", .str i.label)])

/-- `server`: settings read from JSON, whether they are valid, and which codes they accept. -/
def server (r : Request) : Answer Json := do
  let s ← readJson ServerConfig.read ((r.get? "server").getD (Json.obj []))
  let codes ← r.list "codes"
  let valid := match s.validate with
    | .ok () => Json.bool true
    | .error e => (Fault.job e).toJson
  let accepts := codes.map (fun c => match c.int? with
    | some i => Json.bool (s.accepts i)
    | none => .bool false)
  pure (Json.mkObj [("server", s.toJson), ("valid", valid), ("accepts", .arr accepts)])

/-- `failure`: a failure read from JSON, its summary and text, and the error that reports it. -/
def failure (r : Request) : Answer Json := do
  let f ← readJson Failure.read (← r.need "failure")
  let id := (← r.nat? "job_id").getD 1
  pure (Json.mkObj [("summary", .str f.summary), ("display", .str f.text), ("serde", f.toJson),
    ("error", (Fault.job (.execution id f)).toJson)])

/-- The classification of an error. -/
def errorInfo (e : JobError) : Json :=
  Json.mkObj [("kind", .str e.kind.name), ("retryable", .bool e.isRetryable), ("display", .str e.text),
    ("variant", .str e.variant), ("failure", match e.failure? with | some f => f.toJson | none => .null)]

/-- `error`: builds an error of the given kind and classifies it; `yaml` reads a YAML
configuration to obtain a YAML error. -/
def error (yaml : String → Option JobError) (r : Request) : Answer Json := do
  let kind ← r.str "kind"
  let msg ← r.strD "message" ""
  let e : JobError ← match kind with
    | "Configuration" => pure (.configuration msg)
    | "Conflict" => pure (.conflict msg)
    | "NotFound" => pure (.notFound msg)
    | "Internal" => pure (.internal msg)
    | "Queue" => pure (.queue msg)
    | "Cancelled" => pure (.cancelled msg)
    | "Other" => pure (.other msg)
    | "Io" => pure (.io msg)
    | "Storage" => pure (.storage (.unsupported msg))
    | "Index" => pure (.index (.protocol msg))
    | "IndexRowNotFound" => pure (.index .rowNotFound)
    | "Json" =>
      match Json.parse msg with
      | .error e => pure (.json e)
      | .ok _ => bad "json text parsed"
    | "Yaml" =>
      match yaml msg with
      | some e => pure e
      | none => bad "message is a valid configuration"
    | "InvalidTransition" => do
      let src ← lift (parseStatus (← r.str "from"))
      let dst ← lift (parseStatus (← r.str "to"))
      pure (.invalidTransition msg src dst)
    | "Timeout" => do
      -- the nanoseconds are taken as a 32-bit count, wrapping
      pure (.timeout msg (Duration.make (← r.nat "secs") ((← r.nat "nanos") % Nat.pow 2 32)))
    | "Execution" => do
      let f ← readJson Failure.read (← r.need "failure")
      pure (.execution (← r.nat "job_id") f)
    | other => bad s!"unknown kind {other}"
  pure (errorInfo e)

end JobFlow.Service
