import JobFlow.Service.Settings
import JobFlow.Service.Tools
import JobFlow.Service.Records
import JobFlow.Service.Archives
import JobFlow.Service.Indexes
import JobFlow.Service.Steps

/-!
# Answering a request line

A request line is a JSON object naming its operation in `op`.
-/

namespace JobFlow.Service

mutual
/-- Replaces every `{"repeat": unit, "times": n}` object by the repeated text. -/
def expand : Json → Json
  | .obj [("repeat", .str u), ("times", .num (.nat n))] => .str (String.join (List.replicate n u))
  | .obj fields => .obj (expandFields fields)
  | .arr items => .arr (expandItems items)
  | v => v
/-- `expand` on every item. -/
def expandItems : List Json → List Json
  | [] => []
  | x :: xs => expand x :: expandItems xs
/-- `expand` on every member value. -/
def expandFields : List (String × Json) → List (String × Json)
  | [] => []
  | (k, v) :: rest => (k, expand v) :: expandFields rest
end

/-- The answer to one request. -/
def dispatch (r : Request) : Answer Json := do
  match ← r.str "op" with
  | "status_info" => statusInfo r
  | "status_serde" => statusSerde r
  | "check_transition" => checkTransition r
  | "run_mode" => runMode r
  | "run_mode_serde" => runModeSerde r
  | "job_name" => jobName r
  | "identity" => identity r
  | "server" => server r
  | "failure" => failure r
  | "error" => error (fun t => match yamlConfig t with
      | .error e => some e
      | .ok _ => none) r
  | "config_load" => configLoad r
  | "validate_input" => validateInput r
  | "cli_parse" => cliParse r
  | "config_json" => configJson r
  | "config_preset" => configPreset r
  | "config_builder" => configBuilder r
  | "limits_validate" => limitsValidate r
  | "limits_check" => limitsCheck r
  | "resolve_queue" => resolveQueue r
  | "build_request" => buildRequest r
  | "wrapper_command_line" => wrapperCommand r
  | "render_script" => renderScriptOp r
  | "shell_quote" => shellQuoteOp r
  | "queue_state" => queueState r
  | "normalize_path" => normalizePath r
  | "validate_segment" => validateSegment r
  | "split_path" => splitPath r
  | "join_path" => joinPath r
  | "format_compat" => formatCompat r
  | "map_tree" => mapTree r
  | "aggregate" => aggregate r
  | "children_report" => childrenReport r
  | "registry" => registry r
  | "script_command" => scriptCommand r
  | "script_collect" => scriptCollect r
  | "default_input" => defaultInput r
  | "write_input" => writeInput r
  | "read_tail" => readTailOp r
  | "record" => recordOp r
  | "archive" => archiveOp r
  | "index" => indexOp r
  | "system" => systemOp r
  | other => bad s!"unknown op {other}"

/-- The answer line to one request line. -/
def respond (line : String) : String :=
  match Json.parse line with
  | .error e => (Json.mkObj [("error", .str "BadJson"), ("message", .str e.text)]).compact
  | .ok v =>
    match v with
    | .obj _ => (answerJson (dispatch (expand v))).compact
    | _ => (Json.mkObj [("error", .str "BadInput"), ("message", .str "request must be an object")]).compact

end JobFlow.Service
