import JobFlow.Service.Basic
import JobFlow.Service.Files
import JobFlow.Record.Path
import JobFlow.Master.Aggregate
import JobFlow.Jobs.Registry
import JobFlow.Utf8
import JobFlow.Wrapper.Args
import JobFlow.System.Command

/-!
# Requests on record paths, aggregation, job types and working-directory files

The requests that exercise one helper each: the record path rules, the tree view of a JSON
object, a master's status from its children's, the registry of job types, the command and
results of a script job, the files an input asks for, and the tail of a log.
-/

namespace JobFlow.Service

/-- `normalize_path`: the normal form of a record path. -/
def normalizePath (r : Request) : Answer Json := do
  pure (.str (← lift (RecordPath.normalize (← r.str "path"))))

/-- `validate_segment`: whether a text is a record path segment. -/
def validateSegment (r : Request) : Answer Json := do
  lift (RecordPath.validateSegment (← r.str "segment"))
  pure (Json.mkObj [("ok", .bool true)])

/-- `split_path`: a record path's parent and last segment. -/
def splitPath (r : Request) : Answer Json := do
  match RecordPath.split? (← r.str "path") with
  | some (a, b) => pure (.ofStrings [a, b])
  | none => pure .null

/-- `join_path`: a name below a record path. -/
def joinPath (r : Request) : Answer Json := do
  pure (.str (RecordPath.join (← r.str "parent") (← r.str "name")))

/-- `format_compat`: whether a record format version can be read. -/
def formatCompat (r : Request) : Answer Json := do
  pure (.bool (RecordPath.compatible (← r.str "version")))

/-- `map_tree`: a JSON object seen as a tree. -/
def mapTree (r : Request) : Answer Json := do
  let fields ← match ← r.need "value" with
    | .obj fields => pure fields
    | _ => bad "value must be an object"
  let name ← r.strD "name" ""
  let (nodes, groups) := Json.partition fields
  let child := stepJson (lift (Json.child fields name))
  pure (Json.mkObj [("nodes", .ofStrings nodes), ("groups", .ofStrings groups),
    ("contains", .bool (nodes.contains name || groups.contains name)), ("child", child)])

/-- `aggregate`: a master's status from its children's. -/
def aggregate (r : Request) : Answer Json := do
  let policy ← match r.get? "policy" with
    | some v => readJson AggregatePolicy.read v
    | none => pure .collectAll
  let children ← readJson (Doc.readList Status.read) (← r.need "children")
  pure (.str (aggregateStatus policy children).name)

/-- `children_report`: children grouped by outcome. -/
def childrenReport (r : Request) : Answer Json := do
  let rows ← (← r.list "children").mapM (fun row => do
    match row with
    | .arr [.num (.nat id), st] => pure (id, ← readJson Status.read st)
    | _ => bad "children must be [id, status] pairs")
  pure (ChildrenReport.ofRows rows).toJson

/-- The runnable a registration step asks for. -/
def bodyOf (s : Request) : Answer Runnable := do
  let base ← match ← s.strD "body" "function" with
    | "function" => pure (Runnable.function (fun _ => pure .null))
    | "master" => pure Runnable.master
    | "executable" => pure (Runnable.executable { template := "true" })
    | other => bad s!"unknown body {other}"
  match ← s.str? "version" with
  | some v => pure { base with version := v }
  | none => pure base

/-- One step on a registry. -/
def registryStep (reg : Registry) (s : Request) : Registry × Answer Json :=
  let run : Answer (Registry × Json) := do
    match ← s.str "do" with
    | "register" =>
      let reg' ← lift (reg.register (← s.str "module") (← s.str "class") (← bodyOf s) (← s.boolD "overwrite" false))
      pure (reg', .str "ok")
    | "unregister" =>
      let (reg', had) := reg.unregister (← s.str "class")
      pure (reg', .bool had)
    | "lookup" =>
      let run ← lift (reg.lookup (← s.str "name"))
      pure (reg, Json.mkObj [("body", .str run.body.kindName), ("version", .str run.version),
        ("is_master", .bool run.isMaster)])
    | "qualified_name" => pure (reg, .str (← lift (reg.qualifiedName (← s.str "class"))))
    | "contains" => pure (reg, .bool (reg.contains (← s.str "class")))
    | "list" => pure (reg, .ofStrings reg.names)
    | other => bad s!"unknown step {other}"
  match run with
  | .ok (reg', v) => (reg', .ok v)
  | .error e => (reg, .error e)

/-- `registry`: steps on a fresh registry. -/
def registry (r : Request) : Answer Json := do
  pure (.arr (runSteps registryStep {} (← r.list "steps")).2)

/-- `script_command`: the command of a script job. -/
def scriptCommand (r : Request) : Answer Json := do
  let server ← match r.get? "server" with
    | some v => readJson ServerConfig.read v
    | none => pure {}
  pure (.str (← lift (ScriptJob.command { template := ← r.str "template" } server)))

/-- The working directory of the file requests. -/
def workDir : String := root ++ "/wd"

/-- Makes the working directory of the file requests. -/
def makeWorkDir (d : Disk) : Disk :=
  match d.createDirAll (Disk.locate workDir) with
  | .ok d => d
  | .error _ => d

/-- The files member of a request, as path and content pairs. -/
def filesOf (r : Request) (k : String) : Answer (List (String × Json)) :=
  match r.get? k with
  | none | some .null => pure []
  | some (.obj fields) => pure fields
  | some _ => bad s!"field {k} must be an object"

/-- `script_collect`: the results a script job reads from its working directory. -/
def scriptCollect (r : Request) : Answer Json := do
  let d ← writeFiles (makeWorkDir rootDisk) workDir (← filesOf r "files")
  match ScriptJob.defaultCollect d workDir with
  | .ok v => pure v
  | .error m => throw (.chain m)

/-- `default_input`: a master type given a default input and a version. -/
def defaultInput (r : Request) : Answer Json := do
  let base := Runnable.master.withDefaultInput (← r.need "value")
  let run := match r.get? "version" with
    | some (.str v) => { base with version := v }
    | _ => base
  pure (Json.mkObj [("default_input", .obj run.defaultInput), ("version", .str run.version),
    ("is_master", .bool run.isMaster)])

/-- `cli_parse`: the wrapper's command line read from its words. -/
def cliParse (r : Request) : Answer Json := do
  let words ← (← r.list "args").mapM (fun w =>
    match w with
    | .str s => pure s
    | _ => bad "args must be strings")
  match Wrapper.parse words with
  | .ok a => pure a.toJson
  | .error e => throw (.args e.kind.name e.message)

/-- `validate_input`: an input checked against a schema by a function type. -/
def validateInput (r : Request) : Answer Json := do
  let input ← match ← r.need "input" with
    | .obj fields => pure fields
    | _ => bad "input must be an object"
  let base := Runnable.function (fun _ => .ok .null)
  let run := match r.get? "schema" with
    | some s => base.withInputSchema s
    | none => base
  lift (run.validateInput (← r.strD "job_name" "toy") input)
  pure (Json.mkObj [("ok", .bool true)])

/-- `write_input`: the files an input asks for, written into a fresh working directory. -/
def writeInput (r : Request) : Answer Json := do
  let input ← match ← r.need "input" with
    | .obj fields => pure fields
    | _ => bad "input must be an object"
  let d ← writeFiles rootDisk root (← filesOf r "sources")
  let d := makeWorkDir d
  let (d, written) := InputFiles.write input workDir d
  let result := match written with
    | .ok () => Json.str "ok"
    | .error m => (Fault.chain m).toJson
  pure (Json.mkObj [("result", result), ("files", listing d workDir)])

/-- `read_tail`: the tail of a log file. -/
def readTailOp (r : Request) : Answer Json := do
  let p := root ++ "/stderr.log"
  let d ← match r.get? "content" with
    | some v => writeFiles rootDisk root [("stderr.log", v)]
    | none => pure rootDisk
  pure (Json.ofOptString (readTail d p (← r.nat "max_bytes")))

end JobFlow.Service
