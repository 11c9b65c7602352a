import JobFlow.Error
import JobFlow.Server
import JobFlow.Doc.Read
import JobFlow.Path

/-!
# The layout of a job record

A job record keeps its bookkeeping under `generic`: the job's id, name, class and qualified
type name, the version of its type, its status, its server settings, its master and, once it
was aborted, its failure.
-/

/-! ### Job names and identities

A job is known by its name within a project directory.
-/

namespace JobFlow

/-- Whether a character may stand in a job name. -/
def nameChar (c : Char) : Bool := c.isAlphanum || c = '_' || c = '-'

/-- Checks a job name, naming the first rule it breaks. -/
def validateJobName (name : String) : Outcome Unit := do
  if name.isEmpty then throw (.configuration "job name must not be empty")
  if name.startsWith "." ∨ name.startsWith "-" then
    throw (.configuration s!"job name '{name}' must start with a letter, digit or underscore")
  match name.toList.find? (fun c => !nameChar c) with
  | some c => throw (.configuration s!"job name '{name}' contains invalid character '{c}'")
  | none => pure ()

/-- Where a job lives and what it is called. -/
structure Identity where
  jobId : Option Nat := none
  jobName : String
  jobType : String
  project : String
  workingDirectory : String
  storagePath : String
  deriving DecidableEq, Inhabited, Repr

namespace Identity

/-- The identity of a new job `name` of type `type` in `project`, its record named with
`extension`. -/
def make (project name type extension : String) : Outcome Identity := do
  validateJobName name
  pure { jobName := name, jobType := type, project,
         workingDirectory := Path.join project (name ++ "_files"),
         storagePath := Path.join project (name ++ "." ++ extension) }

/-- The name, with the id once there is one: `toy (id 3)`. -/
def label (i : Identity) : String :=
  match i.jobId with
  | some id => s!"{i.jobName} (id {id})"
  | none => i.jobName

/-- The identity as a JSON object. -/
def toJson (i : Identity) : Json :=
  Json.mkObj [("job_id", .ofOptNat i.jobId), ("job_name", .str i.jobName), ("job_type", .str i.jobType),
    ("project", .str i.project), ("working_directory", .str i.workingDirectory),
    ("storage_path", .str i.storagePath)]

end Identity

end JobFlow


namespace JobFlow

namespace Status

/-- Reads a status written as its name. -/
def read (path : String) (d : Doc) : DocRead Status := do
  let i ← Doc.readVariant (Status.all.map Status.name) path d
  pure (Status.all.getD i .initialized)

/-- Checks a move between statuses, naming the job in the error. -/
def check (src dst : Status) (job : String) : Outcome Unit :=
  if src.canMove dst then pure () else throw (.invalidTransition job src dst)

end Status

/-- Reads a typed value out of a JSON value; a value of the wrong shape is a JSON error. -/
def readValue {α : Type} (r : String → Doc → DocRead α) (v : Json) : Outcome α :=
  match r "." (Doc.ofJson v) with
  | .ok a => pure a
  | .error e => throw (.json ⟨e.message, none⟩)

namespace Layout

/-- The group of the bookkeeping. -/
def generic : String := "generic"

/-- The status. -/
def status : String := "generic/status"

/-- The failure of an aborted job. -/
def failure : String := "generic/failure"

/-- The server settings. -/
def server : String := "generic/server"

/-- The id of the master. -/
def masterId : String := "generic/master_id"

/-- The input. -/
def input : String := "input"

/-- The output. -/
def output : String := "output"

end Layout

/-- The bookkeeping a record keeps under `generic`. -/
structure GenericRecord where
  jobId : Nat
  jobName : String
  jobType : String
  typePath : String
  version : String
  status : Status
  server : ServerConfig
  masterId : Option Nat := none
  failure : Option Failure := none
  deriving Inhabited

namespace GenericRecord

/-- The bookkeeping as a JSON object; a missing failure is left out. -/
def toJson (g : GenericRecord) : Json :=
  let base := [("job_id", Json.ofNat g.jobId), ("job_name", .str g.jobName), ("job_type", .str g.jobType),
    ("type_path", .str g.typePath), ("version", .str g.version), ("status", .str g.status.name),
    ("server", g.server.toJson), ("master_id", .ofOptNat g.masterId)]
  match g.failure with
  | some f => Json.mkObj (base ++ [("failure", f.toJson)])
  | none => Json.mkObj base

/-- The members of the bookkeeping, in declaration order. -/
def fieldNames : List String :=
  ["job_id", "job_name", "job_type", "type_path", "version", "status", "server", "master_id", "failure"]

/-- The members read so far. -/
structure Partial where
  jobId : Option Nat := none
  jobName : Option String := none
  jobType : Option String := none
  typePath : Option String := none
  version : Option String := none
  status : Option Status := none
  server : Option ServerConfig := none
  masterId : Option Nat := none
  failure : Option Failure := none

/-- A member that must be present. -/
def needField {α : Type} (path : String) (d : Doc) (name : String) : Option α → DocRead α
  | some a => pure a
  | none => Doc.fail path d s!"missing field `{name}`"

/-- Reads the bookkeeping; every member but the master and the failure must be present. -/
def read (path : String) (d : Doc) : DocRead GenericRecord := do
  let p ← Doc.readStruct "GenericRecord" fieldNames ({} : Partial) (fun acc k p v =>
    match k with
    | "job_id" => return { acc with jobId := some (← Doc.readU64 p v) }
    | "job_name" => return { acc with jobName := some (← Doc.readString p v) }
    | "job_type" => return { acc with jobType := some (← Doc.readString p v) }
    | "type_path" => return { acc with typePath := some (← Doc.readString p v) }
    | "version" => return { acc with version := some (← Doc.readString p v) }
    | "status" => return { acc with status := some (← Status.read p v) }
    | "server" => return { acc with server := some (← ServerConfig.read p v) }
    | "master_id" => return { acc with masterId := ← Doc.readOption Doc.readU64 p v }
    | "failure" => return { acc with failure := ← Doc.readOption Failure.read p v }
    | _ => pure acc) path d
  pure { jobId := ← needField path d "job_id" p.jobId
         jobName := ← needField path d "job_name" p.jobName
         jobType := ← needField path d "job_type" p.jobType
         typePath := ← needField path d "type_path" p.typePath
         version := ← needField path d "version" p.version
         status := ← needField path d "status" p.status
         server := ← needField path d "server" p.server
         masterId := p.masterId
         failure := p.failure }

end GenericRecord

end JobFlow
