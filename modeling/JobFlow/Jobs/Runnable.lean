import JobFlow.Disk
import JobFlow.Server
import JobFlow.Json.Read
import JobFlow.Schema.Meta

/-!
# What a job runs

A job type runs a function of its input, an external command in its working directory, or
nothing of its own when it is a master of other jobs.
-/

namespace JobFlow

/-- Why a job function gave no result: an error with its text, or a panic. -/
inductive BodyFault where
  | error (msg : String)
  | panic (msg : String)
  deriving DecidableEq, Inhabited, Repr

/-- A function job's body: the job's input to its result. -/
abbrev JobFunction := List (String × Json) → Except BodyFault Json

/-- Reads a command's results from its working directory. -/
abbrev Collector := Disk → String → Except String Json

/-- An external command given by a template. -/
structure ScriptJob where
  template : String
  collector : Option Collector := none
  deriving Inhabited

/-- What a job type runs. -/
inductive JobBody where
  | function (f : JobFunction)
  | executable (s : ScriptJob)
  | master

namespace JobBody

/-- The name of the body's kind. -/
def kindName : JobBody → String
  | .function _ => "Function"
  | .executable _ => "Executable"
  | .master => "Master"

end JobBody

instance : Inhabited JobBody := ⟨.master⟩

/-- Everything known about a job type. -/
structure Runnable where
  body : JobBody
  inputSchema : Option Json := none
  defaultInput : List (String × Json) := []
  version : String := "0.1.0"
  deriving Inhabited

namespace Runnable

/-- A master type. -/
def master : Runnable := { body := .master }

/-- A function type. -/
def function (f : JobFunction) : Runnable := { body := .function f }

/-- A command type. -/
def executable (s : ScriptJob) : Runnable := { body := .executable s }

/-- The type with a default input; only an object is taken. -/
def withDefaultInput (r : Runnable) (v : Json) : Runnable :=
  match v with
  | .obj fields => { r with defaultInput := fields }
  | _ => r

/-- Whether the type is a master. -/
def isMaster (r : Runnable) : Bool :=
  match r.body with
  | .master => true
  | _ => false

/-- The type with a schema for its input. -/
def withInputSchema (r : Runnable) (schema : Json) : Runnable := { r with inputSchema := some schema }

/-- Checks an input against the type's schema: a schema that cannot be used, or the first
constraint the input breaks, refuses it; a type without a schema takes any input. -/
def validateInput (r : Runnable) (jobName : String) (input : List (String × Json)) : Outcome Unit :=
  match r.inputSchema with
  | none => pure ()
  | some schema =>
    match Schema.compileFault schema with
    | some e => throw (.configuration s!"Failed to compile input schema: {e}")
    | none =>
      match Schema.firstFault schema (.obj input) with
      | some e => throw (.configuration s!"Invalid input for job {jobName}: {e}")
      | none => pure ()

end Runnable

/-- The characters the text of a command may be blank of. -/
def isBlankChar (c : Char) : Bool :=
  c = ' ' ∨ c = '\t' ∨ c = '\n' ∨ c = '\x0B' ∨ c = '\x0C' ∨ c = '\r' ∨ c.toNat = 0x85 ∨
    c.toNat = 0xA0 ∨ c.toNat = 0x1680 ∨ (0x2000 ≤ c.toNat ∧ c.toNat ≤ 0x200A) ∨
    c.toNat = 0x2028 ∨ c.toNat = 0x2029 ∨ c.toNat = 0x202F ∨ c.toNat = 0x205F ∨ c.toNat = 0x3000

namespace ScriptJob

/-- The file a command leaves its results in. -/
def outputFile : String := "output.json"

/-- The command for a job with the given server settings. -/
def command (s : ScriptJob) (server : ServerConfig) : Outcome String :=
  if s.template.all isBlankChar then throw (.configuration "executable job has an empty command")
  else
    let gpus := server.gpus.getD 0
    pure (((s.template.replace "{cores}" (toString server.cores)).replace "{threads}"
      (toString server.threads)).replace "{gpus}" (toString gpus))

/-- Reads a UTF-8 text file as a string. -/
def readText (d : Disk) (p : String) : Except String String :=
  match d.readFile (Disk.locate p) with
  | .error e => throw e.text
  | .ok data =>
    match String.fromUTF8? data with
    | some s => pure s
    | none => throw "stream did not contain valid UTF-8"

/-- The results a command left: the JSON of `output.json`, or `{}` without that file. -/
def defaultCollect (d : Disk) (wd : String) : Except String Json := do
  let p := Path.join wd outputFile
  if !d.exists? (Disk.locate p) then return .obj []
  let text ← readText d p
  match Json.parse text with
  | .ok v => pure v
  | .error e => throw e.text

/-- The results of a command, read by its own collector if it has one. -/
def collect (s : ScriptJob) (d : Disk) (wd : String) : Except String Json :=
  match s.collector with
  | some c => c d wd
  | none => defaultCollect d wd

end ScriptJob

namespace InputFiles

/-- Whether a file name is relative and never climbs out of its directory. -/
def staysInside (name : String) : Bool :=
  !name.isEmpty ∧ (Path.parts name).all (fun
    | .normal _ => true
    | .current => true
    | _ => false)

/-- Checks that an input file name stays inside the working directory. -/
def checkName (name : String) : Except String Unit :=
  if staysInside name then pure ()
  else throw s!"input file name '{name}' must stay inside the working directory"

/-- The text of a file to create: a string as it is, a list as its lines joined, any other
value as its JSON. -/
def content : Json → String
  | .str s => s
  | .arr lines => String.join (lines.map (fun l => match l with
    | .str s => s
    | other => other.compact))
  | other => other.compact

/-- Makes the parent directory of a target file. -/
def makeParent (d : Disk) (target : String) : Except String Disk :=
  match Path.parent? target with
  | some p => (d.createDirAll (Disk.locate p)).mapError OsError.text
  | none => pure d

/-- Writes one file to create; the disk keeps what was made before a failure. -/
def create (wd : String) (d : Disk) (entry : String × Json) : Disk × Except String Unit :=
  match checkName entry.1 with
  | .error m => (d, .error m)
  | .ok () =>
    let target := Path.join wd entry.1
    match makeParent d target with
    | .error m => (d, .error m)
    | .ok d =>
      match d.writePath target (content entry.2).toUTF8 with
      | .ok d => (d, .ok ())
      | .error e => (d, .error e.text)

/-- Copies one file to copy; the disk keeps what was made before a failure. -/
def copy (wd : String) (d : Disk) (entry : String × Json) : Disk × Except String Unit :=
  match entry.2 with
  | .str source =>
    match checkName entry.1 with
    | .error m => (d, .error m)
    | .ok () =>
      let target := Path.join wd entry.1
      match makeParent d target with
      | .error m => (d, .error m)
      | .ok d =>
        match d.copyToPath (Disk.locate source) target with
        | .ok (d, _) => (d, .ok ())
        | .error e => (d, .error s!"failed to copy {source} to {target}: {e.text}")
  | _ => (d, .error s!"source of '{entry.1}' must be a path string")

/-- Writes files in order until one fails. -/
def each (put : Disk → String × Json → Disk × Except String Unit) (d : Disk)
    (files : List (String × Json)) : Disk × Except String Unit :=
  files.foldl (fun st entry =>
    match st.2 with
    | .error _ => st
    | .ok () => put st.1 entry) (d, .ok ())

/-- Writes an input's files into a working directory: first every file to create, then
every file to copy, each in name order, stopping at the first failure. -/
def write (input : List (String × Json)) (wd : String) (d : Disk) : Disk × Except String Unit :=
  let created := match input.lookup "files_to_create" with
    | some (.obj files) => each (create wd) d files
    | _ => (d, .ok ())
  match created.2 with
  | .error _ => created
  | .ok () =>
    match input.lookup "files_to_copy" with
    | some (.obj files) => each (copy wd) created.1 files
    | _ => created

end InputFiles

end JobFlow
