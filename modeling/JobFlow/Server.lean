import JobFlow.Error
import JobFlow.Doc.Read

/-!
# Run modes and server settings

How a job is executed (blocking, in the background, through a queue, or only prepared), and
the resources it asks for.
-/

namespace JobFlow

/-- How a created job is executed. -/
inductive RunMode where
  | modal
  | nonModal
  | queue
  | manual
  deriving DecidableEq, Inhabited, Repr

namespace RunMode

/-- Every run mode, in declaration order. -/
def all : List RunMode := [.modal, .nonModal, .queue, .manual]

/-- The written name of a run mode. -/
def name : RunMode → String
  | .modal => "modal"
  | .nonModal => "non_modal"
  | .queue => "queue"
  | .manual => "manual"

/-- Parses a run mode name; anything else is a configuration error. -/
def parse (s : String) : Outcome RunMode :=
  match all.find? (·.name == s) with
  | some m => pure m
  | none => throw (.configuration s!"unknown run mode '{s}' (expected one of: modal, non_modal, queue, manual)")

/-- Reads a run mode written as its name. -/
def read (path : String) (d : Doc) : DocRead RunMode := do
  let i ← Doc.readVariant (all.map name) path d
  pure (all.getD i .modal)

end RunMode

/-- The execution settings of one job. -/
structure ServerConfig where
  runMode : RunMode := .modal
  queue : Option String := none
  cores : Nat := 1
  threads : Nat := 1
  gpus : Option Nat := none
  runTime : Option Nat := none
  memoryMb : Option Nat := none
  queueId : Option String := none
  acceptedReturnCodes : List Int := []
  additionalArguments : List (String × String) := []
  deriving DecidableEq, Inhabited, Repr

namespace ServerConfig

/-- The first rule the settings break, if any. -/
def validate (s : ServerConfig) : Outcome Unit := do
  if s.cores = 0 then throw (.configuration "cores must be greater than 0")
  if s.threads = 0 then throw (.configuration "threads must be greater than 0")
  if s.runTime = some 0 then throw (.configuration "run_time must be greater than 0")
  if s.queue = some "" then throw (.configuration "queue name must not be empty")

/-- Whether an exit code counts as success. -/
def accepts (s : ServerConfig) (code : Int) : Bool := code == 0 || s.acceptedReturnCodes.contains code

/-- The settings as a JSON object. -/
def toJson (s : ServerConfig) : Json :=
  Json.mkObj [
    ("run_mode", .str s.runMode.name),
    ("queue", .ofOptString s.queue),
    ("cores", .ofNat s.cores),
    ("threads", .ofNat s.threads),
    ("gpus", .ofOptNat s.gpus),
    ("run_time", .ofOptNat s.runTime),
    ("memory_mb", .ofOptNat s.memoryMb),
    ("queue_id", .ofOptString s.queueId),
    ("accepted_return_codes", .arr (s.acceptedReturnCodes.map Json.ofInt)),
    ("additional_arguments", Json.mkObj (s.additionalArguments.map (fun kv => (kv.1, .str kv.2))))]

/-- The member names, in declaration order. -/
def fieldNames : List String :=
  ["run_mode", "queue", "cores", "threads", "gpus", "run_time", "memory_mb", "queue_id",
    "accepted_return_codes", "additional_arguments"]

/-- Reads settings; missing members keep the values of `base`. -/
def readOver (base : ServerConfig) (path : String) (d : Doc) : DocRead ServerConfig :=
  Doc.readStruct "ServerConfig" fieldNames base (fun s k p v =>
    match k with
    | "run_mode" => return { s with runMode := ← RunMode.read p v }
    | "queue" => return { s with queue := ← Doc.readOption Doc.readString p v }
    | "cores" => return { s with cores := ← Doc.readU32 p v }
    | "threads" => return { s with threads := ← Doc.readU32 p v }
    | "gpus" => return { s with gpus := ← Doc.readOption Doc.readU32 p v }
    | "run_time" => return { s with runTime := ← Doc.readOption Doc.readU64 p v }
    | "memory_mb" => return { s with memoryMb := ← Doc.readOption Doc.readU64 p v }
    | "queue_id" => return { s with queueId := ← Doc.readOption Doc.readString p v }
    | "accepted_return_codes" => return { s with acceptedReturnCodes := ← Doc.readList Doc.readI32 p v }
    | "additional_arguments" => return { s with additionalArguments := ← Doc.readMap Doc.readString p v }
    | _ => pure s) path d

/-- Reads settings; missing members take their defaults. -/
def read : String → Doc → DocRead ServerConfig := readOver {}

end ServerConfig

end JobFlow
