import JobFlow.System.Context
import JobFlow.Shell.Eval
import JobFlow.Utf8

/-!
# Running a job's command

A command runs in the job's working directory, which is made first, after the input's files
were written into it.
-/

/-! ### Running a command line

A job's command line runs as `sh -c line` does, started with the job's environment in the job's
directory: standard input is the null device, and standard output and error go to the two log
files from their start.
-/

namespace JobFlow.Shell

/-- How the shell of a command line ended: with a status, or killed by a signal. -/
inductive Exit where
  | status (code : Nat)
  | signal (sig : Nat)
  deriving Inhabited, Repr

/-- The status a shell would see for the line. -/
def Exit.code : Exit → Nat
  | .status n => n
  | .signal k => 128 + k

/-- The levels of fuel a command line gets. -/
def lineFuel : Nat := 50000

/-- Runs a command line as `sh -c` does, in a directory, with environment variables, its
standard output and error written to two files. -/
def runLine (disk : Disk) (cwd : String) (env : List (String × String)) (stdout stderr : String)
    (text : String) : Disk × Exit :=
  let world : World :=
    { disk := disk,
      channels := #[.null, .file (Disk.locate stdout) 0 false true false,
        .file (Disk.locate stderr) 0 false true false] }
  let starter : Proc :=
    { pid := 0, shellPid := 0, parentPid := 0, name := "sh", cwd := cwd,
      fds := [(0, 0), (1, 1), (2, 2)] }
  let run : Sh Ending := (Evaluator.ofFuel lineFuel).runShell "sh" ["-c", text] env
  let (r, m) := (run.run).run { world := world, proc := starter }
  let ending := match r with
    | .ok e => e
    | .error (.signal k) => .killed k
    | .error (.exit n) => .exited n
    | .error (.replaced n) => .exited n
    | .error .fault => .exited 2
  (m.world.disk, match ending with
    | .exited n => .status n
    | .killed k => .signal k)

end JobFlow.Shell


namespace JobFlow

/-- The file a command's standard output goes to. -/
def stdoutFile : String := "stdout.log"

/-- The file a command's standard error goes to. -/
def stderrFile : String := "stderr.log"

/-- The last `max` bytes of a file as text, or `none` when the file is missing or those
bytes are none. -/
def readTail (d : Disk) (p : String) (max : Nat) : Option String :=
  match d.readFile (Disk.locate p) with
  | .ok data =>
    let tail := data.extract (data.size - max) data.size
    if tail.size = 0 then none else some (Utf8.lossy tail)
  | .error _ => none

/-- A failure with a reason and a message only. -/
def Failure.plain (reason : FailureReason) (message : String) : Failure := ⟨reason, message, none, none⟩

/-- The variables a command sees: those of the service's own environment, a home directory and
the standard search path, then the job's. -/
def commandEnv (c : JobContext) (server : ServerConfig) (wd : String) : List (String × String) :=
  [("HOME", "/root"), ("PATH", "/usr/local/sbin:/usr/local/bin:/usr/sbin:/usr/bin:/sbin:/bin"),
    ("JOBRACK_CORES", toString server.cores), ("JOBRACK_THREADS", toString server.threads),
    ("JOBRACK_GPUS", toString (server.gpus.getD 0)), ("JOBRACK_JOB_ID", toString c.jobId),
    ("JOBRACK_WORKING_DIRECTORY", wd)]

/-- Empties a log file before a command writes to it. -/
def openLog (wd name : String) : Sys (Except OsError Unit) := do
  match (← Sys.disk).writeFile (Disk.locate (Path.join wd name)) .empty with
  | .ok d =>
    Sys.setDisk d
    pure (.ok ())
  | .error e => pure (.error e)

/-- Writes the input files and runs a job's command in its working directory; a failure
of the job is the value. -/
def runExecutable (c : JobContext) (s : ScriptJob) (input : List (String × Json))
    (server : ServerConfig) (wd : String) : Sys (Except Failure Unit) := do
  match (← Sys.disk).createDirAll (Disk.locate wd) with
  | .error e => return .error (.plain .writeInputFailed s!"cannot create {wd}: {e.text}")
  | .ok d => Sys.setDisk d
  let (d, written) := InputFiles.write input wd (← Sys.disk)
  Sys.setDisk d
  if let .error m := written then return .error (.plain .writeInputFailed m)
  let line ← match s.command server with
    | .ok line => pure line
    | .error e => return .error (.plain .spawnFailed e.text)
  if let .error e ← openLog wd stdoutFile then
    return .error (.plain .spawnFailed s!"cannot create stdout file: {e.text}")
  if let .error e ← openLog wd stderrFile then
    return .error (.plain .spawnFailed s!"cannot create stderr file: {e.text}")
  let (d, ending) := Shell.runLine (← Sys.disk) wd (commandEnv c server wd)
    (Path.join wd stdoutFile) (Path.join wd stderrFile) line
  Sys.setDisk d
  let code : Option Int := match ending with
    | .signal _ => none
    | other => some other.code
  if let some k := code then
    if server.accepts k then return .ok ()
  let tail := readTail (← Sys.disk) (Path.join wd stderrFile) (← Sys.config).execution.stderrTailBytes
  let message := match code with
    | some k => s!"command exited with code {k}"
    | none => "command was terminated by a signal"
  return .error ⟨.nonZeroExit, message, some (code.getD (-1)), tail⟩

end JobFlow
