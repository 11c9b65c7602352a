import JobFlow.Shell.Builtin
import JobFlow.Shell.Program

/-!
# Processes and commands

How a shell finds what a command name stands for, starts processes and reads how they ended.
-/

namespace JobFlow.Shell

/-- The search path of commands when the environment gives none. -/
def defaultPath : String := "/usr/local/sbin:/usr/local/bin:/usr/sbin:/usr/bin:/sbin:/bin"

/-- What a command name stands for. -/
inductive Target where
  | special
  | function (definition : Node)
  | builtin
  | file (path : String)
  | missing (why : String)
  deriving Inhabited

/-- A child of a process: a copy with a fresh id, its caught signals reset. -/
def Proc.child (p : Proc) (pid : Nat) : Proc :=
  { p with
    pid := pid
    parentPid := p.pid
    ancestry := p.pid :: p.ancestry
    traps := p.traps.filter (·.2.isEmpty)
    depth := p.depth + 1
    lastSubst := none
    jobSlots := 0 }

/-- The variables a new shell starts with: its environment, exported, then the defaults it
lacks, its parent's id and its directory. -/
def startVars (env : List (String × String)) (parent : Nat) (cwd : String) : List (String × Var) :=
  let imported := (env.filter (fun e => isName e.1)).map (fun (k, v) => (k, ({ value := some v, exported := true } : Var)))
  let defaults : List (String × String) :=
    [("IFS", " \t\n"), ("PATH", defaultPath), ("PS1", "# "), ("PS2", "> "), ("PS4", "+ "), ("OPTIND", "1")]
  let extra := defaults.filter (fun d => !imported.any (·.1 = d.1))
  let vars := imported ++ extra.map (fun (k, v) => (k, ({ value := some v } : Var)))
  let vars := vars.filter (fun e => e.1 != "PPID" ∧ e.1 != "PWD")
  vars ++ [("PPID", { value := some (toString parent) }),
           ("PWD", { value := some cwd, exported := true })]

/-- A new shell process: its id, its parent, its name (`$0`), positional parameters,
environment, directory, open descriptors and options. -/
def Proc.start (pid : Nat) (parent : Proc) (name : String) (params : List String)
    (env : List (String × String)) (options : List String) : Proc :=
  { pid := pid
    shellPid := pid
    parentPid := parent.pid
    name := name
    params := params
    vars := startVars env parent.pid parent.cwd
    cwd := parent.cwd
    fds := parent.fds
    options := options
    depth := parent.depth + 1
    ancestry := parent.pid :: parent.ancestry }

/-- What a loop does after its condition or body ran: go on, start the next round, or stop. -/
inductive LoopStep where
  | proceed
  | nextRound
  | leave
  deriving DecidableEq, Inhabited

namespace Sh

/-- Runs a computation, catching the stop that ends it early. -/
def catching (body : Sh Unit) : Sh (Option Stop) :=
  tryCatch (do body; pure none) (fun s => pure (some s))

/-- The status of the last command. -/
def status : Sh Nat := return (← proc).status

/-- Sets the status of the last command. -/
def setStatus (n : Nat) : Sh Unit := modifyProc fun p => { p with status := n }

/-- A fresh process id. -/
def freshPid : Sh Nat := do
  let (w, pid) := (← world).freshPid
  modifyWorld fun _ => w
  return pid

/-- Opens a new file and gives its number. -/
def openChannel (c : Channel) : Sh Nat := do
  let (w, id) := (← world).openChannel c
  modifyWorld fun _ => w
  return id

/-- Searches the directories of a search path for a command name: the first regular file,
or whether something that is not one stood in the way. -/
def searchPath (w : World) (cwd path name : String) : Option String × Bool :=
  let found := (path.splitOn ":").findSome? (fun d =>
    let full := if d.isEmpty then name else d ++ "/" ++ name
    match kindAt w (locateFrom cwd full) with
    | some .file | some .program => some full
    | _ => none)
  let denied := (path.splitOn ":").any (fun d =>
    let full := if d.isEmpty then name else d ++ "/" ++ name
    match kindAt w (locateFrom cwd full) with
    | some .dir | some .device => true
    | _ => false)
  (found, denied)

/-- Finds what a command name stands for; `functions` says whether functions count. -/
def lookup (name : String) (functions : Bool) : Sh Target := do
  let p ← proc
  if name.contains '/' then return .file name
  if specialBuiltins.contains name then return .special
  if functions then
    match p.funcs.lookup name with
    | some d => return .function d
    | none => pure ()
  if regularBuiltins.contains name then return .builtin
  match searchPath (← world) p.cwd ((p.value? "PATH").getD "") name with
  | (some full, _) => return .file full
  | (none, denied) => return .missing (if denied then "Permission denied" else "not found")

/-- Runs a program of the base system on the running process's descriptors: it reads what
standard input has left, and what it writes goes out in order. -/
def runTool (tool : Call → Program Unit) (c : Call) : Sh Nat := do
  let input := (← peekInput 0).getD ""
  let running : Running := { world := ← world, input := input }
  let ((), r) := (tool c).run running
  modifyWorld fun _ => r.world
  consumeInput 0 r.consumed
  for (fd, text) in r.writes.reverse do put fd text
  return r.status

/-- Reports how a child ended on standard error: the name of the signal that killed it, unless
that was an interrupt or a broken pipe. -/
def reportEnding (e : Ending) : Sh Unit :=
  match e with
  | .killed k => if k != 2 ∧ k != 13 then put 2 (signalText k ++ "\n") else pure ()
  | .exited _ => pure ()

/-- Collects the background commands of the running process that have ended, as waiting for
any child does: `wait` no longer reports how they ended, and signals no longer reach them. -/
def reapJobs : Sh Unit := do
  let me := (← proc).pid
  modify fun m => { m with jobs := m.jobs.map (fun (k : Job) =>
    if k.owner = me ∧ k.ending.isSome then { k with reaped := true } else k) }

/-- Takes a slot of the running shell's table of commands for a new one: the first slot that
is free or holds a command that ended and was waited for (which is dropped), else a new slot
of four more. -/
def claimSlot : Sh Nat := do
  let p ← proc
  let mine := (← get).jobs.filter (·.owner = p.pid)
  let free := (List.range p.jobSlots).find? (fun s =>
    match mine.find? (·.slot = s) with
    | none => true
    | some j => j.ending.isSome && j.waited)
  match free with
  | some s =>
    modify fun m => { m with jobs := m.jobs.filter (fun j => !(j.owner = p.pid ∧ j.slot = s)) }
    return s
  | none =>
    setProc { p with jobSlots := p.jobSlots + 4 }
    return p.jobSlots

/-- Signals to a shell that a child of it ended, when it traps that signal; signals of one
kind that wait together are one. -/
def childEnded (pid : Nat) : Sh Unit := do
  let p ← proc
  if p.pid = pid ∧ (p.traps.lookup 17).isSome then
    modifyWorld fun w => if w.pending.contains (pid, 17) then w else { w with pending := w.pending ++ [(pid, 17)] }

/-- Takes the ending of a child waited for in the foreground: reports it, collects the
background commands that ended meanwhile, and makes its status the shell's. -/
def takeEnding (e : Ending) : Sh Unit := do
  reportEnding e
  reapJobs
  setStatus e.status

/-- What a loop does after its condition or body: `break` and `continue` count down the loops
they leave, and `return` leaves them all. -/
def loopStep : Sh LoopStep := do
  let p ← proc
  match p.skip with
  | .none => return .proceed
  | .breaking k =>
    setProc { p with skip := if k ≤ 1 then .none else .breaking (k - 1) }
    return .leave
  | .continuing k =>
    if k ≤ 1 then
      setProc { p with skip := .none }
      return .nextRound
    else
      setProc { p with skip := .continuing (k - 1) }
      return .leave
  | .returning => return .leave

/-- Exits when `errexit` is on and a command that is not tested failed. -/
def checkErrexit (tested : Bool) : Sh Unit := do
  let p ← proc
  if !tested ∧ p.status != 0 ∧ p.hasOption "errexit" ∧ p.skip = .none then throw (.exit p.status)

/-- The line a command starts on as messages show it: inside a function, counted from the
function's first line. -/
def commandLine (p : Proc) (line : Nat) : Nat :=
  if p.funcLine > 0 then line + 1 - p.funcLine else line

/-- Sets the line of the running command. -/
def atLine (line : Nat) : Sh Unit := modifyProc fun p => { p with line := commandLine p line }

/-- Undoes the temporary assignments of a command: each variable gets back what it was. -/
def restoreVars (prior : List (String × Option Var)) : Sh Unit :=
  modifyProc fun p => prior.foldl (fun q (n, v) =>
    match v with
    | some v => q.putVar n v
    | none => q.dropVar n) p

/-- The lines of `xtrace` for a command: the prompt `PS4`, the assignments and the words. -/
def traceLine (words : List String) : Sh String := do
  let ps4 := ((← getVar "PS4")).getD ""
  return ps4 ++ " ".intercalate words ++ "\n"

/-- Writes to a descriptor as it was before redirections changed it. -/
def putBefore (saved : List (Nat × Option Nat)) (fd : Nat) (text : String) : Sh Unit := do
  match saved.lookup fd with
  | some before =>
    let p ← proc
    setProc (p.setFd fd before)
    put fd text
    modifyProc fun q => q.setFd fd (p.channelOf? fd)
  | none => put fd text

end Sh

end JobFlow.Shell
