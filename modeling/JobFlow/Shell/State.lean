import JobFlow.Shell.Syntax
import JobFlow.Utf8
import JobFlow.Disk
import JobFlow.Path

/-!
# The state of running shells

Running a script touches two kinds of state.
-/

/-! ### Byte text

The shell works on bytes, not characters: a length counts bytes, a pattern matches bytes,
and what it writes may hold bytes that are not UTF-8.
-/

namespace JobFlow.Shell.Octets

/-- The byte text of some bytes. -/
def ofBytes (b : ByteArray) : String := String.ofList (b.toList.map (fun x => Char.ofNat x.toNat))

/-- The bytes of a byte text. -/
def toBytes (s : String) : ByteArray := ⟨(s.toList.map (fun c => c.toNat.toUInt8)).toArray⟩

/-- A Unicode text as the byte text of its UTF-8 encoding. -/
def encode (s : String) : String := ofBytes s.toUTF8

/-- A byte text read as UTF-8, each broken sequence replaced by U+FFFD. -/
def decode (s : String) : String := Utf8.lossy (toBytes s)

end JobFlow.Shell.Octets


namespace JobFlow.Shell

/-- An open file: a file of the disk with the offset of the next read or write and how it
was opened, the null device, a pipe holding what was written to it and how much of that was
read, or nothing any more. -/
inductive Channel where
  | file (path : List String) (pos : Nat) (readable writable append : Bool)
  | null
  | pipe (data : String) (pos : Nat)
  | closed
  deriving Inhabited

/-- What all processes share. -/
structure World where
  disk : Disk
  channels : Array Channel := #[]
  nextPid : Nat := 100
  executables : List (List String) := []
  pending : List (Nat × Nat) := []
  clock : Nat := 0
  deriving Inhabited

/-- A shell variable: its value, if set, and whether it is exported or read-only. -/
structure Var where
  value : Option String
  exported : Bool := false
  readOnly : Bool := false
  deriving Inhabited

/-- Evaluation skipping the rest of some enclosing commands: leaving `n` loops, going on with
the `n`-th enclosing loop, or leaving the function or script. -/
inductive Skip where
  | none
  | breaking (n : Nat)
  | continuing (n : Nat)
  | returning
  deriving DecidableEq, Inhabited, Repr

/-- One shell process. -/
structure Proc where
  pid : Nat
  shellPid : Nat
  parentPid : Nat
  name : String
  params : List String := []
  vars : List (String × Var) := []
  funcs : List (String × Node) := []
  traps : List (Nat × String) := []
  status : Nat := 0
  lastBackground : Option Nat := none
  cwd : String
  fds : List (Nat × Nat) := []
  options : List String := []
  loopDepth : Nat := 0
  funcLine : Nat := 0
  funcDepth : Nat := 0
  line : Nat := 1
  skip : Skip := .none
  locals : List (List (String × Option Var)) := []
  commandName : Option String := none
  depth : Nat := 0
  ancestry : List Nat := []
  lastSubst : Option Nat := none
  parseLine : Nat := 1
  jobSlots : Nat := 0
  deriving Inhabited

/-- Why a computation of a shell stopped early: the process exits with a status, dies of a
signal, is replaced by a program that ended with a status, or meets a fault of its own (a syntax
error, an error of a special built-in or of an expansion), which ends it with status 2 unless
it arose in a built-in that `command` ran. -/
inductive Stop where
  | exit (status : Nat)
  | signal (sig : Nat)
  | replaced (status : Nat)
  | fault
  deriving Inhabited, Repr

/-- How a process ended: it exited with a status or was killed by a signal. -/
inductive Ending where
  | exited (status : Nat)
  | killed (sig : Nat)
  deriving DecidableEq, Inhabited, Repr

/-- The status a shell sees for a process that ended: a signal's number above 128. -/
def Ending.status : Ending → Nat
  | .exited n => n
  | .killed k => 128 + k

/-- A command started in the background: its process id, the process that started it, the
process as it was when started, the command, and how it ended once it has run. -/
structure Job where
  pid : Nat
  owner : Nat
  proc : Proc
  node : Node
  ending : Option Ending := none
  reaped : Bool := false
  waited : Bool := false
  start : Nat := 0
  finish : Nat := 0
  slot : Nat := 0
  deriving Inhabited

/-- The world, the running process, and the background commands of all processes. -/
structure Machine where
  world : World
  proc : Proc
  jobs : List Job := []
  deriving Inhabited

/-- A computation of a running shell. -/
abbrev Sh := ExceptT Stop (StateM Machine)

/-- The options with their names and letters, in the order `set -o` lists them. -/
def optionTable : List (String × Option Char) :=
  [("errexit", some 'e'), ("noglob", some 'f'), ("ignoreeof", some 'I'), ("interactive", some 'i'),
   ("monitor", some 'm'), ("noexec", some 'n'), ("stdin", some 's'), ("xtrace", some 'x'),
   ("verbose", some 'v'), ("vi", some 'V'), ("emacs", some 'E'), ("noclobber", some 'C'),
   ("allexport", some 'a'), ("notify", some 'b'), ("nounset", some 'u'),
   ("privileged", some 'p'), ("nolog", none), ("debug", none)]

/-- The option a letter stands for. -/
def optionOfLetter (c : Char) : Option String :=
  (optionTable.find? (fun e => e.2 = some c)).map (·.1)

namespace Channel

/-- Bytes of a file's content from an offset on. -/
def tail (data : String) (pos : Nat) : String := String.ofList (data.toList.drop pos)

/-- A file's content with `text` written at an offset, the gap before it filled with zero
bytes. -/
def overwrite (old : String) (pos : Nat) (text : String) : String :=
  let cs := old.toList
  let before := cs.take pos ++ List.replicate (pos - cs.length) (Char.ofNat 0)
  String.ofList (before ++ text.toList ++ cs.drop (pos + text.length))

end Channel

namespace World

/-- The open file with a number. -/
def channel (w : World) (id : Nat) : Channel := w.channels.getD id .closed

/-- Opens a new file and gives its number. -/
def openChannel (w : World) (c : Channel) : World × Nat :=
  ({ w with channels := w.channels.push c }, w.channels.size)

/-- Replaces the open file with a number. -/
def setChannel (w : World) (id : Nat) (c : Channel) : World :=
  { w with channels := w.channels.set! id c }

/-- The content of a disk file as byte text, if it is a file. -/
def fileText (w : World) (p : List String) : Option String :=
  match w.disk.node? p with
  | some (.file data) => some (Octets.ofBytes data)
  | _ => none

/-- Writes byte text to an open file; `false` when it cannot be written. -/
def write (w : World) (id : Nat) (text : String) : World × Bool :=
  match w.channel id with
  | .file p pos _ writable append =>
    if !writable then (w, false)
    else match w.fileText p with
      | some old =>
        let start := if append then old.length else pos
        let new := Channel.overwrite old start text
        let disk := match w.disk.writeFile p (Octets.toBytes new) with
          | .ok d => d
          | .error _ => w.disk
        let w := { w with disk := disk }
        (w.setChannel id (.file p (start + text.length) true writable append), true)
      | none => (w, true)
  | .null => (w, true)
  | .pipe data pos => (w.setChannel id (.pipe (data ++ text) pos), true)
  | .closed => (w, false)

/-- The bytes an open file has left to read, without reading them; `none` when it cannot be
read. -/
def peek (w : World) (id : Nat) : Option String :=
  match w.channel id with
  | .file p pos readable _ _ =>
    if !readable then none
    else some (Channel.tail ((w.fileText p).getD "") pos)
  | .null => some ""
  | .pipe data pos => some (Channel.tail data pos)
  | .closed => none

/-- Moves the offset of an open file on by `n` bytes after they were read. -/
def consume (w : World) (id : Nat) (n : Nat) : World :=
  match w.channel id with
  | .file p pos r wr a => w.setChannel id (.file p (pos + n) r wr a)
  | .pipe data pos => w.setChannel id (.pipe data (pos + n))
  | _ => w

/-- A fresh process id. -/
def freshPid (w : World) : World × Nat := ({ w with nextPid := w.nextPid + 1 }, w.nextPid)

end World

namespace Proc

/-- A variable of the process. -/
def var? (p : Proc) (name : String) : Option Var := p.vars.lookup name

/-- The value of a variable, if it is set. -/
def value? (p : Proc) (name : String) : Option String := (p.var? name).bind (·.value)

/-- The process with a variable replaced, keeping its place among the others. -/
def putVar (p : Proc) (name : String) (v : Var) : Proc :=
  if p.vars.any (·.1 = name) then
    { p with vars := p.vars.map (fun e => if e.1 = name then (name, v) else e) }
  else { p with vars := p.vars ++ [(name, v)] }

/-- The process without a variable. -/
def dropVar (p : Proc) (name : String) : Proc :=
  { p with vars := p.vars.filter (·.1 != name) }

/-- Whether an option is on. -/
def hasOption (p : Proc) (name : String) : Bool := p.options.contains name

/-- The process with an option turned on or off. -/
def setOption (p : Proc) (name : String) (on : Bool) : Proc :=
  let rest := p.options.filter (· != name)
  { p with options := if on then rest ++ [name] else rest }

/-- The letters of the options that are on, as `$-` shows them. -/
def optionLetters (p : Proc) : String :=
  String.ofList (optionTable.filterMap (fun e =>
    if p.hasOption e.1 then e.2 else none))

/-- The open file a descriptor names. -/
def channelOf? (p : Proc) (fd : Nat) : Option Nat := p.fds.lookup fd

/-- The process with a descriptor naming an open file, or closed. -/
def setFd (p : Proc) (fd : Nat) (id : Option Nat) : Proc :=
  let rest := p.fds.filter (·.1 != fd)
  { p with fds := match id with
    | some i => rest ++ [(fd, i)]
    | none => rest }

/-- The exported variables with values, as the environment of a command. -/
def environment (p : Proc) : List (String × String) :=
  p.vars.filterMap (fun e => if e.2.exported then e.2.value.map (fun v => (e.1, v)) else none)

end Proc

namespace Sh

/-- The running process. -/
def proc : Sh Proc := return (← get).proc

/-- Changes the running process. -/
def modifyProc (f : Proc → Proc) : Sh Unit := modify fun m => { m with proc := f m.proc }

/-- Replaces the running process. -/
def setProc (p : Proc) : Sh Unit := modify fun m => { m with proc := p }

/-- The shared world. -/
def world : Sh World := return (← get).world

/-- Changes the shared world. -/
def modifyWorld (f : World → World) : Sh Unit := modify fun m => { m with world := f m.world }

/-- Writes byte text to a descriptor; `false` when it is not open for writing. -/
def writeFd (fd : Nat) (text : String) : Sh Bool := do
  match (← proc).channelOf? fd with
  | none => return false
  | some id =>
    let (w, ok) := (← world).write id text
    modifyWorld fun _ => w
    return ok

/-- Writes byte text to a descriptor when it is open, and drops it otherwise. -/
def put (fd : Nat) (text : String) : Sh Unit := do
  if text.isEmpty then return
  let _ ← writeFd fd text

/-- Writes a message of the shell itself to standard error: the shell's name, the line, the
command it comes from, and the text. -/
def complain (msg : String) : Sh Unit := do
  let p ← proc
  let cmd := match p.commandName with
    | some c => c ++ ": "
    | none => ""
  put 2 s!"{p.name}: {p.line}: {cmd}{msg}\n"

/-- Reports an error of the shell itself and exits with status 2, as a shell that is not
interactive does. -/
def fatal (msg : String) : Sh α := do
  complain msg
  throw .fault

/-- The bytes standard input has left, without reading them. -/
def peekInput (fd : Nat) : Sh (Option String) := do
  match (← proc).channelOf? fd with
  | none => return none
  | some id => return (← world).peek id

/-- Marks bytes of a descriptor as read. -/
def consumeInput (fd : Nat) (n : Nat) : Sh Unit := do
  match (← proc).channelOf? fd with
  | none => pure ()
  | some id => modifyWorld fun w => w.consume id n

/-- The value of a variable, if it is set. -/
def getVar (name : String) : Sh (Option String) := return (← proc).value? name

/-- Assigns a variable, keeping its flags; the message of the fault when it is read-only. -/
def assign (name value : String) : Sh (Option String) := do
  let p ← proc
  match p.var? name with
  | some v =>
    if v.readOnly then return some s!"{name}: is read only"
    setProc (p.putVar name { v with value := some value, exported := v.exported || p.hasOption "allexport" })
    return none
  | none =>
    setProc (p.putVar name { value := some value, exported := p.hasOption "allexport" })
    return none

/-- Assigns a variable and exports it, as the shell keeps its directory in `PWD` and
`OLDPWD`; a read-only variable keeps its value. -/
def assignExported (name value : String) : Sh Unit := do
  if (← assign name value).isNone then
    modifyProc fun q => match q.var? name with
      | some v => q.putVar name { v with exported := true }
      | none => q

/-- Assigns a variable; assigning a read-only one is an error of the shell. -/
def setVar (name value : String) : Sh Unit := do
  match ← assign name value with
  | some m => fatal m
  | none => pure ()

end Sh

end JobFlow.Shell
