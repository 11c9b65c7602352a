import JobFlow.Shell.State

/-!
# Paths seen from a shell

A shell names files by byte text: a path not starting with `/` is taken from the current
directory, and `.` and `..` are resolved by name.
-/

namespace JobFlow.Shell

/-- The programs of the base system. -/
def programs : List String :=
  ["basename", "cat", "chmod", "cp", "cut", "date", "dirname", "echo", "env", "expr", "false",
   "find", "grep", "head", "id", "kill", "ln", "ls", "mkdir", "mktemp", "mv", "od", "printenv",
   "printf", "pwd", "readlink", "realpath", "rm", "rmdir", "sed", "seq", "sh", "dash", "sleep",
   "sort", "stat", "tail", "tee", "test", "[", "touch", "tr", "true", "uname", "uniq", "wc",
   "whoami", "xargs", "yes", "nproc", "awk", "base64", "md5sum", "sha256sum", "du", "tac",
   "rev", "fold", "paste", "comm", "join", "nl", "split", "timeout", "nohup", "which", "cmp",
   "diff", "hostname", "getconf", "truncate", "dd", "expand", "unexpand", "fmt", "pr", "shuf",
   "tsort", "factor", "numfmt", "seq", "sum", "cksum", "sync", "logname", "users", "groups",
   "arch", "link", "unlink", "mkfifo", "mknod", "stty", "tty", "csplit", "ptx", "od", "xxd",
   "sha1sum", "sha512sum"]

/-- The directories of the base system. -/
def systemDirs : List (List String) :=
  [[], ["bin"], ["sbin"], ["usr"], ["usr", "bin"], ["usr", "sbin"], ["usr", "local"],
   ["usr", "local", "bin"], ["usr", "local", "sbin"], ["usr", "lib"], ["usr", "share"], ["lib"],
   ["dev"], ["etc"], ["tmp"], ["home"], ["root"], ["proc"], ["var"], ["var", "tmp"], ["opt"],
   ["run"], ["srv"], ["mnt"], ["media"], ["sys"]]

/-- What a path names. -/
inductive Kind where
  | dir
  | file
  | program
  | device
  deriving DecidableEq, Inhabited, Repr

/-- A path from a current directory: a text starting with `/`, or with `$ROOT` (the directory
the disk's files are under, as paths to them are written), stands alone. -/
def absolutePath (cwd p : String) : String :=
  if p.startsWith "/" ∨ p.startsWith "$ROOT" then p
  else if cwd.endsWith "/" then cwd ++ p
  else cwd ++ "/" ++ p

/-- The names of a path of byte text from a current directory. -/
def locateFrom (cwd p : String) : List String :=
  Disk.locate (Octets.decode (absolutePath cwd p))

/-- The program a system path names, if it names one. -/
def programAt (names : List String) : Option String :=
  match names with
  | ["bin", n] | ["usr", "bin", n] => if programs.contains n then some n else none
  | _ => none

/-- What a path names, if anything. -/
def kindAt (w : World) (names : List String) : Option Kind :=
  match w.disk.node? names with
  | some n => some (if n.isDir then .dir else .file)
  | none =>
    if systemDirs.contains names then some .dir
    else if (programAt names).isSome then some .program
    else match names with
      | ["dev", d] =>
        if ["null", "zero", "stdin", "stdout", "stderr", "tty", "random", "urandom", "full"].contains d
        then some .device else if d = "fd" then some .dir else none
      | _ => none

/-- Whether a path has a parent that is a file, so that nothing can be below it. -/
def blockedAt (w : World) (names : List String) : Bool :=
  match w.disk.lookup names with
  | .error _ => true
  | .ok _ => false

/-- Whether a path names something that can be run. -/
def executableAt (w : World) (names : List String) : Bool :=
  match kindAt w names with
  | some .program => true
  | some .dir => true
  | some .file => w.executables.contains names
  | _ => false

/-- The names in a directory, sorted, with those of the base system. -/
def entriesAt (w : World) (names : List String) : List String :=
  let onDisk := w.disk.children names
  let system := (systemDirs.filterMap (fun d =>
    if d.length = names.length + 1 ∧ d.take names.length = names then d.getLast? else none))
  let progs := if names = ["bin"] ∨ names = ["usr", "bin"] then programs else []
  let devices := if names = ["dev"] then ["fd", "full", "null", "random", "stderr", "stdin", "stdout",
    "tty", "urandom", "zero"] else []
  let all := onDisk ++ system ++ progs ++ devices
  (all.eraseDups).mergeSort (fun a b => decide (a ≤ b))

/-- How a redirection opens a file. -/
inductive Access where
  | read
  | write (clobber : Bool)
  | append
  | readWrite
  deriving DecidableEq, Inhabited, Repr

/-- Opens a file for a redirection in a process: the number of the new open file, or the
fault's message. -/
def openPath (w : World) (p : Proc) (path : String) (access : Access) : World × Except String Nat :=
  let names := locateFrom p.cwd path
  let creating := access != .read
  let word := if creating then "create" else "open"
  let missing := if creating then "Directory nonexistent" else "No such file"
  let fail (why : String) : World × Except String Nat := (w, .error s!"cannot {word} {path}: {why}")
  let freshIn (w : World) (c : Channel) : World × Except String Nat :=
    let (w, id) := w.openChannel c
    (w, .ok id)
  let fresh := freshIn w
  let readable := access = .read ∨ access = .readWrite
  let writable := access != .read
  match names with
  | ["dev", "null"] => fresh .null
  | ["dev", d] =>
    let fd? := if d = "stdin" then some 0 else if d = "stdout" then some 1
      else if d = "stderr" then some 2 else none
    match fd? with
    | some fd =>
      match p.channelOf? fd with
      | none => fail missing
      | some id =>
        match w.channel id with
        | .file q _ _ _ _ =>
          match access with
          | .write _ =>
            let disk := (w.disk.writeFile q .empty).toOption.getD w.disk
            freshIn { w with disk := disk } (.file q 0 readable writable false)
          | .append => fresh (.file q 0 readable writable true)
          | _ => fresh (.file q 0 readable writable false)
        | _ => (w, .ok id)
    | none =>
      if kindAt w names = some .device then fresh .null else fail missing
  | _ =>
    if blockedAt w names then fail missing
    else match kindAt w names with
    | some .dir =>
      if writable then fail "Is a directory" else fresh (.file names 0 true false false)
    | some .program => if writable then fail "Permission denied" else fresh (.file names 0 true false false)
    | some .device => fresh .null
    | some .file =>
      match access with
      | .write false => fail "File exists"
      | .write true =>
        match w.disk.writeFile names .empty with
        | .ok d => freshIn { w with disk := d } (.file names 0 false true false)
        | .error _ => fail missing
      | .append => fresh (.file names 0 false true true)
      | .read => fresh (.file names 0 true false false)
      | .readWrite => fresh (.file names 0 true true false)
    | none =>
      if access = .read then fail missing
      else
        let disk := if names.dropLast = ["tmp"] ∧ !w.disk.exists? ["tmp"] then
          (w.disk.createDir ["tmp"]).toOption.getD w.disk else w.disk
        match disk.writeFile names .empty with
        | .ok d => freshIn { w with disk := d } (.file names 0 readable true (decide (access = Access.append)))
        | .error _ => fail missing

end JobFlow.Shell
