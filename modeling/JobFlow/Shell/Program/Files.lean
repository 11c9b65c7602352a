import JobFlow.Shell.Program
import JobFlow.Shell.Pattern

/-!
# Programs on files

`ls` lists directories (sorted byte by byte, one name on a line as when the output is not a
terminal; files named as operands first, then each directory under its name when there are
several), and `mkdir`, `rmdir`, `rm`, `touch`, `cp`, `mv`, `tee` and `chmod` change the disk
with the messages of the system's tools for what they refuse.
-/

namespace JobFlow.Shell

namespace Tools

/-- The names in a directory as byte text, without `.` and `..`. -/
def listing (w : World) (names : List String) : List String :=
  (entriesAt w names).map Octets.encode

/-- The mark `ls -F` puts after a name. -/
def classMark (w : World) (names : List String) : String :=
  match kindAt w names with
  | some .dir => "/"
  | some .program => "*"
  | some .file => if w.executables.contains names then "*" else ""
  | _ => ""

/-- `ls`: the names in directories, or the operands that are not directories. -/
def ls (c : Call) : Program Unit := do
  let spec : OptionSpec :=
    { flags := "1aAdFprRlhSstUx".toList,
      long := [("all", 'a', false), ("almost-all", 'A', false), ("directory", 'd', false),
        ("classify", 'F', false), ("reverse", 'r', false), ("recursive", 'R', false)] }
  match parseOptions spec c.args with
  | .error f => c.optionFault f 2
  | .ok (opts, ops) =>
    let has := hasOpt opts
    let w ← Program.world
    let order (xs : List String) : List String :=
      let sorted := xs.mergeSort (fun a b => decide (a ≤ b))
      if has 'r' then sorted.reverse else sorted
    let shown (names : List String) (n : String) : String :=
      n ++ (if has 'F' then classMark w names else if has 'p' ∧ kindAt w names = some .dir then "/" else "")
    let entries (dir : List String) : List String :=
      let base := listing w dir
      let base := if has 'a' then [".", ".."] ++ base else if has 'A' then base else base.filter (fun n => !n.startsWith ".")
      order base
    let ops := if ops.isEmpty then ["."] else ops
    let mut files : List String := []
    let mut dirs : List String := []
    for o in ops do
      let names := c.locate o
      match kindAt w names with
      | none =>
        Program.err (c.name ++ ": cannot access " ++ quoteName o ++ ": " ++ (readFault w names).getD "No such file or directory" ++ "\n")
        Program.exitWith 2
      | some .dir => if has 'd' then files := files ++ [o] else dirs := dirs ++ [o]
      | some _ => files := files ++ [o]
    for f in order files do Program.out (shown (c.locate f) f ++ "\n")
    let headed := ops.length > 1 ∨ has 'R'
    let mut first := files.isEmpty
    let rec walk : Nat → String → List String
      | 0, _ => []
      | n + 1, d =>
        let names := c.locate d
        let here := entries names
        let subs := here.filter (fun e => e != "." ∧ e != ".." ∧ kindAt w (names ++ [Octets.decode e]) = some .dir)
        d :: subs.flatMap (fun e => walk n (if d.endsWith "/" then d ++ e else d ++ "/" ++ e))
    let ordered := order dirs
    let ordered := if has 'R' then ordered.flatMap (walk 32) else ordered
    for d in ordered do
      let names := c.locate d
      if !first then Program.out "\n"
      first := false
      if headed then Program.out (d ++ ":\n")
      -- a long listing of a directory counts its blocks first: none for an empty one
      if (has 'l' ∨ has 's') ∧ (entries names).isEmpty then Program.out "total 0\n"
      for e in entries names do
        Program.out (shown (names ++ [Octets.decode e]) e ++ "\n")

/-- `mkdir`: makes directories, and with `-p` their parents too. -/
def mkdir (c : Call) : Program Unit := do
  match parseOptions { withArg := ['m'], flags := ['p', 'v'], long := [("parents", 'p', false), ("mode", 'm', true)] } c.args with
  | .error f => c.optionFault f
  | .ok (opts, ops) =>
    if ops.isEmpty then
      Program.err s!"{c.name}: missing operand\nTry '{c.name} --help' for more information.\n"
      Program.exitWith 1
    for o in ops do
      let names := c.locate o
      let w ← Program.world
      if hasOpt opts 'p' then
        match w.disk.createDirAll names with
        | .ok d => Program.setDisk d
        | .error e =>
          if kindAt w names = some .dir then pure ()
          else Program.warn c s!"cannot create directory {quoteName o}: {e.description}"
      else if (kindAt w names).isSome then
        Program.warn c s!"cannot create directory {quoteName o}: File exists"
      else
        match w.disk.createDir names with
        | .ok d => Program.setDisk d
        | .error e =>
          let why := if e = .alreadyExists then "File exists"
            else if kindAt w names.dropLast = none then "No such file or directory" else e.description
          Program.warn c s!"cannot create directory {quoteName o}: {why}"

/-- `rmdir`: removes empty directories. -/
def rmdir (c : Call) : Program Unit := do
  match parseOptions { flags := ['p', 'v'] } c.args with
  | .error f => c.optionFault f
  | .ok (_, ops) =>
    if ops.isEmpty then
      Program.err s!"{c.name}: missing operand\nTry '{c.name} --help' for more information.\n"
      Program.exitWith 1
    for o in ops do
      let names := c.locate o
      let w ← Program.world
      match kindAt w names with
      | none => Program.warn c s!"failed to remove {quoteName o}: No such file or directory"
      | some .dir =>
        if !(w.disk.under names).isEmpty then Program.warn c s!"failed to remove {quoteName o}: Directory not empty"
        else if w.disk.exists? names then Program.setDisk (w.disk.drop names)
        else Program.warn c s!"failed to remove {quoteName o}: Device or resource busy"
      | some _ => Program.warn c s!"failed to remove {quoteName o}: Not a directory"

/-- The last part of a path, for a copy into a directory. -/
def lastName (p : String) : String :=
  String.ofList ((p.toList.reverse.dropWhile (· = '/')).takeWhile (· ≠ '/')).reverse

/-- `rm`: removes files, and with `-r` directories with all they hold. -/
def rm (c : Call) : Program Unit := do
  match parseOptions { flags := "fiIrRdv".toList, long := [("force", 'f', false), ("recursive", 'r', false)] } c.args with
  | .error f => c.optionFault f
  | .ok (opts, ops) =>
    let force := hasOpt opts 'f'
    let recursive := hasOpt opts 'r' || hasOpt opts 'R'
    if ops.isEmpty ∧ !force then
      Program.err s!"{c.name}: missing operand\nTry '{c.name} --help' for more information.\n"
      Program.exitWith 1
    for o in ops do
      let names := c.locate o
      let w ← Program.world
      match kindAt w names with
      | none => if !force then Program.warn c ("cannot remove " ++ quoteName o ++ ": " ++ (readFault w names).getD "No such file or directory")
      | some .dir =>
        if lastName o = "." ∨ lastName o = ".." then
          Program.warn c s!"refusing to remove '.' or '..' directory: skipping {quoteName o}"
        else if recursive then Program.setDisk (w.disk.drop names)
        else if hasOpt opts 'd' ∧ (w.disk.under names).isEmpty then Program.setDisk (w.disk.drop names)
        else Program.warn c s!"cannot remove {quoteName o}: Is a directory"
      | some _ =>
        if w.disk.exists? names then
          Program.setDisk (w.disk.drop names)
          modify fun r => { r with world := { r.world with executables := r.world.executables.filter (· != names) } }
        else Program.warn c s!"cannot remove {quoteName o}: Permission denied"

/-- `touch`: makes the files that do not exist, empty. -/
def touch (c : Call) : Program Unit := do
  match parseOptions { withArg := ['d', 't', 'r'], flags := ['c', 'a', 'm'] } c.args with
  | .error f => c.optionFault f
  | .ok (opts, ops) =>
    if ops.isEmpty then
      Program.err s!"{c.name}: missing file operand\nTry '{c.name} --help' for more information.\n"
      Program.exitWith 1
    for o in ops do
      let names := c.locate o
      let w ← Program.world
      match kindAt w names with
      | some _ => pure ()
      | none =>
        if hasOpt opts 'c' then pure ()
        else match w.disk.writeFile names .empty with
          | .ok d => Program.setDisk d
          | .error e =>
            let why := if e = .noEntry ∨ e = .notDirectory then
              (if blockedAt w names then "Not a directory" else "No such file or directory") else e.description
            Program.warn c s!"cannot touch {quoteName o}: {why}"

/-- `cp` and `mv`: copies or moves files, into a directory when the last operand is one. -/
def copyMove (c : Call) (move : Bool) : Program Unit := do
  match parseOptions { withArg := ['t', 'S'], flags := "rRapfinuvTdPLH".toList, long := [("recursive", 'r', false), ("force", 'f', false)] } c.args with
  | .error f => c.optionFault f
  | .ok (opts, ops) =>
    let recursive := hasOpt opts 'r' || hasOpt opts 'R' || hasOpt opts 'a'
    match ops with
    | [] =>
      Program.err s!"{c.name}: missing file operand\nTry '{c.name} --help' for more information.\n"
      Program.exitWith 1
    | [a] =>
      Program.err s!"{c.name}: missing destination file operand after {quoteName a}\nTry '{c.name} --help' for more information.\n"
      Program.exitWith 1
    | _ =>
      let dst := ops.getLast?.getD ""
      let srcs := ops.dropLast
      let w ← Program.world
      let dstNames := c.locate dst
      let intoDir := kindAt w dstNames = some .dir
      if srcs.length > 1 ∧ !intoDir then
        Program.warn c s!"target {quoteName dst} is not a directory"
      else
        for s in srcs do
          let w ← Program.world
          let sNames := c.locate s
          let target := if intoDir then dstNames ++ [Octets.decode (lastName s)] else dstNames
          let targetText := if intoDir then (if dst.endsWith "/" then dst else dst ++ "/") ++ lastName s else dst
          match kindAt w sNames with
          | none => Program.warn c ("cannot stat " ++ quoteName s ++ ": " ++ (readFault w sNames).getD "No such file or directory")
          | some k =>
            if sNames = target then
              Program.warn c s!"{quoteName s} and {quoteName targetText} are the same file"
            else if k = .dir ∧ !move ∧ !recursive then
              Program.warn c s!"-r not specified; omitting directory {quoteName s}"
            else if k = .dir ∧ Disk.below sNames target then
              Program.warn c ("cannot " ++ (if move then "move" else "copy") ++ " a directory, " ++ quoteName s ++ ", into itself, " ++ quoteName targetText)
            else if move then
              match w.disk.rename sNames target with
              | .ok d =>
                Program.setDisk d
                if w.executables.contains sNames then
                  modify fun r => { r with world := { r.world with executables := target :: r.world.executables } }
              | .error e => Program.warn c s!"cannot move {quoteName s} to {quoteName targetText}: {e.description}"
            else if k = .dir then
              let inner := w.disk.under sNames
              match w.disk.createDirAll target with
              | .ok d =>
                let d := inner.foldl (fun (d : Disk) (rel, n) => d.put (target ++ rel) n) d
                Program.setDisk d
              | .error e => Program.warn c s!"cannot create directory {quoteName targetText}: {e.description}"
            else
              let data := (w.fileText sNames).getD ""
              match kindAt w target with
              | some .dir => Program.warn c s!"cannot overwrite directory {quoteName targetText} with non-directory"
              | _ =>
                match w.disk.writeFile target (Octets.toBytes data) with
                | .ok d => Program.setDisk d
                | .error e =>
                  let why := if e = .noEntry then "No such file or directory" else e.description
                  Program.warn c s!"cannot create regular file {quoteName targetText}: {why}"

/-- `tee`: standard input to standard output and to each file. -/
def tee (c : Call) : Program Unit := do
  match parseOptions { flags := ['a', 'i', 'p'], long := [("append", 'a', false)] } c.args with
  | .error f => c.optionFault f
  | .ok (opts, ops) =>
    let input ← Program.readInput
    Program.out input
    for o in ops do
      let names := c.locate o
      let w ← Program.world
      let old := if hasOpt opts 'a' then (w.fileText names).getD "" else ""
      match kindAt w names with
      | some .dir => Program.warn c s!"{o}: Is a directory"
      | _ =>
        match w.disk.writeFile names (Octets.toBytes (old ++ input)) with
        | .ok d => Program.setDisk d
        | .error _ => Program.warn c (o ++ ": " ++ (readFault w names).getD "No such file or directory")

/-- Whether a mode of `chmod` leaves a file executable, given whether it was. -/
def modeExecutable (mode : String) (was : Bool) : Option Bool :=
  if mode.all (fun ch => '0' ≤ ch ∧ ch ≤ '7') ∧ !mode.isEmpty then
    some (mode.toList.any (fun ch => ch.toNat % 2 = 1))
  else
    (mode.splitOn ",").foldlM (fun (x : Bool) clause =>
      let cs := clause.toList.dropWhile (fun ch => "ugoa".contains ch)
      match cs with
      | op :: perms =>
        if !(perms.all (fun ch => "rwxXst".contains ch)) then none
        else if op = '+' then some (x || perms.contains 'x')
        else if op = '-' then some (x && !perms.contains 'x')
        else if op = '=' then some (perms.contains 'x')
        else none
      | [] => none) was

/-- `chmod`: marks files executable or not. -/
def chmod (c : Call) : Program Unit := do
  let (flags, rest) := c.args.partition (fun a => a = "-R" ∨ a = "-v" ∨ a = "-f" ∨ a = "-c")
  let _ := flags
  match rest with
  | [] | [_] =>
    Program.err s!"{c.name}: missing operand\nTry '{c.name} --help' for more information.\n"
    Program.exitWith 1
  | mode :: files =>
    for f in files do
      let names := c.locate f
      let w ← Program.world
      match kindAt w names with
      | none => Program.warn c s!"cannot access {quoteName f}: No such file or directory"
      | some _ =>
        match modeExecutable mode (w.executables.contains names) with
        | none =>
          Program.err s!"{c.name}: invalid mode: {quoteName mode}\nTry '{c.name} --help' for more information.\n"
          Program.exitWith 1
        | some x =>
          modify fun r =>
            let ex := r.world.executables.filter (· != names)
            { r with world := { r.world with executables := if x then names :: ex else ex } }

/-- `find`: the paths below each start, sorted within each directory, that pass the tests
`-name`, `-type` and the depth limits. -/
def find (c : Call) : Program Unit := do
  let (starts, tests) := (c.args.takeWhile (fun a => !a.startsWith "-" ∧ a != "!" ∧ a != "("),
    c.args.dropWhile (fun a => !a.startsWith "-" ∧ a != "!" ∧ a != "("))
  let starts := if starts.isEmpty then ["."] else starts
  let rec opts : List String → Option (Option String × Option String × Option Nat × Nat)
    | [] => some (none, none, none, 0)
    | "-name" :: p :: more => (opts more).map (fun (_, t, d, m) => (some p, t, d, m))
    | "-type" :: t :: more => (opts more).map (fun (n, _, d, m) => (n, some t, d, m))
    | "-maxdepth" :: d :: more => (opts more).map (fun (n, t, _, m) => (n, t, d.toNat?, m))
    | "-mindepth" :: d :: more => (opts more).map (fun (n, t, x, _) => (n, t, x, d.toNat?.getD 0))
    | "-print" :: more => opts more
    | _ => none
  match opts tests with
  | none =>
    Program.err (c.name ++ ": unknown predicate " ++ quoteName (tests.headD "") ++ "\n")
    Program.exitWith 1
  | some (name, type, maxDepth, minDepth) =>
    let w ← Program.world
    let rec walk : Nat → String → List String → Nat → List (String × List String × Nat)
      | 0, _, _, _ => []
      | n + 1, path, names, depth =>
        let here := (path, names, depth)
        if kindAt w names = some .dir ∧ maxDepth.all (depth < ·) then
          here :: (listing w names).flatMap (fun e =>
            walk n (if path.endsWith "/" then path ++ e else path ++ "/" ++ e) (names ++ [Octets.decode e]) (depth + 1))
        else [here]
    for s in starts do
      let names := c.locate s
      if (kindAt w names).isNone then
        Program.warn c s!"{quoteName s}: No such file or directory"
      else
        for (p, ns, depth) in walk 64 s names 0 do
          let k := kindAt w ns
          let okType : Bool := match type with
            | some "f" => k = some .file ∨ k = some .program
            | some "d" => k = some .dir
            | some _ => false
            | none => true
          let okName : Bool := match name with
            | some pat => Pattern.accepts pat.toList (lastName p)
            | none => true
          if okType && okName && decide (depth ≥ minDepth) then Program.out (p ++ "\n")

end Tools

end JobFlow.Shell
