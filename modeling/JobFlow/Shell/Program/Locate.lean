import JobFlow.Shell.Program

/-!
# Where files and programs are

`realpath` and `readlink -f` print the absolute path a name stands for, `.` and `..`
resolved; the disk holds no symbolic links, so that is the whole of the resolution.
-/

namespace JobFlow.Shell

namespace Tools

/-- A path of names as the system writes it: under the root directory of the disk as the
disk's paths are written, else from `/`. -/
def shownPath (names : List String) : String :=
  let text := "/".intercalate (names.map Octets.encode)
  if names.head? = some "$ROOT" then text else "/" ++ text

/-- Resolves a path name by name from the current directory, as the system walks it: `.`
stays, `..` goes up, and every name before the last must be a directory that exists (under
`all` the last must exist too; under `missing` nothing need exist). -/
def resolvePath (w : World) (cwd p : String) (all missing : Bool) : Except String (List String) :=
  let start := if p.startsWith "/" ∨ p.startsWith "$ROOT" then [] else Disk.locate (Octets.decode cwd)
  let parts := (p.splitOn "/").filter (fun s => !s.isEmpty)
  let rec go : List String → List String → Except String (List String)
    | acc, [] => .ok acc
    | acc, part :: rest =>
      let last := rest.isEmpty
      let next := if part = "." then acc else if part = ".." then acc.dropLast else acc ++ [Octets.decode part]
      if missing then go next rest
      else
        match kindAt w next with
        | some .dir => go next rest
        | some _ => if last then .ok next else .error "Not a directory"
        | none =>
          if last ∧ !all ∧ part != "." ∧ part != ".." then .ok next
          else .error "No such file or directory"
  go start parts

/-- `realpath`. -/
def realpath (c : Call) : Program Unit := do
  let spec : OptionSpec :=
    { flags := ['e', 'm', 'q', 's', 'z', 'L', 'P'],
      long := [("canonicalize-existing", 'e', false), ("canonicalize-missing", 'm', false),
      ("quiet", 'q', false), ("strip", 's', false), ("no-symlinks", 's', false)] }
  match parseOptions spec c.args with
  | .error f => c.optionFault f
  | .ok (opts, ops) =>
    if ops.isEmpty then
      Program.err (c.name ++ ": missing operand\nTry '" ++ c.name ++ " --help' for more information.\n")
      Program.exitWith 1
    let w ← Program.world
    for o in ops do
      match resolvePath w c.cwd o (hasOpt opts 'e') (hasOpt opts 'm') with
      | .error e =>
        if !hasOpt opts 'q' then Program.err (c.name ++ ": " ++ o ++ ": " ++ e ++ "\n")
        Program.exitWith 1
      | .ok names => Program.out (shownPath names ++ "\n")

/-- `readlink`. -/
def readlink (c : Call) : Program Unit := do
  let spec : OptionSpec :=
    { flags := ['f', 'e', 'm', 'n', 'q', 's', 'v', 'z'],
      long := [("canonicalize", 'f', false), ("canonicalize-existing", 'e', false),
      ("canonicalize-missing", 'm', false), ("no-newline", 'n', false), ("quiet", 'q', false),
      ("silent", 's', false), ("verbose", 'v', false)] }
  match parseOptions spec c.args with
  | .error f => c.optionFault f
  | .ok (opts, ops) =>
    if ops.isEmpty then
      Program.err (c.name ++ ": missing operand\nTry '" ++ c.name ++ " --help' for more information.\n")
      Program.exitWith 1
    let w ← Program.world
    let canonical := hasOpt opts 'f' ∨ hasOpt opts 'e' ∨ hasOpt opts 'm'
    let ending := if hasOpt opts 'n' ∧ ops.length = 1 then "" else "\n"
    for o in ops do
      let names := c.locate o
      if !canonical then
        if hasOpt opts 'v' then
          let why := (readFault w names).getD "Invalid argument"
          let why := if why = "Is a directory" then "Invalid argument" else why
          Program.err (c.name ++ ": " ++ o ++ ": " ++ why ++ "\n")
        Program.exitWith 1
      else
        match resolvePath w c.cwd o (hasOpt opts 'e') (hasOpt opts 'm') with
        | .error e =>
          if hasOpt opts 'v' then Program.err (c.name ++ ": " ++ o ++ ": " ++ e ++ "\n")
          Program.exitWith 1
        | .ok names => Program.out (shownPath names ++ ending)

/-- `which`. -/
def which (c : Call) : Program Unit := do
  let (flags, names) := c.args.partition (fun a => a.startsWith "-" ∧ a.length > 1)
  let every := flags.any (fun f => f.toList.contains 'a')
  let w ← Program.world
  let path := (c.env.lookup "PATH").getD ""
  let mut missing := false
  for n in names do
    let found : List String :=
      if n.contains '/' then
        (if executableAt w (c.locate n) ∧ kindAt w (c.locate n) != some .dir then [n] else [])
      else (path.splitOn ":").filterMap (fun d =>
        let full := (if d.isEmpty then "." else d) ++ "/" ++ n
        let at_ := c.locate full
        if executableAt w at_ ∧ kindAt w at_ != some .dir then some full else none)
    match found with
    | [] => missing := true
    | f :: rest => Program.out (String.join ((if every then f :: rest else [f]).map (· ++ "\n")))
  if missing ∨ names.isEmpty then Program.exitWith 1

end Tools

end JobFlow.Shell
