import JobFlow.Shell.Expand
import JobFlow.Shell.Parse
import JobFlow.Shell.Signal
import JobFlow.Shell.Printf
import JobFlow.Shell.Test

/-!
# Built-in commands

The commands the shell runs itself, apart from those that run other commands (`eval`, `.`,
`exec`, `command`, `trap` actions), which belong to evaluation.
-/

namespace JobFlow.Shell

/-- The regular built-in commands. -/
def regularBuiltins : List String :=
  ["[", "alias", "bg", "cd", "chdir", "command", "echo", "false", "fg", "getopts", "hash", "jobs",
   "kill", "local", "printf", "pwd", "read", "test", "true", "type", "ulimit", "umask", "unalias",
   "wait"]

/-- A value in single quotes, as the shell shows it so that it reads back. -/
def singleQuoted (v : String) : String :=
  "'" ++ "'\"'\"'".intercalate (v.splitOn "'") ++ "'"

/-- What a built-in did: its status and what it writes to standard output. -/
abbrev Outcome := Nat × String

namespace Sh

/-- Reports a fault of a built-in: the shell exits for a special one; a regular one fails with
status 2. -/
def builtinFault (special : Bool) (msg : String) : Sh Outcome := do
  if special then fatal msg
  complain msg
  return (2, "")

/-- `echo`. -/
def echoBuiltin (args : List String) : Sh Outcome := return (0, echoText args)

/-- `printf`. -/
def printfBuiltin (args : List String) : Sh Outcome := do
  let args := match args with
    | "--" :: rest => rest
    | _ => args
  match args with
  | [] => builtinFault false "usage: printf format [arg ...]"
  | f :: rest =>
    if f.startsWith "-" ∧ f.length > 1 then builtinFault false s!"Illegal option {String.ofList (f.toList.take 2)}"
    else
      let p := printfRun f rest
      for w in p.warnings do complain w
      match p.fault with
      | some m =>
        complain m
        return (2, p.out)
      | none => return (p.status, p.out)

/-- The view of files `test` asks, from the current directory. -/
def fileView : Sh FileView := do
  let w ← world
  let cwd := (← proc).cwd
  return {
    kind := fun p => if p.isEmpty then none else kindAt w (locateFrom cwd p)
    size := fun p => ((w.fileText (locateFrom cwd p)).map String.length).getD 0
    executable := fun p => !p.isEmpty ∧ executableAt w (locateFrom cwd p) }

/-- `test` and `[`. -/
def testBuiltin (bracket : Bool) (args : List String) : Sh Outcome := do
  match runTest (← fileView) bracket args with
  | .ok st => return (st, "")
  | .error e => builtinFault false e

/-- A path in normal form from a current directory: `.` dropped and `..` taking back the name
before it. -/
def normalPath (cwd p : String) : String :=
  let full := absolutePath cwd p
  let parts := (full.splitOn "/").filter (fun s => !s.isEmpty ∧ s != ".")
  let resolved := parts.foldl (fun acc s => if s = ".." then acc.dropLast else acc ++ [s]) []
  if full.startsWith "/" then "/" ++ "/".intercalate resolved else "/".intercalate resolved

/-- `cd`: changes the current directory, `-` to the previous one, none to the home. -/
def cdBuiltin (args : List String) : Sh Outcome := do
  let args := args.filter (fun a => a != "-L" ∧ a != "-P")
  let p ← proc
  let target ← match args with
    | [] => pure ((p.value? "HOME").getD "")
    | ["-"] => pure ((p.value? "OLDPWD").getD "")
    | t :: _ => pure t
  if target.isEmpty then return (0, "")
  let path := normalPath p.cwd target
  let w ← world
  if kindAt w (locateFrom "/" path) = some .dir then
    let old := p.cwd
    modifyProc fun q => { q with cwd := path }
    assignExported "OLDPWD" old
    assignExported "PWD" path
    return (0, if args = ["-"] then path ++ "\n" else "")
  else builtinFault false s!"can't cd to {target}"

/-- `pwd`. -/
def pwdBuiltin : Sh Outcome := return (0, (← proc).cwd ++ "\n")

/-- Lists variables with a flag as `export -p` and `readonly -p` do. -/
def listVars (word : String) (pick : Var → Bool) : Sh String := do
  let vs := ((← proc).vars.filter (fun e => pick e.2)).mergeSort (fun a b => decide (a.1 ≤ b.1))
  return String.join (vs.map (fun (n, v) =>
    match v.value with
    | some x => s!"{word} {n}={singleQuoted x}\n"
    | none => s!"{word} {n}\n"))

/-- `export` and `readonly`: marks variables, assigning those given with a value. -/
def markBuiltin (readOnly : Bool) (args : List String) : Sh Outcome := do
  let name := if readOnly then "readonly" else "export"
  let args := args.filter (· != "--")
  if args.isEmpty ∨ args = ["-p"] then
    return (0, ← listVars name (fun v => if readOnly then v.readOnly else v.exported))
  for a in args.filter (· != "-p") do
    let (n, value) := match a.splitOn "=" with
      | [n] => (n, none)
      | n :: rest => (n, some ("=".intercalate rest))
      | [] => (a, none)
    if !isName n then return ← builtinFault true s!"{n}: bad variable name"
    let p ← proc
    let old := (p.var? n).getD { value := none }
    match value with
    | some v =>
      if old.readOnly then return ← builtinFault true s!"{n}: is read only"
      setProc (p.putVar n
        { old with
          value := some v
          exported := old.exported || !readOnly || p.hasOption "allexport"
          readOnly := old.readOnly || readOnly })
    | none =>
      setProc (p.putVar n { old with exported := old.exported || !readOnly, readOnly := old.readOnly || readOnly })
  return (0, "")

/-- `unset`: removes variables or, with `-f`, functions. -/
def unsetBuiltin (args : List String) : Sh Outcome := do
  let funcs := args.contains "-f"
  for a in args.filter (fun a => a != "-f" ∧ a != "-v" ∧ a != "--") do
    if funcs then modifyProc fun p => { p with funcs := p.funcs.filter (·.1 != a) }
    else
      if !isName a then return ← builtinFault true s!"{a}: bad variable name"
      let p ← proc
      match p.var? a with
      | some v => if v.readOnly then return ← builtinFault true s!"{a}: is read only"
                  else setProc (p.dropVar a)
      | none => pure ()
  return (0, "")

/-- The lines of `set -o`. -/
def optionListing (p : Proc) : String :=
  "Current option settings\n" ++ String.join (optionTable.map (fun (n, _) =>
    n ++ String.ofList (List.replicate (16 - n.length) ' ') ++ (if p.hasOption n then "on" else "off") ++ "\n"))

/-- The lines of `set +o`. -/
def optionCommands (p : Proc) : String :=
  String.join (optionTable.map (fun (n, _) => "set " ++ (if p.hasOption n then "-" else "+") ++ "o " ++ n ++ "\n"))

/-- `set`: options and positional parameters; alone, the variables. -/
def setBuiltin (args : List String) : Sh Outcome := do
  if args.isEmpty then
    let vs := (← proc).vars.filter (fun e => e.2.value.isSome) |>.mergeSort (fun a b => decide (a.1 ≤ b.1))
    return (0, String.join (vs.map (fun (n, v) => n ++ "=" ++ singleQuoted (v.value.getD "") ++ "\n")))
  let rec go : Nat → List String → Sh (Option Outcome)
    | 0, _ => pure none
    | _ + 1, [] => pure none
    | n + 1, a :: rest => do
      if a = "--" then
        modifyProc fun p => { p with params := rest }
        return none
      else if a = "-" then
        modifyProc fun p => (p.setOption "xtrace" false).setOption "verbose" false
        if !rest.isEmpty then modifyProc fun p => { p with params := rest }
        return none
      else if (a.startsWith "-" ∨ a.startsWith "+") ∧ a.length > 1 then
        let on := a.startsWith "-"
        let letters := a.toList.drop 1
        if letters = ['o'] then
          match rest with
          | name :: more =>
            if optionTable.any (·.1 = name) then
              modifyProc fun p => p.setOption name on
              go n more
            else return some (← builtinFault true s!"Illegal option {a} {name}")
          | [] =>
            let p ← proc
            return some (0, if on then optionListing p else optionCommands p)
        else
          for l in letters do
            match optionOfLetter l with
            | some name => modifyProc fun p => p.setOption name on
            | none => return some (← builtinFault true ("Illegal option " ++ (if on then "-" else "+") ++ l.toString))
          go n rest
      else
        modifyProc fun p => { p with params := a :: rest }
        return none
  match ← go (args.length + 1) args with
  | some o => return o
  | none => return (0, "")

/-- `shift`. -/
def shiftBuiltin (args : List String) : Sh Outcome := do
  let k ← match args with
    | [] => pure (some 1)
    | a :: _ => match shellNumber a with
      | .ok k => pure (some k)
      | .error e => do let _ ← builtinFault true e; pure none
  match k with
  | none => return (2, "")
  | some k =>
    let p ← proc
    if k > p.params.length then builtinFault true "can't shift that many"
    else
      setProc { p with params := p.params.drop k }
      return (0, "")

/-- `break` and `continue`: leave or go on with the `n`-th enclosing loop. -/
def loopBuiltin (continuing : Bool) (args : List String) : Sh Outcome := do
  let k ← match args with
    | [] => pure 1
    | a :: _ => match shellNumber a with
      | .ok k => if k = 0 then do let _ ← builtinFault true s!"Illegal number: {a}"; pure 0 else pure k
      | .error e => do let _ ← builtinFault true e; pure 0
  let p ← proc
  let k := min k p.loopDepth
  if k > 0 then
    setProc { p with skip := if continuing then .continuing k else .breaking k }
  return (0, "")

/-- `exit`: ends the shell with a status, the last one by default. -/
def exitBuiltin (args : List String) : Sh Outcome := do
  let st ← match args with
    | [] => pure (← proc).status
    | a :: _ => match shellNumber a with
      | .ok k => pure k
      | .error e => fatal e
  throw (.exit (st % 256))

/-- `return`: leaves the function or sourced file with a status. -/
def returnBuiltin (args : List String) : Sh Outcome := do
  let st ← match args with
    | [] => pure (← proc).status
    | a :: _ => match shellNumber a with
      | .ok k => pure k
      | .error e => fatal e
  modifyProc fun p => { p with skip := .returning }
  return (st % 256, "")

/-- `local`: makes variables local to the running function. -/
def localBuiltin (args : List String) : Sh Outcome := do
  let p ← proc
  if p.funcDepth = 0 then return ← builtinFault false "not in a function"
  for a in args do
    let (n, value) := match a.splitOn "=" with
      | [n] => (n, none)
      | n :: rest => (n, some ("=".intercalate rest))
      | [] => (a, none)
    if n = "-" then continue
    if !isName n then return ← builtinFault false s!"{n}: bad variable name"
    let p ← proc
    let frame := p.locals.headD []
    let frame := if frame.any (·.1 = n) then frame else (n, p.var? n) :: frame
    setProc { p with locals := frame :: p.locals.drop 1 }
    match value with
    | some v => match ← assign n v with
      | some m => return ← builtinFault false m
      | none => pure ()
    | none => pure ()
  return (0, "")

/-- The permission bits of the classes a `umask` clause names: `u`, `g`, `o`, all for `a` or
none. -/
def permClasses (who : List Char) : Nat :=
  if who.isEmpty ∨ who.contains 'a' then 0o777
  else (if who.contains 'u' then 0o700 else 0) + (if who.contains 'g' then 0o070 else 0) +
    (if who.contains 'o' then 0o007 else 0)

/-- Applies the actions of a symbolic mode to permissions: each an operator `+`, `-` or `=`
with permission letters (`r`, `w`, `x`, `X` for execute where some class has it, `s` and `t`
that touch none of these bits) or the letter of a class whose bits are copied. -/
def permActions (who : List Char) (perms : Nat) : List Char → Option Nat
  | [] => some perms
  | op :: rest =>
    if op != '+' ∧ op != '-' ∧ op != '=' then none
    else
      let letters := rest.takeWhile (fun c => c != '+' ∧ c != '-' ∧ c != '=')
      let after := rest.drop letters.length
      let bit (c : Char) : Option Nat :=
        if c = 'r' then some 0o444 else if c = 'w' then some 0o222 else if c = 'x' then some 0o111
        else if c = 'X' then some (if perms % 2 = 1 ∨ perms / 8 % 2 = 1 ∨ perms / 64 % 2 = 1 then 0o111 else 0)
        else if c = 's' then some 0
        else if c = 't' then (if who.isEmpty ∨ who.contains 'a' ∨ who.contains 'o' then some 0 else none)
        else none
      let copied : Option Nat := match letters with
        | ['u'] => some (perms / 64 % 8 * 0o111)
        | ['g'] => some (perms / 8 % 8 * 0o111)
        | ['o'] => some (perms % 8 * 0o111)
        | _ => none
      let bits : Option Nat := match copied with
        | some b => some b
        | none => letters.foldlM (fun acc c => (bit c).map (fun b => acc ||| b)) 0
      match bits with
      | none => none
      | some b =>
        let w := permClasses who
        let chosen := b &&& w
        let perms := if op = '+' then perms ||| chosen
          else if op = '-' then perms &&& (0o777 - chosen)
          else (perms &&& (0o777 - w)) ||| chosen
        permActions who perms after
  termination_by cs => cs.length
  decreasing_by
    simp only [List.length_drop, List.length_cons]
    omega

/-- Permissions after a symbolic mode of clauses apart by commas, each the letters of its
classes then its actions; `none` when the text is not such a mode. -/
def symbolicPerms (perms : Nat) (text : String) : Option Nat :=
  (text.splitOn ",").foldlM (fun perms clause =>
    let cs := clause.toList
    let who := cs.takeWhile (fun c => c = 'u' ∨ c = 'g' ∨ c = 'o' ∨ c = 'a')
    let acts := cs.drop who.length
    if acts.isEmpty then none else permActions who perms acts) perms

/-- Permissions as `umask -S` writes them: each class with the letters it has. -/
def symbolicText (perms : Nat) : String :=
  let part (name : String) (v : Nat) : String :=
    name ++ "=" ++ (if v / 4 % 2 = 1 then "r" else "") ++ (if v / 2 % 2 = 1 then "w" else "") ++
      (if v % 2 = 1 then "x" else "")
  part "u" (perms / 64 % 8) ++ "," ++ part "g" (perms / 8 % 8) ++ "," ++ part "o" (perms % 8)

/-- `umask`: prints the mask (four octal digits, or `-S` the permissions it leaves) or sets
it from an octal number or a symbolic mode applied to the permissions it leaves. -/
def umaskBuiltin (args : List String) : Sh Outcome := do
  let current := (((← proc).value? "\x01umask").bind (fun t =>
    t.foldl (fun acc c => acc.bind (fun n => if '0' ≤ c ∧ c ≤ '7' then some (n * 8 + (c.toNat - 48)) else none)) (some 0))).getD 0o022
  let rec options : List String → Bool → Except Char (Bool × List String)
    | "--" :: rest, sym => .ok (sym, rest)
    | a :: rest, sym =>
      if a.startsWith "-" ∧ a.length > 1 then
        match (a.toList.drop 1).find? (· != 'S') with
        | some c => .error c
        | none => options rest true
      else .ok (sym, a :: rest)
    | [], sym => .ok (sym, [])
  match options args false with
  | .error c => builtinFault false ("Illegal option -" ++ c.toString)
  | .ok (symbolic, ops) =>
    let octal (n : Nat) : String :=
      String.ofList [Char.ofNat (48 + n / 512 % 8), Char.ofNat (48 + n / 64 % 8), Char.ofNat (48 + n / 8 % 8), Char.ofNat (48 + n % 8)]
    let store (mask : Nat) : Sh Outcome := do
      modifyProc fun p => p.putVar "\x01umask" { value := some (octal mask) }
      return (0, "")
    match ops with
    | [] =>
      if symbolic then return (0, symbolicText (0o777 - current) ++ "\n")
      else return (0, octal current ++ "\n")
    | m :: _ =>
      if !m.isEmpty ∧ m.all (fun c => '0' ≤ c ∧ c ≤ '7') then
        store ((m.foldl (fun n c => n * 8 + (c.toNat - 48)) 0) % 512)
      else if (m.toList.head?.map Char.isDigit).getD false then builtinFault false ("Illegal number: " ++ m)
      else match symbolicPerms (0o777 - current) m with
        | some perms => store (0o777 - perms)
        | none => builtinFault false ("Illegal mode: " ++ m)

/-- `getopts`: reads the next option of the positional parameters or the given words. -/
def getoptsBuiltin (args : List String) : Sh Outcome := do
  match args with
  | spec :: name :: given =>
    let p ← proc
    let words := if given.isEmpty then p.params else given
    let index := ((p.value? "OPTIND").bind String.toNat?).getD 1
    let offset := ((p.value? "\x01optoff").bind String.toNat?).getD 0
    let silent := spec.startsWith ":"
    let spec := if silent then String.ofList (spec.toList.drop 1) else spec
    let finish (st : Nat) (opt : String) (optarg : Option String) (idx off : Nat) : Sh Outcome := do
      let _ ← assign name opt
      let _ ← assign "OPTIND" (toString idx)
      modifyProc fun q => q.putVar "\x01optoff" { value := some (toString off) }
      match optarg with
      | some a => let _ ← assign "OPTARG" a
      | none => modifyProc fun q => q.dropVar "OPTARG"
      return (st, "")
    match words[index - 1]? with
    | none => finish 1 "?" none index 0
    | some w =>
      if w = "--" ∧ offset = 0 then finish 1 "?" none (index + 1) 0
      else if !(w.startsWith "-") ∨ w = "-" then finish 1 "?" none index 0
      else
        let letters := w.toList.drop 1
        let pos := if offset = 0 then 0 else offset
        match letters[pos]? with
        | none => finish 1 "?" none index 0
        | some l =>
          let atEnd := pos + 1 ≥ letters.length
          let (nextIdx, nextOff) := if atEnd then (index + 1, 0) else (index, pos + 1)
          let specL := spec.toList
          match specL.idxOf? l with
          | none =>
            if silent then finish 0 "?" (some l.toString) nextIdx nextOff
            else
              put 2 s!"Illegal option -{l}\n"
              finish 0 "?" none nextIdx nextOff
          | some i =>
            if specL[i + 1]? = some ':' then
              if !atEnd then finish 0 l.toString (some (String.ofList (letters.drop (pos + 1)))) (index + 1) 0
              else match words[index]? with
                | some a => finish 0 l.toString (some a) (index + 2) 0
                | none =>
                  if silent then finish 0 ":" (some l.toString) (index + 1) 0
                  else
                    put 2 s!"No arg for -{l} option\n"
                    finish 0 "?" none (index + 1) 0
            else finish 0 l.toString none nextIdx nextOff
  | _ => builtinFault false "usage: getopts optstring var [arg...]"

/-- The lines of `trap` alone: the set traps in the order of their signals. -/
def trapListing (p : Proc) : String :=
  let ts := p.traps.mergeSort (fun a b => decide (a.1 ≤ b.1))
  String.join (ts.map (fun (sig, action) => s!"trap -- {singleQuoted action} {signalName sig}\n"))

/-- `trap`: sets, resets or lists the actions for signals. -/
def trapBuiltin (args : List String) : Sh Outcome := do
  let args := match args with
    | "--" :: rest => rest
    | _ => args
  match args with
  | [] => return (0, trapListing (← proc))
  | first :: rest =>
    let (action, sigs) : Option String × List String :=
      if (signalOf first 0).isSome ∧ first.all Char.isDigit then (none, args)
      else if first = "-" then (none, rest)
      else (some first, rest)
    let mut status := 0
    for s in sigs do
      match signalOf s 0 with
      | none =>
        put 2 s!"trap: {s}: bad trap\n"
        status := 1
      | some n =>
        modifyProc fun p =>
          let others := p.traps.filter (·.1 != n)
          { p with traps := match action with
            | some a => others ++ [(n, a)]
            | none => others }
    return (status, "")

/-- The description `type` gives of a command name. -/
def describe (name : String) (verbose : Bool) : Sh (Option String) := do
  let p ← proc
  if reservedWords.contains name then return some (if verbose then s!"{name} is a shell keyword" else name)
  else if p.funcs.any (·.1 = name) then return some (if verbose then s!"{name} is a shell function" else name)
  else if specialBuiltins.contains name then
    return some (if verbose then s!"{name} is a special shell builtin" else name)
  else if regularBuiltins.contains name then return some (if verbose then s!"{name} is a shell builtin" else name)
  else
    let w ← world
    let path := (p.value? "PATH").getD "/usr/local/sbin:/usr/local/bin:/usr/sbin:/usr/bin:/sbin:/bin"
    let found := if name.contains '/' then
        (if executableAt w (locateFrom p.cwd name) ∧ kindAt w (locateFrom p.cwd name) != some .dir then some name else none)
      else (path.splitOn ":").findSome? (fun d =>
        let full := (if d.isEmpty then "." else d) ++ "/" ++ name
        let names := locateFrom p.cwd full
        if executableAt w names ∧ kindAt w names != some .dir then some full else none)
    return found.map (fun f => if verbose then s!"{name} is {f}" else f)

/-- `type`. -/
def typeBuiltin (args : List String) : Sh Outcome := do
  let mut out := ""
  let mut status := 0
  for a in args do
    match ← describe a true with
    | some d => out := out ++ d ++ "\n"
    | none =>
      out := out ++ s!"{a}: not found\n"
      status := 127
  return (status, out)

end Sh

end JobFlow.Shell
