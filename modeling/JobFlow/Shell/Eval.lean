import JobFlow.Shell.Process
import JobFlow.Shell.Read
import JobFlow.Shell.Redirect
import JobFlow.Shell.Signal
import JobFlow.Shell.Program.Table
import JobFlow.Shell.Program.Timeout

/-!
# Evaluating commands

The evaluator runs the commands of the command language as a shell that is not interactive
does.
-/

namespace JobFlow.Shell

/-- How `sh` was asked to run: its options, the command text of `-c`, whether it reads its
script from standard input, and its operands. -/
structure ShellArgs where
  options : List String := []
  command : Bool := false
  stdin : Bool := false
  operands : List String := []
  deriving Inhabited

/-- Reads the arguments of `sh`: clusters of option letters after `-` (on) or `+` (off),
`-o name`, `-c` and `-s`; `-` or `--` ends them. -/
def ShellArgs.parse (args : List String) : Except String ShellArgs :=
  let rec go : Nat → ShellArgs → List String → Except String ShellArgs
    | 0, sa, rest => .ok { sa with operands := rest }
    | _ + 1, sa, [] => .ok sa
    | n + 1, sa, a :: rest =>
      if a = "-" ∨ a = "--" then .ok { sa with operands := rest }
      else if (a.startsWith "-" ∨ a.startsWith "+") ∧ a.length > 1 then
        let on := a.startsWith "-"
        let rec letters : List Char → ShellArgs → List String → Except String (ShellArgs × List String)
          | [], sa, rest => .ok (sa, rest)
          | c :: more, sa, rest =>
            if c = 'c' then letters more { sa with command := on } rest
            else if c = 's' then letters more { sa with stdin := on } rest
            else if c = 'i' ∨ c = 'l' then letters more sa rest
            else if c = 'o' then
              match rest with
              | name :: rest' =>
                if optionTable.any (·.1 = name) then
                  letters more { sa with options := (sa.options.filter (· != name)) ++ (if on then [name] else []) } rest'
                else .error ("Illegal option " ++ (if on then "-" else "+") ++ "o " ++ name)
              | [] => letters more sa rest
            else match optionOfLetter c with
              | some name =>
                letters more { sa with options := (sa.options.filter (· != name)) ++ (if on then [name] else []) } rest
              | none => .error ("Illegal option " ++ (if on then "-" else "+") ++ c.toString)
        match letters (a.toList.drop 1) sa rest with
        | .ok (sa, rest) => go n sa rest
        | .error e => .error e
      else .ok { sa with operands := a :: rest }
  go (args.length + 1) {} args

/-- How `xargs` splits its input into items: blanks and newlines separate them, quotes group
them and a backslash protects the next character; the fault of an unmatched quote. -/
def xargsItems (input : List Char) : Except String (List String) :=
  let rec go : Nat → List Char → Option (List Char) → Option Char → List String → Except String (List String)
    | 0, _, cur, _, acc => .ok (acc ++ (cur.map (fun c => [String.ofList c.reverse])).getD [])
    | _ + 1, [], cur, q, acc =>
      match q with
      | some '\'' => .error "unmatched single quote; by default quotes are special to xargs unless you use the -0 option"
      | some _ => .error "unmatched double quote; by default quotes are special to xargs unless you use the -0 option"
      | none => .ok (acc ++ (cur.map (fun c => [String.ofList c.reverse])).getD [])
    | n + 1, c :: rest, cur, q, acc =>
      match q with
      | some qc =>
        if c = qc then go n rest cur none acc
        else if c = '\n' then
          .error ("unmatched " ++ (if qc = '\'' then "single" else "double") ++ " quote; by default quotes are special to xargs unless you use the -0 option")
        else go n rest (some (c :: cur.getD [])) q acc
      | none =>
        if c = ' ' ∨ c = '\t' ∨ c = '\n' then
          go n rest none none (acc ++ (cur.map (fun c => [String.ofList c.reverse])).getD [])
        else if c = '\'' ∨ c = '"' then go n rest (some (cur.getD [])) (some c) acc
        else if c = '\\' then
          match rest with
          | d :: more => go n more (some (d :: cur.getD [])) none acc
          | [] => go n [] (some (cur.getD [])) none acc
        else go n rest (some (c :: cur.getD [])) none acc
  go (input.length + 1) input none none []

/-- Splits a list into chunks of at most `k` elements. -/
def chunks {α : Type} (k : Nat) (xs : List α) : List (List α) :=
  let rec go : Nat → List α → List (List α)
    | 0, _ => []
    | _ + 1, [] => []
    | n + 1, xs => xs.take k :: go n (xs.drop k)
  if k = 0 then [xs] else go (xs.length + 1) xs

/-- The evaluator at one level of fuel: every step of evaluation, each calling the steps of
the level below, so that evaluation ends when the fuel does. -/
structure Evaluator where
  evalNode : Bool → Node → Sh Unit
  evalSimple : Bool → List Word → List Word → List Redir → Nat → Sh Unit
  runBuiltin : Bool → String → List String → Sh Unit
  commandBuiltin : Bool → List String → Sh Unit
  dotBuiltin : Bool → List String → Sh Unit
  execBuiltin : List String → Sh Unit
  waitBuiltin : List String → Sh Unit
  callFunction : Bool → Node → List String → Sh Unit
  evalText : Bool → String → Sh Bool
  evalFrom : Bool → Reader → Bool → Sh Bool
  loopRounds : Bool → Bool → Node → Node → Nat → Sh Unit
  forRounds : Bool → String → Node → List String → Nat → Sh Unit
  caseArms : Bool → String → List (List Word × Node) → Sh Unit
  pipeline : Bool → List Node → Option Nat → Sh Ending
  forked : (Proc → Proc) → Sh Unit → Sh Ending
  commandSubst : Node → Sh String
  finishProcess : Option Stop → Sh Ending
  exitTrap : Nat → Sh Ending
  deliverSignals : Sh Unit
  runJob : Job → Sh Ending
  runJobs : Nat → Sh Unit
  runFile : String → String → List String → List (String × String) → Sh Ending
  runProgram : String → String → List String → List (String × String) → Sh Ending
  execFrom : String → String → List String → List (String × String) → Nat → Sh Ending
  envProgram : Call → Sh Ending
  xargsProgram : Call → Sh Ending
  runShell : String → List String → List (String × String) → Sh Ending

namespace Sh

/-- The built-ins that run no other command, by name: their status and output. -/
def plainBuiltin (name : String) (args : List String) : Sh (Option Outcome) := do
  match name with
  | ":" | "true" => return some (0, "")
  | "false" => return some (1, "")
  | "echo" => return some (← echoBuiltin args)
  | "printf" => return some (← printfBuiltin args)
  | "test" => return some (← testBuiltin false args)
  | "[" => return some (← testBuiltin true args)
  | "cd" | "chdir" => return some (← cdBuiltin args)
  | "pwd" => return some (← pwdBuiltin)
  | "export" => return some (← markBuiltin false args)
  | "readonly" => return some (← markBuiltin true args)
  | "unset" => return some (← unsetBuiltin args)
  | "set" => return some (← setBuiltin args)
  | "shift" => return some (← shiftBuiltin args)
  | "break" => return some (← loopBuiltin false args)
  | "continue" => return some (← loopBuiltin true args)
  | "exit" => return some (← exitBuiltin args)
  | "return" => return some (← returnBuiltin args)
  | "local" => return some (← localBuiltin args)
  | "umask" => return some (← umaskBuiltin args)
  | "getopts" => return some (← getoptsBuiltin args)
  | "trap" => return some (← trapBuiltin args)
  | "type" => return some (← typeBuiltin args)
  | "read" => return some (← readBuiltin args)
  | "kill" => return some (← killBuiltin args)
  | "times" => return some (0, "0m0.000000s 0m0.000000s\n0m0.000000s 0m0.000000s\n")
  | "ulimit" => return some (0, "unlimited\n")
  | "hash" | "jobs" | "alias" | "unalias" | "fg" | "bg" => return some (0, "")
  | _ => return none

/-- Expands the words of a simple command. -/
def expandArgs (run : Node → Sh String) (words : List Word) : Sh (List String) := do
  match words with
  | first :: _ =>
    if ["export", "readonly", "local"].contains (first.plainText?.getD "") then
      let mut out : List String := []
      for w in words do
        match Parse.assignment? w with
        | some (name, value) => out := out ++ [name ++ "=" ++ (← expandText run value { assignment := true })]
        | none => out := out ++ (← expandFields run [w])
      return out
    else expandFields run words
  | [] => return []

/-- Starts a command in the background: it gets a fresh id, reads from the null device, and
runs later. -/
def background (c : Node) : Sh Unit := do
  let slot ← claimSlot
  let p ← proc
  let pid ← freshPid
  let nullId ← openChannel .null
  let child := (p.child pid).setFd 0 (some nullId)
  let now := (← world).clock
  modify fun m => { m with jobs := m.jobs ++ [{ pid := pid, owner := p.pid, proc := child, node := c, start := now, slot := slot }] }
  modifyProc fun q => { q with lastBackground := some pid, status := 0 }

/-- The script a new shell runs, with its name and parameters, or the fault that stops it. -/
def shellSource (name : String) (sa : ShellArgs) : Sh (Except String (String × String × List String)) := do
  if sa.command then
    match sa.operands with
    | text :: rest => return .ok (text, rest.headD name, rest.drop 1)
    | [] => return .error "-c requires an argument"
  else if sa.stdin ∨ sa.operands.isEmpty then
    let text := (← peekInput 0).getD ""
    consumeInput 0 text.length
    return .ok (text, name, sa.operands)
  else
    let file := sa.operands.headD ""
    let p ← proc
    match fileBytes (← world) (locateFrom p.cwd file) with
    | .ok text => return .ok (text, file, sa.operands.drop 1)
    | .error _ => return .error s!"cannot open {file}: No such file"

/-- The environment a program gets from `env`'s arguments, with the command that follows
them; or the fault of an option. -/
def envArgs (env : List (String × String)) (args : List String) :
    Except String (List (String × String) × List String) :=
  let rec go : Nat → List (String × String) → List String → Except String (List (String × String) × List String)
    | 0, env, rest => .ok (env, rest)
    | _ + 1, env, [] => .ok (env, [])
    | n + 1, env, a :: rest =>
      if a = "-i" ∨ a = "-" ∨ a = "--ignore-environment" then go n [] rest
      else if a = "-u" then
        match rest with
        | v :: more => go n (env.filter (·.1 != v)) more
        | [] => .error "option requires an argument -- 'u'"
      else if a = "--" then go n env rest
      else if a.startsWith "-" ∧ a.length > 1 then .error ("invalid option -- '" ++ ((a.toList.drop 1).headD ' ').toString ++ "'")
      else if a.contains '=' then
        let k := String.ofList (a.toList.takeWhile (· ≠ '='))
        let v := String.ofList ((a.toList.dropWhile (· ≠ '=')).drop 1)
        let env := if env.any (·.1 = k) then env.map (fun e => if e.1 = k then (k, v) else e) else env ++ [(k, v)]
        go n env rest
      else .ok (env, a :: rest)
  go (args.length + 1) env args

/-- Starts a program file in the foreground: a program of the base system, or a script of the
disk that may be run, read by a new shell. -/
def launchFile (ev : Evaluator) (name path : String) (args : List String) (env : List (String × String)) : Sh Ending := do
  let p ← proc
  let w ← world
  let names := locateFrom p.cwd path
  match kindAt w names with
  | some .program => ev.runProgram name ((programAt names).getD "") args env
  | some .file =>
    if executableAt w names then ev.runShell "sh" (path :: args) env
    else
      complain s!"{name}: Permission denied"
      return .exited 126
  | some .dir | some .device =>
    complain s!"{name}: Permission denied"
    return .exited 126
  | none =>
    complain s!"{name}: not found"
    return .exited 127

/-- The background command of a process that ends first of those that have not run, with the
machine as it is once that command ran, and the time it ends; each is tried on the machine as
it is now. -/
def firstToEnd (ev : Evaluator) (owner : Nat) : Sh (Option (Machine × Nat)) := do
  let m ← get
  let pending := m.jobs.filter (fun j => j.owner = owner ∧ j.ending.isNone)
  let mut best : Option (Machine × Nat) := none
  for j in pending do
    set m
    let _ ← ev.runJob j
    let after ← get
    let fin := ((after.jobs.find? (·.pid = j.pid)).map (·.finish)).getD 0
    match best with
    | some (_, b) => if fin < b then best := some (after, fin)
    | none => best := some (after, fin)
  set m
  return best

/-- A signal waiting for the running shell that it traps with a command, other than the one of
a child's end: it cuts a `wait` short. -/
def trappedSignal : Sh (Option Nat) := do
  let p ← proc
  let w ← world
  let trapped := w.pending.filter (fun (pid, sig) => pid = p.pid ∧ sig != 17 ∧
    ((p.traps.lookup sig).map (fun a => !a.isEmpty)).getD false)
  return trapped.head?.map (·.2)

/-- Runs the background commands of a process that end by a time (all of them when there is
none), the first to end first; with `cut`, a trapped signal for the process stops it. -/
def runJobsUntil (ev : Evaluator) (owner : Nat) (limit : Option Nat) (cut : Bool) : Sh Unit := do
  let count := ((← get).jobs.filter (fun j => j.owner = owner ∧ j.ending.isNone)).length
  for _ in List.range count do
    if cut ∧ (← trappedSignal).isSome then break
    match ← firstToEnd ev owner with
    | none => break
    | some (after, fin) =>
      if limit.all (fun t => decide (fin ≤ t)) then
        set after
        childEnded owner
      else break

/-- Runs the background commands of a process that have ended by now, as a child of it in the
foreground starts or ends: they ran meanwhile. -/
def settleJobs (ev : Evaluator) (owner : Nat) : Sh Unit := do
  runJobsUntil ev owner (some (← world).clock) false

/-- Moves the clock on to the end of the last background command of a process that ended, as
waiting for them does. -/
def catchUp (owner : Nat) : Sh Unit := do
  let m ← get
  let fin := m.jobs.foldl (fun t j => if j.owner = owner ∧ j.ending.isSome then max t j.finish else t) m.world.clock
  modifyWorld fun w => { w with clock := fin }

/-- Evaluates a command; `tested` when its status is tested, so that `errexit` does not
apply. -/
def evalNode (ev : Evaluator) : Bool → Node → Sh Unit
  | tested, node => do
    match node with
    | .empty => pure ()
    | .simple assigns words redirs line =>
      ev.evalSimple tested assigns words redirs line
      checkErrexit tested
    | .pipeline cmds =>
      let _ ← claimSlot
      let e ← ev.pipeline tested cmds none
      ev.deliverSignals
      takeEnding e
      checkErrexit tested
    | .negate c =>
      ev.evalNode true c
      setStatus (if (← status) = 0 then 1 else 0)
    | .both a b =>
      ev.evalNode true a
      if (← proc).skip = .none ∧ (← status) = 0 then ev.evalNode tested b
    | .either a b =>
      ev.evalNode true a
      if (← proc).skip = .none ∧ (← status) != 0 then ev.evalNode tested b
    | .seq a b =>
      ev.evalNode tested a
      if (← proc).skip = .none then ev.evalNode tested b
    | .background c => background c
    | .subshell body redirs line =>
      atLine line
      let _ ← claimSlot
      let e ← ev.forked id (do
        match ← applyRedirs (ev.commandSubst) redirs with
        | some err => fatal err
        | none => ev.evalNode tested body)
      ev.deliverSignals
      takeEnding e
      checkErrexit tested
    | .redirected body redirs line =>
      atLine line
      let saved ← savedFds redirs
      match ← applyRedirs (ev.commandSubst) redirs with
      | some err =>
        complain err
        restoreFds saved
        setStatus 2
      | none =>
        ev.evalNode tested body
        restoreFds saved
    | .ifThen c t e =>
      ev.evalNode true c
      if (← proc).skip = .none then
        if (← status) = 0 then ev.evalNode tested t
        else
          setStatus 0
          ev.evalNode tested e
    | .loop untilDone c b =>
      modifyProc fun p => { p with loopDepth := p.loopDepth + 1 }
      ev.loopRounds untilDone tested c b 0
      modifyProc fun p => { p with loopDepth := p.loopDepth - 1 }
    | .forIn name words body line =>
      atLine line
      let items ← match words with
        | some ws => expandFields (ev.commandSubst) ws
        | none => pure (← proc).params
      modifyProc fun p => { p with loopDepth := p.loopDepth + 1 }
      ev.forRounds tested name body items 0
      modifyProc fun p => { p with loopDepth := p.loopDepth - 1 }
    | .caseOf subject arms line =>
      atLine line
      let text ← expandText (ev.commandSubst) subject
      ev.caseArms tested text arms
    | .function name _ _ =>
      modifyProc fun p => { p with funcs := (p.funcs.filter (·.1 != name)) ++ [(name, node)] }
      setStatus 0
    ev.deliverSignals

/-- Evaluates a simple command: its words, redirections, assignments, and the command they
name. -/
def evalSimple (ev : Evaluator) : Bool → List Word → List Word → List Redir → Nat → Sh Unit
  | tested, assigns, words, redirs, line => do
    atLine line
    modifyProc fun p => { p with lastSubst := none }
    let run := ev.commandSubst
    let args ← expandArgs run words
    let saved ← savedFds redirs
    let redirFault ← applyRedirs run redirs
    let target ← match args with
      | [] => pure none
      | a :: _ => some <$> lookup a true
    let special := match target with
      | some .special => true
      | _ => false
    if let some e := redirFault then
      complain e
      restoreFds saved
      setStatus 2
      if special then throw .fault
      return
    let mut prior : List (String × Option Var) := []
    let mut shown : List String := []
    for w in assigns do
      match Parse.assignment? w with
      | some (name, valueWord) =>
        let value ← expandText run valueWord { assignment := true }
        let before := (← proc).var? name
        if !prior.any (·.1 = name) then prior := prior ++ [(name, before)]
        match ← assign name value with
        | some m => fatal m
        | none => pure ()
        if !args.isEmpty then
          modifyProc fun p => match p.var? name with
            | some v => p.putVar name { v with exported := true }
            | none => p
        shown := shown ++ [name ++ "=" ++ value]
      | none => pure ()
    if (← proc).hasOption "xtrace" then putBefore saved 2 (← traceLine (shown ++ args))
    match args, target with
    | name :: rest, some t =>
      match t with
      | .missing why =>
        complain s!"{name}: {why}"
        setStatus 127
        restoreVars prior
        restoreFds saved
      | .special =>
        let keep := prior
        modifyProc fun p => keep.foldl (fun q (nm, before) =>
          match q.var? nm with
          | some v => q.putVar nm { v with exported := (before.map (·.exported)).getD false || q.hasOption "allexport" }
          | none => q) p
        ev.runBuiltin tested name rest
        if !(name = "exec" ∧ rest.isEmpty) then restoreFds saved
      | .function d =>
        ev.callFunction tested d rest
        restoreVars prior
        restoreFds saved
      | .builtin =>
        if name = "command" then ev.commandBuiltin tested rest
        else ev.runBuiltin tested name rest
        restoreVars prior
        restoreFds saved
      | .file path =>
        let env := (← proc).environment
        let e ← ev.runFile name path rest env
        restoreVars prior
        ev.deliverSignals
        takeEnding e
        restoreFds saved
    | _, _ =>
      setStatus ((← proc).lastSubst.getD 0)
      restoreFds saved

/-- Runs a built-in command, its name shown in its messages; what it writes to standard
output goes out when it ends, and a failed write makes its status 1. -/
def runBuiltin (ev : Evaluator) : Bool → String → List String → Sh Unit
  | tested, name, args => do
    let before := (← proc).commandName
    modifyProc fun p => { p with commandName := some name }
    match name with
    | "eval" =>
      let ran ← ev.evalText tested (" ".intercalate args)
      if !ran then setStatus 0
    | "." => ev.dotBuiltin tested args
    | "exec" => ev.execBuiltin args
    | "wait" => ev.waitBuiltin args
    | _ =>
      let (st, out) ← match ← plainBuiltin name args with
        | some o => pure o
        | none => pure (0, "")
      let mut st := st
      if !out.isEmpty then
        if !(← writeFd 1 out) then
          complain s!"{name}: I/O error"
          st := 1
      setStatus st
    modifyProc fun p => { p with commandName := before }

/-- `command`: with `-v` or `-V` describes a command name; otherwise runs a command without
looking at functions, a special built-in losing what makes it special. -/
def commandBuiltin (ev : Evaluator) : Bool → List String → Sh Unit
  | tested, args => do
    let opts := args.takeWhile (fun a => a.startsWith "-" ∧ a.length > 1 ∧ a != "--")
    let rest := args.drop opts.length
    let rest := if rest.head? = some "--" then rest.drop 1 else rest
    let letters := opts.foldl (fun acc o => acc ++ o.toList.drop 1) []
    match letters.find? (fun c => c != 'p' ∧ c != 'v' ∧ c != 'V') with
    | some c =>
      let before := (← proc).commandName
      modifyProc fun p => { p with commandName := some "command" }
      complain s!"Illegal option -{c}"
      modifyProc fun p => { p with commandName := before }
      setStatus 2
    | none =>
      if letters.contains 'v' ∨ letters.contains 'V' then
        let verbose := letters.contains 'V'
        match rest with
        | [] => setStatus 0
        | name :: _ =>
          match ← describe name verbose with
          | some d =>
            put 1 (d ++ "\n")
            setStatus 0
          | none =>
            if verbose then put 1 s!"{name}: not found\n"
            setStatus 127
      else
        match rest with
        | [] => setStatus 0
        | name :: more =>
          match ← lookup name false with
          | .special | .builtin =>
            if name = "command" then ev.commandBuiltin tested more
            else if name = "local" then
              -- its variables live only as long as the command, as a command's assignments do
              let saved ← proc
              setProc { saved with funcDepth := saved.funcDepth + 1, locals := [] :: saved.locals }
              ev.runBuiltin tested name more
              let st ← status
              setProc { saved with status := st }
            else
              -- a built-in run by `command` is never special: its faults leave status 2
              match ← catching (ev.runBuiltin tested name more) with
              | some .fault => setStatus 2
              | some s => throw s
              | none => pure ()
          | .function _ => setStatus 0
          | .file path =>
            let e ← ev.runFile name path more (← proc).environment
            ev.deliverSignals
            takeEnding e
          | .missing why =>
            complain s!"{name}: {why}"
            setStatus 127

/-- `.`: reads and evaluates a file in the running shell; a name without `/` is searched for
in `PATH`. -/
def dotBuiltin (ev : Evaluator) : Bool → List String → Sh Unit
  | tested, args => do
    match args with
    | [] => setStatus 0
    | file :: _ =>
      let p ← proc
      let w ← world
      let path? : Option String :=
        if file.contains '/' then some file
        else ((p.value? "PATH").getD "").splitOn ":" |>.findSome? (fun d =>
          let full := if d.isEmpty then file else d ++ "/" ++ file
          if kindAt w (locateFrom p.cwd full) = some .file then some full else none)
      match path? with
      | none => fatal s!"{file}: not found"
      | some path =>
        match fileBytes w (locateFrom p.cwd path) with
        | .error _ => fatal s!"cannot open {path}: No such file"
        | .ok text =>
          modifyProc fun q => { q with commandName := some path }
          let ran ← ev.evalText tested text
          if !ran then setStatus 0
          modifyProc fun q => { q with skip := if q.skip = .returning then .none else q.skip }

/-- `exec`: runs a program in place of the shell, which ends with the program's status. -/
def execBuiltin (ev : Evaluator) : List String → Sh Unit
  | args => do
    match args with
    | [] => setStatus 0
    | name :: rest =>
      let p ← proc
      let w ← world
      let path? := if name.contains '/' then some name
        else (searchPath w p.cwd ((p.value? "PATH").getD "") name).1
      match path? with
      | none =>
        complain s!"{name}: not found"
        throw (.exit 127)
      | some path =>
        match ← ev.runFile name path rest p.environment with
        | .exited st => throw (.replaced st)
        | .killed k => throw (.signal k)

/-- `wait`: with no operand, waits for every background command (the first to end first) and
collects them; with process ids, for each of those in turn, reporting how one ended when it
ends now (or ended uncollected), with its status. -/
def waitBuiltin (ev : Evaluator) : List String → Sh Unit
  | args => do
    let me := (← proc).pid
    let collect (pid? : Option Nat) : Sh Unit :=
      modify fun m => { m with jobs := m.jobs.map (fun (k : Job) =>
        if k.owner = me ∧ k.ending.isSome ∧ pid?.all (· == k.pid) then { k with waited := true, reaped := true } else k) }
    match args with
    | [] =>
      runJobsUntil ev me none true
      catchUp me
      collect none
      match ← trappedSignal with
      | some sig => setStatus (128 + sig)
      | none => setStatus 0
    | _ =>
      let mut st := 0
      for a in args do
        match a.toNat? with
        | none =>
          complain s!"Illegal number: {a}"
          st := 2
        | some pid =>
          match (← get).jobs.find? (fun j => j.pid = pid ∧ j.owner = me) with
          | none => st := 127
          | some j =>
            match j.ending with
            | some e =>
              if !j.reaped then reportEnding e
              collect (some pid)
              st := e.status
            | none =>
              -- when it ends, then the commands that end by then, this one among them
              let m ← get
              let _ ← ev.runJob j
              let fin := (((← get).jobs.find? (·.pid = pid)).map (·.finish)).getD 0
              set m
              runJobsUntil ev me (some fin) true
              catchUp me
              match ((← get).jobs.find? (·.pid = pid)).bind (·.ending) with
              | some e =>
                reportEnding e
                collect (some pid)
                st := e.status
              | none =>
                match ← trappedSignal with
                | some sig =>
                  st := 128 + sig
                  break
                | none =>
                  let e ← ev.runJob j
                  catchUp me
                  reportEnding e
                  collect (some pid)
                  st := e.status
      setStatus st

/-- Calls a function: its parameters and local variables last while it runs, and `return`
ends it. -/
def callFunction (ev : Evaluator) : Bool → Node → List String → Sh Unit
  | tested, d, args => do
    match d with
    | .function _ body line =>
      let saved ← proc
      setProc { saved with
        params := args
        funcLine := line
        loopDepth := 0
        funcDepth := saved.funcDepth + 1
        locals := [] :: saved.locals }
      ev.evalNode tested body
      let p ← proc
      let frame := p.locals.headD []
      let p := frame.foldl (fun q (nm, v) =>
        match v with
        | some v => q.putVar nm v
        | none => q.dropVar nm) p
      setProc { p with
        params := saved.params
        funcLine := saved.funcLine
        loopDepth := saved.loopDepth
        funcDepth := saved.funcDepth
        locals := saved.locals
        skip := if p.skip = .returning then .none else p.skip }
    | _ => pure ()

/-- Reads and evaluates a text command by command; whether a command ran. -/
def evalText (ev : Evaluator) : Bool → String → Sh Bool
  | tested, text => ev.evalFrom tested (Reader.ofText text) false

/-- Evaluates the commands a reader has left. -/
def evalFrom (ev : Evaluator) : Bool → Reader → Bool → Sh Bool
  | tested, r, ran => do
    match Reader.next r with
    | .error f =>
      modifyProc fun p => { p with line := f.line }
      fatal f.message
    | .ok (none, _) => return ran
    | .ok (some node, r') =>
      modifyProc fun p => { p with parseLine := r'.line }
      ev.evalNode tested node
      let ran := ran || !(match node with
        | .empty => true
        | _ => false)
      if (← proc).skip != .none then return ran
      ev.evalFrom tested r' ran

/-- The rounds of a `while` or `until` loop; `st` is the status of the last body. -/
def loopRounds (ev : Evaluator) : Bool → Bool → Node → Node → Nat → Sh Unit
  | untilDone, tested, cond, body, st => do
    ev.evalNode true cond
    let i ← status
    let returning := (← proc).skip = .returning
    match ← loopStep with
    | .leave => setStatus (if returning then i else st)
    | .nextRound => ev.loopRounds untilDone tested cond body st
    | .proceed =>
      let go := if untilDone then i != 0 else i = 0
      if !go then setStatus st
      else
        ev.evalNode tested body
        let st' ← status
        match ← loopStep with
        | .leave => setStatus st'
        | _ => ev.loopRounds untilDone tested cond body st'

/-- The rounds of a `for` loop over its items. -/
def forRounds (ev : Evaluator) : Bool → String → Node → List String → Nat → Sh Unit
  | _, _, _, [], st => setStatus st
  | tested, name, body, item :: rest, _ => do
    setVar name item
    ev.evalNode tested body
    let st' ← status
    match ← loopStep with
    | .leave => setStatus st'
    | _ => ev.forRounds tested name body rest st'

/-- The arms of a `case`: the first whose pattern matches runs. -/
def caseArms (ev : Evaluator) : Bool → String → List (List Word × Node) → Sh Unit
  | _, _, [] => setStatus 0
  | tested, text, (pats, body) :: rest => do
    let mut hit := false
    for pw in pats do
      if !hit then
        let pat ← expandPattern (ev.commandSubst) pw
        if Pattern.accepts pat text then hit := true
    if hit then
      setStatus 0
      ev.evalNode tested body
    else ev.caseArms tested text rest

/-- Runs the commands of a pipeline, each in a child process reading what the one before it
wrote; how the last one ended. -/
def pipeline (ev : Evaluator) : Bool → List Node → Option Nat → Sh Ending
  | _, [], _ => pure (.exited 0)
  | tested, [c], input =>
    ev.forked (fun q => match input with
      | some i => q.setFd 0 (some i)
      | none => q) (ev.evalNode tested c)
  | tested, c :: rest, input => do
    let pipeId ← openChannel (.pipe "" 0)
    let _ ← ev.forked (fun q => (match input with
      | some i => q.setFd 0 (some i)
      | none => q).setFd 1 (some pipeId)) (ev.evalNode tested c)
    ev.pipeline tested rest (some pipeId)

/-- Runs a computation in a child process prepared by `prep`; how the child ended. -/
def forked (ev : Evaluator) : (Proc → Proc) → Sh Unit → Sh Ending
  | prep, body => do
    let me := (← proc).pid
    settleJobs ev me
    let parent ← proc
    let pid ← freshPid
    setProc (prep (parent.child pid))
    let stop ← catching body
    let e ← ev.finishProcess stop
    setProc parent
    childEnded me
    settleJobs ev me
    return e

/-- Runs a command substitution: the output of the command, run in a child process. -/
def commandSubst (ev : Evaluator) : Node → Sh String
  | node => do
    let _ ← claimSlot
    let pipeId ← openChannel (.pipe "" 0)
    let e ← ev.forked (fun q => q.setFd 1 (some pipeId)) (ev.evalNode false node)
    reportEnding e
    reapJobs
    let out := match (← world).channel pipeId with
      | .pipe d _ => d
      | _ => ""
    modifyProc fun p => { p with lastSubst := some e.status }
    return out

/-- Ends a process: runs its `EXIT` trap unless a signal killed it or a program replaced it,
then the background commands it left. -/
def finishProcess (ev : Evaluator) : Option Stop → Sh Ending
  | stop => do
    let e ← match stop with
      | some (.signal k) => pure (Ending.killed k)
      | some (.replaced st) => pure (Ending.exited st)
      | some (.exit st) => ev.exitTrap st
      | some .fault => ev.exitTrap 2
      | none => do ev.exitTrap (← status)
    let now := (← world).clock
    ev.runJobs (← proc).pid
    modifyWorld fun w => { w with clock := now }
    return e

/-- Runs the `EXIT` trap of a process ending with a status; only `exit` in it changes the
status. -/
def exitTrap (ev : Evaluator) : Nat → Sh Ending
  | st => do
    let p ← proc
    match p.traps.lookup 0 with
    | some action =>
      setProc { p with traps := p.traps.filter (·.1 != 0), status := st, skip := .none }
      match ← catching (do let _ ← ev.evalText false action) with
      | some (.exit s) => return .exited s
      | some (.replaced s) => return .exited s
      | some (.signal k) => return .killed k
      | some .fault => return .exited 2
      | none => return .exited st
    | none => return .exited st

/-- Takes the signals sent to the running shell: runs the trap of each, ignores it, or dies
of it. -/
def deliverSignals (ev : Evaluator) : Sh Unit := do
    let p ← proc
    match (← world).pending.find? (·.1 = p.pid) with
    | none => pure ()
    | some (pid, sig) =>
      modifyWorld fun w => { w with pending := w.pending.erase (pid, sig) }
      match p.traps.lookup sig with
      | some action =>
        if !action.isEmpty then
          let st := p.status
          let _ ← ev.evalText false action
          setStatus st
      | none =>
        if !(ignoredByDefault sig || stopsProcess sig) then throw (.signal sig)
      ev.deliverSignals

/-- Runs a background command that has not run yet, in the process it was given. -/
def runJob (ev : Evaluator) : Job → Sh Ending
  | j => do
    match j.ending with
    | some e => return e
    | none =>
      let parent ← proc
      let now := (← world).clock
      modifyWorld fun w => { w with clock := j.start }
      setProc j.proc
      let stop ← catching (ev.evalNode false j.node)
      let e ← ev.finishProcess stop
      setProc parent
      let fin := (← world).clock
      modifyWorld fun w => { w with clock := now }
      modify fun m => { m with jobs := m.jobs.map (fun (k : Job) =>
        if k.pid = j.pid then { k with ending := some e, finish := fin } else k) }
      return e

/-- Runs every background command of a process that has not run yet, the first to end first. -/
def runJobs (ev : Evaluator) : Nat → Sh Unit
  | owner => runJobsUntil ev owner none false

/-- Runs a program file as a child in the foreground: it takes a slot of the table, and the
background commands that end before it starts, or before it ends, run first. -/
def runFile (ev : Evaluator) : String → String → List String → List (String × String) → Sh Ending
  | name, path, args, env => do
    let _ ← claimSlot
    let me := (← proc).pid
    settleJobs ev me
    let e ← launchFile ev name path args env
    childEnded me
    settleJobs ev me
    return e

/-- Runs a program of the base system by its name. -/
def runProgram (ev : Evaluator) : String → String → List String → List (String × String) → Sh Ending
  | name, tool, args, env => do
    let p ← proc
    let call : Call := { name := name, args := args, cwd := p.cwd, env := env }
    if tool = "sh" ∨ tool = "dash" then ev.runShell name args env
    else if tool = "env" then ev.envProgram call
    else if tool = "xargs" then ev.xargsProgram call
    else if tool = "nohup" then
      match args with
      | [] =>
        put 2 s!"{name}: missing operand\nTry '{name} --help' for more information.\n"
        return .exited 125
      | cmd :: rest => ev.execFrom (name ++ ": failed to run command " ++ quoteName cmd) cmd rest env 127
    else if tool = "timeout" then
      match timeLimitArgs name args with
      | .error msg =>
        put 2 (msg ++ "Try " ++ quoteName (name ++ " --help") ++ " for more information.\n")
        return .exited 125
      | .ok t =>
        -- only a sleep outlasts the limit: it dies of the signal
        let w ← world
        let path := (env.lookup "PATH").getD "/bin:/usr/bin"
        let found := if t.command.contains '/' then some t.command else (searchPath w p.cwd path t.command).1
        let sleeps : Bool := match found with
          | some full => programAt (locateFrom p.cwd full) == some "sleep"
          | none => false
        if sleeps && t.outlasts t.args then
          modifyWorld fun w => { w with clock := w.clock + t.limit.nanos }
          if t.verbose then
            put 2 (name ++ ": sending signal " ++ signalName t.signal ++ " to command " ++ quoteName t.command ++ "\n")
          if t.signal = 9 ∧ !t.foreground then return .killed 9
          else return .exited (if t.preserve then 128 + t.signal else 124)
        else ev.execFrom (name ++ ": failed to run command " ++ quoteName t.command) t.command t.args env 127
    else if tool = "kill" then
      let (st, out) ← killBuiltin args
      put 1 out
      return .exited st
    else match Tools.find? tool with
      | some t =>
        let st ← runTool t call
        -- the one program that takes time
        if tool = "sleep" ∧ st = 0 then
          modifyWorld fun w => { w with clock := w.clock + sleepNanos args }
        return .exited st
      | none =>
        complain s!"{name}: not found"
        return .exited 127

/-- Runs a command named by a program (`env`, `xargs`, ...), searched for in the `PATH` of
its environment; a name found nowhere, or not to be run, is reported after `lead`, the words
that program's messages start with. -/
def execFrom (ev : Evaluator) : String → String → List String → List (String × String) → Nat → Sh Ending
  | lead, cmd, args, env, missing => do
    let p ← proc
    let w ← world
    let path := (env.lookup "PATH").getD "/bin:/usr/bin"
    let found := if cmd.contains '/' then
        (if (kindAt w (locateFrom p.cwd cmd)).isSome then some cmd else none)
      else (searchPath w p.cwd path cmd).1
    match found with
    | none =>
      put 2 (lead ++ ": No such file or directory\n")
      return .exited missing
    | some full =>
      let names := locateFrom p.cwd full
      match kindAt w names with
      | some .program => ev.runProgram cmd ((programAt names).getD "") args env
      | some .file =>
        if executableAt w names then ev.runShell "sh" (full :: args) env
        else
          put 2 (lead ++ ": Permission denied\n")
          return .exited 126
      | _ =>
        put 2 (lead ++ ": Permission denied\n")
        return .exited 126

/-- `env`: runs a command in a changed environment, or prints the environment. -/
def envProgram (ev : Evaluator) : Call → Sh Ending
  | c => do
    match envArgs c.env c.args with
    | .error e =>
      put 2 s!"{c.name}: {e}\nTry '{c.name} --help' for more information.\n"
      return .exited 125
    | .ok (env, []) =>
      put 1 (String.join (env.map (fun (k, v) => s!"{k}={v}\n")))
      return .exited 0
    | .ok (env, cmd :: rest) => ev.execFrom (c.name ++ ": " ++ quoteName cmd) cmd rest env 127

/-- `xargs`: runs a command (`echo` by default) with the items of its input as arguments:
all at once, `-n` at a time, or one line at a time replacing a text under `-I`. -/
def xargsProgram (ev : Evaluator) : Call → Sh Ending
  | c => do
    let spec : OptionSpec :=
      { withArg := ['n', 'I', 'L', 'd', 'P', 's', 'E'],
        flags := ['0', 'r', 't', 'x'],
        long := [("null", '0', false), ("no-run-if-empty", 'r', false), ("max-args", 'n', true),
                 ("verbose", 't', false)] }
    -- options stop at the first operand
    let optWords := c.args.takeWhile (fun a => a.startsWith "-" ∧ a.length > 1)
    let rec split : Nat → List String → List String → List String × List String
      | 0, opts, rest => (opts, rest)
      | _ + 1, opts, [] => (opts, [])
      | k + 1, opts, a :: rest =>
        if a = "--" then (opts, rest)
        else if a.startsWith "-" ∧ a.length > 1 then
          let letter := (a.toList.drop 1).headD ' '
          if spec.withArg.contains letter ∧ a.length = 2 then
            match rest with
            | v :: more => split k (opts ++ [a, v]) more
            | [] => (opts ++ [a], [])
          else split k (opts ++ [a]) rest
        else (opts, a :: rest)
    let (optArgs, command) := split (c.args.length + 1) [] c.args
    let _ := optWords
    match parseOptions spec optArgs with
    | .error f =>
      put 2 s!"{c.name}: {f.message}\nTry '{c.name} --help' for more information.\n"
      return .exited 1
    | .ok (opts, _) =>
      let input := (← peekInput 0).getD ""
      consumeInput 0 input.length
      let (cmd, base) := match command with
        | [] => ("echo", [])
        | x :: more => (x, more)
      let items : Except String (List String) :=
        if hasOpt opts '0' then .ok ((input.splitOn "\x00").filter (!·.isEmpty))
        else match optArg? opts 'd' with
          | some d => .ok ((input.splitOn (String.ofList (d.toList.take 1))).filter (!·.isEmpty))
          | none =>
            if (optArg? opts 'I').isSome then
              .ok (((input.splitOn "\n").map (fun l => String.ofList (l.toList.dropWhile (fun ch => ch = ' ' ∨ ch = '\t')))).filter (!·.isEmpty))
            else xargsItems input.toList
      match items with
      | .error e =>
        put 2 s!"{c.name}: {e}\n"
        return .exited 1
      | .ok items =>
        let runs : List (List String) :=
          match optArg? opts 'I' with
          | some r => items.map (fun it => base.map (fun a => it.intercalate (a.splitOn r)))
          | none =>
            let per := ((optArg? opts 'n').bind String.toNat?).getD 0
            let groups := if items.isEmpty then (if hasOpt opts 'r' then [] else [[]]) else chunks per items
            groups.map (fun g => base ++ g)
        let cmdName := match optArg? opts 'I' with
          | some r => r.intercalate (cmd.splitOn r)
          | none => cmd
        let mut worst := 0
        for argv in runs do
          if hasOpt opts 't' then put 2 (" ".intercalate (cmdName :: argv) ++ "\n")
          let e ← ev.execFrom (c.name ++ ": " ++ cmdName) cmdName argv c.env 127
          match e with
          | .exited 0 => pure ()
          | .exited 127 => return .exited 127
          | .exited 126 => return .exited 126
          | .exited 255 =>
            put 2 s!"{c.name}: {cmdName}: exited with status 255; aborting\n"
            return .exited 124
          | .exited _ => worst := 123
          | .killed k =>
            put 2 s!"{c.name}: {cmdName}: terminated by signal {k}\n"
            return .exited 125
        return .exited worst

/-- Runs a new shell (`sh`): with `-c` a command text, else a script file, else its standard
input; its options and parameters from its arguments. -/
def runShell (ev : Evaluator) : String → List String → List (String × String) → Sh Ending
  | name, args, env => do
    match ShellArgs.parse args with
    | .error msg =>
      put 2 s!"{name}: 0: {msg}\n"
      return .exited 2
    | .ok sa =>
      match ← shellSource name sa with
      | .error msg =>
        put 2 s!"{name}: 0: {msg}\n"
        return .exited 2
      | .ok (text, arg0, params) =>
        let parent ← proc
        let pid ← freshPid
        setProc (Proc.start pid parent arg0 params env sa.options)
        let stop ← catching (do let _ ← ev.evalText false text)
        let e ← ev.finishProcess stop
        setProc parent
        return e


end Sh

/-- The evaluator one level of fuel above another. -/
def Evaluator.next (ev : Evaluator) : Evaluator where
  evalNode := Sh.evalNode ev
  evalSimple := Sh.evalSimple ev
  runBuiltin := Sh.runBuiltin ev
  commandBuiltin := Sh.commandBuiltin ev
  dotBuiltin := Sh.dotBuiltin ev
  execBuiltin := Sh.execBuiltin ev
  waitBuiltin := Sh.waitBuiltin ev
  callFunction := Sh.callFunction ev
  evalText := Sh.evalText ev
  evalFrom := Sh.evalFrom ev
  loopRounds := Sh.loopRounds ev
  forRounds := Sh.forRounds ev
  caseArms := Sh.caseArms ev
  pipeline := Sh.pipeline ev
  forked := Sh.forked ev
  commandSubst := Sh.commandSubst ev
  finishProcess := Sh.finishProcess ev
  exitTrap := Sh.exitTrap ev
  deliverSignals := Sh.deliverSignals ev
  runJob := Sh.runJob ev
  runJobs := Sh.runJobs ev
  runFile := Sh.runFile ev
  runProgram := Sh.runProgram ev
  execFrom := Sh.execFrom ev
  envProgram := Sh.envProgram ev
  xargsProgram := Sh.xargsProgram ev
  runShell := Sh.runShell ev

/-- The evaluator without fuel, whose every step does nothing. -/
def Evaluator.stuck : Evaluator where
  evalNode _ _ := pure ()
  evalSimple _ _ _ _ _ := pure ()
  runBuiltin _ _ _ := pure ()
  commandBuiltin _ _ := pure ()
  dotBuiltin _ _ := pure ()
  execBuiltin _ := pure ()
  waitBuiltin _ := pure ()
  callFunction _ _ _ := pure ()
  evalText _ _ := pure false
  evalFrom _ _ ran := pure ran
  loopRounds _ _ _ _ st := Sh.setStatus st
  forRounds _ _ _ _ st := Sh.setStatus st
  caseArms _ _ _ := pure ()
  pipeline _ _ _ := pure (.exited 0)
  forked _ _ := pure (.exited 0)
  commandSubst _ := pure ""
  finishProcess _ := pure (.exited 0)
  exitTrap st := pure (.exited st)
  deliverSignals := pure ()
  runJob _ := pure (.exited 0)
  runJobs _ := pure ()
  runFile _ _ _ _ := pure (.exited 0)
  runProgram _ _ _ _ := pure (.exited 0)
  execFrom _ _ _ _ _ := pure (.exited 0)
  envProgram _ := pure (.exited 0)
  xargsProgram _ := pure (.exited 0)
  runShell _ _ _ := pure (.exited 0)

/-- The evaluator with `n` levels of fuel. -/
def Evaluator.ofFuel : Nat → Evaluator
  | 0 => .stuck
  | n + 1 => (ofFuel n).next

end JobFlow.Shell
