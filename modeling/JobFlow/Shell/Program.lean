import JobFlow.Shell.Paths

/-!
# Programs of the base system

A program the shell starts gets its name as invoked, its arguments, the current directory and
the environment; it reads what its standard input has left, may read and change the disk, and
writes to its standard output and error.
-/

namespace JobFlow.Shell

/-- A program started by the shell. -/
structure Call where
  name : String
  args : List String
  cwd : String
  env : List (String × String)
  deriving Inhabited

/-- The state of a running program: the world, the bytes its standard input has left and how
many of them it read, what it wrote (to descriptor 1 or 2, latest first), and its status. -/
structure Running where
  world : World
  input : String
  consumed : Nat := 0
  writes : List (Nat × String) := []
  status : Nat := 0
  deriving Inhabited

/-- A computation of a program. -/
abbrev Program := StateM Running

namespace Program

/-- Writes to standard output. -/
def out (s : String) : Program Unit :=
  modify fun r => if s.isEmpty then r else { r with writes := (1, s) :: r.writes }

/-- Writes to standard error. -/
def err (s : String) : Program Unit :=
  modify fun r => { r with writes := (2, s) :: r.writes }

/-- Sets the status. -/
def exitWith (n : Nat) : Program Unit := modify fun r => { r with status := n }

/-- Reports a fault of the program on standard error and sets the status to 1. -/
def warn (c : Call) (msg : String) : Program Unit := do
  err s!"{c.name}: {msg}\n"
  exitWith 1

/-- Reads all that standard input has left. -/
def readInput : Program String := do
  let r ← get
  set { r with input := "", consumed := r.consumed + r.input.length }
  return r.input

/-- Reads bytes of standard input up to and with the first newline. -/
def readLine : Program String := do
  let r ← get
  let line := r.input.toList.takeWhile (· ≠ '\n')
  let n := if line.length < r.input.length then line.length + 1 else line.length
  set { r with input := String.ofList (r.input.toList.drop n), consumed := r.consumed + n }
  return String.ofList (r.input.toList.take n)

/-- The shared world. -/
def world : Program World := return (← get).world

/-- Changes the disk. -/
def setDisk (d : Disk) : Program Unit := modify fun r => { r with world := { r.world with disk := d } }

end Program

/-- The names of a path given to a program. -/
def Call.locate (c : Call) (p : String) : List String := locateFrom c.cwd p

/-- The system's description of why a file cannot be read. -/
def readFault (w : World) (names : List String) : Option String :=
  if blockedAt w names then some "Not a directory"
  else match kindAt w names with
    | none => some "No such file or directory"
    | some .dir => some "Is a directory"
    | _ => none

/-- The bytes of a file, or the system's description of why it cannot be read. -/
def fileBytes (w : World) (names : List String) : Except String String :=
  match readFault w names with
  | some e => .error e
  | none =>
    match w.fileText names with
    | some t => .ok t
    | none => .ok ""

/-- Reads an operand of a filter: the bytes of a file, or of standard input for `-`. -/
def Call.readOperand (c : Call) (p : String) : Program (Except String String) := do
  if p = "-" then return .ok (← Program.readInput)
  return fileBytes (← Program.world) (c.locate p)

/-- A name between apostrophes, as the system's tools quote names in their messages. -/
def quoteName (s : String) : String := "'" ++ s ++ "'"

/-- The lines of a text, each with its newline; a last line without one keeps none. -/
def linesOf (s : String) : List String :=
  let rec go : Nat → List Char → List Char → List String → List String
    | 0, cur, _, acc => (if cur.isEmpty then acc else String.ofList cur.reverse :: acc).reverse
    | _ + 1, cur, [], acc => (if cur.isEmpty then acc else String.ofList cur.reverse :: acc).reverse
    | n + 1, cur, '\n' :: rest, acc => go n [] rest (String.ofList ('\n' :: cur).reverse :: acc)
    | n + 1, cur, c :: rest, acc => go n (c :: cur) rest acc
  go (s.length + 1) [] s.toList []

/-- A line without its newline. -/
def chomp (line : String) : String :=
  if line.endsWith "\n" then String.ofList (line.toList.dropLast) else line

/-- How a program reads its options: the letters that take an argument, the letters that do
not, and the long names with the letter each stands for and whether it takes an argument. -/
structure OptionSpec where
  withArg : List Char := []
  flags : List Char := []
  long : List (String × Char × Bool) := []
  deriving Inhabited

/-- A fault in the options. -/
inductive OptionFault where
  | invalid (c : Char)
  | needsArg (c : Char)
  | unrecognized (s : String)
  | longNeedsArg (s : String)
  deriving Inhabited

/-- The message of a fault in the options. -/
def OptionFault.message : OptionFault → String
  | .invalid c => s!"invalid option -- '{c}'"
  | .needsArg c => s!"option requires an argument -- '{c}'"
  | .unrecognized s => s!"unrecognized option '{s}'"
  | .longNeedsArg s => s!"option '{s}' requires an argument"

/-- Reads options and operands: the options in order with their arguments, and the operands. -/
def parseOptions (spec : OptionSpec) (args : List String) :
    Except OptionFault (List (Char × String) × List String) :=
  let rec cluster : List Char → List String → List (Char × String) →
      Except OptionFault (List (Char × String) × List String)
    | [], rest, acc => .ok (acc, rest)
    | c :: more, rest, acc =>
      if spec.withArg.contains c then
        if !more.isEmpty then .ok (acc ++ [(c, String.ofList more)], rest)
        else match rest with
          | a :: rest' => .ok (acc ++ [(c, a)], rest')
          | [] => .error (.needsArg c)
      else if spec.flags.contains c then cluster more rest (acc ++ [(c, "")])
      else .error (.invalid c)
  let rec go : Nat → List String → List (Char × String) → List String →
      Except OptionFault (List (Char × String) × List String)
    | 0, rest, opts, ops => .ok (opts, ops ++ rest)
    | _ + 1, [], opts, ops => .ok (opts, ops)
    | n + 1, a :: rest, opts, ops =>
      if a = "--" then .ok (opts, ops ++ rest)
      else if a.startsWith "--" then
        let body := String.ofList (a.toList.drop 2)
        let name := String.ofList (body.toList.takeWhile (· ≠ '='))
        let value := if body.contains '=' then some (String.ofList ((body.toList.dropWhile (· ≠ '=')).drop 1)) else none
        match spec.long.find? (fun e => e.1 = name) with
        | some (_, c, true) =>
          match value with
          | some v => go n rest (opts ++ [(c, v)]) ops
          | none =>
            match rest with
            | v :: rest' => go n rest' (opts ++ [(c, v)]) ops
            | [] => .error (.longNeedsArg a)
        | some (_, c, false) => go n rest (opts ++ [(c, "")]) ops
        | none => .error (.unrecognized a)
      else if a.startsWith "-" ∧ a.length > 1 then
        match cluster (a.toList.drop 1) rest [] with
        | .ok (got, rest') => go n rest' (opts ++ got) ops
        | .error e => .error e
      else go n rest opts (ops ++ [a])
  go (args.length + 1) args [] []

/-- Reports a fault in the options with the hint at `--help`, and sets the status. -/
def Call.optionFault (c : Call) (f : OptionFault) (status : Nat := 1) : Program Unit := do
  Program.err s!"{c.name}: {f.message}\nTry '{c.name} --help' for more information.\n"
  Program.exitWith status

/-- Whether an option was given. -/
def hasOpt (opts : List (Char × String)) (c : Char) : Bool := opts.any (·.1 = c)

/-- The last argument given to an option. -/
def optArg? (opts : List (Char × String)) (c : Char) : Option String :=
  (opts.filter (·.1 = c)).getLast?.map (·.2)

end JobFlow.Shell
