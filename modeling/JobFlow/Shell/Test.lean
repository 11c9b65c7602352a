import JobFlow.Shell.Paths

/-!
# Conditions of `test` and `[`

`test` evaluates an expression of its arguments.
-/

namespace JobFlow.Shell

/-- What `test` asks of files: what a path names, the size of a file, and whether it can be
run. -/
structure FileView where
  kind : String → Option Kind
  size : String → Nat
  executable : String → Bool
  deriving Inhabited

/-- The unary operators of `test`. -/
def unaryOps : List String :=
  ["-r", "-w", "-x", "-e", "-f", "-d", "-c", "-b", "-p", "-u", "-g", "-k", "-s", "-t", "-z", "-n",
   "-h", "-L", "-S", "-O", "-G"]

/-- The binary operators of `test`. -/
def binaryOps : List String :=
  ["=", "!=", "<", ">", "-eq", "-ne", "-ge", "-gt", "-le", "-lt", "-nt", "-ot", "-ef", "-a", "-o"]

/-- Whether a word is a binary operator that compares. -/
def isCompareOp (s : String) : Bool := binaryOps.contains s ∧ s != "-a" ∧ s != "-o"

/-- Reads an integer operand of `test`: decimal, with an optional sign and blanks around it. -/
def testNumber (s : String) : Except String Int :=
  let isBlank := fun (c : Char) => c = ' ' ∨ (c.toNat ≥ 9 ∧ c.toNat ≤ 13)
  let cs := s.toList.dropWhile isBlank
  let (neg, body) := match cs with
    | '-' :: rest => (true, rest)
    | '+' :: rest => (false, rest)
    | _ => (false, cs)
  let ds := body.takeWhile Char.isDigit
  let rest := body.drop ds.length
  if ds.isEmpty ∨ !(rest.all isBlank) then .error s!"Illegal number: {s}"
  else
    let v : Nat := ds.foldl (fun acc d => acc * 10 + (d.toNat - 48)) 0
    let x : Int := if neg then -(v : Int) else v
    if x > (Nat.pow 2 63 : Nat) - 1 ∨ x < -((Nat.pow 2 63 : Nat) : Int) then .error s!"Illegal number: {s}"
    else .ok x

/-- A unary test of a file or string. -/
def unaryTest (fs : FileView) (op arg : String) : Except String Bool :=
  if op = "-z" then .ok arg.isEmpty
  else if op = "-n" then .ok (!arg.isEmpty)
  else if op = "-t" then do let _ ← testNumber arg; .ok false
  else
    let k := fs.kind arg
    .ok <| match k with
      | none => false
      | some k =>
        if op = "-e" ∨ op = "-r" ∨ op = "-w" then true
        else if op = "-f" then k = .file ∨ k = .program
        else if op = "-d" then k = .dir
        else if op = "-c" then k = .device
        else if op = "-x" then fs.executable arg
        else if op = "-s" then k = .dir ∨ k = .program ∨ fs.size arg > 0
        else if op = "-O" ∨ op = "-G" then true
        else false

/-- A binary comparison of `test`. -/
def binaryTest (fs : FileView) (a op b : String) : Except String Bool :=
  if op = "=" then .ok (a = b)
  else if op = "!=" then .ok (a != b)
  else if op = "<" then .ok (a < b)
  else if op = ">" then .ok (b < a)
  else if op = "-nt" ∨ op = "-ot" then .ok false
  else if op = "-ef" then .ok ((fs.kind a).isSome ∧ (fs.kind b).isSome ∧
    Disk.locate a = Disk.locate b)
  else do
    let x ← testNumber a
    let y ← testNumber b
    if op = "-eq" then .ok (x = y)
    else if op = "-ne" then .ok (x ≠ y)
    else if op = "-lt" then .ok (x < y)
    else if op = "-le" then .ok (x ≤ y)
    else if op = "-gt" then .ok (x > y)
    else .ok (x ≥ y)

/-- How a word reads as a token of the grammar: an operator, unless it is a unary operator
that stands last or before a word and a binary operator, or a `(` that stands last. -/
def tokenAt (ws : List String) : Option String :=
  match ws with
  | [] => none
  | s :: rest =>
    let isOp := unaryOps.contains s ∨ binaryOps.contains s ∨ s = "!" ∨ s = "(" ∨ s = ")"
    if !isOp then none
    else if unaryOps.contains s then
      match rest with
      | [] => none
      | [_] => some s
      | _ :: b :: _ => if isCompareOp b then none else some s
    else if s = "(" ∧ rest.isEmpty then none
    else some s

/-- The state of reading `test`'s arguments: the words left. -/
abbrev TestM := StateT (List String) (Except String)

mutual

/-- Alternatives joined by `-o`. -/
def orExpr (fs : FileView) : Nat → TestM Bool
  | 0 => throw "argument expected"
  | n + 1 => do
    let a ← andExpr fs n
    match ← get with
    | "-o" :: rest =>
      if tokenAt ("-o" :: rest) = some "-o" then
        set rest
        let b ← orExpr fs n
        pure (a || b)
      else pure a
    | _ => pure a

/-- Conditions joined by `-a`. -/
def andExpr (fs : FileView) : Nat → TestM Bool
  | 0 => throw "argument expected"
  | n + 1 => do
    let a ← notExpr fs n
    match ← get with
    | "-a" :: rest =>
      if tokenAt ("-a" :: rest) = some "-a" then
        set rest
        let b ← andExpr fs n
        pure (a && b)
      else pure a
    | _ => pure a

/-- A condition, negated by `!`. -/
def notExpr (fs : FileView) : Nat → TestM Bool
  | 0 => throw "argument expected"
  | n + 1 => do
    let ws ← get
    match ws with
    | "!" :: rest =>
      if tokenAt ws = some "!" then
        set rest
        let v ← notExpr fs n
        pure (!v)
      else primaryExpr fs n
    | _ => primaryExpr fs n

/-- A primary: a parenthesized expression, a unary test, a comparison, or a word. -/
def primaryExpr (fs : FileView) : Nat → TestM Bool
  | 0 => throw "argument expected"
  | n + 1 => do
    let ws ← get
    match ws with
    | [] => pure false
    | w :: rest =>
      let tok := tokenAt ws
      if tok = some "(" then
        set rest
        let v ← orExpr fs n
        match ← get with
        | ")" :: more => set more; pure v
        | _ => throw "closing paren expected"
      else if tok.isSome ∧ unaryOps.contains w then
        match rest with
        | [] => throw s!"{w}: argument expected"
        | arg :: more =>
          set more
          match unaryTest fs w arg with
          | .ok v => pure v
          | .error e => throw e
      else
        match rest with
        | op :: more =>
          if isCompareOp op then
            match more with
            | [] => throw s!"{op}: argument expected"
            | b :: after =>
              set after
              match binaryTest fs w op b with
              | .ok v => pure v
              | .error e => throw e
          else
            set rest
            pure (!w.isEmpty)
        | [] =>
          set rest
          pure (!w.isEmpty)

end

/-- Evaluates `test`'s arguments, after the standard's rules for few arguments: the status, or
the fault's message. -/
def testArgs (fs : FileView) : Nat → Bool → List String → Except String Nat
  | 0, _, _ => .ok 1
  | fuel + 1, negated, args =>
    let finish (v : Bool) : Nat := if v != negated then 0 else 1
    let grammar (args : List String) : Except String Nat :=
      match (orExpr fs (4 * args.length + 4)).run args with
      | .ok (v, rest) =>
        if rest.isEmpty then .ok (finish v)
        else
          let consumed := args.length - rest.length
          .error ((args.take consumed).getLast?.getD "" ++ ": unexpected operator")
      | .error e => .error e
    match args with
    | [] => .ok (if negated then 0 else 1)
    | [a, op, b] =>
      if isCompareOp op then (binaryTest fs a op b).map finish
      else if a = "(" ∧ b = ")" then testArgs fs fuel negated [op]
      else if a = "!" then testArgs fs fuel (!negated) [op, b]
      else grammar args
    | [a, x, y, b] =>
      if a = "(" ∧ b = ")" then testArgs fs fuel negated [x, y]
      else if a = "!" then testArgs fs fuel (!negated) [x, y, b]
      else grammar args
    | _ => grammar args

/-- What `test` or `[` does with its arguments: the status, or the fault's message. -/
def runTest (fs : FileView) (bracket : Bool) (args : List String) : Except String Nat :=
  if bracket then
    match args.getLast? with
    | some "]" => testArgs fs 8 false args.dropLast
    | _ => .error "missing ]"
  else testArgs fs 8 false args

end JobFlow.Shell
