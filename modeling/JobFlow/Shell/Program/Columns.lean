import JobFlow.Shell.Program

/-!
# Lines side by side, numbered and folded

`paste` joins the lines of its files side by side (or with `-s` each file's lines into one),
with delimiters taken in turn from `-d` (a tab by default); `-` stands for standard input,
whose lines go to each `-` in turn.
-/

namespace JobFlow.Shell

namespace Tools

/-- The delimiters of `paste -d`: each character, with `\n`, `\t`, `\\` and `\0` (none) read
as escapes. -/
def pasteDelimiters (spec : String) : List String :=
  let rec go : Nat → List Char → List String
    | 0, _ => []
    | _ + 1, [] => []
    | n + 1, '\\' :: c :: rest =>
      (if c = 'n' then "\n" else if c = 't' then "\t" else if c = '0' then "" else c.toString) :: go n rest
    | n + 1, c :: rest => c.toString :: go n rest
  go (spec.length + 1) spec.toList

/-- `paste`. -/
def paste (c : Call) : Program Unit := do
  let spec : OptionSpec :=
    { withArg := ['d'], flags := ['s', 'z'],
      long := [("delimiters", 'd', true), ("serial", 's', false)] }
  match parseOptions spec c.args with
  | .error f => c.optionFault f
  | .ok (opts, ops) =>
    let delims := match optArg? opts 'd' with
      | some d => pasteDelimiters d
      | none => ["\t"]
    let delims := if delims.isEmpty then [""] else delims
    let delimAt (k : Nat) : String := delims.getD (k % delims.length) ""
    let files := if ops.isEmpty then ["-"] else ops
    let stdinText ← if files.contains "-" then Program.readInput else pure ""
    let stdinLines := (linesOf stdinText).map chomp
    let w ← Program.world
    let mut contents : List (Option (List String)) := []
    for f in files do
      if f = "-" then contents := contents ++ [none]
      else match fileBytes w (c.locate f) with
        | .ok t => contents := contents ++ [some ((linesOf t).map chomp)]
        | .error e =>
          Program.warn c (f ++ ": " ++ e)
          return
    if hasOpt opts 's' then
      let mut input := stdinLines
      for col in contents do
        let lines := match col with
          | some ls => ls
          | none => input
        if col.isNone then input := []
        let joined := (lines.zipIdx.map (fun (l, k) => (if k = 0 then "" else delimAt (k - 1)) ++ l))
        Program.out (String.join joined ++ "\n")
    else
      -- each `-` takes the next line of standard input in its turn
      let stdinCols := (contents.filter Option.isNone).length
      let rows := contents.foldl (fun m col => match col with
        | some ls => max m ls.length
        | none => m) 0
      let rows := max rows ((stdinLines.length + stdinCols - 1) / max stdinCols 1)
      let mut input := stdinLines
      for r in List.range rows do
        let mut line := ""
        let mut k := 0
        for col in contents do
          let cell := match col with
            | some ls => ls.getD r ""
            | none => input.headD ""
          if col.isNone then input := input.drop 1
          line := line ++ (if k = 0 then "" else delimAt (k - 1)) ++ cell
          k := k + 1
        Program.out (line ++ "\n")

/-- `nl`. -/
def nl (c : Call) : Program Unit := do
  let spec : OptionSpec :=
    { withArg := ['b', 'w', 's', 'n', 'v', 'i'], flags := [],
      long := [("body-numbering", 'b', true), ("number-width", 'w', true),
      ("number-separator", 's', true), ("number-format", 'n', true),
      ("starting-line-number", 'v', true), ("line-increment", 'i', true)] }
  match parseOptions spec c.args with
  | .error f => c.optionFault f
  | .ok (opts, ops) =>
    let style := (optArg? opts 'b').getD "t"
    let width := ((optArg? opts 'w').bind String.toNat?).getD 6
    let sep := (optArg? opts 's').getD "\t"
    let format := (optArg? opts 'n').getD "rn"
    let start := ((optArg? opts 'v').bind String.toInt?).getD 1
    let step := ((optArg? opts 'i').bind String.toInt?).getD 1
    let files := if ops.isEmpty then ["-"] else ops
    let mut n := start
    for f in files do
      match ← c.readOperand f with
      | .error e => Program.warn c (f ++ ": " ++ e)
      | .ok text =>
        for line in (linesOf text).map chomp do
          let numbered := if style = "a" then true else if style = "n" then false else !line.isEmpty
          if numbered then
            let digits := toString n
            let pad := width - min width digits.length
            let shown :=
              if format = "ln" then digits ++ String.ofList (List.replicate pad ' ')
              else if format = "rz" then String.ofList (List.replicate pad '0') ++ digits
              else String.ofList (List.replicate pad ' ') ++ digits
            Program.out (shown ++ sep ++ line ++ "\n")
            n := n + step
          else
            Program.out (String.ofList (List.replicate (width + sep.length) ' ') ++ line ++ "\n")

/-- The column after a character: a tab to the next multiple of eight, a backspace one back,
a carriage return to the start; under `bytes` every byte one column. -/
def foldColumn (bytes : Bool) (col : Nat) (ch : Char) : Nat :=
  if bytes then col + 1
  else if ch = '\x08' then col - 1
  else if ch = '\r' then 0
  else if ch = '\t' then col + 8 - col % 8
  else col + 1

/-- The columns a run of characters reaches from the start of a line. -/
def foldWidth (bytes : Bool) (cs : List Char) : Nat := cs.foldl (foldColumn bytes) 0

/-- Folds one line (without its newline) to lines of at most `width` columns: each step adds
the next character to the line being built, or, when it would go past the width, ends that
line (at its last blank under `spaces`) and tries the character again. -/
def foldLine (width : Nat) (spaces bytes : Bool) (line : List Char) : List String :=
  let rec go : Nat → List Char → List Char → List String
    | 0, cur, _ => [String.ofList cur]
    | _ + 1, cur, [] => [String.ofList cur]
    | n + 1, cur, ch :: rest =>
      if foldColumn bytes (foldWidth bytes cur) ch ≤ width then go n (cur ++ [ch]) rest
      else
        let blank := if spaces then cur.reverse.findIdx? (fun b => b = ' ' ∨ b = '\t') else none
        match blank with
        | some back =>
          let keep := cur.length - back
          String.ofList (cur.take keep) :: go n (cur.drop keep) (ch :: rest)
        | none =>
          if cur.isEmpty then go n [ch] rest
          else String.ofList cur :: go n [] (ch :: rest)
  go (2 * line.length + 2) [] line

/-- `fold`. -/
def fold (c : Call) : Program Unit := do
  let spec : OptionSpec :=
    { withArg := ['w'], flags := ['s', 'b'],
      long := [("width", 'w', true), ("spaces", 's', false), ("bytes", 'b', false)] }
  match parseOptions spec c.args with
  | .error f => c.optionFault f
  | .ok (opts, ops) =>
    let width? : Option Nat := match optArg? opts 'w' with
      | some w => w.toNat?
      | none => some 80
    match width? with
    | none | some 0 =>
      let w := (optArg? opts 'w').getD ""
      Program.err (c.name ++ ": invalid number of columns: " ++ quoteName w ++
        (if w.toNat? = some 0 then ": Numerical result out of range" else "") ++ "\n")
      Program.exitWith 1
    | some width =>
      let files := if ops.isEmpty then ["-"] else ops
      for f in files do
        match ← c.readOperand f with
        | .error e => Program.warn c (f ++ ": " ++ e)
        | .ok text =>
          for raw in linesOf text do
            let ended := raw.endsWith "\n"
            let parts := foldLine width (hasOpt opts 's') (hasOpt opts 'b') (chomp raw).toList
            Program.out ("\n".intercalate parts ++ (if ended then "\n" else ""))

/-- `comm`. -/
def comm (c : Call) : Program Unit := do
  let spec : OptionSpec :=
    { withArg := ['o'], flags := ['1', '2', '3'],
      long := [("output-delimiter", 'o', true), ("check-order", 'c', false),
      ("nocheck-order", 'n', false)] }
  match parseOptions spec c.args with
  | .error f => c.optionFault f
  | .ok (opts, ops) =>
    match ops with
    | [a, b] =>
      match ← c.readOperand a with
      | .error e => Program.warn c (a ++ ": " ++ e)
      | .ok ta =>
        match ← c.readOperand b with
        | .error e => Program.warn c (b ++ ": " ++ e)
        | .ok tb =>
          let sep := (optArg? opts 'o').getD "\t"
          let show1 := !hasOpt opts '1'
          let show2 := !hasOpt opts '2'
          let show3 := !hasOpt opts '3'
          let lead2 := if show1 then sep else ""
          let lead3 := (if show1 then sep else "") ++ (if show2 then sep else "")
          let la := (linesOf ta).map chomp
          let lb := (linesOf tb).map chomp
          let mut xs := la
          let mut ys := lb
          let mut prevA : Option String := none
          let mut prevB : Option String := none
          let mut warnedA := false
          let mut warnedB := false
          let mut unsorted := false
          for _ in List.range (la.length + lb.length) do
            -- the side that goes next, checked for order as it is taken
            let side : Nat := match xs, ys with
              | x :: _, y :: _ => if x < y then 1 else if y < x then 2 else 3
              | _ :: _, [] => 1
              | [], _ :: _ => 2
              | [], [] => 0
            if side = 0 then break
            if side = 1 ∨ side = 3 then
              let x := xs.headD ""
              if prevA.any (fun p => decide (x < p)) ∧ !warnedA then
                Program.err (c.name ++ ": file 1 is not in sorted order\n")
                warnedA := true
                unsorted := true
              prevA := some x
            if side = 2 ∨ side = 3 then
              let y := ys.headD ""
              if prevB.any (fun p => decide (y < p)) ∧ !warnedB then
                Program.err (c.name ++ ": file 2 is not in sorted order\n")
                warnedB := true
                unsorted := true
              prevB := some y
            if side = 1 then
              if show1 then Program.out (xs.headD "" ++ "\n")
              xs := xs.drop 1
            else if side = 2 then
              if show2 then Program.out (lead2 ++ ys.headD "" ++ "\n")
              ys := ys.drop 1
            else
              if show3 then Program.out (lead3 ++ xs.headD "" ++ "\n")
              xs := xs.drop 1
              ys := ys.drop 1
          if unsorted then
            Program.err (c.name ++ ": input is not in sorted order\n")
            Program.exitWith 1
    | [] =>
      Program.err (c.name ++ ": missing operand\nTry '" ++ c.name ++ " --help' for more information.\n")
      Program.exitWith 1
    | [a] =>
      Program.err (c.name ++ ": missing operand after " ++ quoteName a ++ "\nTry '" ++ c.name ++ " --help' for more information.\n")
      Program.exitWith 1
    | _ :: _ :: extra :: _ =>
      Program.err (c.name ++ ": extra operand " ++ quoteName extra ++ "\nTry '" ++ c.name ++ " --help' for more information.\n")
      Program.exitWith 1

end Tools

end JobFlow.Shell
