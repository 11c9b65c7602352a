import JobFlow.Shell.Program
import JobFlow.Shell.Regex

/-!
# Evaluating expressions

`expr` evaluates the expression its arguments spell, one token each: `|` and `&` (the first
argument unless it is null or zero, and both unless one is), the comparisons `<`, `<=`, `=`,
`==`, `!=`, `>=`, `>` (of numbers when both sides are integers, else of texts), `+`, `-`, `*`,
`/`, `%` on integers of any size, `:` (a match of a basic regular expression at the start of
the text: the first group's text, or the length of the match), `match`, `substr`, `index`,
`length`, `+ token` for a token taken as text, and parentheses.
-/

namespace JobFlow.Shell

namespace Tools

/-- Whether a text is an integer to `expr`: an optional minus and digits. -/
def exprInteger? (s : String) : Option Int :=
  match s.toList with
  | '-' :: ds => if !ds.isEmpty ∧ ds.all Char.isDigit then some (-((String.ofList ds).toNat?.getD 0 : Int)) else none
  | ds => if !ds.isEmpty ∧ ds.all Char.isDigit then some ((String.ofList ds).toNat?.getD 0 : Int) else none

/-- Whether a value is null: empty, or an integer equal to zero. -/
def exprNull (s : String) : Bool :=
  s.isEmpty || (exprInteger? s) == some 0

/-- A fault of `expr`, with its message and status. -/
structure ExprFault where
  message : String
  status : Nat := 2
  deriving Inhabited

/-- Reading and evaluating an expression: the tokens left, and the last token read. -/
abbrev ExprEval := StateT (List String × String) (Except ExprFault)

namespace ExprEval

/-- The next token, if any. -/
def peek : ExprEval (Option String) := return (← get).1.head?

/-- Takes the next token. -/
def take : ExprEval (Option String) := do
  let (ts, last) ← get
  match ts with
  | t :: rest =>
    set (rest, t)
    return some t
  | [] =>
    set (ts, last)
    return none

/-- Takes the next token if it is one of `ops`. -/
def takeOp (ops : List String) : ExprEval (Option String) := do
  match ← peek with
  | some t => if ops.contains t then take else return none
  | none => return none

/-- Stops with a fault. -/
def fail {α : Type} (msg : String) : ExprEval α := throw { message := msg }

/-- The integer a value stands for, or the fault of one that is not. -/
def integer (s : String) : ExprEval Int :=
  match exprInteger? s with
  | some v => pure v
  | none => fail "non-integer argument"

end ExprEval

/-- Matches a basic regular expression at the start of a text, as `:` does: the text of the
first group when there is one, else the length of the match. -/
def exprMatch (text pattern : String) : Except ExprFault String :=
  match parseRegexGroups {} pattern with
  | .error .unmatchedBracket =>
    .error { message := if pattern.endsWith "[" then "Invalid regular expression" else RegexFault.unmatchedBracket.message }
  | .error e => .error { message := e.message }
  | .ok (n, groups) =>
    let s := text.toList.toArray
    match longestAt n s 0 with
    | some m => .ok (if groups > 0 then m.group s 1 else toString (m.stop - m.start))
    | none => .ok (if groups > 0 then "" else "0")

mutual

/-- `|`: the first value unless it is null, else the second unless it is null, else 0. -/
def exprOr : Nat → Bool → ExprEval String
  | 0, _ => pure ""
  | n + 1, eval => do
    let l ← exprAnd n eval
    exprOrRest n eval l

/-- The rest of a chain of `|`. -/
def exprOrRest : Nat → Bool → String → ExprEval String
  | 0, _, l => pure l
  | n + 1, eval, l => do
    match ← ExprEval.takeOp ["|"] with
    | none => return l
    | some _ =>
      let r ← exprAnd n (eval && exprNull l)
      let v := if !exprNull l then l else if !exprNull r then r else "0"
      exprOrRest n eval v

/-- `&`: the first value unless one of them is null, else 0. -/
def exprAnd : Nat → Bool → ExprEval String
  | 0, _ => pure ""
  | n + 1, eval => do
    let l ← exprCompare n eval
    exprAndRest n eval l

/-- The rest of a chain of `&`. -/
def exprAndRest : Nat → Bool → String → ExprEval String
  | 0, _, l => pure l
  | n + 1, eval, l => do
    match ← ExprEval.takeOp ["&"] with
    | none => return l
    | some _ =>
      let r ← exprCompare n (eval && !exprNull l)
      let v := if exprNull l ∨ exprNull r then "0" else l
      exprAndRest n eval v

/-- The comparisons. -/
def exprCompare : Nat → Bool → ExprEval String
  | 0, _ => pure ""
  | n + 1, eval => do
    let l ← exprSum n eval
    exprCompareRest n eval l

/-- The rest of a chain of comparisons. -/
def exprCompareRest : Nat → Bool → String → ExprEval String
  | 0, _, l => pure l
  | n + 1, eval, l => do
    match ← ExprEval.takeOp ["<", "<=", "=", "==", "!=", ">=", ">"] with
    | none => return l
    | some op =>
      let r ← exprSum n eval
      let o : Ordering := match exprInteger? l, exprInteger? r with
        | some a, some b => compare a b
        | _, _ => compare l r
      let holds : Bool := match op with
        | "<" => o == .lt
        | "<=" => o != .gt
        | "=" | "==" => o == .eq
        | "!=" => o != .eq
        | ">=" => o != .lt
        | _ => o == .gt
      exprCompareRest n eval (if holds then "1" else "0")

/-- Sums and differences. -/
def exprSum : Nat → Bool → ExprEval String
  | 0, _ => pure ""
  | n + 1, eval => do
    let l ← exprProduct n eval
    exprSumRest n eval l

/-- The rest of a chain of sums. -/
def exprSumRest : Nat → Bool → String → ExprEval String
  | 0, _, l => pure l
  | n + 1, eval, l => do
    match ← ExprEval.takeOp ["+", "-"] with
    | none => return l
    | some op =>
      let r ← exprProduct n eval
      if !eval then exprSumRest n eval "0"
      else
        let a ← ExprEval.integer l
        let b ← ExprEval.integer r
        exprSumRest n eval (toString (if op = "+" then a + b else a - b))

/-- Products, quotients and remainders. -/
def exprProduct : Nat → Bool → ExprEval String
  | 0, _ => pure ""
  | n + 1, eval => do
    let l ← exprColon n eval
    exprProductRest n eval l

/-- The rest of a chain of products. -/
def exprProductRest : Nat → Bool → String → ExprEval String
  | 0, _, l => pure l
  | n + 1, eval, l => do
    match ← ExprEval.takeOp ["*", "/", "%"] with
    | none => return l
    | some op =>
      let r ← exprColon n eval
      if !eval then exprProductRest n eval "0"
      else
        let a ← ExprEval.integer l
        let b ← ExprEval.integer r
        if op != "*" ∧ b = 0 then ExprEval.fail "division by zero"
        else exprProductRest n eval (toString (if op = "*" then a * b else if op = "/" then a.tdiv b else a.tmod b))

/-- Matches with `:`. -/
def exprColon : Nat → Bool → ExprEval String
  | 0, _ => pure ""
  | n + 1, eval => do
    let l ← exprPrimary n eval
    exprColonRest n eval l

/-- The rest of a chain of matches. -/
def exprColonRest : Nat → Bool → String → ExprEval String
  | 0, _, l => pure l
  | n + 1, eval, l => do
    match ← ExprEval.takeOp [":"] with
    | none => return l
    | some _ =>
      let r ← exprPrimary n eval
      if !eval then exprColonRest n eval "0"
      else match exprMatch l r with
        | .ok v => exprColonRest n eval v
        | .error e => throw e

/-- A token, a parenthesized expression, or one of the named functions. -/
def exprPrimary : Nat → Bool → ExprEval String
  | 0, _ => pure ""
  | n + 1, eval => do
    let (_, last) ← get
    match ← ExprEval.take with
    | none => ExprEval.fail s!"syntax error: missing argument after {quoteName last}"
    | some t =>
      if t = "(" then
        let v ← exprOr n eval
        match ← ExprEval.take with
        | some ")" => return v
        | some other => ExprEval.fail s!"syntax error: expecting ')' instead of {quoteName other}"
        | none => ExprEval.fail s!"syntax error: expecting ')' after {quoteName (← get).2}"
      else if t = ")" then ExprEval.fail s!"syntax error: unexpected ')'"
      else if t = "+" then
        match ← ExprEval.take with
        | some v => return v
        | none => ExprEval.fail s!"syntax error: missing argument after {quoteName t}"
      else if t = "length" then
        let v ← exprPrimary n eval
        return toString v.length
      else if t = "match" then
        let s ← exprPrimary n eval
        let p ← exprPrimary n eval
        if !eval then return "0"
        match exprMatch s p with
        | .ok v => return v
        | .error e => throw e
      else if t = "substr" then
        let s ← exprPrimary n eval
        let pos ← exprPrimary n eval
        let len ← exprPrimary n eval
        if !eval then return ""
        match exprInteger? pos, exprInteger? len with
        | some p, some l =>
          if p ≤ 0 ∨ l ≤ 0 ∨ p.toNat > s.length then return ""
          else return String.ofList ((s.toList.drop (p.toNat - 1)).take l.toNat)
        | _, _ => return ""
      else if t = "index" then
        let s ← exprPrimary n eval
        let cs ← exprPrimary n eval
        let hit := (List.range s.length).find? (fun k => cs.toList.contains (s.toList.getD k ' '))
        return toString ((hit.map (· + 1)).getD 0)
      else return t

end

/-- `expr`. -/
def expr (c : Call) : Program Unit := do
  let args := match c.args with
    | "--" :: rest => rest
    | a => a
  if args.isEmpty then
    Program.err s!"{c.name}: missing operand\nTry '{c.name} --help' for more information.\n"
    Program.exitWith 2
  else
    match (exprOr (4 * args.length + 8) true).run (args, "") with
    | .error f =>
      Program.err s!"{c.name}: {f.message}\n"
      Program.exitWith f.status
    | .ok (v, (rest, _)) =>
      match rest with
      | t :: _ =>
        Program.err s!"{c.name}: syntax error: unexpected argument {quoteName t}\n"
        Program.exitWith 2
      | [] =>
        Program.out (v ++ "\n")
        Program.exitWith (if exprNull v then 1 else 0)

end Tools

end JobFlow.Shell
