import JobFlow.Shell.Builtin

/-!
# Reading a line into variables

`read` takes one line of its standard input, up to a newline or the end of the input, and
reads no byte beyond it.
-/

namespace JobFlow.Shell

/-- A character of a line `read` took in, with whether a backslash protected it. -/
abbrev ReadChar := Char × Bool

/-- Takes a line of input: its characters, how many bytes were read, and whether a newline
ended it. -/
def takeLine (raw : Bool) : Nat → List Char → List ReadChar → Nat → List ReadChar × Nat × Bool
  | 0, _, acc, k => (acc.reverse, k, false)
  | _ + 1, [], acc, k => (acc.reverse, k, false)
  | _ + 1, '\n' :: _, acc, k => (acc.reverse, k + 1, true)
  | n + 1, '\\' :: rest, acc, k =>
    if raw then takeLine raw n rest (('\\', false) :: acc) (k + 1)
    else match rest with
      | '\n' :: more => takeLine raw n more acc (k + 2)
      | c :: more => takeLine raw n more ((c, true) :: acc) (k + 2)
      | [] => (acc.reverse, k + 1, false)
  | n + 1, c :: rest, acc, k => takeLine raw n rest ((c, false) :: acc) (k + 1)

/-- Whether a character of the line separates fields. -/
def separates (ifs : List Char) (c : ReadChar) : Bool := !c.2 ∧ ifs.contains c.1

/-- Whether a character of the line is a separating blank. -/
def separatingBlank (ifs : List Char) (c : ReadChar) : Bool := separates ifs c ∧ isIfsBlank c.1

/-- The first field of a line and the line after the separator that ends it. -/
def nextField (ifs : List Char) (cs : List ReadChar) : List ReadChar × List ReadChar :=
  let field := cs.takeWhile (fun c => !separates ifs c)
  let after := match cs.drop field.length with
    | [] => []
    | d :: more =>
      let more := more.dropWhile (separatingBlank ifs)
      if separatingBlank ifs d then
        match more with
        | e :: more' => if separates ifs e then more'.dropWhile (separatingBlank ifs) else more
        | [] => []
      else more
  (field, after)

/-- The text of characters of the line. -/
def readText (cs : List ReadChar) : String := String.ofList (cs.map (·.1))

/-- The values of the variables for a line whose leading blanks are gone. -/
def splitLine (ifs : List Char) : List String → List ReadChar → List (String × String)
  | [], _ => []
  | [name], cs =>
    let cs := (cs.reverse.dropWhile (separatingBlank ifs)).reverse
    let (field, after) := nextField ifs cs
    [(name, readText (if after.isEmpty then field else cs))]
  | name :: more, cs =>
    let (field, after) := nextField ifs cs
    (name, readText field) :: splitLine ifs more after

namespace Sh

/-- `read [-r] [-p prompt] name...`: reads a line of standard input into variables; fails
when the input ended before a newline. -/
def readBuiltin (args : List String) : Sh Outcome := do
  let rec options : Nat → Bool → List String → Except String (Bool × List String)
    | 0, raw, rest => .ok (raw, rest)
    | _ + 1, raw, [] => .ok (raw, [])
    | n + 1, raw, a :: rest =>
      if a = "--" then .ok (raw, rest)
      else if a = "-r" then options n true rest
      else if a = "-p" then options n raw (rest.drop 1)
      else if a.startsWith "-" ∧ a.length > 1 then .error s!"Illegal option {String.ofList (a.toList.take 2)}"
      else .ok (raw, a :: rest)
  match options (args.length + 1) false args with
  | .error e => builtinFault false e
  | .ok (raw, names) =>
    if names.isEmpty then return ← builtinFault false "arg count"
    match ← peekInput 0 with
    | none => return (1, "")
    | some text =>
      let (cs, used, ended) := takeLine raw (text.length + 1) text.toList [] 0
      consumeInput 0 used
      let ifs := ((← getVar "IFS").getD " \t\n").toList
      let cs := cs.dropWhile (separatingBlank ifs)
      for (name, value) in splitLine ifs names cs do
        match ← assign name value with
        | some m => return ← builtinFault false m
        | none => pure ()
      return (if ended then 0 else 1, "")

end Sh

end JobFlow.Shell
