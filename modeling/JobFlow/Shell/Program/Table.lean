import JobFlow.Shell.Program.Text
import JobFlow.Shell.Program.Files
import JobFlow.Shell.Program.Search
import JobFlow.Shell.Program.Stream
import JobFlow.Shell.Program.Lines
import JobFlow.Shell.Program.Expr
import JobFlow.Shell.Program.Digest
import JobFlow.Shell.Program.Columns
import JobFlow.Shell.Program.Locate
import JobFlow.Shell.Printf
import JobFlow.Shell.Floating

/-!
# The programs of the base system by name

The small programs that stand beside the shell's own commands (`true`, `false`, `sleep`,
`echo`, `printf`, `pwd`, `printenv`), and the table from a program's name to what it does.
-/

namespace JobFlow.Shell

namespace Tools

/-- `true`. -/
def trueTool (_ : Call) : Program Unit := pure ()

/-- `false`. -/
def falseTool (_ : Call) : Program Unit := Program.exitWith 1

/-- Whether a word is a time interval `sleep` takes: a number that is not negative, with an
optional unit `s`, `m`, `h` or `d`. -/
def isInterval (s : String) : Bool :=
  let cs := s.toList
  let (d, len, _) := Double.read cs
  let rest := cs.drop len
  let unitOk : Bool := rest.isEmpty || rest == ['s'] || rest == ['m'] || rest == ['h'] || rest == ['d']
  let valueOk := match d with
    | .finite neg m _ => !neg ∨ m = 0
    | .infinite neg => !neg
    | .nan _ => false
  decide (len > 0) && unitOk && valueOk

/-- `sleep`: checks its intervals; time does not pass for the jobs' scripts. -/
def sleep (c : Call) : Program Unit := do
  match parseOptions {} c.args with
  | .error f => c.optionFault f
  | .ok (_, ops) =>
    if ops.isEmpty then
      Program.err s!"{c.name}: missing operand\nTry '{c.name} --help' for more information.\n"
      Program.exitWith 1
    else
      match ops.find? (fun a => !isInterval a) with
      | some bad =>
        Program.err s!"{c.name}: invalid time interval {quoteName bad}\nTry '{c.name} --help' for more information.\n"
        Program.exitWith 1
      | none => pure ()

/-- The value of a hex digit. -/
def hexValue (c : Char) : Option Nat :=
  if '0' ≤ c ∧ c ≤ '9' then some (c.toNat - 48)
  else if 'a' ≤ c ∧ c ≤ 'f' then some (c.toNat - 87)
  else if 'A' ≤ c ∧ c ≤ 'F' then some (c.toNat - 55)
  else none

/-- Text with the escapes of `echo -e` replaced, and whether a `\c` ended it. -/
def echoEscapes : Nat → List Char → List Char → List Char × Bool
  | 0, _, acc => (acc.reverse, false)
  | _ + 1, [], acc => (acc.reverse, false)
  | n + 1, '\\' :: rest, acc =>
    match rest with
    | 'c' :: _ => (acc.reverse, true)
    | '0' :: more =>
      let ds := (more.takeWhile isOctal).take 3
      let v := ds.foldl (fun a d => a * 8 + (d.toNat - 48)) 0
      echoEscapes n (more.drop ds.length) (Char.ofNat (v % 256) :: acc)
    | 'x' :: more =>
      let hs := (more.takeWhile (fun c => (hexValue c).isSome)).take 2
      if hs.isEmpty then echoEscapes n more ('x' :: '\\' :: acc)
      else
        let v := hs.foldl (fun a d => a * 16 + (hexValue d).getD 0) 0
        echoEscapes n (more.drop hs.length) (Char.ofNat v :: acc)
    | c :: more =>
      match letterEscape c with
      | some e => echoEscapes n more (e :: acc)
      | none => echoEscapes n more (c :: '\\' :: acc)
    | [] => echoEscapes n [] ('\\' :: acc)
  | n + 1, c :: rest, acc => echoEscapes n rest (c :: acc)

/-- `echo` as a program: options `-n`, `-e`, `-E`, escapes only under `-e`. -/
def echo (c : Call) : Program Unit := do
  let isOption (a : String) : Bool :=
    a.length > 1 ∧ a.startsWith "-" ∧ (a.toList.drop 1).all (fun ch => ch = 'n' ∨ ch = 'e' ∨ ch = 'E')
  let opts := c.args.takeWhile isOption
  let words := c.args.drop opts.length
  let letters := opts.foldl (fun acc o => acc ++ o.toList.drop 1) []
  let newline := !letters.contains 'n'
  -- the last of -e and -E wins
  let escapes := (letters.filter (fun ch => ch = 'e' ∨ ch = 'E')).getLast? = some 'e'
  let text := " ".intercalate words
  if escapes then
    let (body, stopped) := echoEscapes (text.length + 1) text.toList []
    Program.out (String.ofList body ++ (if newline ∧ !stopped then "\n" else ""))
  else Program.out (text ++ (if newline then "\n" else ""))

/-- `printf` as a program. -/
def printf (c : Call) : Program Unit := do
  match c.args with
  | [] =>
    Program.err s!"{c.name}: missing operand\nTry '{c.name} --help' for more information.\n"
    Program.exitWith 1
  | f :: rest =>
    let p := printfRun f rest
    Program.out p.out
    for w in p.warnings do Program.err s!"{c.name}: {w}\n"
    match p.fault with
    | some m =>
      Program.err s!"{c.name}: {m}\n"
      Program.exitWith 1
    | none => Program.exitWith (if p.status = 0 then 0 else 1)

/-- `pwd` as a program. -/
def pwd (c : Call) : Program Unit := Program.out (c.cwd ++ "\n")

/-- `printenv`: the environment, or the values of the variables named. -/
def printenv (c : Call) : Program Unit := do
  match parseOptions { flags := ['0'] } c.args with
  | .error f => c.optionFault f 2
  | .ok (opts, names) =>
    let ends := if hasOpt opts '0' then "\x00" else "\n"
    if names.isEmpty then
      for (k, v) in c.env do Program.out s!"{k}={v}{ends}"
    else
      let mut missing := false
      for n in names do
        match c.env.lookup n with
        | some v => Program.out (v ++ ends)
        | none => missing := true
      if missing then Program.exitWith 1

/-- The program of the base system with a name, for those that run no other command. -/
def find? (name : String) : Option (Call → Program Unit) :=
  match name with
  | "cat" => some cat
  | "head" => some (fun c => headTail c true)
  | "tail" => some (fun c => headTail c false)
  | "wc" => some wc
  | "tr" => some tr
  | "rev" => some rev
  | "tac" => some tac
  | "basename" => some basename
  | "dirname" => some dirname
  | "seq" => some seq
  | "yes" => some yes
  | "ls" => some ls
  | "mkdir" => some mkdir
  | "rmdir" => some rmdir
  | "rm" => some rm
  | "touch" => some touch
  | "cp" => some (fun c => copyMove c false)
  | "mv" => some (fun c => copyMove c true)
  | "tee" => some tee
  | "chmod" => some chmod
  | "find" => some find
  | "true" => some trueTool
  | "false" => some falseTool
  | "sleep" => some sleep
  | "echo" => some echo
  | "printf" => some printf
  | "pwd" => some pwd
  | "printenv" => some printenv
  | "grep" => some grep
  | "sed" => some sed
  | "sort" => some sort
  | "uniq" => some uniq
  | "cut" => some cut
  | "expr" => some expr
  | "md5sum" => some (digestSum Digest.md5)
  | "sha1sum" => some (digestSum Digest.sha1)
  | "sha256sum" => some (digestSum Digest.sha256)
  | "base64" => some base64
  | "paste" => some paste
  | "nl" => some nl
  | "fold" => some fold
  | "comm" => some comm
  | "realpath" => some realpath
  | "readlink" => some readlink
  | "which" => some which
  | _ => none

end Tools

end JobFlow.Shell
