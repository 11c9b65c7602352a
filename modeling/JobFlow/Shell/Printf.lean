import JobFlow.Shell.Floating

/-!
# What `printf` and `echo` write

`printf` writes its format with each directive replaced by the next argument.
-/

namespace JobFlow.Shell

/-- Whether a character is an octal digit. -/
def isOctal (c : Char) : Bool := '0' ≤ c ∧ c ≤ '7'

/-- The control byte a backslash and a letter stand for. -/
def letterEscape (c : Char) : Option Char :=
  if c = '\\' then some '\\'
  else if c = 'a' then some (Char.ofNat 7)
  else if c = 'b' then some (Char.ofNat 8)
  else if c = 'e' then some (Char.ofNat 27)
  else if c = 'f' then some (Char.ofNat 12)
  else if c = 'n' then some '\n'
  else if c = 'r' then some '\r'
  else if c = 't' then some '\t'
  else if c = 'v' then some (Char.ofNat 11)
  else none

/-- The byte an escape stands for, given the text after its backslash, and the text after the
escape. -/
def escapeAt (cs : List Char) : Char × List Char :=
  match cs with
  | c :: rest =>
    if isOctal c then
      let ds := (cs.takeWhile isOctal).take 3
      let v := ds.foldl (fun acc d => acc * 8 + (d.toNat - 48)) 0
      (Char.ofNat (v % 256), cs.drop ds.length)
    else match letterEscape c with
      | some e => (e, rest)
      | none => ('\\', cs)
  | [] => ('\\', [])

/-- Text with the escapes of `%b` and `echo` replaced, and whether a `\c` ended it. -/
def expandEscapes (cs : List Char) : List Char × Bool :=
  let rec go : Nat → List Char → List Char → List Char × Bool
    | 0, acc, _ => (acc.reverse, false)
    | _ + 1, acc, [] => (acc.reverse, false)
    | _ + 1, acc, '\\' :: 'c' :: _ => (acc.reverse, true)
    | n + 1, acc, '\\' :: rest =>
      let rest := match rest with
        | '0' :: d :: more => if isOctal d then d :: more else rest
        | _ => rest
      let (c, after) := escapeAt rest
      go n (c :: acc) after
    | n + 1, acc, c :: rest => go n (c :: acc) rest
  go (cs.length + 1) [] cs

/-- What `echo` writes for its arguments, and whether a `\c` ended it. -/
def echoText (args : List String) : String :=
  let (newline, words) := match args with
    | "-n" :: rest => (false, rest)
    | _ => (true, args)
  let (body, stopped) := expandEscapes (" ".intercalate words).toList
  String.ofList body ++ (if stopped ∨ ¬ newline then "" else "\n")

/-- A number as C's `strtoimax` and `strtoumax` read it with base 0, after blanks and a sign:
whether it was negative, its magnitude, and how many characters it took; `none` when no digit
starts it. -/
def readWhole (cs : List Char) : Option (Bool × Nat × Nat) :=
  let blanks := (cs.takeWhile (fun c => c = ' ' ∨ (c.toNat ≥ 9 ∧ c.toNat ≤ 13))).length
  let body := cs.drop blanks
  let (neg, body, signLen) := match body with
    | '-' :: rest => (true, rest, 1)
    | '+' :: rest => (false, rest, 1)
    | _ => (false, body, 0)
  let digitsOf (base : Nat) (ds : List Char) : Nat × Nat :=
    let taken := ds.takeWhile (fun c => (Double.digitValue base c).isSome)
    (taken.foldl (fun acc c => acc * base + (Double.digitValue base c).getD 0) 0, taken.length)
  let (v, len) := match body with
    | '0' :: x :: more =>
      if (x = 'x' ∨ x = 'X') ∧ (more.head?.bind (Double.digitValue 16)).isSome then
        let (v, k) := digitsOf 16 more
        (v, k + 2)
      else
        let (v, k) := digitsOf 8 (x :: more)
        (v, k + 1)
    | _ => digitsOf 10 body
  if len = 0 then none else some (neg, v, blanks + signLen + len)

/-- The largest value of a 64-bit unsigned word. -/
def wordLimit : Nat := Nat.pow 2 64

/-- A warning about a numeric argument. -/
def numericWarning (arg : String) (taken : Nat) (range : Bool) : Option String :=
  if taken < arg.length then
    if taken = 0 then some s!"{arg}: expected numeric value"
    else some s!"{arg}: not completely converted"
  else if range then some s!"{arg}: Numerical result out of range"
  else none

/-- The code of the byte after a leading quote, if the argument starts with one. -/
def quotedCode (arg : String) : Option Nat :=
  match arg.toList with
  | q :: rest => if q = '"' ∨ q = '\'' then some (rest.head?.map Char.toNat |>.getD 0) else none
  | [] => none

/-- A signed integer argument and its warning. -/
def signedArg (arg : String) : Int × Option String :=
  match quotedCode arg with
  | some c => (c, none)
  | none =>
    match readWhole arg.toList with
    | none => (0, numericWarning arg 0 false)
    | some (neg, v, taken) =>
      let half := Nat.pow 2 63
      let (x, range) : Int × Bool :=
        if neg then (if v > half then (-(half : Int), true) else (-(v : Int), false))
        else (if v ≥ half then ((half - 1 : Nat), true) else (v, false))
      (x, numericWarning arg taken range)

/-- An unsigned integer argument and its warning; a negative one is taken modulo `2^64`. -/
def unsignedArg (arg : String) : Nat × Option String :=
  match quotedCode arg with
  | some c => (c, none)
  | none =>
    match readWhole arg.toList with
    | none => (0, numericWarning arg 0 false)
    | some (neg, v, taken) =>
      if v ≥ wordLimit then (wordLimit - 1, numericWarning arg taken true)
      else ((if neg then (wordLimit - v) % wordLimit else v), numericWarning arg taken false)

/-- A double argument and its warning. -/
def doubleArg (arg : String) : Double × Option String :=
  match quotedCode arg with
  | some c => (.finite false c 0, none)
  | none =>
    let (d, taken, range) := Double.read arg.toList
    (d, numericWarning arg taken range)

/-- The flags, width and precision of a directive. -/
structure Spec where
  left : Bool := false
  plus : Bool := false
  space : Bool := false
  alt : Bool := false
  zero : Bool := false
  width : Nat := 0
  precision : Option Nat := none
  deriving Inhabited

namespace Spec

/-- A body with its sign or prefix, padded to the width: on the right when left-aligned, with
zeros after the sign when they are asked for and allowed, else with blanks on the left. -/
def pad (s : Spec) (sign body : String) (zeroAllowed : Bool) : String :=
  let len := sign.length + body.length
  if len ≥ s.width then sign ++ body
  else
    let fill := s.width - len
    if s.left then sign ++ body ++ String.ofList (List.replicate fill ' ')
    else if s.zero ∧ zeroAllowed then sign ++ String.ofList (List.replicate fill '0') ++ body
    else String.ofList (List.replicate fill ' ') ++ sign ++ body

/-- Digits raised to the precision with leading zeros; no digits for zero at precision 0. -/
def digits (s : Spec) (n : Nat) (text : String) : String :=
  match s.precision with
  | none => text
  | some p =>
    if p = 0 ∧ n = 0 then ""
    else String.ofList (List.replicate (p - text.length) '0') ++ text

/-- The sign of a number: `-`, or `+` or a blank when the flags ask. -/
def signOf (s : Spec) (neg : Bool) : String :=
  if neg then "-" else if s.plus then "+" else if s.space then " " else ""

/-- A signed integer. -/
def signed (s : Spec) (v : Int) : String :=
  s.pad (s.signOf (v < 0)) (s.digits v.natAbs (toString v.natAbs)) s.precision.isNone

/-- An unsigned integer in the base of the letter `o u x X`. -/
def unsigned (s : Spec) (letter : Char) (v : Nat) : String :=
  let (base, upper) := if letter = 'o' then (8, false) else if letter = 'x' then (16, false)
    else if letter = 'X' then (16, true) else (10, false)
  let raw := String.ofList ((Nat.toDigits base v).map (fun c => if upper then c.toUpper else c))
  let body := s.digits v raw
  let (prefixText, body) :=
    if s.alt ∧ letter = 'o' then ("", if body.startsWith "0" then body else "0" ++ body)
    else if s.alt ∧ letter = 'x' ∧ v ≠ 0 then ("0x", body)
    else if s.alt ∧ letter = 'X' ∧ v ≠ 0 then ("0X", body)
    else ("", body)
  s.pad prefixText body s.precision.isNone

/-- Text, cut to the precision. -/
def text (s : Spec) (t : String) : String :=
  let t := match s.precision with
    | some p => String.ofList (t.toList.take p)
    | none => t
  s.pad "" t false

/-- A double with the letter `e E f F g G a A`. -/
def double (s : Spec) (letter : Char) (d : Double) : String :=
  let upper := letter.isUpper
  let caseOf (t : String) : String := if upper then t.toUpper else t
  match d with
  | .infinite neg => s.pad (s.signOf neg) (caseOf "inf") false
  | .nan neg => s.pad (s.signOf neg) (caseOf "nan") false
  | .finite neg m e =>
    let p := s.precision.getD 6
    let lower := letter.toLower
    if lower = 'a' then
      s.pad (s.signOf neg ++ (if upper then "0X" else "0x"))
        (Double.hexText m e s.precision s.alt upper) true
    else
      let body :=
        if lower = 'f' then Double.fixedText m e p s.alt
        else if lower = 'e' then Double.expText m e p s.alt upper
        else Double.generalText m e p s.alt upper
      s.pad (s.signOf neg) body true

end Spec

/-- What `printf` did: the bytes written, the warnings in order, the status, and the fault
that stopped it, if one did. -/
structure Printed where
  out : String := ""
  warnings : List String := []
  status : Nat := 0
  fault : Option String := none
  stopped : Bool := false
  args : List String
  took : Bool := false
  deriving Inhabited

namespace Printed

/-- Appends written text. -/
def emit (p : Printed) (s : String) : Printed := { p with out := p.out ++ s }

/-- Takes the next argument, if one is left. -/
def next (p : Printed) : Option String × Printed :=
  match p.args with
  | a :: rest => (some a, { p with args := rest, took := true })
  | [] => (none, p)

/-- Records a warning, which makes the status 1. -/
def warn (p : Printed) (w : Option String) : Printed :=
  match w with
  | some m => { p with warnings := p.warnings ++ [m], status := 1 }
  | none => p

/-- Takes a signed integer argument, zero when none is left. -/
def nextSigned (p : Printed) : Int × Printed :=
  match p.next with
  | (some a, p) => let (v, w) := signedArg a; (v, p.warn w)
  | (none, p) => (0, p)

end Printed

/-- Reads the flags of a directive. -/
def readFlags (s : Spec) : List Char → Spec × List Char
  | '-' :: rest => readFlags { s with left := true } rest
  | '+' :: rest => readFlags { s with plus := true } rest
  | ' ' :: rest => readFlags { s with space := true } rest
  | '#' :: rest => readFlags { s with alt := true } rest
  | '0' :: rest => readFlags { s with zero := true } rest
  | cs => (s, cs)

/-- Reads decimal digits at the head of a text. -/
def readCount (cs : List Char) : Nat × List Char :=
  let ds := cs.takeWhile Char.isDigit
  (ds.foldl (fun acc d => acc * 10 + (d.toNat - 48)) 0, cs.drop ds.length)

/-- Writes one directive, given the text after its `%`; gives the state and the rest of the
format. -/
def directive (p : Printed) (cs : List Char) : Printed × List Char :=
  let (spec, cs) := readFlags {} cs
  -- the width
  let (spec, p, cs) := match cs with
    | '*' :: rest =>
      let (w, p) := p.nextSigned
      let spec := if w < 0 then { spec with left := true, width := w.natAbs } else { spec with width := w.toNat }
      (spec, p, (rest.dropWhile (fun c => c = '*' ∨ c.isDigit)))
    | _ =>
      let (w, rest) := readCount cs
      ({ spec with width := w }, p, rest.dropWhile (fun c => c = '*' ∨ c.isDigit))
  -- the precision
  let (spec, p, cs) := match cs with
    | '.' :: '*' :: rest =>
      let (v, p) := p.nextSigned
      let spec := if v < 0 then spec else { spec with precision := some v.toNat }
      (spec, p, rest.dropWhile (fun c => c = '*' ∨ c.isDigit))
    | '.' :: rest =>
      let (v, rest) := readCount rest
      ({ spec with precision := some v }, p, rest.dropWhile (fun c => c = '*' ∨ c.isDigit))
    | _ => (spec, p, cs)
  match cs with
  | [] => ({ p with fault := some "missing format character" }, [])
  | l :: rest =>
    if l = 's' then
      let (a, p) := p.next
      (p.emit (spec.text (a.getD "")), rest)
    else if l = 'b' then
      let (a, p) := p.next
      let (body, stopped) := expandEscapes (a.getD "").toList
      let p := p.emit (spec.text (String.ofList body))
      if stopped then ({ p with stopped := true }, rest) else (p, rest)
    else if l = 'c' then
      let (a, p) := p.next
      let c : Char := ((a.getD "").toList.head?).getD (Char.ofNat 0)
      (p.emit (spec.pad "" c.toString false), rest)
    else if l = 'd' ∨ l = 'i' then
      let (v, p) := p.nextSigned
      (p.emit (spec.signed v), rest)
    else if l = 'o' ∨ l = 'u' ∨ l = 'x' ∨ l = 'X' then
      let (v, p) := match p.next with
        | (some a, p) => let (v, w) := unsignedArg a; (v, p.warn w)
        | (none, p) => (0, p)
      (p.emit (spec.unsigned l v), rest)
    else if "aAeEfFgG".contains l then
      let (d, p) := match p.next with
        | (some a, p) => let (d, w) := doubleArg a; (d, p.warn w)
        | (none, p) => (.finite false 0 0, p)
      (p.emit (spec.double l d), rest)
    else ({ p with fault := some "invalid directive" }, l :: rest)

/-- Writes the format once. -/
def formatPass (fmt : List Char) (p : Printed) : Printed :=
  let rec go : Nat → Printed → List Char → Printed
    | 0, p, _ => p
    | _ + 1, p, [] => p
    | n + 1, p, '\\' :: rest =>
      let (c, after) := escapeAt rest
      go n (p.emit c.toString) after
    | n + 1, p, '%' :: '%' :: rest => go n (p.emit "%") rest
    | n + 1, p, '%' :: rest =>
      let (p, after) := directive p rest
      match p.fault with
      | some "invalid directive" =>
        -- the directive's text up to its letter names it
        let named := String.ofList ('%' :: (rest.take (rest.length - after.length + 1)))
        { p with fault := some s!"{named}: invalid directive" }
      | some _ => p
      | none => if p.stopped then p else go n p after
    | n + 1, p, c :: rest => go n (p.emit c.toString) rest
  go (fmt.length + 1) p fmt

/-- What `printf` does with a format and its arguments. -/
def printfRun (format : String) (args : List String) : Printed :=
  let fmt := format.toList
  let rec passes : Nat → Printed → Printed
    | 0, p => p
    | k + 1, p =>
      let p := formatPass fmt p
      if p.fault.isSome ∨ p.stopped ∨ p.args.isEmpty ∨ ¬ p.took then p else passes k p
  let p := passes (args.length + 1) { args := args }
  match p.fault with
  | some _ => { p with status := 2 }
  | none => p

end JobFlow.Shell
