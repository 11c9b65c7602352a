import JobFlow.Shell.Paths
import JobFlow.Shell.Pattern
import JobFlow.Shell.Arith

/-!
# Word expansion

A word becomes text in steps: a `~` at its start (and after `:` in an assignment) becomes a
home directory, parameters and `$(...)` and `$((...))` are replaced by their values, the
results of unquoted expansions are split into fields at the characters of `IFS`, each field
with an unquoted `*`, `?` or closed `[` becomes the sorted names of the files it matches (or
stays as it is when none does), and the quotes are removed.
-/

namespace JobFlow.Shell

/-- A character of expanded text, whether it was quoted and whether it may split fields; a
mark where quoted text stood; or a cut between positional parameters. -/
inductive Bit where
  | char (c : Char) (quoted : Bool) (split : Bool)
  | mark
  | cut
  deriving DecidableEq, Inhabited, Repr

namespace Bit

/-- Text as bits, quoted or from an unquoted expansion. -/
def ofText (quoted : Bool) (s : String) : List Bit :=
  s.toList.map (fun c => .char c quoted (!quoted))

/-- A value of an expansion: quoted with a mark, or free to split. -/
def value (quoted : Bool) (s : String) : List Bit :=
  if quoted then .mark :: ofText true s else ofText false s

/-- The text of bits, quotes removed. -/
def text (bs : List Bit) : String :=
  String.ofList (bs.filterMap (fun
    | .char c _ _ => some c
    | _ => none))

/-- Bits as a pattern: quoted characters made plain. -/
def pattern (bs : List Bit) : Pattern :=
  bs.flatMap (fun
    | .char c true _ => ['\\', c]
    | .char c false _ => [c]
    | _ => [])

/-- Whether bits hold anything that makes a field: a character or a mark. -/
def holds (bs : List Bit) : Bool := bs.any (fun b => b != .cut)

end Bit

/-- The blanks of field splitting. -/
def isIfsBlank (c : Char) : Bool := c = ' ' ∨ c = '\t' ∨ c = '\n'

/-- Splits expanded text into fields at the characters of `ifs` that came from unquoted
expansions. -/
def splitFields (ifs : String) (bits : List Bit) : List (List Bit) :=
  let isDelim : Bit → Bool := fun
    | .char c _ true => ifs.contains c
    | _ => false
  -- skips the delimiters after one ended a field: blanks, and one other delimiter if only
  -- blanks came before it
  let rec skipAfter : List Bit → Bool → List Bit
    | [], _ => []
    | b :: rest, blank =>
      match b with
      | .char c _ true =>
        if !ifs.contains c then b :: rest
        else if isIfsBlank c then skipAfter rest blank
        else if blank then skipAfter rest false
        else b :: rest
      | _ => b :: rest
  let rec go : Nat → List Bit → List Bit → List (List Bit) → List (List Bit)
    | 0, cur, _, acc => (if cur.isEmpty then acc else cur.reverse :: acc).reverse
    | _ + 1, cur, [], acc => (if Bit.holds cur then cur.reverse :: acc else acc).reverse
    | n + 1, cur, b :: rest, acc =>
      match b with
      | .cut => go n [] rest (if Bit.holds cur then cur.reverse :: acc else acc)
      | .char c _ true =>
        if isDelim b then
          let blank := isIfsBlank c
          if cur.isEmpty ∧ blank then go n [] rest acc
          else go n [] (skipAfter rest blank) (cur.reverse :: acc)
        else go n (b :: cur) rest acc
      | _ => go n (b :: cur) rest acc
  go (bits.length + 1) [] bits []

/-- The components of a pattern between its slashes, an escaped slash included. -/
def patternComponents (p : Pattern) : List Pattern :=
  let rec go : Nat → Pattern → Pattern → List Pattern → List Pattern
    | 0, cur, _, acc => (cur.reverse :: acc).reverse
    | _ + 1, cur, [], acc => (cur.reverse :: acc).reverse
    | n + 1, cur, '\\' :: '/' :: rest, acc => go n [] rest (cur.reverse :: acc)
    | n + 1, cur, '\\' :: c :: rest, acc => go n (c :: '\\' :: cur) rest acc
    | n + 1, cur, '/' :: rest, acc => go n [] rest (cur.reverse :: acc)
    | n + 1, cur, c :: rest, acc => go n (c :: cur) rest acc
  go (p.length + 1) [] p []

/-- The paths a pattern matches, from a directory prefix (empty or ending in `/`) and the
pattern's components after it. -/
def globFrom (w : World) (cwd : String) : Nat → String → List Pattern → List String
  | 0, _, _ => []
  | _ + 1, _, [] => []
  | fuel + 1, pre, comp :: rest =>
    let dirNames := locateFrom cwd (if pre.isEmpty then "." else pre)
    let last := rest.isEmpty
    if Pattern.hasMagic comp then
      if kindAt w dirNames != some .dir then []
      else
        let dot : Bool := match comp with
          | '\\' :: '.' :: _ | '.' :: _ => true
          | _ => false
        let names := (if dot then [".", ".."] else []) ++
          ((entriesAt w dirNames).map Octets.encode).filter (fun n => dot || !n.startsWith ".")
        let hits := names.filter (fun n => Pattern.accepts comp n)
        if last then hits.map (pre ++ ·)
        else hits.flatMap (fun n => globFrom w cwd fuel (pre ++ n ++ "/") rest)
    else
      let path := pre ++ String.ofList (Pattern.literal comp)
      if last then (if (kindAt w (locateFrom cwd path)).isSome then [path] else [])
      else globFrom w cwd fuel (path ++ "/") rest

/-- The paths a pattern matches, sorted; none when it matches nothing. -/
def globMatches (w : World) (cwd : String) (p : Pattern) : List String :=
  let (pre, body) := match p with
    | '/' :: rest => ("/", rest)
    | _ => ("", p)
  let comps := patternComponents body
  (globFrom w cwd (comps.length + 1) pre comps).mergeSort (fun a b => decide (a ≤ b))

/-- How a word is expanded: into fields that are split and matched against files, or into one
text; with a `~` expanded at its start, and after each `:` in an assignment. -/
structure ExpandMode where
  full : Bool := false
  tilde : Bool := true
  assignment : Bool := false
  deriving Inhabited

namespace Sh

/-- The value of a parameter, if it is set: a special parameter, a positional one, or a
variable. -/
def param? (name : String) : Sh (Option String) := do
  let p ← proc
  if name = "?" then return some (toString p.status)
  else if name = "$" then return some (toString p.shellPid)
  else if name = "!" then return p.lastBackground.map toString
  else if name = "#" then return some (toString p.params.length)
  else if name = "-" then return some p.optionLetters
  else if name = "@" ∨ name = "*" then
    return if p.params.isEmpty then none else some (" ".intercalate p.params)
  else if name.all Char.isDigit ∧ !name.isEmpty then
    let k := name.toNat?.getD 0
    return if k = 0 then some p.name else p.params[k - 1]?
  else return p.value? name

/-- The separator of `$*`: the first character of `IFS`, a blank when it is unset. -/
def starSeparator : Sh String := do
  match ← getVar "IFS" with
  | none => return " "
  | some s => return String.ofList (s.toList.take 1)

/-- The home directory a tilde prefix names, if it names one. -/
def homeOf (user : String) : Sh (Option String) := do
  if user.isEmpty then
    match ← getVar "HOME" with
    | some h => return if h.isEmpty then none else some h
    | none => return none
  else if user = "root" then return some "/root"
  else return none

/-- Expands a tilde at the start of unquoted text: the home directory as quoted bits and the
text after the prefix; `none` when there is no tilde to expand. -/
def tildeOf (s : String) (assignment lastPart : Bool) : Sh (Option (List Bit × String)) := do
  match s.toList with
  | '~' :: rest =>
    let user := rest.takeWhile (fun c => c ≠ '/' ∧ !(assignment ∧ c = ':'))
    let after := rest.drop user.length
    if after.isEmpty ∧ !lastPart then return none
    match ← homeOf (String.ofList user) with
    | some h => return some (Bit.ofText true h, String.ofList after)
    | none => return none
  | _ => return none

/-- Unquoted literal text as bits: characters that may split when they stand in the word of an
unquoted `${...}`, with tildes expanded after each `:` of an assignment. -/
def literalBits (s : String) (splitLits : Bool) (assignment : Bool) : Sh (List Bit) := do
  if !assignment then return s.toList.map (fun c => .char c false splitLits)
  let pieces := s.splitOn ":"
  let rec go : List String → Bool → Sh (List Bit)
    | [], _ => pure []
    | piece :: more, first => do
      let here ← if first then pure none else tildeOf piece true more.isEmpty
      let bits := match here with
        | some (home, after) => home ++ after.toList.map (fun c => .char c false splitLits)
        | none => piece.toList.map (fun c => .char c false splitLits)
      let sep : List Bit := if first then [] else [.char ':' false splitLits]
      return sep ++ bits ++ (← go more false)
  go pieces true

/-- Removes the newlines that end the output of a command substitution. -/
def dropTrailingNewlines (s : String) : String :=
  String.ofList (s.toList.reverse.dropWhile (· = '\n')).reverse

/-- The message for a parameter that must be set. -/
def unsetMessage (name : String) (colon : Bool) : String :=
  if colon then s!"{name}: parameter not set or null" else s!"{name}: parameter not set"

mutual

/-- Expands the parts of a word into bits. -/
def expandParts (run : Node → Sh String) (mode : ExpandMode) :
    Nat → Bool → Bool → List Part → Sh (List Bit)
  | 0, _, _, _ => pure []
  | _ + 1, _, _, [] => pure []
  | fuel + 1, first, splitLits, part :: rest => do
    let here ← match part with
      | .lit s => do
        let tilde ← if first ∧ mode.tilde then tildeOf s mode.assignment rest.isEmpty else pure none
        match tilde with
        | some (home, after) => pure (home ++ (← literalBits after splitLits mode.assignment))
        | none => literalBits s splitLits mode.assignment
      | .quoted s => pure (Bit.value true s)
      | .command body q => do
        let out ← run body
        pure (Bit.value q (dropTrailingNewlines out))
      | .arith e q => do
        let bits ← expandParts run { mode with full := false, tilde := false } fuel false false e
        let text := Bit.text bits
        let p ← proc
        match evalArith text (fun n => p.value? n) (fun n => ((p.var? n).map (·.readOnly)).getD false) with
        | .error f => fatal (f.message text)
        | .ok (v, assigned) =>
          for (n, val) in assigned do setVar n val
          pure (Bit.value q (toString v))
      | .param name op q => expandParam run mode fuel name op q splitLits
    return here ++ (← expandParts run mode fuel false splitLits rest)

/-- Expands one parameter expansion. -/
def expandParam (run : Node → Sh String) (mode : ExpandMode) :
    Nat → String → ParamOp → Bool → Bool → Sh (List Bit)
  | 0, _, _, _, _ => pure []
  | fuel + 1, name, op, q, splitLits => do
    let p ← proc
    let value ← param? name
    let nounset := p.hasOption "nounset"
    let needSet : Sh Unit :=
      if value.isNone ∧ nounset ∧ name != "@" ∧ name != "*" then fatal (unsetMessage name false)
      else pure ()
    -- the word of an operation, expanded where the parameter stands
    let word (w : List Part) : Sh (List Bit) :=
      expandParts run { mode with tilde := true } fuel true (splitLits || !q) w
    match op with
    | .plain =>
      needSet
      if name = "@" ∨ name = "*" then
        if mode.full then
          if q then
            if name = "@" then
              let rec each : List String → List Bit
                | [] => []
                | [a] => Bit.value true a
                | a :: more => Bit.value true a ++ [.cut] ++ each more
              return each p.params
            else return Bit.value true ((← starSeparator).intercalate p.params)
          else
            return (p.params.map (Bit.ofText false)).intersperse [.cut] |>.flatten
        else return Bit.value q ((← starSeparator).intercalate p.params)
      else return Bit.value q (value.getD "")
    | .length =>
      needSet
      return Bit.value q (toString (value.getD "").length)
    | .invalid => fatal "Bad substitution"
    | .trimSuffix longest pat | .trimPrefix longest pat =>
      needSet
      let bits ← expandParts run { mode with full := false, tilde := true } fuel true false pat
      let pattern := Bit.pattern bits
      let v := value.getD ""
      let trimmed := match op with
        | .trimSuffix _ _ => Pattern.trimSuffix pattern longest v
        | _ => Pattern.trimPrefix pattern longest v
      return Bit.value q trimmed
    | .fallback kind colon w =>
      let missing := value.isNone ∨ (colon ∧ value = some "")
      match kind with
      | .orDefault => if missing then word w else return Bit.value q (value.getD "")
      | .orAlternative => if missing then return [] else word w
      | .orAssign =>
        if !missing then return Bit.value q (value.getD "")
        else if !isName name then fatal s!"{name}: bad variable name"
        else
          let bits ← expandParts run { mode with full := false, tilde := true, assignment := false }
            fuel true false w
          let v := Bit.text bits
          setVar name v
          return Bit.value q v
      | .orFail =>
        if !missing then return Bit.value q (value.getD "")
        else
          let bits ← expandParts run { mode with full := false } fuel true false w
          let msg := Bit.text bits
          if msg.isEmpty then fatal (unsetMessage name colon)
          else fatal s!"{name}: {msg}"

end

/-- The fuel for expanding a word: enough for every nested part. -/
def wordFuel (_ : Word) : Nat := 100000

/-- Expands words into fields: split, matched against files unless `noglob` is on, and
unquoted. -/
def expandFields (run : Node → Sh String) (words : List Word) : Sh (List String) := do
  let mut out : List String := []
  for w in words do
    let bits ← expandParts run { full := true } (wordFuel w) true false w
    let ifs := (← getVar "IFS").getD " \t\n"
    let fields := splitFields ifs bits
    let p ← proc
    let wd ← world
    for f in fields do
      let pat := Bit.pattern f
      if !p.hasOption "noglob" ∧ Pattern.hasMagic pat then
        match globMatches wd p.cwd pat with
        | [] => out := out ++ [Bit.text f]
        | hits => out := out ++ hits
      else out := out ++ [Bit.text f]
  return out

/-- Expands a word into one text, without splitting or matching. -/
def expandText (run : Node → Sh String) (w : Word) (mode : ExpandMode := {}) : Sh String := do
  let bits ← expandParts run { mode with full := false } (wordFuel w) true false w
  return Bit.text bits

/-- Expands a word into a pattern, its quoted characters made plain. -/
def expandPattern (run : Node → Sh String) (w : Word) : Sh Pattern := do
  let bits ← expandParts run { full := false } (wordFuel w) true false w
  return Bit.pattern bits

end Sh

end JobFlow.Shell
