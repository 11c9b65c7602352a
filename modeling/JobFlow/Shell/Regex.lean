import JobFlow.Schema.Pattern

/-!
# Regular expressions of the system's tools

The regular expressions of `grep`, `sed` and `expr`, basic or extended, read into the pattern
nodes that the matcher of patterns runs.
-/

namespace JobFlow.Shell

/-- How a regular expression is written: extended or basic, with case folded or not. -/
structure RegexSyntax where
  extended : Bool := false
  fold : Bool := false
  deriving Inhabited

/-- A fault of a regular expression. -/
inductive RegexFault where
  | unmatchedBracket
  | unmatchedParen
  | unmatchedRightParen
  | unmatchedBrace
  | badInterval
  | badBackReference
  | trailingBackslash
  | badRangeEnd
  | badClassName
  | tooBig
  deriving DecidableEq, Inhabited, Repr

/-- The message of a fault of a regular expression. -/
def RegexFault.message : RegexFault → String
  | .unmatchedBracket => "Unmatched [, [^, [:, [., or [="
  | .unmatchedParen => "Unmatched ( or \\("
  | .unmatchedRightParen => "Unmatched ) or \\)"
  | .unmatchedBrace => "Unmatched \\\x7b"
  | .badInterval => "Invalid content of \\\x7b\\\x7d"
  | .badBackReference => "Invalid back reference"
  | .trailingBackslash => "Trailing backslash"
  | .badRangeEnd => "Invalid range end"
  | .badClassName => "Invalid character class name"
  | .tooBig => "Regular expression too big"

/-- What is read of a regular expression: the text left, the groups opened, those closed, and
how many are open now. -/
structure RegexScan where
  rest : List Char
  opened : Nat := 0
  closed : List Nat := []
  depth : Nat := 0
  warnings : List String := []
  deriving Inhabited

/-- Reading a regular expression. -/
abbrev RegexRead := StateT RegexScan (Except RegexFault)

namespace RegexRead

/-- The text left. -/
def rest : RegexRead (List Char) := return (← get).rest

/-- Skips `k` characters. -/
def skip (k : Nat) : RegexRead Unit := modify fun s => { s with rest := s.rest.drop k }

end RegexRead

/-- The classes a bracket expression may name. -/
def bracketClassNames : List String :=
  ["alnum", "alpha", "blank", "cntrl", "digit", "graph", "lower", "print", "punct", "space",
   "upper", "xdigit"]

/-- Reads the members of a bracket expression after its `[` (and `^`), up to its `]`; a `]`
first stands for itself. -/
def bracketItems (cs : List Char) : Except RegexFault (List JobFlow.Pattern.ClassItem × List Char) :=
  let rec go : Nat → Bool → List Char → List JobFlow.Pattern.ClassItem →
      Except RegexFault (List JobFlow.Pattern.ClassItem × List Char)
    | 0, _, _, _ => .error .unmatchedBracket
    | _ + 1, _, [], _ => .error .unmatchedBracket
    | n + 1, first, c :: more, acc =>
      if c = ']' ∧ !first then .ok (acc.reverse, more)
      else if c = '[' ∧ (more.head? = some ':' ∨ more.head? = some '=' ∨ more.head? = some '.') then
        let kind := more.headD ':'
        let body := (more.drop 1)
        let name := body.takeWhile (· != kind)
        match body.drop name.length with
        | k :: ']' :: after =>
          if k != kind then .error .unmatchedBracket
          else if kind = ':' then
            let nm := String.ofList name
            if bracketClassNames.contains nm then go n false after (.named nm false :: acc)
            else .error .badClassName
          else match name with
            | [ch] => go n false after (.single ch :: acc)
            | _ => .error .unmatchedBracket
        | _ => .error .unmatchedBracket
      else match more with
        | '-' :: hi :: after =>
          if hi = ']' then go n false ('-' :: ']' :: after) (.single c :: acc)
          else if c > hi then .error .badRangeEnd
          else go n false after (.range c hi :: acc)
        | _ => go n false more (.single c :: acc)
  go (cs.length + 1) true cs []

/-- Reads the digits of a number. -/
def intervalDigits (cs : List Char) : Option Nat × List Char :=
  let ds := cs.takeWhile Char.isDigit
  (if ds.isEmpty then none else some (ds.foldl (fun a d => a * 10 + (d.toNat - 48)) 0), cs.drop ds.length)

/-- Reads the body of an interval after its opening brace: the least and greatest count and
the text after the closing brace; `none` when no interval is written there. -/
def intervalBody (extended : Bool) (cs : List Char) : Option ((Nat × Option Nat) × List Char) :=
  let (lo, cs) := intervalDigits cs
  let close (cs : List Char) : Option (List Char) :=
    if extended then (match cs with
      | '}' :: r => some r
      | _ => none)
    else (match cs with
      | '\\' :: '}' :: r => some r
      | _ => none)
  match cs with
  | ',' :: more =>
    let (hi, more) := intervalDigits more
    (close more).map (fun r => ((lo.getD 0, hi), r))
  | _ =>
    match lo with
    | some m => (close cs).map (fun r => ((m, some m), r))
    | none => none

/-- Whether a text starts with the end of an alternative or group of a basic expression. -/
def basicEnds : List Char → Bool
  | [] => true
  | '\\' :: ')' :: _ => true
  | '\\' :: '|' :: _ => true
  | _ => false

/-- Applies the repetitions that follow an atom. -/
def quantified (syn : RegexSyntax) (atom : JobFlow.Pattern.Node) : Nat → RegexRead JobFlow.Pattern.Node
  | 0 => pure atom
  | n + 1 => do
    let cs ← RegexRead.rest
    let rep (lo : Nat) (hi : Option Nat) (k : Nat) : RegexRead JobFlow.Pattern.Node := do
      RegexRead.skip k
      quantified syn (.rep atom lo hi true) n
    match cs with
    | '*' :: _ => rep 0 none 1
    | '+' :: _ => if syn.extended then rep 1 none 1 else pure atom
    | '?' :: _ => if syn.extended then rep 0 (some 1) 1 else pure atom
    | '\\' :: '+' :: _ => if syn.extended then pure atom else rep 1 none 2
    | '\\' :: '?' :: _ => if syn.extended then pure atom else rep 0 (some 1) 2
    | '{' :: more =>
      if !syn.extended then pure atom
      else match intervalBody true more with
        | some ((lo, hi), after) =>
          if hi.any (· < lo) then throw .badInterval
          else if lo > 32767 ∨ hi.any (· > 32767) then throw .tooBig
          else
            modify fun s => { s with rest := after }
            quantified syn (.rep atom lo hi true) n
        | none => pure atom
    | '\\' :: '{' :: more =>
      if syn.extended then pure atom
      else match intervalBody false more with
        | some ((lo, hi), after) =>
          if hi.any (· < lo) then throw .badInterval
          else if lo > 32767 ∨ hi.any (· > 32767) then throw .tooBig
          else
            modify fun s => { s with rest := after }
            quantified syn (.rep atom lo hi true) n
        | none =>
          let (lo, r) := intervalDigits more
          match lo, r with
          | _, [] => throw .unmatchedBrace
          | _, _ => throw (if (more.dropWhile (fun c => c.isDigit ∨ c = ',')).isEmpty then .unmatchedBrace else .badInterval)
    | _ => pure atom

/-- A character of the expression as a node. -/
def literal (syn : RegexSyntax) (c : Char) : JobFlow.Pattern.Node := .char c syn.fold

mutual

/-- Reads alternatives separated by `|` (extended) or `\|` (basic). -/
def regexAlternatives (syn : RegexSyntax) : Nat → RegexRead JobFlow.Pattern.Node
  | 0 => pure .empty
  | n + 1 => do
    let first ← regexSequence syn n true .empty
    let cs ← RegexRead.rest
    let bar := if syn.extended then cs.head? = some '|' else cs.take 2 = ['\\', '|']
    if bar then
      RegexRead.skip (if syn.extended then 1 else 2)
      let rest ← regexAlternatives syn n
      return .alt first rest
    else return first

/-- Reads the atoms of one alternative, each with its repetitions. -/
def regexSequence (syn : RegexSyntax) : Nat → Bool → JobFlow.Pattern.Node → RegexRead JobFlow.Pattern.Node
  | 0, _, acc => pure acc
  | n + 1, atStart, acc => do
    match ← regexAtom syn n atStart with
    | none => return acc
    | some (.anchor .textStart) =>
      regexSequence syn n atStart (JobFlow.Pattern.joinSeq acc (.anchor .textStart))
    | some a =>
      let q ← quantified syn a (← RegexRead.rest).length.succ
      regexSequence syn n false (JobFlow.Pattern.joinSeq acc q)

/-- Reads one atom; `none` where the alternative ends. -/
def regexAtom (syn : RegexSyntax) : Nat → Bool → RegexRead (Option JobFlow.Pattern.Node)
  | 0, _ => pure none
  | n + 1, atStart => do
    let s ← get
    match s.rest with
    | [] => return none
    | c :: more =>
      if syn.extended then
        if c = '|' then return none
        else if c = ')' then
          if s.depth > 0 then return none
          else
            RegexRead.skip 1
            return some (literal syn c)
        else if c = '(' then
          RegexRead.skip 1
          group n
        else if c = '^' then
          RegexRead.skip 1
          return some (.anchor .textStart)
        else if c = '$' then
          RegexRead.skip 1
          return some (.anchor .textEnd)
        else if (c = '*' ∨ c = '+' ∨ c = '?') ∧ atStart then
          modify fun s => { s with rest := more, warnings := s.warnings ++ [c.toString ++ " at start of expression"] }
          regexAtom syn n true
        else if c = '{' ∧ atStart ∧ (intervalBody true more).isSome then
          let after := ((intervalBody true more).map (·.2)).getD more
          modify fun s => { s with rest := after, warnings := s.warnings ++ ["\x7b...\x7d at start of expression"] }
          regexAtom syn n true
        else plainAtom syn c more
      else
        if c = '\\' ∧ (more.head? = some '|') then return none
        else if c = '\\' ∧ (more.head? = some ')') then
          if s.depth > 0 then return none else throw .unmatchedRightParen
        else if c = '\\' ∧ (more.head? = some '(') then
          RegexRead.skip 2
          group n
        else if c = '^' ∧ atStart then
          RegexRead.skip 1
          return some (.anchor .textStart)
        else if c = '$' ∧ basicEnds more then
          RegexRead.skip 1
          return some (.anchor .textEnd)
        else if c = '*' ∧ atStart then
          RegexRead.skip 1
          return some (literal syn c)
        else plainAtom syn c more
  where
    group (n : Nat) : RegexRead (Option JobFlow.Pattern.Node) := do
      let s ← get
      let index := s.opened + 1
      set { s with opened := index, depth := s.depth + 1 }
      let body ← regexAlternatives syn n
      let cs ← RegexRead.rest
      let closing := if syn.extended then cs.head? = some ')' else cs.take 2 = ['\\', ')']
      if !closing then throw .unmatchedParen
      RegexRead.skip (if syn.extended then 1 else 2)
      modify fun s => { s with depth := s.depth - 1, closed := index :: s.closed }
      return some (.group index body)

/-- Reads an atom that is neither a group nor an anchor of position. -/
def plainAtom (syn : RegexSyntax) (c : Char) (more : List Char) : RegexRead (Option JobFlow.Pattern.Node) := do
  if c = '.' then
    RegexRead.skip 1
    return some (.any true)
  else if c = '[' then
    let (neg, body) := match more with
      | '^' :: r => (true, r)
      | r => (false, r)
    match bracketItems body with
    | .ok (items, after) =>
      modify fun s => { s with rest := after }
      return some (.cls items neg syn.fold)
    | .error e => throw e
  else if c = '\\' then
    match more with
    | [] => throw .trailingBackslash
    | d :: _ =>
      RegexRead.skip 2
      if '1' ≤ d ∧ d ≤ '9' then
        let k := d.toNat - 48
        if (← get).closed.contains k then return some (.backref k) else throw .badBackReference
      else if d = '<' then return some (.anchor .wordStart)
      else if d = '>' then return some (.anchor .wordEnd)
      else if d = 'b' then return some (.anchor .boundary)
      else if d = 'B' then return some (.anchor .notBoundary)
      else if d = '`' then return some (.anchor .textStart)
      else if d = '\'' then return some (.anchor .textEnd)
      else if d = 'w' then return some (.cls [.word false] false false)
      else if d = 'W' then return some (.cls [.word false] true false)
      else if d = 's' then return some (.cls [.named "space" false] false false)
      else if d = 'S' then return some (.cls [.named "space" false] true false)
      else if d = 'n' then return some (literal syn '\n')
      else if d = 't' then return some (literal syn '\t')
      else return some (literal syn d)
  else
    RegexRead.skip 1
    return some (literal syn c)

end

/-- Reads a regular expression, with what was read of it: the number of its groups and the
warnings about repetitions that stand where nothing precedes them and are skipped. -/
def parseRegexScan (syn : RegexSyntax) (text : String) : Except RegexFault (JobFlow.Pattern.Node × RegexScan) :=
  match (regexAlternatives syn (4 * text.length + 8)).run { rest := text.toList } with
  | .error e => .error e
  | .ok (node, s) =>
    match s.rest with
    | [] => .ok (node, s)
    | ')' :: _ => .error .unmatchedRightParen
    | _ => .error (if syn.extended then .unmatchedParen else .unmatchedRightParen)

/-- Reads a regular expression, with the number of its groups. -/
def parseRegexGroups (syn : RegexSyntax) (text : String) : Except RegexFault (JobFlow.Pattern.Node × Nat) :=
  (parseRegexScan syn text).map (fun (n, s) => (n, s.opened))

/-- Reads a regular expression. -/
def parseRegex (syn : RegexSyntax) (text : String) : Except RegexFault JobFlow.Pattern.Node :=
  (parseRegexGroups syn text).map (·.1)

/-- A match of a regular expression: where it starts and stops, and the groups it captured,
the latest first. -/
structure RegexMatch where
  start : Nat
  stop : Nat
  groups : JobFlow.Pattern.Captures
  deriving Inhabited

/-- The text a group captured in a match, empty when it took part in none. -/
def RegexMatch.group (m : RegexMatch) (s : JobFlow.Pattern.Input) (k : Nat) : String :=
  match m.groups.find? (·.1 == k) with
  | some (_, a, b) => String.ofList ((s.toList.drop a).take (b - a))
  | none => ""

/-- The fuel of matching a node against a text. -/
def matchFuel (n : JobFlow.Pattern.Node) (s : JobFlow.Pattern.Input) : Nat :=
  (s.size + 2) * (n.size + 2) * 8

/-- The longest match of a node starting at a position. -/
def longestAt (n : JobFlow.Pattern.Node) (s : JobFlow.Pattern.Input) (i : Nat) : Option RegexMatch :=
  let fuel := matchFuel n s
  match JobFlow.Pattern.run s fuel n i [] (fun j c => some (j, c)) with
  | none => none
  | some _ =>
    (List.range (s.size + 1 - i)).reverse.findSome? (fun k =>
      (JobFlow.Pattern.run s fuel n i [] (fun j c => if j == i + k then some c else none)).map
        (fun c => ⟨i, i + k, c⟩))

/-- The leftmost-longest match of a node at or after a position. -/
def firstMatch (n : JobFlow.Pattern.Node) (s : JobFlow.Pattern.Input) (start : Nat) : Option RegexMatch :=
  (List.range (s.size + 1 - start)).findSome? (fun k => longestAt n s (start + k))

end JobFlow.Shell
