import JobFlow.Shell.Program
import JobFlow.Shell.Regex

/-!
# The stream editor

`sed` runs a script over each line of its input.
-/

namespace JobFlow.Shell

namespace Tools

/-- An address of a `sed` command. -/
inductive SedAddr where
  | line (n : Nat)
  | last
  | regex (re : Option JobFlow.Pattern.Node)
  | step (first step : Nat)
  deriving Inhabited

/-- How the range of a command ends: at an address, `N` lines after its start, or at a
multiple of `N`. -/
inductive SedEnd where
  | addr (a : SedAddr)
  | plus (n : Nat)
  | multiple (n : Nat)
  deriving Inhabited

/-- A piece of a replacement: text, the whole match, a group, or a change of case. -/
inductive SedPiece where
  | text (s : String)
  | whole
  | group (k : Nat)
  | upper
  | lower
  | upperNext
  | lowerNext
  | plain
  deriving Inhabited, DecidableEq

/-- What a `sed` command does. -/
inductive SedAction where
  | subst (re : Option JobFlow.Pattern.Node) (rep : List SedPiece) (global : Bool) (nth : Nat)
      (print : Bool) (write : Option String)
  | translit (pairs : List (Char × Char))
  | print
  | printFirst
  | delete
  | deleteFirst
  | next
  | appendNext
  | hold
  | holdAppend
  | get
  | getAppend
  | exchange
  | quit (status : Nat) (silent : Bool)
  | lineNumber
  | append (text : String)
  | insert (text : String)
  | change (text : String)
  | branch (kind : Nat) (label : String)
  | label (name : String)
  | readFile (name : String)
  | writeFile (name : String)
  | zap
  | list
  | blockStart
  | blockEnd
  deriving Inhabited

/-- A command of a script: its addresses, whether they are negated, and its action. -/
structure SedCommand where
  first : Option SedAddr := none
  last : Option SedEnd := none
  negate : Bool := false
  zeroStart : Bool := false
  action : SedAction
  skipTo : Nat := 0
  deriving Inhabited

/-- A fault of a script: the message and how many characters were read. -/
structure SedFault where
  message : String
  at_ : Nat
  deriving Inhabited

/-- The state of reading a script: the characters left, how many were read, and the last
regular expression read. -/
structure SedScan where
  rest : List Char
  pos : Nat := 0
  extended : Bool := false
  deriving Inhabited

/-- Reading a script. -/
abbrev SedRead := StateT SedScan (Except SedFault)

namespace SedRead

/-- Stops with a fault at the character reached. -/
def fail {α : Type} (msg : String) : SedRead α := do
  throw ⟨msg, (← get).pos⟩

/-- The next character, if any. -/
def peek : SedRead (Option Char) := return (← get).rest.head?

/-- Takes the next character. -/
def take : SedRead (Option Char) := do
  let s ← get
  match s.rest with
  | c :: more =>
    set { s with rest := more, pos := s.pos + 1 }
    return some c
  | [] => return none

/-- Skips blanks (not newlines). -/
def skipBlanks : Nat → SedRead Unit
  | 0 => pure ()
  | n + 1 => do
    match ← peek with
    | some ' ' | some '\t' =>
      let _ ← take
      skipBlanks n
    | _ => pure ()

/-- Takes characters up to an unescaped delimiter, which is read; `\` before the delimiter
gives the delimiter and `\n` a newline when `regexPart`; other escapes stay. -/
def delimited (delim : Char) (regexPart : Bool) : Nat → List Char → SedRead (Option String)
  | 0, _ => pure none
  | n + 1, acc => do
    match ← take with
    | none => return none
    | some c =>
      if c = delim then return some (String.ofList acc.reverse)
      else if c = '\\' then
        match ← take with
        | none => return none
        | some d =>
          if d = delim then delimited delim regexPart n (d :: acc)
          else if d = 'n' ∧ regexPart then delimited delim regexPart n ('\n' :: acc)
          else if d = '\n' then delimited delim regexPart n ('n' :: '\\' :: acc)
          else delimited delim regexPart n (d :: '\\' :: acc)
      else if c = '\n' ∧ regexPart then return none
      else delimited delim regexPart n (c :: acc)

/-- Reads digits. -/
def digits : Nat → Nat → Bool → SedRead (Option Nat)
  | 0, v, any => pure (if any then some v else none)
  | n + 1, v, any => do
    match ← peek with
    | some c =>
      if c.isDigit then
        let _ ← take
        digits n (v * 10 + (c.toNat - 48)) true
      else pure (if any then some v else none)
    | none => pure (if any then some v else none)

end SedRead

/-- Reads a regular expression of a script; the empty one stands for the last used. -/
def sedRegex (text : String) (fold : Bool) : SedRead (Option JobFlow.Pattern.Node) := do
  if text.isEmpty then return none
  match parseRegex { extended := (← get).extended, fold := fold } text with
  | .ok n => return some n
  | .error e => SedRead.fail e.message

/-- Reads an address, if one starts here. -/
def sedAddress : SedRead (Option SedAddr) := do
  match ← SedRead.peek with
  | some c =>
    if c.isDigit then
      let n := (← SedRead.digits 20 0 false).getD 0
      if (← SedRead.peek) = some '~' then
        let _ ← SedRead.take
        let st := (← SedRead.digits 20 0 false).getD 0
        return some (.step n st)
      return some (.line n)
    else if c = '$' then
      let _ ← SedRead.take
      return some .last
    else if c = '/' ∨ c = '\\' then
      let _ ← SedRead.take
      let delim ← if c = '\\' then (do
          match ← SedRead.take with
          | some d => pure d
          | none => SedRead.fail "unexpected `,'")
        else pure '/'
      match ← SedRead.delimited delim true 4096 [] with
      | none => SedRead.fail "unterminated address regex"
      | some text =>
        let mut fold := false
        let mut more := true
        for _ in [0:4] do
          if more then
            match ← SedRead.peek with
            | some 'I' =>
              let _ ← SedRead.take
              fold := true
            | some 'M' => let _ ← SedRead.take
            | _ => more := false
        return some (.regex (← sedRegex text fold))
    else return none
  | none => return none

/-- Reads the text of `a`, `i` or `c`: after blanks, an optional backslash and newline, up to
an unescaped newline, a backslash taking the character after it. -/
def sedText : SedRead String := do
  SedRead.skipBlanks 1000
  if (← SedRead.peek) = some '\\' then
    let _ ← SedRead.take
    if (← SedRead.peek) = some '\n' then let _ ← SedRead.take
  let rec go : Nat → List Char → SedRead String
    | 0, acc => pure (String.ofList acc.reverse)
    | n + 1, acc => do
      match ← SedRead.take with
      | none => pure (String.ofList acc.reverse)
      | some '\n' => pure (String.ofList acc.reverse)
      | some '\\' =>
        match ← SedRead.take with
        | some d => go n (d :: acc)
        | none => pure (String.ofList acc.reverse)
      | some c => go n (c :: acc)
  go 100000 []

/-- Reads a word (a label or a file name) up to the end of the line, or for a label also up
to `;`. -/
def sedWord (label : Bool) : SedRead String := do
  SedRead.skipBlanks 1000
  let s ← get
  let word := s.rest.takeWhile (fun c => c != '\n' ∧ !(label ∧ (c = ';')))
  set { s with rest := s.rest.drop word.length, pos := s.pos + word.length }
  return (if label then String.ofList (word.reverse.dropWhile (fun c => c = ' ' ∨ c = '\t')).reverse else String.ofList word)

/-- The pieces of a replacement text. -/
def replacementPieces (text : List Char) : List SedPiece :=
  let rec go : Nat → List Char → List Char → List SedPiece
    | 0, _, acc => if acc.isEmpty then [] else [.text (String.ofList acc.reverse)]
    | _ + 1, [], acc => if acc.isEmpty then [] else [.text (String.ofList acc.reverse)]
    | n + 1, c :: more, acc =>
      let flush : List SedPiece := if acc.isEmpty then [] else [.text (String.ofList acc.reverse)]
      if c = '&' then flush ++ .whole :: go n more []
      else if c = '\\' then
        match more with
        | d :: rest =>
          if d.isDigit then flush ++ (if d = '0' then SedPiece.whole else .group (d.toNat - 48)) :: go n rest []
          else if d = 'n' then go n rest ('\n' :: acc)
          else if d = 't' then go n rest ('\t' :: acc)
          else if d = 'U' then flush ++ .upper :: go n rest []
          else if d = 'L' then flush ++ .lower :: go n rest []
          else if d = 'u' then flush ++ .upperNext :: go n rest []
          else if d = 'l' then flush ++ .lowerNext :: go n rest []
          else if d = 'E' then flush ++ .plain :: go n rest []
          else go n rest (d :: acc)
        | [] => go n [] ('\\' :: acc)
      else go n more (c :: acc)
  go (text.length + 1) text []

/-- The largest group a regular expression captures. -/
def groupCount : JobFlow.Pattern.Node → Nat
  | .seq a b | .alt a b => max (groupCount a) (groupCount b)
  | .rep a _ _ _ | .look a _ _ | .atomic a => groupCount a
  | .group k a => max k (groupCount a)
  | _ => 0

/-- Reads the flags of `s`. -/
def substFlags : Nat → (Bool × Nat × Bool × Bool × Option String) →
    SedRead (Bool × Nat × Bool × Bool × Option String)
  | 0, acc => pure acc
  | n + 1, (g, nth, p, i, w) => do
    match ← SedRead.peek with
    | some 'g' =>
      let _ ← SedRead.take
      substFlags n (true, nth, p, i, w)
    | some 'p' =>
      let _ ← SedRead.take
      substFlags n (g, nth, true, i, w)
    | some 'i' | some 'I' =>
      let _ ← SedRead.take
      substFlags n (g, nth, p, true, w)
    | some 'm' | some 'M' | some 'e' =>
      let _ ← SedRead.take
      substFlags n (g, nth, p, i, w)
    | some 'w' =>
      let _ ← SedRead.take
      let f ← sedWord false
      pure (g, nth, p, i, some f)
    | some c =>
      if c.isDigit then
        let k := (← SedRead.digits 20 0 false).getD 0
        if k = 0 then SedRead.fail "number option to `s' command may not be zero"
        else substFlags n (g, k, p, i, w)
      else if c = ';' ∨ c = '\n' ∨ c = '}' ∨ c = '#' ∨ c = ' ' ∨ c = '\t' then pure (g, nth, p, i, w)
      else
        let _ ← SedRead.take
        SedRead.fail "unknown option to `s'"
    | none => pure (g, nth, p, i, w)

/-- Reads what ends a command: blanks, then `;`, a newline, `}`, `#` or the end. -/
def commandEnd : SedRead Unit := do
  SedRead.skipBlanks 1000
  match ← SedRead.peek with
  | none | some '}' | some '#' => pure ()
  | some ';' | some '\n' => let _ ← SedRead.take
  | some _ =>
    let _ ← SedRead.take
    SedRead.fail "extra characters after command"

/-- Reads the action of a command after its addresses; whether it opens or closes a block is
part of it. -/
def sedAction (c : Char) (addressed : Bool) : SedRead SedAction := do
  let noAddress (a : SedAction) : SedRead SedAction :=
    if addressed then SedRead.fail "command only uses one address" else pure a
  match c with
  | '{' => return .blockStart
  | '}' => return .blockEnd
  | 's' =>
    let delim ← match ← SedRead.take with
      | some d => pure d
      | none => SedRead.fail "unterminated `s' command"
    match ← SedRead.delimited delim true 100000 [] with
    | none => SedRead.fail "unterminated `s' command"
    | some reText =>
      match ← SedRead.delimited delim false 100000 [] with
      | none => SedRead.fail "unterminated `s' command"
      | some repText =>
        let (g, nth, p, i, w) ← substFlags 100 (false, 1, false, false, none)
        let re ← sedRegex reText i
        let pieces := replacementPieces repText.toList
        let highest := pieces.foldl (fun m q => match q with
          | .group k => max m k
          | _ => m) 0
        match re with
        | some r =>
          if highest > groupCount r then
            SedRead.fail s!"invalid reference \\{highest} on `s' command's RHS"
          else pure ()
        | none => pure ()
        commandEnd
        return .subst re pieces g nth p w
  | 'y' =>
    let delim ← match ← SedRead.take with
      | some d => pure d
      | none => SedRead.fail "unterminated `y' command"
    match ← SedRead.delimited delim false 100000 [] with
    | none => SedRead.fail "unterminated `y' command"
    | some src =>
      match ← SedRead.delimited delim false 100000 [] with
      | none => SedRead.fail "unterminated `y' command"
      | some dst =>
        let unescape (s : String) : List Char :=
          let rec go : Nat → List Char → List Char
            | 0, _ => []
            | _ + 1, [] => []
            | n + 1, '\\' :: d :: more => (if d = 'n' then '\n' else if d = 't' then '\t' else d) :: go n more
            | n + 1, x :: more => x :: go n more
          go (s.length + 1) s.toList
        let a := unescape src
        let b := unescape dst
        if a.length != b.length then SedRead.fail "strings for `y' command are different lengths"
        commandEnd
        return .translit (a.zip b)
  | 'a' => return .append (← sedText)
  | 'i' => return .insert (← sedText)
  | 'c' => return .change (← sedText)
  | ':' =>
    if addressed then SedRead.fail ": doesn't want any addresses"
    let l ← sedWord true
    if l.isEmpty then SedRead.fail "\":\" lacks a label"
    commandEnd
    return .label l
  | 'b' | 't' | 'T' =>
    let l ← sedWord true
    commandEnd
    return .branch (if c = 'b' then 0 else if c = 't' then 1 else 2) l
  | 'r' => return .readFile (← sedWord false)
  | 'w' => return .writeFile (← sedWord false)
  | 'q' | 'Q' =>
    SedRead.skipBlanks 100
    let st := (← SedRead.digits 20 0 false).getD 0
    commandEnd
    noAddress (.quit st (c = 'Q'))
  | 'l' =>
    SedRead.skipBlanks 100
    let _ ← SedRead.digits 20 0 false
    commandEnd
    return .list
  | '=' => do commandEnd; return .lineNumber
  | 'p' => do commandEnd; return .print
  | 'P' => do commandEnd; return .printFirst
  | 'd' => do commandEnd; return .delete
  | 'D' => do commandEnd; return .deleteFirst
  | 'n' => do commandEnd; return .next
  | 'N' => do commandEnd; return .appendNext
  | 'h' => do commandEnd; return .hold
  | 'H' => do commandEnd; return .holdAppend
  | 'g' => do commandEnd; return .get
  | 'G' => do commandEnd; return .getAppend
  | 'x' => do commandEnd; return .exchange
  | 'z' => do commandEnd; return .zap
  | _ => SedRead.fail s!"unknown command: `{c}'"

/-- Reads the commands of a script. -/
def sedCommands : Nat → List SedCommand → SedRead (List SedCommand)
  | 0, acc => pure acc.reverse
  | n + 1, acc => do
    -- blanks and separators before a command
    let rec skipSeps : Nat → SedRead Unit
      | 0 => pure ()
      | k + 1 => do
        match ← SedRead.peek with
        | some ' ' | some '\t' | some '\n' | some ';' =>
          let _ ← SedRead.take
          skipSeps k
        | _ => pure ()
    skipSeps 100000
    match ← SedRead.peek with
    | none => return acc.reverse
    | some '#' =>
      let s ← get
      let skipped := s.rest.takeWhile (· != '\n')
      set { s with rest := s.rest.drop skipped.length, pos := s.pos + skipped.length }
      sedCommands n acc
    | some _ =>
      let first ← sedAddress
      let zeroStart := match first with
        | some (.line 0) => true
        | _ => false
      let mut last : Option SedEnd := none
      SedRead.skipBlanks 100
      if first.isSome ∧ (← SedRead.peek) = some ',' then
        let _ ← SedRead.take
        SedRead.skipBlanks 100
        match ← SedRead.peek with
        | some '+' =>
          let _ ← SedRead.take
          last := some (.plus ((← SedRead.digits 20 0 false).getD 0))
        | some '~' =>
          let _ ← SedRead.take
          last := some (.multiple ((← SedRead.digits 20 0 false).getD 0))
        | _ =>
          match ← sedAddress with
          | some a => last := some (.addr a)
          | none => SedRead.fail "unexpected `,'"
      if zeroStart then
        match last with
        | some (.addr (.regex _)) => pure ()
        | _ => SedRead.fail "invalid usage of line address 0"
      SedRead.skipBlanks 100
      let mut negate := false
      if (← SedRead.peek) = some '!' then
        let _ ← SedRead.take
        negate := true
        SedRead.skipBlanks 100
      match ← SedRead.take with
      | none => SedRead.fail "missing command"
      | some c =>
        if c = '}' ∧ first.isSome then SedRead.fail "\x7d doesn't want any addresses"
        let action ← sedAction c (last.isSome)
        if c = '}' then commandEnd
        let cmd : SedCommand :=
          { first := first, last := last, negate := negate, zeroStart := zeroStart, action := action }
        sedCommands n (cmd :: acc)

/-- Links the blocks of a program: each block start learns the index past its end; a brace
that closes nothing or a block left open is a fault. -/
def linkBlocks (cmds : Array SedCommand) : Except String (Array SedCommand) :=
  let rec go : Nat → Nat → List Nat → Array SedCommand → Except String (Array SedCommand)
    | 0, _, _, a => .ok a
    | fuel + 1, i, opened, a =>
      if h : i < a.size then
        match a[i].action with
        | .blockStart => go fuel (i + 1) (i :: opened) a
        | .blockEnd =>
          match opened with
          | o :: rest => go fuel (i + 1) rest (a.modify o (fun c => { c with skipTo := i + 1 }))
          | [] => .error "unexpected `\x7d'"
        | _ => go fuel (i + 1) opened a
      else if opened.isEmpty then .ok a else .error "unmatched `\x7b'"
  go (cmds.size + 1) 0 [] cmds

/-- A line of input: its text and whether a newline ended it. -/
abbrev SedLine := String × Bool

/-- The state of running a script. -/
structure SedRun where
  space : String := ""
  hold : String := ""
  lineNo : Nat := 0
  input : List SedLine := []
  ended : Bool := true
  out : String := ""
  queued : String := ""
  active : Array (Option Nat) := #[]
  lastRegex : Option JobFlow.Pattern.Node := none
  replaced : Bool := false
  quit : Option (Nat × Bool) := none
  files : List (String × String) := []
  suppress : Bool := false
  deriving Inhabited

/-- The state with the pattern space not to be printed at the end of the cycle. -/
def SedRun.noPrint (r : SedRun) : SedRun := { r with suppress := true }

/-- Whether an address selects the current line. -/
def SedRun.selects (r : SedRun) (a : SedAddr) : Bool × SedRun :=
  match a with
  | .line n => (r.lineNo = n, r)
  | .last => (r.input.isEmpty, r)
  | .step first st =>
    (if st = 0 then r.lineNo = first else r.lineNo ≥ first ∧ (r.lineNo - first) % st = 0, r)
  | .regex re =>
    let node := re.orElse (fun _ => r.lastRegex)
    match node with
    | some n => ((firstMatch n r.space.toList.toArray 0).isSome, { r with lastRegex := some n })
    | none => (false, r)

/-- Whether a command selects the current line, keeping the state of its range. -/
def SedRun.applies (r : SedRun) (i : Nat) (c : SedCommand) : Bool × SedRun :=
  let (hit, r) : Bool × SedRun := match c.first with
    | none => (true, r)
    | some a =>
      match c.last with
      | none => r.selects a
      | some e =>
        match r.active.getD i none with
        | some start =>
          -- inside the range: does it end on this line?
          let (closes, r) : Bool × SedRun := match e with
            | .addr (.line n) => (r.lineNo ≥ n, r)
            | .addr a2 => r.selects a2
            | .plus n => (r.lineNo ≥ start + n, r)
            | .multiple n => (n = 0 ∨ r.lineNo % n = 0, r)
          let r := if closes then { r with active := r.active.set! i none } else r
          (true, r)
        | none =>
          let (opens, r) := r.selects a
          if !opens then (false, r)
          else
            -- a range whose end is already reached covers one line
            let (single, r) : Bool × SedRun := match e with
              | .addr (.line n) => (n ≤ r.lineNo, r)
              | .addr _ => (false, r)
              | .plus n => (n = 0, r)
              | .multiple n => (n = 0 ∨ r.lineNo % n = 0, r)
            (true, if single then r else { r with active := r.active.set! i (some r.lineNo) })
  (hit != c.negate, r)

/-- Applies the case changes of a replacement to its text. -/
def caseChanged (pieces : List (SedPiece ⊕ String)) : String :=
  let rec go : Nat → List (SedPiece ⊕ String) → Nat → Nat → String
    | 0, _, _, _ => ""
    | _ + 1, [], _, _ => ""
    | n + 1, p :: rest, mode, once =>
      match p with
      | .inl .upper => go n rest 1 once
      | .inl .lower => go n rest 2 once
      | .inl .plain => go n rest 0 once
      | .inl .upperNext => go n rest mode 1
      | .inl .lowerNext => go n rest mode 2
      | .inl _ => go n rest mode once
      | .inr s =>
        let s := if mode = 1 then s.toUpper else if mode = 2 then s.toLower else s
        match s.toList with
        | [] => go n rest mode once
        | c :: more =>
          let c := if once = 1 then c.toUpper else if once = 2 then c.toLower else c
          String.ofList (c :: more) ++ go n rest mode 0
  go (pieces.length + 1) pieces 0 0

/-- The replacement of a match. -/
def replacementText (pieces : List SedPiece) (s : JobFlow.Pattern.Input) (m : RegexMatch) : String :=
  let whole := String.ofList ((s.toList.drop m.start).take (m.stop - m.start))
  caseChanged (pieces.map (fun p => match p with
    | .text t => .inr t
    | .whole => .inr whole
    | .group k => .inr (m.group s k)
    | other => .inl other))

/-- Substitutes the matches of a pattern in a text: the `nth` match, or that and all after it
when `global`; the new text, or `none` when nothing was replaced. -/
def substitute (n : JobFlow.Pattern.Node) (pieces : List SedPiece) (global : Bool) (nth : Nat)
    (text : String) : Option String :=
  let s := text.toList.toArray
  let rec go : Nat → Nat → Nat → Option Nat → List Char → Bool → List Char × Bool
    | 0, _, _, _, acc, done => (acc, done)
    | fuel + 1, pos, count, lastEnd, acc, done =>
      if pos > s.size then (acc, done)
      else match firstMatch n s pos with
        | none => (acc ++ (s.toList.drop pos), done)
        | some m =>
          -- an empty match right after the previous one does not count
          if m.stop = m.start ∧ lastEnd = some m.start then
            if m.start < s.size then go fuel (m.start + 1) count lastEnd (acc ++ (s.toList.drop pos).take (m.start + 1 - pos)) done
            else (acc ++ (s.toList.drop pos), done)
          else
            let count := count + 1
            let before := (s.toList.drop pos).take (m.start - pos)
            let take := count ≥ nth ∧ (global ∨ count = nth)
            let middle := if take then (replacementText pieces s m).toList
              else (s.toList.drop m.start).take (m.stop - m.start)
            let acc := acc ++ before ++ middle
            let done := done || take
            if !global ∧ count ≥ nth then (acc ++ s.toList.drop m.stop, done)
            else if m.stop = m.start then
              if m.start < s.size then go fuel (m.start + 1) count (some m.stop) (acc ++ [s.getD m.start ' ']) done
              else (acc, done)
            else go fuel m.stop count (some m.stop) acc done
  let (out, done) := go (s.size + 2) 0 0 none [] false
  if done then some (String.ofList out) else none

/-- The text of `l`: escapes for backslash and control bytes, lines broken at 69 characters
with a backslash, and a `$` at the end. -/
def visibleLine (text : String) : String :=
  let escaped : List String := text.toList.map (fun c =>
    if c = '\\' then "\\\\"
    else if c = '\n' then "\\n"
    else if c = '\t' then "\\t"
    else if c.toNat = 7 then "\\a"
    else if c.toNat = 8 then "\\b"
    else if c.toNat = 12 then "\\f"
    else if c.toNat = 13 then "\\r"
    else if c.toNat = 11 then "\\v"
    else if c.toNat < 32 ∨ c.toNat ≥ 127 then
      let n := c.toNat
      "\\" ++ String.ofList [Char.ofNat (48 + n / 64 % 8), Char.ofNat (48 + n / 8 % 8), Char.ofNat (48 + n % 8)]
    else c.toString)
  let rec wrap : Nat → List String → Nat → String
    | 0, _, _ => ""
    | _ + 1, [], _ => "$\n"
    | n + 1, e :: rest, width =>
      if width + e.length > 69 then "\\\n" ++ wrap n (e :: rest) 0
      else e ++ wrap n rest (width + e.length)
  wrap (2 * escaped.length + 2) escaped 0

/-- Reads the next line into a state, as `n` and `N` do. -/
def SedRun.readNext (r : SedRun) : Option (String × SedRun) :=
  match r.input with
  | (t, nl) :: rest => some (t, { r with input := rest, lineNo := r.lineNo + 1, ended := nl })
  | [] => none

/-- The end of a cycle: the pattern space printed unless `-n`, then what was queued. -/
def SedRun.flush (r : SedRun) (quiet : Bool) : SedRun :=
  let printed := if quiet ∨ r.suppress then "" else r.space ++ (if r.ended then "\n" else "")
  { r with out := r.out ++ printed ++ r.queued, queued := "", suppress := false }

/-- Writes a line to a file named in the script. -/
def SedRun.writeTo (r : SedRun) (name text : String) : SedRun :=
  if name = "/dev/stdout" then { r with out := r.out ++ text }
  else { r with files := if r.files.any (·.1 = name) then r.files.map (fun e => if e.1 = name then (name, e.2 ++ text) else e) else r.files ++ [(name, text)] }

/-- How a cycle goes on after a command: to the next command, to a command by index, to the
end of the cycle, to a new cycle without reading, or out of the script. -/
inductive SedFlow where
  | next
  | jump (i : Nat)
  | endCycle
  | restart
  | stop
  deriving Inhabited

/-- Runs the commands of a program from an index over the pattern space of one cycle. -/
def sedCycle (prog : Array SedCommand) (labels : List (String × Nat)) (quiet : Bool)
    (readFile : String → String) : Nat → Nat → SedRun → SedFlow × SedRun
  | 0, _, r => (.endCycle, r)
  | fuel + 1, i, r =>
    if h : i < prog.size then
      let c := prog[i]
      let (hit, r) := r.applies i c
      if !hit then
        match c.action with
        | .blockStart => sedCycle prog labels quiet readFile fuel c.skipTo r
        | _ => sedCycle prog labels quiet readFile fuel (i + 1) r
      else
        let (flow, r) : SedFlow × SedRun := match c.action with
          | .subst re pieces global nth print write =>
            match re.orElse (fun _ => r.lastRegex) with
            | none => (.next, r)
            | some node =>
              let r := { r with lastRegex := some node }
              match substitute node pieces global nth r.space with
              | some t =>
                let r := { r with space := t, replaced := true }
                let r := if print then { r with out := r.out ++ t ++ "\n" } else r
                let r := match write with
                  | some f => r.writeTo f (t ++ "\n")
                  | none => r
                (.next, r)
              | none => (.next, r)
          | .translit pairs =>
            (.next, { r with space := String.ofList (r.space.toList.map (fun ch =>
              ((pairs.find? (·.1 = ch)).map (·.2)).getD ch)) })
          | .print => (.next, { r with out := r.out ++ r.space ++ "\n" })
          | .printFirst => (.next, { r with out := r.out ++ String.ofList (r.space.toList.takeWhile (· ≠ '\n')) ++ "\n" })
          | .delete => (.endCycle, r.noPrint)
          | .deleteFirst =>
            if r.space.contains '\n' then
              (.restart, { r with space := String.ofList ((r.space.toList.dropWhile (· ≠ '\n')).drop 1) })
            else (.endCycle, r.noPrint)
          | .next =>
            match r.readNext with
            | some (t, r') =>
              let r' := { r' with space := r.space }
              let r' := r'.flush quiet
              (.next, { r' with space := t })
            | none => (.stop, r)
          | .appendNext =>
            match r.readNext with
            | some (t, r') => (.next, { r' with space := r.space ++ "\n" ++ t })
            | none => (.stop, r)
          | .hold => (.next, { r with hold := r.space })
          | .holdAppend => (.next, { r with hold := r.hold ++ "\n" ++ r.space })
          | .get => (.next, { r with space := r.hold })
          | .getAppend => (.next, { r with space := r.space ++ "\n" ++ r.hold })
          | .exchange => (.next, { r with space := r.hold, hold := r.space })
          | .zap => (.next, { r with space := "" })
          | .quit st silent => (.stop, { r with quit := some (st, silent) })
          | .lineNumber => (.next, { r with out := r.out ++ toString r.lineNo ++ "\n" })
          | .list => (.next, { r with out := r.out ++ visibleLine r.space })
          | .append t => (.next, { r with queued := r.queued ++ t ++ "\n" })
          | .insert t => (.next, { r with out := r.out ++ t ++ "\n" })
          | .change t =>
            let inRange := c.last.isSome ∧ (r.active.getD i none).isSome ∧ !c.negate
            let r := if inRange then r else { r with out := r.out ++ t ++ "\n" }
            (.endCycle, r.noPrint)
          | .branch kind l =>
            let go := kind = 0 ∨ (kind = 1 ∧ r.replaced) ∨ (kind = 2 ∧ !r.replaced)
            let r := if kind = 0 then r else { r with replaced := false }
            if !go then (.next, r)
            else if l.isEmpty then (.endCycle, r)
            else (.jump ((labels.lookup l).getD prog.size), r)
          | .label _ => (.next, r)
          | .readFile f => (.next, { r with queued := r.queued ++ readFile f })
          | .writeFile f => (.next, r.writeTo f (r.space ++ "\n"))
          | .blockStart => (.next, r)
          | .blockEnd => (.next, r)
        match flow with
        | .next => sedCycle prog labels quiet readFile fuel (i + 1) r
        | .jump j => sedCycle prog labels quiet readFile fuel j r
        | other => (other, r)
    else (.endCycle, r)

/-- Runs a script over lines: the cycles one after the other until the input or the script
ends. -/
def sedLines (prog : Array SedCommand) (labels : List (String × Nat)) (quiet : Bool)
    (readFile : String → String) : Nat → Option String → SedRun → SedRun
  | 0, _, r => r
  | fuel + 1, carried, r =>
    if r.quit.isSome then r
    else
      -- a cycle starts with a line read, or with what `D` left
      let start : Option SedRun := match carried with
        | some t => some { r with space := t }
        | none => (r.readNext).map (fun (t, r') => { r' with space := t, replaced := false })
      match start with
      | none => r
      | some r =>
        let (flow, r) := sedCycle prog labels quiet readFile ((r.input.length + r.space.length + 64) * (prog.size + 2) * 16) 0 r
        match flow with
        | .stop =>
          match r.quit with
          | some (_, true) => { r with out := r.out ++ r.queued, queued := "" }
          | _ => r.flush quiet
        | .restart =>
          let r := { r with out := r.out ++ r.queued, queued := "" }
          sedLines prog labels quiet readFile fuel (some r.space) r
        | _ => sedLines prog labels quiet readFile fuel none (r.flush quiet)

/-- The usage text of `sed`. -/
def sedUsage (name : String) : String :=
  "Usage: " ++ name ++ " [OPTION]... \x7bscript-only-if-no-other-script\x7d [input-file]...\n\n" ++
  "  -n, --quiet, --silent\n                 suppress automatic printing of pattern space\n" ++
  "      --debug\n                 annotate program execution\n" ++
  "  -e script, --expression=script\n                 add the script to the commands to be executed\n" ++
  "  -f script-file, --file=script-file\n                 add the contents of script-file to the commands to be executed\n" ++
  "  --follow-symlinks\n                 follow symlinks when processing in place\n" ++
  "  -i[SUFFIX], --in-place[=SUFFIX]\n                 edit files in place (makes backup if SUFFIX supplied)\n" ++
  "  -l N, --line-length=N\n                 specify the desired line-wrap length for the `l' command\n" ++
  "  --posix\n                 disable all GNU extensions.\n" ++
  "  -E, -r, --regexp-extended\n                 use extended regular expressions in the script\n                 (for portability use POSIX -E).\n" ++
  "  -s, --separate\n                 consider files as separate rather than as a single,\n                 continuous long stream.\n" ++
  "      --sandbox\n                 operate in sandbox mode (disable e/r/w commands).\n" ++
  "  -u, --unbuffered\n                 load minimal amounts of data from the input files and flush\n                 the output buffers more often\n" ++
  "  -z, --null-data\n                 separate lines by NUL characters\n" ++
  "      --help     display this help and exit\n      --version  output version information and exit\n\n" ++
  "If no -e, --expression, -f, or --file option is given, then the first\n" ++
  "non-option argument is taken as the sed script to interpret.  All\n" ++
  "remaining arguments are names of input files; if no input files are\n" ++
  "specified, then the standard input is read.\n\n"

/-- What the options of `sed` ask: quiet, extended, in place, separate files, the scripts (text
or file name) and the operands; or the letter of an unknown option. -/
structure SedOptions where
  quiet : Bool := false
  extended : Bool := false
  inPlace : Option String := none
  separate : Bool := false
  scripts : List (String × Bool) := []
  operands : List String := []
  deriving Inhabited

/-- Reads the options of `sed`. -/
def sedOptions (args : List String) : Except String SedOptions :=
  let rec cluster : List Char → List String → SedOptions → Except String (SedOptions × List String)
    | [], rest, o => .ok (o, rest)
    | c :: more, rest, o =>
      if c = 'n' then cluster more rest { o with quiet := true }
      else if c = 'E' ∨ c = 'r' then cluster more rest { o with extended := true }
      else if c = 's' then cluster more rest { o with separate := true }
      else if c = 'u' ∨ c = 'z' then cluster more rest o
      else if c = 'i' then .ok ({ o with inPlace := some (String.ofList more), separate := true }, rest)
      else if c = 'e' ∨ c = 'f' then
        if !more.isEmpty then .ok ({ o with scripts := o.scripts ++ [(String.ofList more, c == 'f')] }, rest)
        else match rest with
          | a :: rest' => .ok ({ o with scripts := o.scripts ++ [(a, c == 'f')] }, rest')
          | [] => .error ("option requires an argument -- '" ++ c.toString ++ "'")
      else .error ("invalid option -- '" ++ c.toString ++ "'")
  let rec go : Nat → List String → SedOptions → Except String SedOptions
    | 0, rest, o => .ok { o with operands := o.operands ++ rest }
    | _ + 1, [], o => .ok o
    | n + 1, a :: rest, o =>
      if a = "--" then .ok { o with operands := o.operands ++ rest }
      else if a = "--quiet" ∨ a = "--silent" then go n rest { o with quiet := true }
      else if a = "--regexp-extended" then go n rest { o with extended := true }
      else if a = "--separate" then go n rest { o with separate := true }
      else if a = "--in-place" then go n rest { o with inPlace := some "", separate := true }
      else if a.startsWith "--in-place=" then go n rest { o with inPlace := some (a.drop 11).toString, separate := true }
      else if a.startsWith "--expression=" then go n rest { o with scripts := o.scripts ++ [((a.drop 13).toString, false)] }
      else if a.startsWith "--file=" then go n rest { o with scripts := o.scripts ++ [((a.drop 7).toString, true)] }
      else if a = "--expression" ∨ a = "--file" then
        match rest with
        | v :: rest' => go n rest' { o with scripts := o.scripts ++ [(v, a == "--file")] }
        | [] => .error ("option '" ++ a ++ "' requires an argument")
      else if a = "--posix" ∨ a = "--sandbox" ∨ a = "--unbuffered" ∨ a = "--follow-symlinks" then go n rest o
      else if a.startsWith "--" then .error ("unrecognized option '" ++ a ++ "'")
      else if a.startsWith "-" ∧ a.length > 1 then
        match cluster (a.toList.drop 1) rest o with
        | .ok (o, rest) => go n rest o
        | .error c => .error c
      else go n rest { o with operands := o.operands ++ [a] }
  go (args.length + 1) args {}

/-- `sed`. -/
def sed (c : Call) : Program Unit := do
  match sedOptions c.args with
  | .error m =>
    Program.err (c.name ++ ": " ++ m ++ "\n" ++ sedUsage c.name)
    Program.exitWith 1
  | .ok o =>
    let w ← Program.world
    -- the scripts, each an expression of its own for messages
    let (scripts, files) : Option (List String) × List String :=
      if !o.scripts.isEmpty then
        (some (o.scripts.map (fun (t, isFile) =>
          if isFile then (match fileBytes w (c.locate t) with
            | .ok x => chomp x
            | .error _ => "")
          else t)), o.operands)
      else match o.operands with
        | s :: rest => (some [s], rest)
        | [] => (none, [])
    match scripts with
    | none =>
      Program.err (sedUsage c.name)
      Program.exitWith 1
    | some scripts =>
      let joined := "\n".intercalate scripts
      match (sedCommands 100000 []).run { rest := joined.toList, extended := o.extended } with
      | .error f =>
        -- the expression the fault is in, and the character within it
        let rec locate : List String → Nat → Nat → Nat × Nat
          | [], k, at_ => (k, at_)
          | [_], k, at_ => (k, at_)
          | s :: more, k, at_ => if at_ ≤ s.length then (k, at_) else locate more (k + 1) (at_ - s.length - 1)
        let (k, at_) := locate scripts 1 f.at_
        Program.err (c.name ++ ": -e expression #" ++ toString k ++ ", char " ++ toString at_ ++ ": " ++ f.message ++ "\n")
        Program.exitWith 1
      | .ok (cmds, _) =>
        match linkBlocks cmds.toArray with
        | .error m =>
          let at_ := if m = "unmatched `\x7b'" then 0 else joined.length
          Program.err (c.name ++ ": -e expression #1, char " ++ toString at_ ++ ": " ++ m ++ "\n")
          Program.exitWith 1
        | .ok prog =>
          let labels := (List.range prog.size).filterMap (fun i =>
            match (prog.getD i default).action with
            | .label l => some (l, i)
            | _ => none)
          let missing := (prog.toList.filterMap (fun cmd => match cmd.action with
            | .branch _ l => if l.isEmpty ∨ labels.any (·.1 = l) then none else some l
            | _ => none)).head?
          match missing with
          | some l =>
            Program.err (c.name ++ ": can't find label for jump to `" ++ l ++ "'\n")
            Program.exitWith 4
          | none =>
            let readFile (name : String) : String :=
              match fileBytes w (c.locate name) with
              | .ok t => if t.isEmpty ∨ t.endsWith "\n" then t else t ++ "\n"
              | .error _ => ""
            let files := if files.isEmpty then ["-"] else files
            -- the input of each run: all files together, or each alone
            let mut inputs : List (Option String × List SedLine) := []
            let mut failed := false
            for f in files do
              match ← c.readOperand f with
              | .error e =>
                Program.err (c.name ++ ": can't read " ++ f ++ ": " ++ e ++ "\n")
                failed := true
              | .ok text =>
                let lines := (linesOf text).map (fun l => (chomp l, l.endsWith "\n"))
                inputs := inputs ++ [(if f = "-" then none else some f, lines)]
            let runs : List (Option String × List SedLine) :=
              if o.separate then inputs
              else
                let all := inputs.foldl (fun acc (_, ls) =>
                  -- a file's last line without a newline gets one when more lines follow
                  (match acc.getLast? with
                    | some (t, false) => acc.dropLast ++ [(t, true)]
                    | _ => acc) ++ ls) []
                [(none, all)]
            let mut status := if failed then 2 else 0
            let mut fileState : List (String × String) := []
            for (name, lines) in runs do
              let active := prog.map (fun cmd => if cmd.zeroStart then some 0 else none)
              let init : SedRun := { input := lines, active := active, files := fileState }
              let r := sedLines prog labels o.quiet readFile (lines.length + 2) none init
              fileState := r.files
              match o.inPlace, name with
              | some suffix, some f =>
                let names := c.locate f
                if !suffix.isEmpty then
                  match fileBytes (← Program.world) names with
                  | .ok old =>
                    match (← Program.world).disk.writeFile (c.locate (f ++ suffix)) (Octets.toBytes old) with
                    | .ok d => Program.setDisk d
                    | .error _ => pure ()
                  | .error _ => pure ()
                match (← Program.world).disk.writeFile names (Octets.toBytes r.out) with
                | .ok d => Program.setDisk d
                | .error _ => pure ()
              | _, _ => Program.out r.out
              match r.quit with
              | some (st, _) =>
                status := st
                break
              | none => pure ()
            for (name, text) in fileState do
              if name != "/dev/stdout" then
                match (← Program.world).disk.writeFile (c.locate name) (Octets.toBytes text) with
                | .ok d => Program.setDisk d
                | .error _ => pure ()
            Program.exitWith status

end Tools

end JobFlow.Shell
