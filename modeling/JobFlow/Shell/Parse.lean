import JobFlow.Shell.Syntax

/-!
# Reading scripts

A script is read one complete command at a time: a list of and-or lists up to the end of a
line (or of the text), so that each command runs before the next one is read and a syntax
fault stops the script only where it stands.
-/

namespace JobFlow.Shell

/-- A fault of a script's syntax: the message and the line where reading stopped. -/
structure SyntaxFault where
  message : String
  line : Nat
  deriving Inhabited, Repr

/-- How a redirection operator opens its descriptor. -/
inductive RedirKind where
  | toFile (mode : OpenMode)
  | copyOut
  | copyIn
  | here (stripTabs : Bool)
  deriving DecidableEq, Inhabited

/-- A token of a script. -/
inductive Token where
  | eof
  | newline
  | op (text : String)
  | redir (fd : Nat) (kind : RedirKind)
  | word (w : Word) (quoted : Bool)
  | keyword (text : String)
  deriving Inhabited

namespace Token

/-- The name of a token in a syntax fault. -/
def name : Token → String
  | .eof => "end of file"
  | .newline => "newline"
  | .op t => "\"" ++ t ++ "\""
  | .redir _ _ => "redirection"
  | .word _ _ => "word"
  | .keyword t => "\"" ++ t ++ "\""

/-- Whether a token may end a list. -/
def endsList : Token → Bool
  | .eof => true
  | .op t => t = ")" ∨ t = ";;"
  | .keyword t => t ∈ ["do", "done", "elif", "else", "esac", "fi", "then", "\x7d"]
  | _ => false

/-- Whether a token is the keyword `k`. -/
def isKeyword (t : Token) (k : String) : Bool :=
  match t with
  | .keyword s => s == k
  | _ => false

/-- Whether a token is the operator `o`. -/
def isOp (t : Token) (o : String) : Bool :=
  match t with
  | .op s => s == o
  | _ => false

end Token

/-- The reserved words. -/
def reservedWords : List String :=
  ["!", "case", "do", "done", "elif", "else", "esac", "fi", "for", "if", "in", "then", "until",
    "while", "\x7b", "\x7d"]

/-- The special built-in commands, which no function may be named after. -/
def specialBuiltins : List String :=
  [".", ":", "break", "continue", "eval", "exec", "exit", "export", "readonly", "return", "set",
    "shift", "times", "trap", "unset"]

/-- A here-document waiting for its body: its slot, its delimiter, whether leading tabs are
stripped, and whether the body is literal. -/
structure PendingDoc where
  slot : Nat
  delimiter : String
  stripTabs : Bool
  literal : Bool
  deriving Inhabited

/-- The state of reading a script: the text left, the line reached, the last token and
whether it was pushed back, whether the next token may be a reserved word and whether
newlines before it are skipped, the here-documents waiting for their bodies, the bodies
read, and the next free slot. -/
structure Reader where
  rest : List Char
  line : Nat := 1
  pushed : Bool := false
  last : Token := .eof
  lastWord : Word := []
  checkKeyword : Bool := false
  skipNewlines : Bool := false
  delimiterWord : Bool := false
  pending : List PendingDoc := []
  docs : List (Nat × Word × Bool) := []
  slots : Nat := 0
  deriving Inhabited

/-- Reading a script. -/
abbrev Parse := StateT Reader (Except SyntaxFault)

namespace Parse

/-- Stops with a syntax fault at the line reached. -/
def fault {α : Type} (msg : String) : Parse α := do
  throw ⟨"Syntax error: " ++ msg, (← get).line⟩

/-- The fault for the last token, which cannot stand where it is, when `expected` should. -/
def unexpected {α : Type} (expected : Option String) : Parse α := do
  let t := (← get).last
  match expected with
  | some e => fault s!"{t.name} unexpected (expecting {e})"
  | none => fault s!"{t.name} unexpected"

/-- The next character, if any. -/
def peek : Parse (Option Char) := do return (← get).rest.head?

/-- Moves past the next character, counting lines. -/
def advance : Parse Unit :=
  modify fun r =>
    match r.rest with
    | c :: rest => { r with rest := rest, line := if c = '\n' then r.line + 1 else r.line }
    | [] => r

/-- Puts a character back. -/
def unread (c : Option Char) : Parse Unit :=
  match c with
  | some c => modify fun r => { r with rest := c :: r.rest, line := if c = '\n' then r.line - 1 else r.line }
  | none => pure ()

/-- Skips backslash-newline pairs. -/
def skipJoins : Nat → Parse Unit
  | 0 => pure ()
  | n + 1 => do
    match (← get).rest with
    | '\\' :: '\n' :: _ => do advance; advance; skipJoins n
    | _ => pure ()

/-- The next character after any backslash-newline pairs, taken. -/
def take : Parse (Option Char) := do
  skipJoins ((← get).rest.length + 1)
  let c ← peek
  advance
  return c

/-- The next character after any backslash-newline pairs, left in place. -/
def peekJoined : Parse (Option Char) := do
  skipJoins ((← get).rest.length + 1)
  peek

/-- Reads name characters after the first. -/
def nameRest : Nat → String → Parse (String × Option Char)
  | 0, acc => do return (acc, ← take)
  | n + 1, acc => do
    let c ← take
    match c with
    | some d => if isNameChar d then nameRest n (acc.push d) else return (acc, c)
    | none => return (acc, c)

/-- Reads digits after the first. -/
def digitRest : Nat → String → Parse (String × Option Char)
  | 0, acc => do return (acc, ← take)
  | n + 1, acc => do
    let c ← take
    match c with
    | some d => if d.isDigit then digitRest n (acc.push d) else return (acc, c)
    | none => return (acc, c)

/-- Reads single-quoted text after the opening quote. -/
def singleQuoted : Nat → String → Parse String
  | 0, _ => fault "Unterminated quoted string"
  | n + 1, acc => do
    match ← peek with
    | none => fault "Unterminated quoted string"
    | some '\'' => do advance; return acc
    | some c => do advance; singleQuoted n (acc.push c)

/-- Reads the text of a backquoted command after the opening backquote: a backslash before
`\`, a backquote or `$` (or `"` inside double quotes) is dropped. -/
def backquoteText (inQuotes : Bool) : Nat → String → Parse String
  | 0, _ => fault "EOF in backquote substitution"
  | n + 1, acc => do
    match ← take with
    | none => fault "EOF in backquote substitution"
    | some '`' => return acc
    | some '\\' =>
      let d ← peek
      advance
      match d with
      | none => backquoteText inQuotes n (acc.push '\\')
      | some d =>
        let keep := d ≠ '\\' ∧ d ≠ '`' ∧ d ≠ '$' ∧ !(inQuotes ∧ d = '"')
        backquoteText inQuotes n ((if keep then acc.push '\\' else acc).push d)
    | some c => backquoteText inQuotes n (acc.push c)

/-- Skips a comment up to the end of its line. -/
def skipComment : Nat → Parse Unit
  | 0 => pure ()
  | k + 1 => do
    match ← peek with
    | none | some '\n' => pure ()
    | some _ => do advance; skipComment k

/-- Skips tabs. -/
def skipTabs : Nat → Parse Unit
  | 0 => pure ()
  | k + 1 => do
    if (← peek) = some '\t' then do advance; skipTabs k else pure ()

/-- The word `b` appended to `a`, joining text parts of one kind at the seam. -/
def joinWords (a b : Word) : Word :=
  match b with
  | .lit s :: rest => (a.addLit s) ++ rest
  | .quoted s :: rest => (a.addQuoted s) ++ rest
  | _ => a ++ b

/-- The redirection token after its operator's first character `c`, already taken, with
descriptor `fd`. -/
def redirection (fd : Option Nat) (c : Char) : Parse Token := do
  if c = '>' then
    let d ← take
    match d with
    | some '>' => return .redir (fd.getD 1) (.toFile .append)
    | some '|' => return .redir (fd.getD 1) (.toFile .clobber)
    | some '&' => return .redir (fd.getD 1) .copyOut
    | _ => do unread d; return .redir (fd.getD 1) (.toFile .write)
  else
    let d ← take
    match d with
    | some '<' => do
      let e ← take
      if e = some '-' then return .redir (fd.getD 0) (.here true)
      else do unread e; return .redir (fd.getD 0) (.here false)
    | some '&' => return .redir (fd.getD 0) .copyIn
    | some '>' => return .redir (fd.getD 0) (.toFile .readWrite)
    | _ => do unread d; return .redir (fd.getD 0) (.toFile .read)

/-- The delimiter of a here-document: its text without quotes. -/
def delimiterText (w : Word) : String :=
  String.join (w.map fun
    | .lit s => s
    | .quoted s => s
    | _ => "")

/-- Whether a word is an assignment: a name, then `=`, written without quotes. -/
def assignment? (w : Word) : Option (String × Word) :=
  match w with
  | .lit t :: more =>
    let cs := t.toList
    let nm := cs.takeWhile isNameChar
    match cs.drop nm.length with
    | '=' :: value =>
      if isName (String.ofList nm) then
        some (String.ofList nm, (if value.isEmpty then [] else [.lit (String.ofList value)]) ++ more)
      else none
    | _ => none
  | _ => none

mutual

/-- Reads a word of a command up to the first unquoted character that ends it. -/
def bareWord : Nat → Word → Parse Word
  | 0, w => pure w
  | n + 1, w => do
    skipJoins ((← get).rest.length + 1)
    match ← peek with
    | none => pure w
    | some c =>
      if " \t\n;&|<>()".contains c then pure w
      else if c = '\\' then do
        advance
        match ← peek with
        | none => bareWord n (w.addQuoted "\\")
        | some d => do advance; bareWord n (w.addQuoted d.toString)
      else if c = '\'' then do
        advance
        let s ← singleQuoted n ""
        bareWord n (w.addQuoted s)
      else if c = '"' then do
        advance
        let w ← doubleQuoted n false w
        bareWord n w
      else if c = '$' then do
        advance
        let w ← dollar n false false w
        bareWord n w
      else if c = '`' then do
        advance
        let w ← backquoted n false w
        bareWord n w
      else do
        advance
        bareWord n (w.addLit c.toString)

/-- Reads double-quoted text after the opening quote; `inVar` when it stands in the word of a
`${...}`, where `\}` is an escape too. -/
def doubleQuoted : Nat → Bool → Word → Parse Word
  | 0, _, w => pure w
  | n + 1, inVar, w => do
    let inner ← quotedText n inVar []
    match inner with
    | [.param "@" .plain true] => pure (w ++ inner)
    | _ => pure (joinWords (w.addQuoted "") inner)

/-- The parts of double-quoted text up to the closing quote. -/
def quotedText : Nat → Bool → Word → Parse Word
  | 0, _, _ => fault "Unterminated quoted string"
  | n + 1, inVar, w => do
    skipJoins ((← get).rest.length + 1)
    match ← peek with
    | none => fault "Unterminated quoted string"
    | some '"' => do advance; pure w
    | some '\\' => do
      advance
      match ← peek with
      | none => quotedText n inVar (w.addQuoted "\\")
      | some d => do
        advance
        let escapes := d = '\\' ∨ d = '`' ∨ d = '$' ∨ d = '"' ∨ (inVar ∧ d = '}')
        quotedText n inVar (w.addQuoted (if escapes then d.toString else "\\" ++ d.toString))
    | some '$' => do
      advance
      let w ← dollar n true true w
      quotedText n inVar w
    | some '`' => do
      advance
      let w ← backquoted n true w
      quotedText n inVar w
    | some c => do advance; quotedText n inVar (w.addQuoted c.toString)

/-- Reads what follows a `$`: a parameter, a command substitution or an arithmetic
expansion; a `$` before anything else stands for itself. -/
def dollar : Nat → Bool → Bool → Word → Parse Word
  | 0, _, _, w => pure w
  | n + 1, quotedHere, inQuotes, w => do
    let self : Word := if quotedHere then w.addQuoted "$" else w.addLit "$"
    if (← get).delimiterWord then return self
    match ← peekJoined with
    | some '(' => do
      advance
      if (← peekJoined) = some '(' then do
        advance
        let e ← arithText n 0 []
        pure (w ++ [.arith e inQuotes])
      else do
        let saved := (← get).pending
        modify fun r => { r with pending := [] }
        let body ← list n 2
        let t ← token n
        if !t.isOp ")" then unexpected (some "\")\"")
        modify fun r => { r with pending := saved ++ r.pending, pushed := false }
        pure (w ++ [.command body inQuotes])
    | some '{' => do
      advance
      let p ← braced n inQuotes
      pure (w ++ [p])
    | some c =>
      if isNameStart c then do
        advance
        let (nm, after) ← nameRest n c.toString
        unread after
        pure (w ++ [.param nm .plain inQuotes])
      else if isSpecialParam c then do
        advance
        pure (w ++ [.param c.toString .plain inQuotes])
      else pure self
    | none => pure self

/-- Reads a `${...}` expansion after its opening brace: the name, the operation, and the word
up to the closing brace. -/
def braced : Nat → Bool → Parse Part
  | 0, _ => fault "Missing '\x7d'"
  | n + 1, inQuotes => do
    let c ← take
    -- the name, the character after it, and whether a `#` asked for the length
    let (nm, c, length, bad) ← match c with
      | some c0 =>
        if isNameStart c0 then do
          let (nm, c) ← nameRest n c0.toString
          pure (nm, c, false, false)
        else if c0.isDigit then do
          let (nm, c) ← digitRest n c0.toString
          pure (nm, c, false, false)
        else if c0 = '}' then pure ("", some c0, false, true)
        else do
          let c1 ← take
          if c0 = '#' then
            match c1 with
            | some d =>
              if isNameStart d then do
                let (nm, c) ← nameRest n d.toString
                pure (nm, c, true, false)
              else if d.isDigit then do
                let (nm, c) ← digitRest n d.toString
                pure (nm, c, true, false)
              else do
                let c2 ← take
                if d = '}' ∨ c2 ≠ some '}' then do
                  unread c2
                  pure ("#", some d, false, false)
                else if isSpecialParam d then pure (d.toString, c2, true, false)
                else pure ("", c2, false, true)
            | none => pure ("", none, false, true)
          else if isSpecialParam c0 then pure (c0.toString, c1, false, false)
          else pure ("", c1, false, true)
      | none => do
        let c1 ← take
        pure ("", c1, false, true)
    if bad then do
      unread c
      let _ ← varWord n false inQuotes []
      pure (.param nm .invalid inQuotes)
    else if length then do
      if c = some '}' then pure (.param nm .length inQuotes)
      else do
        unread c
        let _ ← varWord n false inQuotes []
        pure (.param nm .invalid inQuotes)
    else
      -- the operation
      match c with
      | some '}' => pure (.param nm .plain inQuotes)
      | some '%' | some '#' => do
        let c2 ← take
        let longest := c2 = c
        if !longest then unread c2
        let pat ← varWord n true false []
        pure (.param nm (if c = some '%' then .trimSuffix longest pat else .trimPrefix longest pat) inQuotes)
      | _ => do
        let (colon, c) ← if c = some ':' then do pure (true, ← take) else pure (false, c)
        let kind : Option Fallback := match c with
          | some '-' => some .orDefault
          | some '=' => some .orAssign
          | some '?' => some .orFail
          | some '+' => some .orAlternative
          | _ => none
        match kind with
        | some k => do
          let body ← varWord n false inQuotes []
          pure (.param nm (.fallback k colon body) inQuotes)
        | none => do
          let _ ← varWord n false inQuotes []
          pure (.param nm .invalid inQuotes)

/-- Reads the word of a `${...}` up to its closing brace. -/
def varWord : Nat → Bool → Bool → Word → Parse Word
  | 0, _, _, w => pure w
  | n + 1, bare, inQuotes, w => if bare ∨ !inQuotes then varBare n w else varQuoted n false w

/-- The unquoted word of a `${...}`. -/
def varBare : Nat → Word → Parse Word
  | 0, _ => fault "Missing '\x7d'"
  | n + 1, w => do
    skipJoins ((← get).rest.length + 1)
    match ← peek with
    | none => fault "Missing '\x7d'"
    | some '}' => do advance; pure w
    | some '\\' => do
      advance
      match ← peek with
      | none => varBare n (w.addQuoted "\\")
      | some d => do advance; varBare n (w.addQuoted d.toString)
    | some '\'' => do
      advance
      let s ← singleQuoted n ""
      varBare n (w.addQuoted s)
    | some '"' => do
      advance
      let w ← doubleQuoted n true w
      varBare n w
    | some '$' => do
      advance
      let w ← dollar n false false w
      varBare n w
    | some '`' => do
      advance
      let w ← backquoted n false w
      varBare n w
    | some c => do advance; varBare n (w.addLit c.toString)

/-- The quoted word of a `${...}` inside double quotes; `inner` while an inner pair of
double quotes is open. -/
def varQuoted : Nat → Bool → Word → Parse Word
  | 0, _, _ => fault "Unterminated quoted string"
  | n + 1, inner, w => do
    skipJoins ((← get).rest.length + 1)
    match ← peek with
    | none => fault "Unterminated quoted string"
    | some '}' => do
      advance
      if inner then varQuoted n inner (w.addQuoted "\x7d") else pure w
    | some '"' => do advance; varQuoted n (!inner) (w.addQuoted "")
    | some '\\' => do
      advance
      match ← peek with
      | none => varQuoted n inner (w.addQuoted "\\")
      | some d => do
        advance
        let escapes := d = '\\' ∨ d = '`' ∨ d = '$' ∨ d = '"' ∨ d = '}'
        varQuoted n inner (w.addQuoted (if escapes then d.toString else "\\" ++ d.toString))
    | some '$' => do
      advance
      let w ← dollar n true true w
      varQuoted n inner w
    | some '`' => do
      advance
      let w ← backquoted n true w
      varQuoted n inner w
    | some c => do advance; varQuoted n inner (w.addQuoted c.toString)

/-- Reads the expression of an arithmetic expansion up to the `))` that closes it, counting
the parentheses inside. -/
def arithText : Nat → Nat → Word → Parse Word
  | 0, _, _ => fault "Missing '))'"
  | n + 1, depth, w => do
    skipJoins ((← get).rest.length + 1)
    match ← peek with
    | none => fault "Missing '))'"
    | some '(' => do advance; arithText n (depth + 1) (w.addLit "(")
    | some ')' => do
      advance
      if depth > 0 then arithText n (depth - 1) (w.addLit ")")
      else if (← peekJoined) = some ')' then do advance; pure w
      else arithText n depth (w.addLit ")")
    | some '\\' => do
      advance
      match ← peek with
      | none => arithText n depth (w.addQuoted "\\")
      | some d => do
        advance
        let escapes := d = '\\' ∨ d = '`' ∨ d = '$'
        arithText n depth (w.addQuoted (if escapes then d.toString else "\\" ++ d.toString))
    | some '$' => do
      advance
      let w ← dollar n false true w
      arithText n depth w
    | some '`' => do
      advance
      let w ← backquoted n true w
      arithText n depth w
    | some c => do advance; arithText n depth (w.addLit c.toString)

/-- Reads a backquoted command after its opening backquote and reads its text as a
list of commands. -/
def backquoted : Nat → Bool → Word → Parse Word
  | 0, _, w => pure w
  | n + 1, inQuotes, w => do
    if (← get).delimiterWord then return w.addLit "`"
    let text ← backquoteText inQuotes ((← get).rest.length + 1) ""
    let outer ← get
    set ({ rest := text.toList, line := outer.line, slots := outer.slots } : Reader)
    let body ← list n 2
    let inner ← get
    set { outer with slots := inner.slots, docs := outer.docs ++ inner.docs }
    pure (w ++ [.command body inQuotes])

/-- Reads the next token as the shell does: blanks and comments are skipped, operators are
read longest first, and a word directly followed by `<` or `>` is the descriptor of a
redirection when it is a single unquoted digit. -/
def rawToken : Nat → Parse Token
  | 0 => pure .eof
  | n + 1 => do
    match ← take with
    | none => pure .eof
    | some ' ' | some '\t' => rawToken n
    | some '#' => do
      skipComment ((← get).rest.length + 1)
      rawToken n
    | some '\n' => pure .newline
    | some '&' => do
      let d ← take
      if d = some '&' then pure (.op "&&") else do unread d; pure (.op "&")
    | some '|' => do
      let d ← take
      if d = some '|' then pure (.op "||") else do unread d; pure (.op "|")
    | some ';' => do
      let d ← take
      if d = some ';' then pure (.op ";;") else do unread d; pure (.op ";")
    | some '(' => pure (.op "(")
    | some ')' => pure (.op ")")
    | some '<' => redirection none '<'
    | some '>' => redirection none '>'
    | some c => do
      unread (some c)
      let w ← bareWord n []
      let quoted := w.any fun
        | .quoted _ => true
        | _ => false
      let fd : Option Nat := match w with
        | [.lit s] => if s.length = 1 ∧ (s.toList.headD ' ').isDigit then s.toNat? else none
        | _ => none
      match ← peek with
      | some r =>
        if (r = '<' ∨ r = '>') ∧ fd.isSome then do
          advance
          redirection fd r
        else pure (.word w quoted)
      | none => pure (.word w quoted)

/-- The next token. -/
def token : Nat → Parse Token
  | 0 => pure .eof
  | n + 1 => do
    let r ← get
    if r.pushed then do
      modify fun r => { r with pushed := false }
      return r.last
    let kwd := r.checkKeyword
    let nl := r.skipNewlines
    modify fun r => { r with checkKeyword := false, skipNewlines := false }
    let t ← rawToken n
    let t ← if nl then skipNewlineTokens n t else pure t
    let t := match t with
      | .word w false =>
        match w.plainText? with
        | some s => if kwd ∧ s ∈ reservedWords then Token.keyword s else t
        | none => t
      | _ => t
    modify fun r => { r with last := t, lastWord := match t with
      | .word w _ => w
      | _ => r.lastWord }
    return t

/-- Skips newline tokens, reading the here-documents each one ends. -/
def skipNewlineTokens : Nat → Token → Parse Token
  | 0, t => pure t
  | n + 1, t => do
    match t with
    | .newline => do
      hereDocs n
      let t ← rawToken n
      skipNewlineTokens n t
    | _ => pure t

/-- Reads the bodies of the here-documents waiting for them. -/
def hereDocs : Nat → Parse Unit
  | 0 => pure ()
  | n + 1 => do
    let docs := (← get).pending
    modify fun r => { r with pending := [] }
    readDocs n docs

/-- Reads the bodies of some here-documents in turn. -/
def readDocs : Nat → List PendingDoc → Parse Unit
  | 0, _ => pure ()
  | _ + 1, [] => pure ()
  | n + 1, d :: rest => do
    let body ← hereBody n d true []
    modify fun r => { r with docs := r.docs ++ [(d.slot, body, d.literal)] }
    readDocs n rest

/-- Reads a here-document's body line by line up to its delimiter line; `atStart` at the
start of a line. -/
def hereBody : Nat → PendingDoc → Bool → Word → Parse Word
  | 0, _, _, w => pure w
  | n + 1, d, atStart, w => do
    if atStart then
      if d.stripTabs then skipTabs ((← get).rest.length + 1)
      let r ← get
      let dl := d.delimiter.toList
      if r.rest.take dl.length = dl then
        match r.rest.drop dl.length with
        | [] => do
          set { r with rest := [] }
          return w
        | '\n' :: more => do
          set { r with rest := more, line := r.line + 1 }
          return w
        | _ => pure ()
    if !d.literal then skipJoins ((← get).rest.length + 1)
    match ← peek with
    | none => pure w
    | some '\n' => do advance; hereBody n d true (w.addQuoted "\n")
    | some c =>
      if d.literal then do advance; hereBody n d false (w.addQuoted c.toString)
      else if c = '\\' then do
        advance
        match ← peek with
        | none => hereBody n d false (w.addQuoted "\\")
        | some e => do
          advance
          let escapes := e = '\\' ∨ e = '`' ∨ e = '$'
          hereBody n d false (w.addQuoted (if escapes then e.toString else "\\" ++ e.toString))
      else if c = '$' then do
        advance
        let w ← dollar n true true w
        hereBody n d false w
      else if c = '`' then do
        advance
        let w ← backquoted n true w
        hereBody n d false w
      else do advance; hereBody n d false (w.addQuoted c.toString)

/-- Reads the name after a redirection operator into the redirection. -/
def redirTarget : Nat → Nat → RedirKind → Parse Redir
  | 0, fd, _ => pure (.close fd false)
  | n + 1, fd, kind => do
    match kind with
    | .here strip => do
      modify fun r => { r with delimiterWord := true }
      let t ← token n
      modify fun r => { r with delimiterWord := false }
      match t with
      | .word w quoted => do
        let slot := (← get).slots
        let doc : PendingDoc :=
          { slot := slot, delimiter := delimiterText w, stripTabs := strip, literal := quoted }
        modify fun r => { r with slots := slot + 1, pending := r.pending ++ [doc] }
        pure (.here fd slot [] quoted)
      | _ => unexpected none
    | .copyOut | .copyIn => do
      let input := kind = .copyIn
      match ← token n with
      | .word w _ =>
        match w with
        | [.lit s] =>
          if s.length = 1 ∧ (s.toList.headD ' ').isDigit then pure (.copy fd input (s.toNat?.getD 0))
          else if s = "-" then pure (.close fd input)
          else pure (.copyNamed fd input w)
        | _ => pure (.copyNamed fd input w)
      | _ => unexpected none
    | .toFile mode => do
      match ← token n with
      | .word w _ => pure (.file fd mode w)
      | _ => unexpected none

/-- Reads a list: and-or lists separated by `;`, `&` or newlines. -/
def list : Nat → Nat → Parse Node
  | 0, _ => pure .empty
  | n + 1, nlflag => listFrom n nlflag .empty

/-- Reads the rest of a list after the commands `acc`. -/
def listFrom : Nat → Nat → Node → Parse Node
  | 0, _, acc => pure acc
  | n + 1, nlflag, acc => do
    modify fun r => { r with checkKeyword := true, skipNewlines := nlflag % 2 = 0 }
    let t ← token n
    match t with
    | .newline => do hereDocs n; pure acc
    | .eof => do
      hereDocs n
      modify fun r => { r with pushed := true, last := .eof }
      pure acc
    | _ => do
      modify fun r => { r with pushed := true }
      if nlflag = 2 ∧ t.endsList then return acc
      let nlflag := nlflag ||| 2
      let cmd ← andOr n
      let t ← token n
      let cmd := if t.isOp "&" then Node.background cmd else cmd
      let acc := match acc with
        | .empty => cmd
        | _ => Node.seq acc cmd
      match t with
      | .eof => do
        hereDocs n
        modify fun r => { r with pushed := true, last := .eof }
        pure acc
      | .newline => do
        hereDocs n
        if nlflag % 2 = 1 then pure acc else listFrom n nlflag acc
      | .op ";" | .op "&" => listFrom n nlflag acc
      | _ => do
        if nlflag % 2 = 1 then unexpected none
        modify fun r => { r with pushed := true }
        pure acc

/-- Reads an and-or list: pipelines joined by `&&` and `||`, grouped from the left. -/
def andOr : Nat → Parse Node
  | 0 => pure .empty
  | n + 1 => do
    let first ← pipeline n
    andOrRest n first

/-- Reads the rest of an and-or list after `acc`. -/
def andOrRest : Nat → Node → Parse Node
  | 0, acc => pure acc
  | n + 1, acc => do
    let t ← token n
    if t.isOp "&&" ∨ t.isOp "||" then do
      modify fun r => { r with checkKeyword := true, skipNewlines := true }
      let next ← pipeline n
      andOrRest n (if t.isOp "&&" then .both acc next else .either acc next)
    else do
      modify fun r => { r with pushed := true }
      pure acc

/-- Reads a pipeline: commands joined by `|`, negated by a leading `!`. -/
def pipeline : Nat → Parse Node
  | 0 => pure .empty
  | n + 1 => do
    let t ← token n
    let negated := t.isKeyword "!"
    if negated then modify fun r => { r with checkKeyword := true }
    else modify fun r => { r with pushed := true }
    let first ← command n
    let cmds ← pipeRest n [first]
    let p := match cmds with
      | [c] => c
      | cs => .pipeline cs
    pure (if negated then .negate p else p)

/-- Reads the commands after the first of a pipeline. -/
def pipeRest : Nat → List Node → Parse (List Node)
  | 0, acc => pure acc
  | n + 1, acc => do
    let t ← token n
    if t.isOp "|" then do
      modify fun r => { r with checkKeyword := true, skipNewlines := true }
      let c ← command n
      pipeRest n (acc ++ [c])
    else do
      modify fun r => { r with pushed := true }
      pure acc

/-- Reads the token that closes a compound command, failing when another stands there. -/
def closing : Nat → Token → Parse Unit
  | 0, _ => pure ()
  | n + 1, k => do
    let t ← token n
    let ok := match t, k with
      | .keyword a, .keyword b => a == b
      | .op a, .op b => a == b
      | _, _ => false
    if !ok then unexpected (some k.name)

/-- Reads the redirections after a compound command. -/
def trailingRedirs : Nat → List Redir → Parse (List Redir)
  | 0, acc => pure acc
  | n + 1, acc => do
    modify fun r => { r with checkKeyword := true }
    match ← token n with
    | .redir fd kind => do
      let r ← redirTarget n fd kind
      trailingRedirs n (acc ++ [r])
    | _ => do
      modify fun r => { r with pushed := true }
      pure acc

/-- Reads a command: a compound command with its redirections, or a simple command. -/
def command : Nat → Parse Node
  | 0 => pure .empty
  | n + 1 => do
    let line := (← get).line
    let t ← token n
    let compound : Option Node ← match t with
      | .keyword "if" => do
        let c ← list n 0
        closing n (.keyword "then")
        let b ← list n 0
        let e ← elseParts n
        closing n (.keyword "fi")
        pure (some (.ifThen c b e))
      | .keyword "while" | .keyword "until" => do
        let c ← list n 0
        closing n (.keyword "do")
        let b ← list n 0
        closing n (.keyword "done")
        pure (some (.loop (t.isKeyword "until") c b))
      | .keyword "for" => do
        let v ← token n
        let name ← match v with
          | .word w false =>
            match w.plainText? with
            | some s => if isName s then pure s else fault "Bad for loop variable"
            | none => fault "Bad for loop variable"
          | _ => fault "Bad for loop variable"
        modify fun r => { r with checkKeyword := true, skipNewlines := true }
        let words ← if (← token n).isKeyword "in" then do
            let ws ← forWords n []
            let last := (← get).last
            match last with
            | .newline | .op ";" => pure (some ws)
            | _ => unexpected none
          else do
            if !(← get).last.isOp ";" then modify fun r => { r with pushed := true }
            pure none
        modify fun r => { r with checkKeyword := true, skipNewlines := true }
        closing n (.keyword "do")
        let b ← list n 0
        closing n (.keyword "done")
        pure (some (.forIn name words b line))
      | .keyword "case" => do
        let subject ← match ← token n with
          | .word w _ => pure w
          | _ => unexpected (some "word")
        modify fun r => { r with checkKeyword := true, skipNewlines := true }
        closing n (.keyword "in")
        let arms ← caseArms n []
        pure (some (.caseOf subject arms line))
      | .op "(" => do
        let b ← list n 0
        closing n (.op ")")
        pure (some (.subshell b [] line))
      | .keyword "\x7b" => do
        let b ← list n 0
        closing n (.keyword "\x7d")
        pure (some b)
      | .word _ _ | .redir _ _ => do
        modify fun r => { r with pushed := true }
        pure none
      | _ => unexpected none
    match compound with
    | none => simple n
    | some c => do
      let rs ← trailingRedirs n []
      if rs.isEmpty then pure c
      else match c with
        | .subshell b _ l => pure (.subshell b rs l)
        | _ => pure (.redirected c rs line)

/-- Reads the `elif` and `else` parts of an `if`, up to the `fi` left for the caller. -/
def elseParts : Nat → Parse Node
  | 0 => pure .empty
  | n + 1 => do
    let t ← token n
    if t.isKeyword "elif" then do
      let c ← list n 0
      closing n (.keyword "then")
      let b ← list n 0
      let e ← elseParts n
      pure (.ifThen c b e)
    else if t.isKeyword "else" then list n 0
    else do
      modify fun r => { r with pushed := true }
      pure .empty

/-- Reads the words after `for name in`, up to the token after them. -/
def forWords : Nat → List Word → Parse (List Word)
  | 0, acc => pure acc
  | n + 1, acc => do
    match ← token n with
    | .word w _ => forWords n (acc ++ [w])
    | _ => pure acc

/-- Reads the arms of a `case` up to `esac`. -/
def caseArms : Nat → List (List Word × Node) → Parse (List (List Word × Node))
  | 0, acc => pure acc
  | n + 1, acc => do
    modify fun r => { r with checkKeyword := true, skipNewlines := true }
    let t ← token n
    if t.isKeyword "esac" then return acc
    if t.isOp "(" then discard (token n)
    let pats ← patterns n [(← get).lastWord]
    if !(← get).last.isOp ")" then unexpected (some "\")\"")
    let body ← list n 2
    let acc := acc ++ [(pats, body)]
    modify fun r => { r with checkKeyword := true, skipNewlines := true }
    let t ← token n
    if t.isKeyword "esac" then pure acc
    else if t.isOp ";;" then caseArms n acc
    else unexpected (some "\";;\"")

/-- Reads the patterns of a `case` arm after the first, each after a `|`. -/
def patterns : Nat → List Word → Parse (List Word)
  | 0, acc => pure acc
  | n + 1, acc => do
    if (← token n).isOp "|" then do
      discard (token n)
      patterns n (acc ++ [(← get).lastWord])
    else pure acc

/-- Reads a simple command: assignments, words and redirections, or a function
definition. -/
def simple : Nat → Parse Node
  | 0 => pure .empty
  | n + 1 => do
    let line := (← get).line
    simpleFrom n line true [] [] []

/-- Reads the rest of a simple command; `assigning` while assignments may still come. -/
def simpleFrom : Nat → Nat → Bool → List Word → List Word → List Redir → Parse Node
  | 0, line, _, assigns, words, redirs => pure (.simple assigns words redirs line)
  | n + 1, line, assigning, assigns, words, redirs => do
    match ← token n with
    | .word w _ =>
      if assigning ∧ (assignment? w).isSome then simpleFrom n line true (assigns ++ [w]) words redirs
      else simpleFrom n line false assigns (words ++ [w]) redirs
    | .redir fd kind => do
      let r ← redirTarget n fd kind
      simpleFrom n line assigning assigns words (redirs ++ [r])
    | .op "(" =>
      match words, assigns, redirs with
      | [w], [], [] => do
        if !(← token n).isOp ")" then unexpected (some "\")\"")
        let name ← match w.plainText? with
          | some s => if isName s ∧ s ∉ specialBuiltins then pure s else fault "Bad function name"
          | none => fault "Bad function name"
        modify fun r => { r with checkKeyword := true, skipNewlines := true }
        let fline := (← get).line
        let body ← command n
        pure (.function name body fline)
      | _, _, _ => do
        modify fun r => { r with pushed := true }
        pure (.simple assigns words redirs line)
    | _ => do
      modify fun r => { r with pushed := true }
      pure (.simple assigns words redirs line)

end

end Parse

namespace Node

mutual

/-- The command with each here-document's body taken from `docs` by its slot. -/
def withDocs (docs : List (Nat × Word × Bool)) : Nat → Node → Node
  | 0, n => n
  | k + 1, n =>
    match n with
    | .empty => .empty
    | .simple a w r l =>
      .simple (a.map (wordWithDocs docs k)) (w.map (wordWithDocs docs k)) (r.map (redirWithDocs docs k)) l
    | .pipeline cs => .pipeline (cs.map (withDocs docs k))
    | .negate c => .negate (withDocs docs k c)
    | .both a b => .both (withDocs docs k a) (withDocs docs k b)
    | .either a b => .either (withDocs docs k a) (withDocs docs k b)
    | .seq a b => .seq (withDocs docs k a) (withDocs docs k b)
    | .background c => .background (withDocs docs k c)
    | .subshell b r l => .subshell (withDocs docs k b) (r.map (redirWithDocs docs k)) l
    | .redirected b r l => .redirected (withDocs docs k b) (r.map (redirWithDocs docs k)) l
    | .ifThen c b e => .ifThen (withDocs docs k c) (withDocs docs k b) (withDocs docs k e)
    | .loop u c b => .loop u (withDocs docs k c) (withDocs docs k b)
    | .forIn v ws b l => .forIn v (ws.map (·.map (wordWithDocs docs k))) (withDocs docs k b) l
    | .caseOf w arms l =>
      .caseOf (wordWithDocs docs k w) (arms.map fun (ps, b) => (ps.map (wordWithDocs docs k), withDocs docs k b)) l
    | .function nm b l => .function nm (withDocs docs k b) l

/-- The word with the here-documents of its command substitutions filled in. -/
def wordWithDocs (docs : List (Nat × Word × Bool)) : Nat → Word → Word
  | 0, w => w
  | k + 1, w => w.map (partWithDocs docs k)

/-- The part with the here-documents of its command substitutions filled in. -/
def partWithDocs (docs : List (Nat × Word × Bool)) : Nat → Part → Part
  | 0, p => p
  | k + 1, p =>
    match p with
    | .command b q => .command (withDocs docs k b) q
    | .arith e q => .arith (wordWithDocs docs k e) q
    | .param nm op q =>
      let op := match op with
        | .fallback f c w => ParamOp.fallback f c (wordWithDocs docs k w)
        | .trimSuffix l w => .trimSuffix l (wordWithDocs docs k w)
        | .trimPrefix l w => .trimPrefix l (wordWithDocs docs k w)
        | other => other
      .param nm op q
    | other => other

/-- The redirection with its here-document's body filled in. -/
def redirWithDocs (docs : List (Nat × Word × Bool)) : Nat → Redir → Redir
  | 0, r => r
  | k + 1, r =>
    match r with
    | .here fd slot _ lit =>
      match docs.lookup slot with
      | some (body, _) => .here fd slot (wordWithDocs docs k body) lit
      | none => r
    | .file fd m w => .file fd m (wordWithDocs docs k w)
    | .copyNamed fd i w => .copyNamed fd i (wordWithDocs docs k w)
    | other => other

end

end Node

namespace Reader

/-- A reader at the start of a script's text. -/
def ofText (text : String) : Reader := { rest := text.toList }

/-- Reads the next complete command of a script, with its here-documents: `none` at the end
of the text, the empty command for a blank line; or the syntax fault that stops the
script. -/
def next (r : Reader) : Except SyntaxFault (Option Node × Reader) :=
  let fuel := 16 * (r.rest.length + 8)
  let start : Reader := { r with pushed := false, pending := [], checkKeyword := false, skipNewlines := false }
  match (Parse.list fuel 1).run start with
  | .error f => .error f
  | .ok (node, r') =>
    let ended := match node, r'.last with
      | .empty, .eof => true
      | _, _ => false
    if ended then .ok (none, r')
    else .ok (some (node.withDocs r'.docs fuel), r')

end Reader


end JobFlow.Shell
