import JobFlow.Doc

/-!
# Scanning YAML text

The scanner turns YAML text into tokens the way libyaml does, so that its faults come out at
the same places with the same words.
-/

namespace JobFlow

namespace Yaml

/-- How a scalar was written. -/
inductive ScalarStyle where
  | plain
  | single
  | double
  | literal
  | folded
  deriving DecidableEq, Inhabited, Repr

/-- What a token is. -/
inductive TokenKind where
  | streamStart
  | streamEnd
  | versionDirective (major minor : Nat)
  | tagDirective (handle pfx : String)
  | documentStart
  | documentEnd
  | blockSequenceStart
  | blockMappingStart
  | blockEnd
  | flowSequenceStart
  | flowSequenceEnd
  | flowMappingStart
  | flowMappingEnd
  | blockEntry
  | flowEntry
  | key
  | value
  | alias (name : String)
  | anchor (name : String)
  | tag (handle suffix : String)
  | scalar (text : String) (style : ScalarStyle)
  deriving DecidableEq, Inhabited, Repr

/-- A token and where it starts and ends. -/
structure Token where
  kind : TokenKind
  start : Mark
  stop : Mark
  deriving Inhabited, Repr

/-- A fault of YAML text: what is wrong and where, and what was being read and from where. -/
structure YamlError where
  problem : String
  problemMark : Mark
  context : Option (String × Mark) := none
  deriving Inhabited, Repr

namespace YamlError

/-- A position as the fault shows it, one-based. -/
def markText (m : Mark) : String := s!"line {m.line + 1} column {m.column + 1}"

/-- Whether a position is the very start, which the fault leaves out. -/
def atStart (m : Mark) : Bool := m.line = 0 ∧ m.column = 0

/-- The text of a fault: the problem with its position, then the context with its position
when that differs. -/
def text (e : YamlError) : String :=
  let base := e.problem ++ (if atStart e.problemMark then "" else " at " ++ markText e.problemMark)
  match e.context with
  | none => base
  | some (c, m) =>
    let differs := m.line ≠ e.problemMark.line ∨ m.column ≠ e.problemMark.column
    base ++ ", " ++ c ++ (if !atStart m ∧ differs then " at " ++ markText m else "")

end YamlError

/-- A key that may still be found before a `:`. -/
structure SimpleKey where
  possible : Bool := false
  required : Bool := false
  tokenNumber : Nat := 0
  mark : Mark := { line := 0, column := 0 }
  deriving Inhabited, Repr

/-- The state of the scanner. -/
structure Scanner where
  input : Array Char
  mark : Mark := { line := 0, column := 0 }
  tokens : List Token := []
  tokensParsed : Nat := 0
  tokenAvailable : Bool := false
  streamStartProduced : Bool := false
  streamEndProduced : Bool := false
  indent : Int := -1
  indents : List Int := []
  simpleKeyAllowed : Bool := false
  simpleKeys : List SimpleKey := []
  flowLevel : Nat := 0
  deriving Inhabited

/-- The outcome of a step of the scanner. -/
abbrev Scanned (α : Type) := Except YamlError α

/-- A line break character. -/
def isBreak (c : Char) : Bool :=
  c = '\r' ∨ c = '\n' ∨ c.toNat = 0x85 ∨ c.toNat = 0x2028 ∨ c.toNat = 0x2029

/-- A blank: space or tab. -/
def isBlank (c : Char) : Bool := c = ' ' ∨ c = '\t'

/-- The end of the input, which reads as the character 0. -/
def isZ (c : Char) : Bool := c.toNat = 0

/-- A line break or the end. -/
def isBreakZ (c : Char) : Bool := isBreak c ∨ isZ c

/-- A blank, a line break or the end. -/
def isBlankZ (c : Char) : Bool := isBlank c ∨ isBreakZ c

/-- A character of anchors and tag handles. -/
def isAlpha (c : Char) : Bool := c.isAlphanum ∨ c = '_' ∨ c = '-'

/-- A hexadecimal digit's value. -/
def hexValue (c : Char) : Option Nat :=
  if '0' ≤ c ∧ c ≤ '9' then some (c.toNat - 48)
  else if 'a' ≤ c ∧ c ≤ 'f' then some (c.toNat - 87)
  else if 'A' ≤ c ∧ c ≤ 'F' then some (c.toNat - 55)
  else none

namespace Scanner

/-- The character `k` places ahead, 0 past the end. -/
def ch (s : Scanner) (k : Nat) : Char := s.input.getD (s.mark.index + k) (Char.ofNat 0)

/-- A fault at the current position. -/
def fault (s : Scanner) (context : Option (String × Mark)) (problem : String) : YamlError :=
  { problem := problem, problemMark := s.mark, context := context }

/-- Moves past one character of a line. -/
def skip (s : Scanner) : Scanner :=
  { s with mark := { s.mark with index := s.mark.index + 1, column := s.mark.column + 1 } }

/-- Moves past a line break (`\r\n` counts as one). -/
def skipLine (s : Scanner) : Scanner :=
  if s.ch 0 = '\r' ∧ s.ch 1 = '\n' then
    { s with mark := { index := s.mark.index + 2, column := 0, line := s.mark.line + 1 } }
  else if isBreak (s.ch 0) then
    { s with mark := { index := s.mark.index + 1, column := 0, line := s.mark.line + 1 } }
  else s

/-- Reads a line break into a text: `\r\n`, `\r`, `\n` and NEL become `\n`, the line and
paragraph separators stay. -/
def readLine (s : Scanner) (acc : String) : Scanner × String :=
  let c := s.ch 0
  if c = '\r' ∨ c = '\n' ∨ c.toNat = 0x85 then (s.skipLine, acc.push '\n')
  else if isBreak c then (s.skipLine, acc.push c)
  else (s, acc)

/-- Reads one character into a text. -/
def readChar (s : Scanner) (acc : String) : Scanner × String := (s.skip, acc.push (s.ch 0))

/-- The number the next token queued will have. -/
def nextNumber (s : Scanner) : Nat := s.tokensParsed + s.tokens.length

/-- Queues a token. -/
def enqueue (s : Scanner) (k : TokenKind) (start stop : Mark) : Scanner :=
  { s with tokens := s.tokens ++ [⟨k, start, stop⟩] }

/-- Puts a token into the queue at a position. -/
def insertToken (s : Scanner) (i : Nat) (t : Token) : Scanner :=
  { s with tokens := s.tokens.take i ++ [t] ++ s.tokens.drop i }

/-- The top possible simple key. -/
def topKey (s : Scanner) : SimpleKey := s.simpleKeys.headD {}

/-- The scanner with its top possible simple key replaced. -/
def setTopKey (s : Scanner) (k : SimpleKey) : Scanner :=
  { s with simpleKeys := k :: s.simpleKeys.tail }

/-- Drops the keys that can no longer be keys: those on an earlier line or more than 1024
characters back. -/
def staleSimpleKeys (s : Scanner) : Scanned Scanner := do
  let keys ← s.simpleKeys.reverse.mapM (fun (k : SimpleKey) =>
    if k.possible ∧ (k.mark.line < s.mark.line ∨ k.mark.index + 1024 < s.mark.index) then
      if k.required then
        throw (s.fault (some ("while scanning a simple key", k.mark)) "could not find expected ':'")
      else pure { k with possible := false }
    else pure k)
  pure { s with simpleKeys := keys.reverse }

/-- Drops the top possible simple key; a required one is a fault. -/
def removeSimpleKey (s : Scanner) : Scanned Scanner := do
  let k := s.topKey
  if k.possible ∧ k.required then
    throw (s.fault (some ("while scanning a simple key", k.mark)) "could not find expected ':'")
  pure (s.setTopKey { k with possible := false })

/-- Notes that the next token may be a simple key. -/
def saveSimpleKey (s : Scanner) : Scanned Scanner := do
  let required := s.flowLevel = 0 ∧ s.indent = (s.mark.column : Int)
  if s.simpleKeyAllowed then
    let k : SimpleKey := { possible := true, required := required, tokenNumber := s.nextNumber, mark := s.mark }
    let s ← s.removeSimpleKey
    pure (s.setTopKey k)
  else pure s

/-- Enters a flow collection. -/
def increaseFlowLevel (s : Scanner) : Scanner :=
  { s with simpleKeys := {} :: s.simpleKeys, flowLevel := s.flowLevel + 1 }

/-- Leaves a flow collection. -/
def decreaseFlowLevel (s : Scanner) : Scanner :=
  if s.flowLevel > 0 then { s with simpleKeys := s.simpleKeys.tail, flowLevel := s.flowLevel - 1 } else s

/-- Opens a block collection when `column` is deeper than the current indentation; the start
token goes to the end of the queue, or before token `number`. -/
def rollIndent (s : Scanner) (column : Int) (number : Option Nat) (k : TokenKind) (m : Mark) : Scanner :=
  if s.flowLevel > 0 then s
  else if s.indent < column then
    let s := { s with indents := s.indent :: s.indents, indent := column }
    match number with
    | none => s.enqueue k m m
    | some n => s.insertToken (n - s.tokensParsed) ⟨k, m, m⟩
  else s

/-- Closes the block collections deeper than `column`. -/
def unrollIndent (s : Scanner) (column : Int) : Scanner :=
  if s.flowLevel > 0 then s
  else
    let rec go (s : Scanner) : Nat → Scanner
      | 0 => s
      | fuel + 1 =>
        if s.indent > column then
          let s := s.enqueue .blockEnd s.mark s.mark
          go { s with indent := s.indents.headD (-1), indents := s.indents.tail } fuel
        else s
    go s (s.indents.length + 1)

/-- Skips blanks, comments and line breaks up to the next token. -/
def scanToNextToken (s : Scanner) : Scanner :=
  let rec go (s : Scanner) : Nat → Scanner
    | 0 => s
    | fuel + 1 =>
      let s := if s.mark.column = 0 ∧ (s.ch 0).toNat = 0xFEFF then s.skip else s
      let rec blanks (s : Scanner) : Nat → Scanner
        | 0 => s
        | f + 1 =>
          if s.ch 0 = ' ' ∨ ((s.flowLevel > 0 ∨ !s.simpleKeyAllowed) ∧ s.ch 0 = '\t') then blanks s.skip f
          else s
      let s := blanks s (s.input.size + 1)
      let rec comment (s : Scanner) : Nat → Scanner
        | 0 => s
        | f + 1 => if isBreakZ (s.ch 0) then s else comment s.skip f
      let s := if s.ch 0 = '#' then comment s (s.input.size + 1) else s
      if isBreak (s.ch 0) then
        let s := s.skipLine
        go (if s.flowLevel = 0 then { s with simpleKeyAllowed := true } else s) fuel
      else s
  go s (s.input.size + 1)

/-- The stream start token. -/
def fetchStreamStart (s : Scanner) : Scanner :=
  let s := { s with indent := -1, simpleKeyAllowed := true, streamStartProduced := true,
                    simpleKeys := {} :: s.simpleKeys }
  s.enqueue .streamStart s.mark s.mark

/-- The stream end token, after closing every open block collection. -/
def fetchStreamEnd (s : Scanner) : Scanned Scanner := do
  let s := if s.mark.column ≠ 0 then { s with mark := { s.mark with column := 0, line := s.mark.line + 1 } } else s
  let s := s.unrollIndent (-1)
  let s ← s.removeSimpleKey
  let s := { s with simpleKeyAllowed := false }
  pure (s.enqueue .streamEnd s.mark s.mark)

/-- The characters from the current position on that `ok` allows, appended to `acc`. -/
def span (s : Scanner) (ok : Char → Bool) (acc : String) : Nat → Scanner × String
  | 0 => (s, acc)
  | f + 1 => if ok (s.ch 0) then span s.skip ok (acc.push (s.ch 0)) f else (s, acc)

/-- Skips blanks. -/
def skipBlanks (s : Scanner) : Nat → Scanner
  | 0 => s
  | f + 1 => if isBlank (s.ch 0) then skipBlanks s.skip f else s

/-- Skips up to the line break or the end. -/
def skipToBreak (s : Scanner) : Nat → Scanner
  | 0 => s
  | f + 1 => if isBreakZ (s.ch 0) then s else skipToBreak s.skip f

/-- The octet `%xx` at the current position, if it is one. -/
def escapedOctet (s : Scanner) : Option Nat :=
  if s.ch 0 = '%' then
    match hexValue (s.ch 1), hexValue (s.ch 2) with
    | some a, some b => some (16 * a + b)
    | _, _ => none
  else none

/-- One character of a tag written as the `%xx` escapes of its UTF-8 octets: the leading
octet gives their number, and each must be escaped. -/
def uriEscape (s : Scanner) (context : String × Mark) : Scanned (Scanner × String) := do
  let lead ← match s.escapedOctet with
    | some o => pure o
    | none => throw (s.fault (some context) "did not find URI escaped octet")
  let width := if lead < 0x80 then 1 else if lead / 32 = 6 then 2 else if lead / 16 = 14 then 3
    else if lead / 8 = 30 then 4 else 0
  if width = 0 then throw (s.fault (some context) "found an incorrect leading UTF-8 octet")
  let rec trailing (s : Scanner) (acc : List UInt8) : Nat → Scanned (Scanner × List UInt8)
    | 0 => pure (s, acc)
    | k + 1 =>
      match s.escapedOctet with
      | none => throw (s.fault (some context) "did not find URI escaped octet")
      | some o =>
        if o / 64 ≠ 2 then throw (s.fault (some context) "found an incorrect trailing UTF-8 octet")
        else trailing s.skip.skip.skip (acc ++ [o.toUInt8]) k
  let (s, octets) ← trailing s.skip.skip.skip [lead.toUInt8] (width - 1)
  pure (s, (String.fromUTF8? (ByteArray.mk octets.toArray)).getD "")

/-- The characters of a tag URI appended to `acc`, escapes decoded, and how many were read
(an escaped character counts once). -/
def tagUri (flowChars : Bool) (context : String × Mark) : Scanner → String → Nat → Nat →
    Scanned (Scanner × String × Nat)
  | s, acc, n, 0 => pure (s, acc, n)
  | s, acc, n, fuel + 1 => do
    let c := s.ch 0
    if c = '%' then
      let (s, t) ← s.uriEscape context
      tagUri flowChars context s (acc ++ t) (n + 1) fuel
    else if isAlpha c ∨ ";/?:@&=+$.!~*'()".contains c ∨ (flowChars ∧ (c = ',' ∨ c = '[' ∨ c = ']')) then
      tagUri flowChars context s.skip (acc.push c) (n + 1) fuel
    else pure (s, acc, n)

/-- A number of a `%YAML` directive: at most nine digits. -/
def versionNumber (s : Scanner) (context : String × Mark) : Scanned (Scanner × Nat) :=
  let rec go (s : Scanner) (value length : Nat) : Nat → Scanned (Scanner × Nat)
    | 0 => pure (s, value)
    | f + 1 =>
      if (s.ch 0).isDigit then
        if length ≥ 9 then throw (s.fault (some context) "found extremely long version number")
        else go s.skip (10 * value + ((s.ch 0).toNat - 48)) (length + 1) f
      else if length = 0 then throw (s.fault (some context) "did not find expected version number")
      else pure (s, value)
  go s 0 0 (s.input.size + 1)

/-- The handle of a `%TAG` directive: `!`, `!!` or `!name!`. -/
def directiveHandle (s : Scanner) (start : Mark) : Scanned (Scanner × String) := do
  if s.ch 0 ≠ '!' then
    throw (s.fault (some ("while scanning a tag directive", start)) "did not find expected '!'")
  let (s, h) := s.skip.span isAlpha "!" (s.input.size + 1)
  if s.ch 0 = '!' then pure (s.skip, h.push '!')
  else if h = "!" then pure (s, h)
  else throw (s.fault (some ("while parsing a tag directive", start)) "did not find expected '!'")

/-- A directive line: `%YAML major.minor` or `%TAG handle prefix`, then only blanks and a
comment up to the line break. -/
def fetchDirective (s : Scanner) : Scanned Scanner := do
  let s := s.unrollIndent (-1)
  let s ← s.removeSimpleKey
  let s := { s with simpleKeyAllowed := false }
  let start := s.mark
  let fuel := s.input.size + 1
  let directive := ("while scanning a directive", start)
  let (s, name) := s.skip.span isAlpha "" fuel
  if name.isEmpty then throw (s.fault (some directive) "could not find expected directive name")
  if !isBlankZ (s.ch 0) then throw (s.fault (some directive) "found unexpected non-alphabetical character")
  let (s, kind) ← if name = "YAML" then do
      let context := ("while scanning a %YAML directive", start)
      let (s, major) ← (s.skipBlanks fuel).versionNumber context
      if s.ch 0 ≠ '.' then throw (s.fault (some context) "did not find expected digit or '.' character")
      let (s, minor) ← s.skip.versionNumber context
      pure (s, TokenKind.versionDirective major minor)
    else if name = "TAG" then do
      let context := ("while scanning a %TAG directive", start)
      let (s, handle) ← (s.skipBlanks fuel).directiveHandle start
      if !isBlank (s.ch 0) then throw (s.fault (some context) "did not find expected whitespace")
      let (s, pfx, n) ← tagUri true ("while parsing a %TAG directive", start) (s.skipBlanks fuel) "" 0 fuel
      if n = 0 then throw (s.fault (some ("while parsing a %TAG directive", start)) "did not find expected tag URI")
      if !isBlankZ (s.ch 0) then throw (s.fault (some context) "did not find expected whitespace or line break")
      pure (s, TokenKind.tagDirective handle pfx)
    else throw (s.fault (some directive) "found unknown directive name")
  let stop := s.mark
  let s := s.skipBlanks fuel
  let s := if s.ch 0 = '#' then s.skipToBreak fuel else s
  if !isBreakZ (s.ch 0) then throw (s.fault (some directive) "did not find expected comment or line break")
  pure (s.skipLine.enqueue kind start stop)

/-- A `---` or `...` line start. -/
def fetchDocumentIndicator (s : Scanner) (k : TokenKind) : Scanned Scanner := do
  let s := s.unrollIndent (-1)
  let s ← s.removeSimpleKey
  let s := { s with simpleKeyAllowed := false }
  let start := s.mark
  let s := s.skip.skip.skip
  pure (s.enqueue k start s.mark)

/-- `[` or `{`. -/
def fetchFlowCollectionStart (s : Scanner) (k : TokenKind) : Scanned Scanner := do
  let s ← s.saveSimpleKey
  let s := { s.increaseFlowLevel with simpleKeyAllowed := true }
  let start := s.mark
  let s := s.skip
  pure (s.enqueue k start s.mark)

/-- `]` or `}`. -/
def fetchFlowCollectionEnd (s : Scanner) (k : TokenKind) : Scanned Scanner := do
  let s ← s.removeSimpleKey
  let s := { s.decreaseFlowLevel with simpleKeyAllowed := false }
  let start := s.mark
  let s := s.skip
  pure (s.enqueue k start s.mark)

/-- `,` in a flow collection. -/
def fetchFlowEntry (s : Scanner) : Scanned Scanner := do
  let s ← s.removeSimpleKey
  let s := { s with simpleKeyAllowed := true }
  let start := s.mark
  let s := s.skip
  pure (s.enqueue .flowEntry start s.mark)

/-- `-` starting a block sequence entry. -/
def fetchBlockEntry (s : Scanner) : Scanned Scanner := do
  let s ← if s.flowLevel = 0 then do
      if !s.simpleKeyAllowed then
        throw (s.fault none "block sequence entries are not allowed in this context")
      pure (s.rollIndent s.mark.column none .blockSequenceStart s.mark)
    else pure s
  let s ← s.removeSimpleKey
  let s := { s with simpleKeyAllowed := true }
  let start := s.mark
  let s := s.skip
  pure (s.enqueue .blockEntry start s.mark)

/-- `?` starting a complex key. -/
def fetchKey (s : Scanner) : Scanned Scanner := do
  let s ← if s.flowLevel = 0 then do
      if !s.simpleKeyAllowed then
        throw (s.fault none "mapping keys are not allowed in this context")
      pure (s.rollIndent s.mark.column none .blockMappingStart s.mark)
    else pure s
  let s ← s.removeSimpleKey
  let s := { s with simpleKeyAllowed := s.flowLevel = 0 }
  let start := s.mark
  let s := s.skip
  pure (s.enqueue .key start s.mark)

/-- `:` after a key: a pending simple key becomes a key here. -/
def fetchValue (s : Scanner) : Scanned Scanner := do
  let k := s.topKey
  let s ← if k.possible then do
      let s := s.insertToken (k.tokenNumber - s.tokensParsed) ⟨.key, k.mark, k.mark⟩
      let s := s.rollIndent k.mark.column (some k.tokenNumber) .blockMappingStart k.mark
      let s := s.setTopKey { k with possible := false }
      pure { s with simpleKeyAllowed := false }
    else do
      let s ← if s.flowLevel = 0 then do
          if !s.simpleKeyAllowed then
            throw (s.fault none "mapping values are not allowed in this context")
          pure (s.rollIndent s.mark.column none .blockMappingStart s.mark)
        else pure s
      pure { s with simpleKeyAllowed := s.flowLevel = 0 }
  let start := s.mark
  let s := s.skip
  pure (s.enqueue .value start s.mark)

/-- `*name` or `&name`. -/
def fetchAnchor (s : Scanner) (isAlias : Bool) : Scanned Scanner := do
  let s ← s.saveSimpleKey
  let s := { s with simpleKeyAllowed := false }
  let start := s.mark
  let rec name (s : Scanner) (acc : String) : Nat → Scanner × String
    | 0 => (s, acc)
    | f + 1 => if isAlpha (s.ch 0) then name s.skip (acc.push (s.ch 0)) f else (s, acc)
  let (s, n) := name s.skip "" (s.input.size + 1)
  let c := s.ch 0
  let ends := isBlankZ c ∨ c = '?' ∨ c = ':' ∨ c = ',' ∨ c = ']' ∨ c = '}' ∨ c = '%' ∨ c = '@' ∨ c = '`'
  if n.isEmpty ∨ !ends then
    throw (s.fault (some (if isAlias then "while scanning an alias" else "while scanning an anchor", start))
      "did not find expected alphabetic or numeric character")
  pure (s.enqueue (if isAlias then .alias n else .anchor n) start s.mark)

/-- `!`, `!suffix`, `!handle!suffix` or `!<verbatim>`. -/
def fetchTag (s : Scanner) : Scanned Scanner := do
  let s ← s.saveSimpleKey
  let s := { s with simpleKeyAllowed := false }
  let start := s.mark
  let context := ("while parsing a tag", start)
  let fuel := s.input.size + 1
  let (s, handle, suffix) ← if s.ch 1 = '<' then do
      let (s, uri, n) ← tagUri true context s.skip.skip "" 0 fuel
      if n = 0 then throw (s.fault (some context) "did not find expected tag URI")
      if s.ch 0 ≠ '>' then
        throw (s.fault (some ("while scanning a tag", start)) "did not find the expected '>'")
      pure (s.skip, "", uri)
    else do
      let (s, h) := s.skip.span isAlpha "!" fuel
      if s.ch 0 = '!' then
        let (s, suf, n) ← tagUri false context s.skip "" 0 fuel
        if n = 0 then throw (s.fault (some context) "did not find expected tag URI")
        pure (s, h.push '!', suf)
      else
        let (s, suf, _) ← tagUri false context s (String.ofList (h.toList.drop 1)) h.length fuel
        if suf.isEmpty then pure (s, "", "!") else pure (s, "!", suf)
  if !isBlankZ (s.ch 0) ∧ !(s.flowLevel > 0 ∧ s.ch 0 = ',') then
    throw (s.fault (some ("while scanning a tag", start)) "did not find expected whitespace or line break")
  pure (s.enqueue (.tag handle suffix) start s.mark)

/-- Whether the text at the current position is `---` or `...` at the start of a line,
followed by a blank or the end. -/
def atDocumentIndicator (s : Scanner) : Bool :=
  s.mark.column = 0 ∧
    ((s.ch 0 = '-' ∧ s.ch 1 = '-' ∧ s.ch 2 = '-') ∨ (s.ch 0 = '.' ∧ s.ch 1 = '.' ∧ s.ch 2 = '.')) ∧
    isBlankZ (s.ch 3)

/-- Folds the line breaks between two parts of a flow or plain scalar: a single `\n` becomes a
space, more breaks stay as they are. -/
def fold (acc leading trailing : String) : String :=
  if leading.startsWith "\n" then
    if trailing.isEmpty then acc.push ' ' else acc ++ trailing
  else acc ++ leading ++ trailing

/-- The state of a scalar being read: its text so far, the blanks and breaks not yet placed,
and whether it is inside leading blanks of a line. -/
structure Pending where
  text : String := ""
  whitespaces : String := ""
  leadingBreak : String := ""
  trailingBreaks : String := ""
  leadingBlanks : Bool := false
  deriving Inhabited

/-- Places the pending blanks and breaks of a scalar before more of its text. -/
def Pending.flush (p : Pending) : Pending :=
  if p.leadingBlanks then
    { p with text := fold p.text p.leadingBreak p.trailingBreaks, leadingBreak := "", trailingBreaks := "",
             leadingBlanks := false }
  else if p.whitespaces.isEmpty then p
  else { p with text := p.text ++ p.whitespaces, whitespaces := "" }

/-- Reads blanks and line breaks inside a scalar; `tabCheck` refuses a tab in the indentation
of a continuation line. -/
def scalarBlanks (s : Scanner) (p : Pending) (tabCheck : Scanner → Pending → Scanned Unit) :
    Nat → Scanned (Scanner × Pending)
  | 0 => pure (s, p)
  | fuel + 1 => do
    let c := s.ch 0
    if isBlank c then
      tabCheck s p
      if p.leadingBlanks then scalarBlanks s.skip p tabCheck fuel
      else
        let (s, w) := s.readChar p.whitespaces
        scalarBlanks s { p with whitespaces := w } tabCheck fuel
    else if isBreak c then
      if p.leadingBlanks then
        let (s, t) := s.readLine p.trailingBreaks
        scalarBlanks s { p with trailingBreaks := t } tabCheck fuel
      else
        let (s, l) := s.readLine ""
        scalarBlanks s { p with whitespaces := "", leadingBreak := l, leadingBlanks := true } tabCheck fuel
    else pure (s, p)

/-- Reads a plain scalar. -/
def scanPlain (s : Scanner) : Scanned (Scanner × Token) := do
  let indent : Int := s.indent + 1
  let start := s.mark
  let fuel := s.input.size + 1
  let rec nonBlank (s : Scanner) (p : Pending) (stop : Mark) : Nat → Scanner × Pending × Mark
    | 0 => (s, p, stop)
    | f + 1 =>
      let c := s.ch 0
      if isBlankZ c then (s, p, stop)
      else if s.flowLevel > 0 ∧ c = ':' ∧ ",?[]\x7b\x7d".contains (s.ch 1) then (s, p, stop)
      else if (c = ':' ∧ isBlankZ (s.ch 1)) ∨ (s.flowLevel > 0 ∧ ",[]\x7b\x7d".contains c) then (s, p, stop)
      else
        let p := p.flush
        let (s, t) := s.readChar p.text
        nonBlank s { p with text := t } s.mark f
  let tabCheck (s : Scanner) (p : Pending) : Scanned Unit :=
    if p.leadingBlanks ∧ (s.mark.column : Int) < indent ∧ s.ch 0 = '\t' then
      throw (s.fault (some ("while scanning a plain scalar", start)) "found a tab character that violates indentation")
    else pure ()
  let rec outer (s : Scanner) (p : Pending) (stop : Mark) : Nat → Scanned (Scanner × Pending × Mark)
    | 0 => pure (s, p, stop)
    | f + 1 => do
      if s.atDocumentIndicator ∨ s.ch 0 = '#' then return (s, p, stop)
      let (s, p, stop) := nonBlank s p stop fuel
      if !(isBlank (s.ch 0) ∨ isBreak (s.ch 0)) then return (s, p, stop)
      let (s, p) ← scalarBlanks s p tabCheck fuel
      if s.flowLevel = 0 ∧ (s.mark.column : Int) < indent then return (s, p, stop)
      outer s p stop f
  let (s, p, stop) ← outer s {} start fuel
  let s := if p.leadingBlanks then { s with simpleKeyAllowed := true } else s
  pure (s, ⟨.scalar p.text .plain, start, stop⟩)

/-- The character an escape stands for, or the number of hexadecimal digits that follow. -/
def escape (c : Char) : Option (Sum Char Nat) :=
  match c with
  | '0' => some (.inl (Char.ofNat 0))
  | 'a' => some (.inl (Char.ofNat 7))
  | 'b' => some (.inl (Char.ofNat 8))
  | 't' | '\t' => some (.inl '\t')
  | 'n' => some (.inl '\n')
  | 'v' => some (.inl (Char.ofNat 11))
  | 'f' => some (.inl (Char.ofNat 12))
  | 'r' => some (.inl '\r')
  | 'e' => some (.inl (Char.ofNat 27))
  | ' ' => some (.inl ' ')
  | '"' => some (.inl '"')
  | '/' => some (.inl '/')
  | '\'' => some (.inl '\'')
  | '\\' => some (.inl '\\')
  | 'N' => some (.inl (Char.ofNat 0x85))
  | '_' => some (.inl (Char.ofNat 0xA0))
  | 'L' => some (.inl (Char.ofNat 0x2028))
  | 'P' => some (.inl (Char.ofNat 0x2029))
  | 'x' => some (.inr 2)
  | 'u' => some (.inr 4)
  | 'U' => some (.inr 8)
  | _ => none

/-- Reads a single- or double-quoted scalar. -/
def scanQuoted (s : Scanner) (single : Bool) : Scanned (Scanner × Token) := do
  let start := s.mark
  let quote := if single then '\'' else '"'
  let ctx := some ("while scanning a quoted scalar", start)
  let fuel := s.input.size + 1
  -- the digits are all looked at before any is passed, so a fault stands at the first digit
  let hexDigits (s : Scanner) (n : Nat) : Scanned Nat :=
    (List.range n).foldlM (fun acc k =>
      match hexValue (s.ch k) with
      | some v => pure (acc * 16 + v)
      | none => throw (s.fault (some ("while parsing a quoted scalar", start)) "did not find expected hexdecimal number")) 0
  -- The characters of one line run, up to a blank, a break, the end or the closing quote.
  let rec run (s : Scanner) (p : Pending) : Nat → Scanned (Scanner × Pending)
    | 0 => pure (s, p)
    | f + 1 => do
      let c := s.ch 0
      if isBlankZ c then pure (s, p)
      else if single ∧ c = '\'' ∧ s.ch 1 = '\'' then run s.skip.skip { p with text := p.text.push '\'' } f
      else if c = quote then pure (s, p)
      else if !single ∧ c = '\\' ∧ isBreak (s.ch 1) then
        pure (s.skip.skipLine, { p with leadingBlanks := true })
      else if !single ∧ c = '\\' then
        match escape (s.ch 1) with
        | none => throw (s.fault (some ("while parsing a quoted scalar", start)) "found unknown escape character")
        | some (.inl ch) => run s.skip.skip { p with text := p.text.push ch } f
        | some (.inr n) =>
          let s' := s.skip.skip
          let v ← hexDigits s' n
          if (0xD800 ≤ v ∧ v ≤ 0xDFFF) ∨ v > 0x10FFFF then
            throw (s'.fault (some ("while parsing a quoted scalar", start)) "found invalid Unicode character escape code")
          let s' := (List.range n).foldl (fun s _ => s.skip) s'
          run s' { p with text := p.text.push (Char.ofNat v) } f
      else
        let (s, t) := s.readChar p.text
        run s { p with text := t } f
  let rec outer (s : Scanner) (p : Pending) : Nat → Scanned (Scanner × Pending)
    | 0 => pure (s, p)
    | f + 1 => do
      if s.atDocumentIndicator then throw (s.fault ctx "found unexpected document indicator")
      if isZ (s.ch 0) then throw (s.fault ctx "found unexpected end of stream")
      let (s, p) ← run s { p with leadingBlanks := false } fuel
      if s.ch 0 = quote then return (s, p)
      let (s, p) ← scalarBlanks s p (fun _ _ => pure ()) fuel
      let p := if p.leadingBlanks then
          { p with text := fold p.text p.leadingBreak p.trailingBreaks, leadingBreak := "", trailingBreaks := "" }
        else { p with text := p.text ++ p.whitespaces, whitespaces := "" }
      outer s p f
  let (s, p) ← outer s.skip {} fuel
  let s := s.skip
  pure (s, ⟨.scalar p.text (if single then .single else .double), start, s.mark⟩)

/-- Reads the indentation and empty lines of a block scalar; fixes the indentation from the
first non-empty line when it is not set. -/
def blockBreaks (s : Scanner) (indent : Nat) (breaks : String) (start : Mark) :
    Scanned (Scanner × Nat × String × Mark) := do
  let fuel := s.input.size + 1
  let rec go (s : Scanner) (breaks : String) (maxIndent : Nat) (stop : Mark) : Nat → Scanned (Scanner × String × Nat × Mark)
    | 0 => pure (s, breaks, maxIndent, stop)
    | f + 1 => do
      let rec spaces (s : Scanner) : Nat → Scanner
        | 0 => s
        | g + 1 => if (indent = 0 ∨ s.mark.column < indent) ∧ s.ch 0 = ' ' then spaces s.skip g else s
      let s := spaces s fuel
      let maxIndent := max maxIndent s.mark.column
      if (indent = 0 ∨ s.mark.column < indent) ∧ s.ch 0 = '\t' then
        throw (s.fault (some ("while scanning a block scalar", start)) "found a tab character where an indentation space is expected")
      if !isBreak (s.ch 0) then return (s, breaks, maxIndent, stop)
      let (s, breaks) := s.readLine breaks
      go s breaks maxIndent s.mark f
  let (s', breaks, maxIndent, stop) ← go s breaks 0 s.mark fuel
  let indent := if indent = 0 then max (max maxIndent (s.indent + 1).toNat) 1 else indent
  pure (s', indent, breaks, stop)

/-- Reads a literal (`|`) or folded (`>`) block scalar. -/
def scanBlock (s : Scanner) (literal : Bool) : Scanned (Scanner × Token) := do
  let start := s.mark
  let ctx := some ("while scanning a block scalar", start)
  let s := s.skip
  let digit (c : Char) : Bool := c.isDigit
  let (s, chomping, increment) ← if s.ch 0 = '+' ∨ s.ch 0 = '-' then do
      let chomp : Int := if s.ch 0 = '+' then 1 else -1
      let s := s.skip
      if digit (s.ch 0) then
        if s.ch 0 = '0' then throw (s.fault ctx "found an indentation indicator equal to 0")
        pure (s.skip, chomp, (s.ch 0).toNat - 48)
      else pure (s, chomp, 0)
    else if digit (s.ch 0) then do
      if s.ch 0 = '0' then throw (s.fault ctx "found an indentation indicator equal to 0")
      let inc := (s.ch 0).toNat - 48
      let s := s.skip
      if s.ch 0 = '+' ∨ s.ch 0 = '-' then pure (s.skip, (if s.ch 0 = '+' then 1 else -1), inc)
      else pure (s, 0, inc)
    else pure (s, 0, 0)
  let fuel := s.input.size + 1
  let rec blanks (s : Scanner) : Nat → Scanner
    | 0 => s
    | f + 1 => if isBlank (s.ch 0) then blanks s.skip f else s
  let s := blanks s fuel
  let rec comment (s : Scanner) : Nat → Scanner
    | 0 => s
    | f + 1 => if isBreakZ (s.ch 0) then s else comment s.skip f
  let s := if s.ch 0 = '#' then comment s fuel else s
  if !isBreakZ (s.ch 0) then throw (s.fault ctx "did not find expected comment or line break")
  let s := if isBreak (s.ch 0) then s.skipLine else s
  let indent0 : Nat := if increment > 0 then (if s.indent ≥ 0 then (s.indent + increment).toNat else increment) else 0
  let (s, indent, trailing, stop) ← blockBreaks s indent0 "" start
  let rec lines (s : Scanner) (text leading trailing : String) (leadingBlank : Bool) (stop : Mark) :
      Nat → Scanned (Scanner × String × String × String × Mark)
    | 0 => pure (s, text, leading, trailing, stop)
    | f + 1 => do
      if !(s.mark.column = indent ∧ !isZ (s.ch 0)) then return (s, text, leading, trailing, stop)
      let trailingBlank := isBlank (s.ch 0)
      let text :=
        if !literal ∧ leading.startsWith "\n" ∧ !leadingBlank ∧ !trailingBlank then
          if trailing.isEmpty then text.push ' ' else text
        else text ++ leading
      let text := text ++ trailing
      let leadingBlank := isBlank (s.ch 0)
      let rec content (s : Scanner) (t : String) : Nat → Scanner × String
        | 0 => (s, t)
        | g + 1 => if isBreakZ (s.ch 0) then (s, t) else content s.skip (t.push (s.ch 0)) g
      let (s, text) := content s text fuel
      let (s, leading) := s.readLine ""
      let (s, _, trailing, stop) ← blockBreaks s indent "" start
      lines s text leading trailing leadingBlank stop f
  let (s, text, leading, trailing, stop) ← lines s "" "" trailing false stop fuel
  let text := if chomping ≠ -1 then text ++ leading else text
  let text := if chomping = 1 then text ++ trailing else text
  pure (s, ⟨.scalar text (if literal then .literal else .folded), start, stop⟩)

/-- Whether the current character starts a plain scalar. -/
def startsPlain (s : Scanner) : Bool :=
  let c := s.ch 0
  let indicator := isBlankZ c ∨ "-?:,[]\x7b\x7d#&*!|>'\"%@`".contains c
  !indicator ∨ (c = '-' ∧ !isBlank (s.ch 1)) ∨
    (s.flowLevel = 0 ∧ (c = '?' ∨ c = ':') ∧ !isBlankZ (s.ch 1))

/-- Queues a scalar token read by `scan`, which may be a simple key. -/
def fetchScalar (s : Scanner) (allowAfter : Bool) (scan : Scanner → Scanned (Scanner × Token)) :
    Scanned Scanner := do
  let s ← if allowAfter then s.removeSimpleKey else s.saveSimpleKey
  let s := { s with simpleKeyAllowed := allowAfter }
  let (s, t) ← scan s
  pure { s with tokens := s.tokens ++ [t] }

/-- Fetches the next token into the queue. -/
def fetchNextToken (s : Scanner) : Scanned Scanner := do
  if !s.streamStartProduced then return s.fetchStreamStart
  let s := s.scanToNextToken
  let s ← s.staleSimpleKeys
  let s := s.unrollIndent s.mark.column
  let c := s.ch 0
  if isZ c then return ← s.fetchStreamEnd
  if s.mark.column = 0 ∧ c = '%' then return ← s.fetchDirective
  if s.mark.column = 0 ∧ c = '-' ∧ s.ch 1 = '-' ∧ s.ch 2 = '-' ∧ isBlankZ (s.ch 3) then
    return ← s.fetchDocumentIndicator .documentStart
  if s.mark.column = 0 ∧ c = '.' ∧ s.ch 1 = '.' ∧ s.ch 2 = '.' ∧ isBlankZ (s.ch 3) then
    return ← s.fetchDocumentIndicator .documentEnd
  if c = '[' then return ← s.fetchFlowCollectionStart .flowSequenceStart
  if c = '{' then return ← s.fetchFlowCollectionStart .flowMappingStart
  if c = ']' then return ← s.fetchFlowCollectionEnd .flowSequenceEnd
  if c = '}' then return ← s.fetchFlowCollectionEnd .flowMappingEnd
  if c = ',' then return ← s.fetchFlowEntry
  if c = '-' ∧ isBlankZ (s.ch 1) then return ← s.fetchBlockEntry
  if c = '?' ∧ (s.flowLevel > 0 ∨ isBlankZ (s.ch 1)) then return ← s.fetchKey
  if c = ':' ∧ (s.flowLevel > 0 ∨ isBlankZ (s.ch 1)) then return ← s.fetchValue
  if c = '*' then return ← s.fetchAnchor true
  if c = '&' then return ← s.fetchAnchor false
  if c = '!' then return ← s.fetchTag
  if c = '|' ∧ s.flowLevel = 0 then return ← s.fetchScalar true (fun s => s.scanBlock true)
  if c = '>' ∧ s.flowLevel = 0 then return ← s.fetchScalar true (fun s => s.scanBlock false)
  if c = '\'' then return ← s.fetchScalar false (fun s => s.scanQuoted true)
  if c = '"' then return ← s.fetchScalar false (fun s => s.scanQuoted false)
  if s.startsPlain then return ← s.fetchScalar false scanPlain
  throw (s.fault (some ("while scanning for the next token", s.mark)) "found character that cannot start any token")

/-- Fetches tokens until the first one queued can be handed out: no pending simple key could
still be inserted before it. -/
def fetchMoreTokens (s : Scanner) : Scanned Scanner :=
  let rec go (s : Scanner) : Nat → Scanned Scanner
    | 0 => pure s
    | fuel + 1 => do
      let (s, need) ← if s.tokens.isEmpty then pure (s, true)
        else do
          let s ← s.staleSimpleKeys
          pure (s, s.simpleKeys.any (fun k => k.possible ∧ k.tokenNumber = s.tokensParsed))
      if !need then return s
      let s ← s.fetchNextToken
      go s fuel
  go s (4 * s.input.size + 16)

/-- The next token, fetched if needed. -/
def peek (s : Scanner) : Scanned (Scanner × Token) := do
  let s ← if s.tokenAvailable then pure s else do
    let s ← s.fetchMoreTokens
    pure { s with tokenAvailable := true }
  match s.tokens with
  | t :: _ => pure (s, t)
  | [] => throw (s.fault none "no more tokens")

/-- Hands out the next token. -/
def next (s : Scanner) : Scanner :=
  match s.tokens with
  | t :: rest =>
    { s with tokens := rest, tokensParsed := s.tokensParsed + 1, tokenAvailable := false,
             streamEndProduced := s.streamEndProduced || t.kind == .streamEnd }
  | [] => s

/-- A scanner of a text. -/
def ofText (text : String) : Scanner := { input := text.toList.toArray }

end Scanner

end Yaml

end JobFlow
