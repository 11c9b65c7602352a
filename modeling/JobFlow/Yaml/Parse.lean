import JobFlow.Yaml.Scan

/-!
# Parsing YAML tokens into events

The parser is the pushdown machine of libyaml: a current state and a stack of states to
return to, one event per step.
-/

namespace JobFlow

namespace Yaml

/-- What an event is. -/
inductive EventKind where
  | streamStart
  | streamEnd
  | documentStart
  | documentEnd
  | alias (name : String)
  | scalar (anchor tag : Option String) (text : String) (style : ScalarStyle)
  | sequenceStart (anchor tag : Option String)
  | sequenceEnd
  | mappingStart (anchor tag : Option String)
  | mappingEnd
  deriving Inhabited, Repr

/-- An event and where it starts. -/
structure Event where
  kind : EventKind
  start : Mark
  deriving Inhabited, Repr

/-- Where the parser is in the grammar. -/
inductive ParseState where
  | streamStart
  | implicitDocumentStart
  | documentStart
  | documentContent
  | documentEnd
  | blockNode
  | blockNodeOrIndentlessSequence
  | flowNode
  | blockSequenceFirstEntry
  | blockSequenceEntry
  | indentlessSequenceEntry
  | blockMappingFirstKey
  | blockMappingKey
  | blockMappingValue
  | flowSequenceFirstEntry
  | flowSequenceEntry
  | flowSequenceEntryMappingKey
  | flowSequenceEntryMappingValue
  | flowSequenceEntryMappingEnd
  | flowMappingFirstKey
  | flowMappingKey
  | flowMappingValue
  | flowMappingEmptyValue
  | done
  deriving DecidableEq, Inhabited, Repr

/-- The parser: the scanner it reads, its state, the states to return to, the start marks of
the open collections, and the tag handles of the current document with the prefixes they
stand for. -/
structure Parser where
  scanner : Scanner
  state : ParseState := .streamStart
  states : List ParseState := []
  marks : List Mark := []
  handles : List (String × String) := []
  deriving Inhabited

namespace Parser

/-- The next token. -/
def peek (p : Parser) : Scanned (Parser × Token) := do
  let (s, t) ← p.scanner.peek
  pure ({ p with scanner := s }, t)

/-- Moves past the next token. -/
def skip (p : Parser) : Parser := { p with scanner := p.scanner.next }

/-- Returns to the state on top of the stack. -/
def pop (p : Parser) : Parser :=
  { p with state := p.states.headD .done, states := p.states.tail }

/-- Enters `next`, to return to `back` afterwards. -/
def push (p : Parser) (back : ParseState) : Parser := { p with states := back :: p.states }

/-- The start mark of the innermost open collection, dropped. -/
def popMark (p : Parser) : Parser × Mark := ({ p with marks := p.marks.tail }, p.marks.headD {line := 0, column := 0})

/-- A fault of the grammar: the problem at `at`, found while reading what started at `ctx`. -/
def fault {α : Type} (context : String) (ctx : Mark) (problem : String) (pm : Mark) : Scanned α :=
  throw { problem := problem, problemMark := pm, context := some (context, ctx) }

/-- An empty plain scalar, standing for a missing node. -/
def empty (m : Mark) : Event := ⟨.scalar none none "" .plain, m⟩

/-- The tag a handle and suffix stand for under the document's tag handles; a verbatim tag
has no handle. -/
def resolveTag (p : Parser) (handle suffix : String) : Option String :=
  if handle = "" then some suffix
  else (p.handles.lookup handle).map (· ++ suffix)

/-- The handles every document has unless its directives give them other prefixes. -/
def defaultHandles : List (String × String) := [("!", "!"), ("!!", "tag:yaml.org,2002:")]

/-- The parser with the default handles its directives did not declare. -/
def withDefaults (p : Parser) : Parser :=
  { p with handles := defaultHandles.foldl (fun hs d => if (hs.lookup d.1).isSome then hs else hs ++ [d]) p.handles }

/-- The directives before a document: at most one `%YAML` of version 1.1 or 1.2, and `%TAG`
directives each declaring a new handle; the default handles are added after them. -/
def directives (p : Parser) (version : Bool) : Nat → Scanned (Parser × Token)
  | 0 => do
    let (p, t) ← p.peek
    pure (p.withDefaults, t)
  | fuel + 1 => do
    let (p, t) ← p.peek
    match t.kind with
    | .versionDirective major minor =>
      if version then throw { problem := "found duplicate %YAML directive", problemMark := t.start }
      if major ≠ 1 ∨ (minor ≠ 1 ∧ minor ≠ 2) then
        throw { problem := "found incompatible YAML document", problemMark := t.start }
      directives p.skip true fuel
    | .tagDirective handle pfx =>
      if (p.handles.lookup handle).isSome then
        throw { problem := "found duplicate %TAG directive", problemMark := t.start }
      directives { p with handles := p.handles ++ [(handle, pfx)] }.skip version fuel
    | _ => pure (p.withDefaults, t)

/-- Whether a token kind is one of a few, compared by constructor. -/
def kindIs (k : TokenKind) (names : List Nat) : Bool :=
  let n := match k with
    | .blockEntry => 0
    | .key => 1
    | .value => 2
    | .blockEnd => 3
    | .flowEntry => 4
    | .flowSequenceEnd => 5
    | .flowMappingEnd => 6
    | .versionDirective _ _ => 7
    | .tagDirective _ _ => 8
    | .documentStart => 9
    | .documentEnd => 10
    | .streamEnd => 11
    | _ => 100
  names.contains n

/-- A node: an alias, a scalar, or the start of a collection, with its anchor and tag. -/
def node (p : Parser) (block indentless : Bool) : Scanned (Parser × Event) := do
  let (p, t) ← p.peek
  match t.kind with
  | .alias n => pure (p.pop.skip, ⟨.alias n, t.start⟩)
  | _ =>
    let start := t.start
    let (p, t, anchor, tag?) ← match t.kind with
      | .anchor a => do
        let p := p.skip
        let (p, t2) ← p.peek
        match t2.kind with
        | .tag h s => do
          let p := p.skip
          let (p, t3) ← p.peek
          pure (p, t3, some a, some (h, s, t2.start))
        | _ => pure (p, t2, some a, none)
      | .tag h s => do
        let p := p.skip
        let (p, t2) ← p.peek
        match t2.kind with
        | .anchor a => do
          let p := p.skip
          let (p, t3) ← p.peek
          pure (p, t3, some a, some (h, s, t.start))
        | _ => pure (p, t2, none, some (h, s, t.start))
      | _ => pure (p, t, none, none)
    let tag ← match tag? with
      | none => pure none
      | some (h, s, tm) =>
        match p.resolveTag h s with
        | some tg => pure (some tg)
        | none => fault "while parsing a node" start "found undefined tag handle" tm
    let missing : Scanned (Parser × Event) :=
      fault (if block then "while parsing a block node" else "while parsing a flow node") start
        "did not find expected node content" t.start
    if indentless ∧ t.kind = .blockEntry then
      pure ({ p with state := .indentlessSequenceEntry }, ⟨.sequenceStart anchor tag, start⟩)
    else
      match t.kind with
      | .scalar text style => pure (p.pop.skip, ⟨.scalar anchor tag text style, start⟩)
      | .flowSequenceStart => pure ({ p with state := .flowSequenceFirstEntry }, ⟨.sequenceStart anchor tag, start⟩)
      | .flowMappingStart => pure ({ p with state := .flowMappingFirstKey }, ⟨.mappingStart anchor tag, start⟩)
      | .blockSequenceStart =>
        if block then pure ({ p with state := .blockSequenceFirstEntry }, ⟨.sequenceStart anchor tag, start⟩)
        else if anchor.isSome ∨ tag.isSome then pure (p.pop, ⟨.scalar anchor tag "" .plain, start⟩)
        else missing
      | .blockMappingStart =>
        if block then pure ({ p with state := .blockMappingFirstKey }, ⟨.mappingStart anchor tag, start⟩)
        else if anchor.isSome ∨ tag.isSome then pure (p.pop, ⟨.scalar anchor tag "" .plain, start⟩)
        else missing
      | _ =>
        if anchor.isSome ∨ tag.isSome then pure (p.pop, ⟨.scalar anchor tag "" .plain, start⟩)
        else missing

/-- Skips the extra `...` lines before a document. -/
def skipDocumentEnds (p : Parser) : Nat → Scanned (Parser × Token)
  | 0 => p.peek
  | fuel + 1 => do
    let (p, t) ← p.peek
    if t.kind = .documentEnd then skipDocumentEnds p.skip fuel else pure (p, t)

/-- The start of a document, or the end of the stream. -/
def documentStart (p : Parser) (implicit : Bool) : Scanned (Parser × Event) := do
  let (p, t) ← if implicit then p.peek else skipDocumentEnds p (p.scanner.input.size + 2)
  if implicit ∧ !kindIs t.kind [7, 8, 9, 11] then
    let p := p.withDefaults
    pure ({ p.push .documentEnd with state := .blockNode }, ⟨.documentStart, t.start⟩)
  else if t.kind ≠ .streamEnd then
    let (p, t') ← p.directives false (p.scanner.input.size + 2)
    if t'.kind ≠ .documentStart then
      throw { problem := "did not find expected <document start>", problemMark := t'.start }
    pure ({ p.push .documentEnd with state := .documentContent }.skip, ⟨.documentStart, t.start⟩)
  else
    pure ({ p with state := .done }.skip, ⟨.streamEnd, t.start⟩)

/-- The content of an explicit document, which may be empty. -/
def documentContent (p : Parser) : Scanned (Parser × Event) := do
  let (p, t) ← p.peek
  if kindIs t.kind [7, 8, 9, 10, 11] then pure (p.pop, empty t.start)
  else p.node true false

/-- The end of a document, explicit (`...`) or implied. -/
def documentEnd (p : Parser) : Scanned (Parser × Event) := do
  let (p, t) ← p.peek
  let p := if t.kind = .documentEnd then p.skip else p
  pure ({ p with state := .documentStart, handles := [] }, ⟨.documentEnd, t.start⟩)

/-- An entry of a block sequence, or its end. -/
def blockSequenceEntry (p : Parser) (first : Bool) : Scanned (Parser × Event) := do
  let p ← if first then do
      let (p, t) ← p.peek
      pure { p with marks := t.start :: p.marks }.skip
    else pure p
  let (p, t) ← p.peek
  if t.kind = .blockEntry then
    let m := t.stop
    let p := p.skip
    let (p, t) ← p.peek
    if !kindIs t.kind [0, 3] then (p.push .blockSequenceEntry).node true false
    else pure ({ p with state := .blockSequenceEntry }, empty m)
  else if t.kind = .blockEnd then
    let (p, _) := p.popMark
    pure (p.pop.skip, ⟨.sequenceEnd, t.start⟩)
  else
    let (_, m) := p.popMark
    fault "while parsing a block collection" m "did not find expected '-' indicator" t.start

/-- An entry of a sequence written at its mapping's indentation, or its end. -/
def indentlessSequenceEntry (p : Parser) : Scanned (Parser × Event) := do
  let (p, t) ← p.peek
  if t.kind = .blockEntry then
    let m := t.stop
    let p := p.skip
    let (p, t) ← p.peek
    if !kindIs t.kind [0, 1, 2, 3] then (p.push .indentlessSequenceEntry).node true false
    else pure ({ p with state := .indentlessSequenceEntry }, empty m)
  else pure (p.pop, ⟨.sequenceEnd, t.start⟩)

/-- A key of a block mapping, or its end. -/
def blockMappingKey (p : Parser) (first : Bool) : Scanned (Parser × Event) := do
  let p ← if first then do
      let (p, t) ← p.peek
      pure { p with marks := t.start :: p.marks }.skip
    else pure p
  let (p, t) ← p.peek
  if t.kind = .key then
    let m := t.stop
    let p := p.skip
    let (p, t) ← p.peek
    if !kindIs t.kind [1, 2, 3] then (p.push .blockMappingValue).node true true
    else pure ({ p with state := .blockMappingValue }, empty m)
  else if t.kind = .blockEnd then
    let (p, _) := p.popMark
    pure (p.pop.skip, ⟨.mappingEnd, t.start⟩)
  else
    let (_, m) := p.popMark
    fault "while parsing a block mapping" m "did not find expected key" t.start

/-- A value of a block mapping, empty when no `:` follows the key. -/
def blockMappingValue (p : Parser) : Scanned (Parser × Event) := do
  let (p, t) ← p.peek
  if t.kind = .value then
    let m := t.stop
    let p := p.skip
    let (p, t) ← p.peek
    if !kindIs t.kind [1, 2, 3] then (p.push .blockMappingKey).node true true
    else pure ({ p with state := .blockMappingKey }, empty m)
  else pure ({ p with state := .blockMappingKey }, empty t.start)

/-- An entry of a flow sequence, or its end; `? key : value` inside one is a one-pair
mapping. -/
def flowSequenceEntry (p : Parser) (first : Bool) : Scanned (Parser × Event) := do
  let p ← if first then do
      let (p, t) ← p.peek
      pure { p with marks := t.start :: p.marks }.skip
    else pure p
  let (p, t) ← p.peek
  if t.kind ≠ .flowSequenceEnd then
    let (p, t) ← if !first then do
        if t.kind = .flowEntry then (p.skip).peek
        else
          let (_, m) := p.popMark
          fault "while parsing a flow sequence" m "did not find expected ',' or ']'" t.start
      else pure (p, t)
    if t.kind = .key then
      return ({ p with state := .flowSequenceEntryMappingKey }.skip, ⟨.mappingStart none none, t.start⟩)
    if t.kind ≠ .flowSequenceEnd then
      return ← (p.push .flowSequenceEntry).node false false
    let (p, _) := p.popMark
    pure (p.pop.skip, ⟨.sequenceEnd, t.start⟩)
  else
    let (p, _) := p.popMark
    pure (p.pop.skip, ⟨.sequenceEnd, t.start⟩)

/-- The key of a one-pair mapping inside a flow sequence. -/
def flowSequenceEntryMappingKey (p : Parser) : Scanned (Parser × Event) := do
  let (p, t) ← p.peek
  if !kindIs t.kind [2, 4, 5] then (p.push .flowSequenceEntryMappingValue).node false false
  else pure ({ p with state := .flowSequenceEntryMappingValue }.skip, empty t.stop)

/-- The value of a one-pair mapping inside a flow sequence. -/
def flowSequenceEntryMappingValue (p : Parser) : Scanned (Parser × Event) := do
  let (p, t) ← p.peek
  if t.kind = .value then
    let p := p.skip
    let (p, t) ← p.peek
    if !kindIs t.kind [4, 5] then (p.push .flowSequenceEntryMappingEnd).node false false
    else pure ({ p with state := .flowSequenceEntryMappingEnd }, empty t.start)
  else pure ({ p with state := .flowSequenceEntryMappingEnd }, empty t.start)

/-- The end of a one-pair mapping inside a flow sequence. -/
def flowSequenceEntryMappingEnd (p : Parser) : Scanned (Parser × Event) := do
  let (p, t) ← p.peek
  pure ({ p with state := .flowSequenceEntry }, ⟨.mappingEnd, t.start⟩)

/-- A key of a flow mapping, or its end. -/
def flowMappingKey (p : Parser) (first : Bool) : Scanned (Parser × Event) := do
  let p ← if first then do
      let (p, t) ← p.peek
      pure { p with marks := t.start :: p.marks }.skip
    else pure p
  let (p, t) ← p.peek
  if t.kind ≠ .flowMappingEnd then
    let (p, t) ← if !first then do
        if t.kind = .flowEntry then (p.skip).peek
        else
          let (_, m) := p.popMark
          fault "while parsing a flow mapping" m "did not find expected ',' or '\x7d'" t.start
      else pure (p, t)
    if t.kind = .key then
      let p := p.skip
      let (p, t) ← p.peek
      if !kindIs t.kind [2, 4, 6] then return ← (p.push .flowMappingValue).node false false
      else return ({ p with state := .flowMappingValue }, empty t.start)
    if t.kind ≠ .flowMappingEnd then
      return ← (p.push .flowMappingEmptyValue).node false false
    let (p, _) := p.popMark
    pure (p.pop.skip, ⟨.mappingEnd, t.start⟩)
  else
    let (p, _) := p.popMark
    pure (p.pop.skip, ⟨.mappingEnd, t.start⟩)

/-- A value of a flow mapping; `empty` for a key written without `?` and without `:`. -/
def flowMappingValue (p : Parser) (isEmpty : Bool) : Scanned (Parser × Event) := do
  let (p, t) ← p.peek
  if isEmpty then return ({ p with state := .flowMappingKey }, empty t.start)
  if t.kind = .value then
    let p := p.skip
    let (p, t) ← p.peek
    if !kindIs t.kind [4, 6] then (p.push .flowMappingKey).node false false
    else pure ({ p with state := .flowMappingKey }, empty t.start)
  else pure ({ p with state := .flowMappingKey }, empty t.start)

/-- The next event, or `none` once the stream has ended. -/
def next (p : Parser) : Scanned (Parser × Option Event) := do
  let some' (r : Parser × Event) : Parser × Option Event := (r.1, some r.2)
  match p.state with
  | .done => pure (p, none)
  | .streamStart => do
    let (p, t) ← p.peek
    if t.kind ≠ .streamStart then
      throw { problem := "did not find expected <stream-start>", problemMark := t.start }
    pure ({ p with state := .implicitDocumentStart }.skip, some ⟨.streamStart, t.start⟩)
  | .implicitDocumentStart => some' <$> p.documentStart true
  | .documentStart => some' <$> p.documentStart false
  | .documentContent => some' <$> p.documentContent
  | .documentEnd => some' <$> p.documentEnd
  | .blockNode => some' <$> p.node true false
  | .blockNodeOrIndentlessSequence => some' <$> p.node true true
  | .flowNode => some' <$> p.node false false
  | .blockSequenceFirstEntry => some' <$> p.blockSequenceEntry true
  | .blockSequenceEntry => some' <$> p.blockSequenceEntry false
  | .indentlessSequenceEntry => some' <$> p.indentlessSequenceEntry
  | .blockMappingFirstKey => some' <$> p.blockMappingKey true
  | .blockMappingKey => some' <$> p.blockMappingKey false
  | .blockMappingValue => some' <$> p.blockMappingValue
  | .flowSequenceFirstEntry => some' <$> p.flowSequenceEntry true
  | .flowSequenceEntry => some' <$> p.flowSequenceEntry false
  | .flowSequenceEntryMappingKey => some' <$> p.flowSequenceEntryMappingKey
  | .flowSequenceEntryMappingValue => some' <$> p.flowSequenceEntryMappingValue
  | .flowSequenceEntryMappingEnd => some' <$> p.flowSequenceEntryMappingEnd
  | .flowMappingFirstKey => some' <$> p.flowMappingKey true
  | .flowMappingKey => some' <$> p.flowMappingKey false
  | .flowMappingValue => some' <$> p.flowMappingValue false
  | .flowMappingEmptyValue => some' <$> p.flowMappingValue true

/-- A parser of a text. -/
def ofText (text : String) : Parser := { scanner := Scanner.ofText text }

end Parser

end Yaml

end JobFlow
