import JobFlow.Shell.Program
import JobFlow.Shell.Regex

/-!
# Searching lines

`grep` prints the lines of its files (or of standard input) that a pattern matches: a basic
regular expression by default, an extended one under `-E`, fixed strings under `-F`, and under
`-P` a pattern of the backtracking syntax.
-/

namespace JobFlow.Shell

namespace Tools

/-- How `grep` matches a line: the patterns, whether their longest match counts (else the
first), and the options that bound a match. -/
structure LineTest where
  patterns : List JobFlow.Pattern.Node
  longest : Bool := true
  word : Bool := false
  whole : Bool := false
  deriving Inhabited

/-- Whether a match from `i` to `j` of a line stands between non-word characters. -/
def wordBounded (s : JobFlow.Pattern.Input) (i j : Nat) : Bool :=
  (i = 0 || !JobFlow.Pattern.isWord (s.getD (i - 1) ' ')) &&
  (j ≥ s.size || !JobFlow.Pattern.isWord (s.getD j ' '))

/-- The ends of the matches of a pattern from a position, the longest first, or the first
the matcher finds alone. -/
def matchEnds (t : LineTest) (n : JobFlow.Pattern.Node) (s : JobFlow.Pattern.Input) (i : Nat) :
    List (Nat × JobFlow.Pattern.Captures) :=
  let fuel := matchFuel n s
  if t.longest then
    (List.range (s.size + 1 - i)).reverse.filterMap (fun k =>
      (JobFlow.Pattern.run s fuel n i [] (fun j c => if j == i + k then some c else none)).map
        (fun c => (i + k, c)))
  else
    match JobFlow.Pattern.run s fuel n i [] (fun j c => some (j, c)) with
    | some r => [r]
    | none => []

/-- The match of a pattern on a line at or after a position that the options accept. -/
def acceptedMatch (t : LineTest) (n : JobFlow.Pattern.Node) (s : JobFlow.Pattern.Input) (start : Nat) :
    Option (Nat × Nat) :=
  if t.whole then
    if start = 0 ∧ (matchEnds t n s 0).any (·.1 == s.size) then some (0, s.size) else none
  else if t.word then
    (List.range (s.size + 1 - start)).findSome? (fun k =>
      let i := start + k
      (matchEnds { t with longest := true } n s i).findSome? (fun (j, _) =>
        if wordBounded s i j then some (i, j) else none))
  else
    match (if t.longest then firstMatch n s start else
        (List.range (s.size + 1 - start)).findSome? (fun k =>
          (matchEnds t n s (start + k)).head?.map (fun (j, c) => (⟨start + k, j, c⟩ : RegexMatch)))) with
    | some m => some (m.start, m.stop)
    | none => none

/-- The leftmost match of any pattern on a line at or after a position, of those the longest. -/
def lineMatch (t : LineTest) (s : JobFlow.Pattern.Input) (start : Nat) : Option (Nat × Nat) :=
  t.patterns.foldl (fun best n =>
    match acceptedMatch t n s start, best with
    | some m, some b => if m.1 < b.1 ∨ (m.1 = b.1 ∧ m.2 > b.2) then some m else some b
    | some m, none => some m
    | none, b => b) none

/-- The non-empty matches of a line, in order, as `-o` prints them. -/
def lineMatches (t : LineTest) (s : JobFlow.Pattern.Input) : List (Nat × Nat) :=
  let rec go : Nat → Nat → List (Nat × Nat)
    | 0, _ => []
    | fuel + 1, pos =>
      if pos > s.size then []
      else match lineMatch t s pos with
        | none => []
        | some (i, j) => if j = i then go fuel (i + 1) else (i, j) :: go fuel j
  go (s.size + 2) 0

/-- The lines of a text, without their newlines. -/
def textLines (text : String) : List String :=
  (linesOf text).map chomp

/-- The lines to print around the selected ones: each line number with whether it is selected,
in order, and where a gap comes before it. -/
def withContext (total : Nat) (selected : List Nat) (before after : Nat) : List (Nat × Bool × Bool) :=
  let shown := (List.range total).filter (fun k =>
    selected.any (fun s => k + before ≥ s ∧ k ≤ s + after))
  let rec go : List Nat → Option Nat → List (Nat × Bool × Bool)
    | [], _ => []
    | k :: rest, prev =>
      let gap := match prev with
        | some p => p + 1 != k
        | none => false
      (k, selected.contains k, gap) :: go rest (some k)
  go shown none

/-- `grep`. -/
def grep (c : Call) : Program Unit := do
  let spec : OptionSpec :=
    { withArg := ['e', 'f', 'm', 'A', 'B', 'C'],
      flags := ['E', 'F', 'G', 'P', 'i', 'y', 'v', 'c', 'l', 'L', 'n', 'h', 'H', 'o', 'q', 's',
        'w', 'x', 'r', 'R', 'a', 'I', 'z', 'b', 'T', 'U', 'Z'],
      long := [("extended-regexp", 'E', false), ("fixed-strings", 'F', false),
        ("basic-regexp", 'G', false), ("perl-regexp", 'P', false), ("ignore-case", 'i', false),
        ("invert-match", 'v', false), ("count", 'c', false), ("files-with-matches", 'l', false),
        ("files-without-match", 'L', false), ("line-number", 'n', false),
        ("no-filename", 'h', false), ("with-filename", 'H', false),
        ("only-matching", 'o', false), ("quiet", 'q', false), ("silent", 'q', false),
        ("no-messages", 's', false), ("word-regexp", 'w', false), ("line-regexp", 'x', false),
        ("regexp", 'e', true), ("file", 'f', true), ("max-count", 'm', true),
        ("after-context", 'A', true), ("before-context", 'B', true), ("context", 'C', true),
        ("recursive", 'r', false)] }
  let usage : Program Unit := do
    Program.err s!"Usage: {c.name} [OPTION]... PATTERNS [FILE]...\nTry '{c.name} --help' for more information.\n"
    Program.exitWith 2
  match parseOptions spec c.args with
  | .error f =>
    Program.err s!"{c.name}: {f.message}\n"
    usage
  | .ok (opts, ops) =>
    let given := (opts.filter (·.1 = 'e')).map (·.2)
    let w ← Program.world
    let mut fromFiles : List String := []
    let mut fault := false
    for (o, f) in opts do
      if o = 'f' then
        match fileBytes w (c.locate f) with
        | .ok t => fromFiles := fromFiles ++ textLines t
        | .error e =>
          Program.err s!"{c.name}: {f}: {e}\n"
          fault := true
    if fault then
      Program.exitWith 2
      return
    let (texts, files) : Option (List String) × List String :=
      if !given.isEmpty ∨ hasOpt opts 'f' then
        (some ((given.map (fun g => g.splitOn "\n")).flatten ++ fromFiles), ops)
      else match ops with
        | p :: rest => (some (p.splitOn "\n"), rest)
        | [] => (none, [])
    match texts with
    | none => usage
    | some texts =>
      let fold := hasOpt opts 'i' ∨ hasOpt opts 'y'
      let kind := opts.foldl (fun k (o, _) => if o = 'E' ∨ o = 'F' ∨ o = 'G' ∨ o = 'P' then o else k) 'G'
      let parsed : Except String (List JobFlow.Pattern.Node × List String) :=
        texts.foldr (fun t acc => acc.bind fun (ns, ws) =>
          if kind = 'F' then
            .ok ((t.toList.foldl (fun n ch => JobFlow.Pattern.joinSeq n (.char ch fold)) .empty) :: ns, ws)
          else if kind = 'P' then
            match JobFlow.Pattern.parse ((if fold then "(?i)" else "") ++ t) with
            | some n => .ok (n :: ns, ws)
            | none => .error "unmatched parentheses or invalid pattern"
          else match parseRegexScan { extended := kind = 'E', fold := fold } t with
            | .ok (n, scan) => .ok (n :: ns, scan.warnings ++ ws)
            | .error e => .error e.message) (.ok ([], []))
      match parsed with
      | .error e =>
        Program.err s!"{c.name}: {e}\n"
        Program.exitWith 2
      | .ok (nodes, warnings) =>
        for wmsg in warnings do
          Program.err (c.name ++ ": warning: " ++ wmsg ++ "\n")
        let test : LineTest :=
          { patterns := nodes, longest := kind != 'P', word := hasOpt opts 'w', whole := hasOpt opts 'x' }
        let files := if files.isEmpty then ["-"] else files
        let showNames := (files.length > 1 ∨ hasOpt opts 'H') ∧ !hasOpt opts 'h'
        let invert := hasOpt opts 'v'
        let quiet := hasOpt opts 'q'
        let number (o : Char) : Nat := ((optArg? opts o).bind String.toNat?).getD 0
        let after := if (optArg? opts 'A').isSome then number 'A' else number 'C'
        let before := if (optArg? opts 'B').isSome then number 'B' else number 'C'
        let limit := (optArg? opts 'm').bind String.toNat?
        let context := (optArg? opts 'A').isSome ∨ (optArg? opts 'B').isSome ∨ (optArg? opts 'C').isSome
        let mut anySelected := false
        let mut failed := false
        for f in files do
          let name := if f = "-" then "(standard input)" else f
          match ← c.readOperand f with
          | .error e =>
            if !hasOpt opts 's' then Program.err s!"{c.name}: {f}: {e}\n"
            failed := true
          | .ok text =>
            let lines := textLines text
            let picked := (List.range lines.length).filter (fun k =>
              let s := (lines.getD k "").toList.toArray
              (lineMatch test s 0).isSome != invert)
            let picked := match limit with
              | some m => picked.take m
              | none => picked
            if !picked.isEmpty then anySelected := true
            let starts := (lines.foldl (fun (acc : Array Nat) l => acc.push (acc.back?.getD 0 + l.utf8ByteSize + 1)) #[0])
            let lead (k : Nat) (sep : String) (offset : Nat) : String :=
              (if showNames then name ++ sep else "") ++ (if hasOpt opts 'n' then toString (k + 1) ++ sep else "") ++
                (if hasOpt opts 'b' then toString offset ++ sep else "")
            if quiet then
              if !picked.isEmpty then
                Program.exitWith 0
                return
            else if hasOpt opts 'l' then
              if !picked.isEmpty then Program.out (name ++ "\n")
            else if hasOpt opts 'L' then
              if picked.isEmpty then Program.out (name ++ "\n")
            else if hasOpt opts 'c' then
              Program.out ((if showNames then name ++ ":" else "") ++ toString picked.length ++ "\n")
            else if text.contains (Char.ofNat 0) ∧ !hasOpt opts 'a' then
              if !picked.isEmpty then Program.err s!"{c.name}: {name}: binary file matches\n"
            else if hasOpt opts 'o' then
              if !invert then
                for k in picked do
                  let line := lines.getD k ""
                  let s := line.toList.toArray
                  for (i, j) in lineMatches test s do
                    let offset := starts.getD k 0 + (String.ofList (line.toList.take i)).utf8ByteSize
                    Program.out (lead k ":" offset ++ String.ofList ((line.toList.drop i).take (j - i)) ++ "\n")
            else
              for (k, sel, gap) in withContext lines.length picked before after do
                if gap ∧ context then Program.out "--\n"
                Program.out (lead k (if sel then ":" else "-") (starts.getD k 0) ++ lines.getD k "" ++ "\n")
        Program.exitWith (if failed ∧ !(quiet ∧ anySelected) then 2 else if anySelected then 0 else 1)

end Tools

end JobFlow.Shell
