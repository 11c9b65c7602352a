import JobFlow.Shell.Program.Text

/-!
# Sorting and cutting lines

`sort` orders the lines of its files: byte by byte, or by keys (`-k`, fields apart by blanks
or by the `-t` character), numerically under `-n`, in reverse under `-r`, case folded under
`-f`; lines whose keys tie are ordered as whole lines unless `-s` is given, and `-u` keeps the
first of each run of ties.
-/

namespace JobFlow.Shell

namespace Tools

/-- A key of `sort`: its first field and character, its last field and character (0 for the
end of the field), and its own ordering options. -/
structure SortKey where
  startField : Nat
  startChar : Nat := 1
  endField : Option Nat := none
  endChar : Nat := 0
  numeric : Bool := false
  reverse : Bool := false
  fold : Bool := false
  blanks : Bool := false
  deriving Inhabited

/-- Whether a byte is a blank to `sort`. -/
def isSortBlank (c : Char) : Bool := c = ' ' ∨ c = '\t'

/-- The fields of a line with where each starts: runs of blanks begin fields when no separator
is given. -/
def sortFields (sep : Option Char) (line : List Char) : List (List Char) :=
  match sep with
  | some t => (String.ofList line |>.splitOn t.toString).map String.toList
  | none =>
    let rec go : Nat → List Char → List (List Char)
      | 0, _ => []
      | _ + 1, [] => []
      | n + 1, cs =>
        let lead := cs.takeWhile isSortBlank
        let body := (cs.drop lead.length).takeWhile (fun c => !isSortBlank c)
        let rest := cs.drop (lead.length + body.length)
        (lead ++ body) :: (if rest.isEmpty then [] else go n rest)
    go (line.length + 1) line

/-- The text of a key in a line. -/
def keyText (sep : Option Char) (k : SortKey) (line : List Char) : List Char :=
  let fields := sortFields sep line
  let joinFrom (i : Nat) (upto : Option Nat) : List Char :=
    let chosen := (fields.drop i).take ((upto.map (fun e => e + 1 - i)).getD fields.length)
    match sep with
    | some t => List.intercalate [t] chosen
    | none => chosen.flatten
  let startIdx := k.startField - 1
  let startField := fields.getD startIdx []
  let startField := if k.blanks then startField.dropWhile isSortBlank else startField
  let skip := k.startChar - 1
  let fromStart := (startField.drop skip) ++ (match sep with
    | some t => if (k.endField.getD fields.length) > startIdx + 1 ∧ startIdx + 1 < fields.length then t :: (joinFrom (startIdx + 1) (k.endField.map (· - 1))) else []
    | none => if (k.endField.getD fields.length) > startIdx + 1 then joinFrom (startIdx + 1) (k.endField.map (· - 1)) else [])
  match k.endField, k.endChar with
  | some e, ch =>
    if ch = 0 then fromStart
    else
      -- cut inside the last field
      let lastField := fields.getD (e - 1) []
      let extra := lastField.length - min ch lastField.length
      fromStart.take (fromStart.length - extra)
  | none, _ => fromStart

/-- The number at the start of a text as `sort -n` reads it: blanks, a sign, digits and a
fraction; no number reads as zero. -/
def sortNumber (cs : List Char) : Bool × List Char × List Char :=
  let cs := cs.dropWhile isSortBlank
  let (neg, cs) := match cs with
    | '-' :: rest => (true, rest)
    | _ => (false, cs)
  let whole := (cs.takeWhile Char.isDigit).dropWhile (· = '0')
  let frac := match cs.drop (cs.takeWhile Char.isDigit).length with
    | '.' :: more => (more.takeWhile Char.isDigit).reverse.dropWhile (· = '0') |>.reverse
    | _ => []
  let zero := whole.isEmpty ∧ frac.isEmpty
  (neg ∧ !zero, whole, frac)

/-- Compares two lists of bytes. -/
def compareBytes (a b : List Char) : Ordering := compare (String.ofList a) (String.ofList b)

/-- Compares two numbers as `sort -n` reads them. -/
def compareNumbers (a b : List Char) : Ordering :=
  let (na, wa, fa) := sortNumber a
  let (nb, wb, fb) := sortNumber b
  let magnitude : Ordering :=
    match compare wa.length wb.length with
    | .eq =>
      match compareBytes wa wb with
      | .eq => compareBytes fa fb
      | o => o
    | o => o
  match na, nb with
  | false, true => .gt
  | true, false => .lt
  | true, true => magnitude.swap
  | false, false => magnitude

/-- Compares two lines by one key. -/
def compareKey (sep : Option Char) (k : SortKey) (a b : List Char) : Ordering :=
  let ka := keyText sep k a
  let kb := keyText sep k b
  let ka := if k.blanks then ka.dropWhile isSortBlank else ka
  let kb := if k.blanks then kb.dropWhile isSortBlank else kb
  let o := if k.numeric then compareNumbers ka kb
    else if k.fold then compareBytes (ka.map Char.toUpper) (kb.map Char.toUpper)
    else compareBytes ka kb
  if k.reverse then o.swap else o

/-- Compares two lines by all keys, in order. -/
def compareKeys (sep : Option Char) (keys : List SortKey) (a b : List Char) : Ordering :=
  keys.foldl (fun acc k => match acc with
    | .eq => compareKey sep k a b
    | o => o) .eq

/-- Reads a key given to `-k`, with the global options as its defaults. -/
def readSortKey (defaults : SortKey) (s : String) : Option SortKey :=
  let parts := s.splitOn ","
  let pos (t : String) : Option (Nat × Nat × List Char) :=
    let cs := t.toList
    let f := cs.takeWhile Char.isDigit
    let rest := cs.drop f.length
    let (ch, rest) := match rest with
      | '.' :: more => ((more.takeWhile Char.isDigit), more.dropWhile Char.isDigit)
      | _ => ([], rest)
    match (String.ofList f).toNat? with
    | some fn => some (fn, (String.ofList ch).toNat?.getD 0, rest)
    | none => none
  let flags (k : SortKey) (opts : List Char) : SortKey :=
    opts.foldl (fun k o =>
      if o = 'n' then { k with numeric := true }
      else if o = 'r' then { k with reverse := true }
      else if o = 'f' then { k with fold := true }
      else if o = 'b' then { k with blanks := true }
      else k) k
  match parts with
  | [a] =>
    match pos a with
    | some (f, ch, opts) =>
      if f = 0 then none
      else
        let base := if opts.isEmpty then defaults else { defaults with numeric := false, reverse := false, fold := false, blanks := false }
        some (flags { base with startField := f, startChar := if ch = 0 then 1 else ch } opts)
    | none => none
  | [a, b] =>
    match pos a, pos b with
    | some (f, ch, o1), some (e, ech, o2) =>
      if f = 0 ∨ e = 0 then none
      else
        let base := if o1.isEmpty ∧ o2.isEmpty then defaults else { defaults with numeric := false, reverse := false, fold := false, blanks := false }
        some (flags { base with startField := f, startChar := if ch = 0 then 1 else ch, endField := some e, endChar := ech } (o1 ++ o2))
    | _, _ => none
  | _ => none

/-- `sort`. -/
def sort (c : Call) : Program Unit := do
  let spec : OptionSpec :=
    { withArg := ['k', 't', 'o', 'S', 'T'],
      flags := ['r', 'n', 'u', 'f', 'b', 's', 'c', 'C', 'g', 'h', 'V', 'M', 'd', 'i', 'z'],
      long := [("reverse", 'r', false), ("numeric-sort", 'n', false), ("unique", 'u', false),
        ("ignore-case", 'f', false), ("key", 'k', true), ("field-separator", 't', true),
        ("output", 'o', true), ("stable", 's', false), ("check", 'c', false)] }
  match parseOptions spec c.args with
  | .error f => c.optionFault f 2
  | .ok (opts, files) =>
    let numeric := hasOpt opts 'n' ∨ hasOpt opts 'g' ∨ hasOpt opts 'h'
    let defaults : SortKey :=
      { startField := 1, numeric := numeric, reverse := hasOpt opts 'r', fold := hasOpt opts 'f',
        blanks := hasOpt opts 'b' }
    let sep := (optArg? opts 't').bind (fun t => t.toList.head?)
    let keySpecs := (opts.filter (·.1 = 'k')).map (·.2)
    let keys := keySpecs.map (readSortKey defaults)
    match keys.find? Option.isNone, keySpecs.find? (fun s => (readSortKey defaults s).isNone) with
    | some _, some bad =>
      Program.err s!"{c.name}: invalid number at field start: invalid count at start of {quoteName bad}\n"
      Program.exitWith 2
    | _, _ =>
      let keys := if keySpecs.isEmpty then [defaults] else keys.filterMap id
      let mut lines : List String := []
      let mut failed := false
      for f in operandsOrInput files do
        match ← c.readOperand f with
        | .error e =>
          Program.err s!"{c.name}: cannot read: {f}: {e}\n"
          failed := true
        | .ok text => lines := lines ++ (linesOf text).map chomp
      if failed then
        Program.exitWith 2
        return
      let stable := hasOpt opts 's' ∨ hasOpt opts 'u'
      let cmp (a b : String) : Ordering :=
        match compareKeys sep keys a.toList b.toList with
        | .eq =>
          if stable then .eq
          else
            let o := compareBytes a.toList b.toList
            if hasOpt opts 'r' then o.swap else o
        | o => o
      if hasOpt opts 'c' ∨ hasOpt opts 'C' then
        let rec firstDisorder : Nat → List String → Option (Nat × String)
          | _, [] | _, [_] => none
          | k, a :: b :: rest =>
            let bad := if hasOpt opts 'u' then cmp a b != .lt else cmp a b = .gt
            if bad then some (k + 1, b) else firstDisorder (k + 1) (b :: rest)
        match firstDisorder 1 lines with
        | some (k, l) =>
          if hasOpt opts 'c' then
            Program.err (c.name ++ ": " ++ files.headD "-" ++ ":" ++ toString k ++ ": disorder: " ++ l ++ "\n")
          Program.exitWith 1
        | none => pure ()
      else
        let sorted := lines.mergeSort (fun a b => cmp a b != .gt)
        let sorted := if hasOpt opts 'u' then
            sorted.foldl (fun acc l => match acc.head? with
              | some p => if compareKeys sep keys p.toList l.toList = .eq then acc else l :: acc
              | none => [l]) [] |>.reverse
          else sorted
        let text := String.join (sorted.map (· ++ "\n"))
        match optArg? opts 'o' with
        | some out =>
          match (← Program.world).disk.writeFile (c.locate out) (Octets.toBytes text) with
          | .ok d => Program.setDisk d
          | .error _ => Program.warn c s!"open failed: {out}: No such file or directory"
        | none => Program.out text

/-- `uniq`. -/
def uniq (c : Call) : Program Unit := do
  let spec : OptionSpec :=
    { withArg := ['f', 's', 'w'],
      flags := ['c', 'd', 'u', 'i', 'D', 'z'],
      long := [("count", 'c', false), ("repeated", 'd', false), ("unique", 'u', false),
        ("ignore-case", 'i', false), ("skip-fields", 'f', true), ("skip-chars", 's', true),
        ("check-chars", 'w', true)] }
  match parseOptions spec c.args with
  | .error f => c.optionFault f
  | .ok (opts, ops) =>
    if ops.length > 2 then
      Program.err (c.name ++ ": extra operand " ++ quoteName (ops.getD 2 "") ++ "\nTry '" ++ c.name ++ " --help' for more information.\n")
      Program.exitWith 1
      return
    match ← c.readOperand (ops.headD "-") with
    | .error e => Program.warn c (ops.headD "-" ++ ": " ++ e)
    | .ok text =>
      let number (o : Char) : Nat := ((optArg? opts o).bind String.toNat?).getD 0
      let key (l : String) : String :=
        let cs := l.toList
        -- skip fields: blanks then non-blanks, `f` times
        let cs := (List.range (number 'f')).foldl (fun cs _ =>
          let cs := cs.dropWhile isSortBlank
          cs.dropWhile (fun ch => !isSortBlank ch)) cs
        let cs := cs.drop (number 's')
        let cs := match optArg? opts 'w' with
          | some _ => cs.take (number 'w')
          | none => cs
        let k := String.ofList cs
        if hasOpt opts 'i' then k.toLower else k
      let lines := (linesOf text).map chomp
      let groups := lines.foldl (fun (acc : List (String × Nat)) l =>
        match acc with
        | (p, n) :: rest => if key p = key l then (p, n + 1) :: rest else (l, 1) :: acc
        | [] => [(l, 1)]) [] |>.reverse
      let kept := groups.filter (fun (_, n) =>
        (!hasOpt opts 'd' ∨ n > 1) ∧ (!hasOpt opts 'u' ∨ n = 1))
      let out := String.join (kept.map (fun (l, n) =>
        if hasOpt opts 'c' then
          let num := toString n
          String.ofList (List.replicate (7 - min 7 num.length) ' ') ++ num ++ " " ++ l ++ "\n"
        else l ++ "\n"))
      match ops[1]? with
      | some outFile =>
        match (← Program.world).disk.writeFile (c.locate outFile) (Octets.toBytes out) with
        | .ok d => Program.setDisk d
        | .error _ => Program.warn c s!"{outFile}: No such file or directory"
      | none => Program.out out

/-- A range of positions of `cut`, from and to (none for the end). -/
abbrev CutRange := Nat × Option Nat

/-- Reads a list of `cut`: numbers and ranges apart by commas; the fault's message. -/
def readCutList (s : String) : Except String (List CutRange) :=
  (s.splitOn ",").foldr (fun part acc => acc.bind fun rs =>
    let p := part.toList
    let num (cs : List Char) : Option Nat := (String.ofList cs).toNat?
    if p.isEmpty then .error "invalid byte, character or field list"
    else if p.contains '-' then
      let a := p.takeWhile (· ≠ '-')
      let b := (p.dropWhile (· ≠ '-')).drop 1
      let lo := if a.isEmpty then some 1 else num a
      let hi := if b.isEmpty then some none else (num b).map some
      match lo, hi with
      | some 0, _ => .error "fields and positions are numbered from 1"
      | some l, some h =>
        if a.isEmpty ∧ b.isEmpty then .error "invalid range with no endpoint: -"
        else match h with
          | some h' => if h' < l then .error "invalid decreasing range" else .ok ((l, h) :: rs)
          | none => .ok ((l, h) :: rs)
      | _, _ => .error s!"invalid field range"
    else match num p with
      | some 0 => .error "fields are numbered from 1"
      | some k => .ok ((k, some k) :: rs)
      | none => .error s!"invalid field value {quoteName part}") (.ok [])

/-- Whether a position is in a list of ranges. -/
def inCutRanges (rs : List CutRange) (k : Nat) : Bool :=
  rs.any (fun (lo, hi) => decide (k ≥ lo) && (hi.map (fun h => decide (k ≤ h))).getD true)

/-- `cut`. -/
def cut (c : Call) : Program Unit := do
  let spec : OptionSpec :=
    { withArg := ['b', 'c', 'f', 'd'],
      flags := ['s', 'n', 'z'],
      long := [("bytes", 'b', true), ("characters", 'c', true), ("fields", 'f', true),
        ("delimiter", 'd', true), ("only-delimited", 's', false), ("complement", 'C', false),
        ("output-delimiter", 'O', true)] }
  let fault (msg : String) : Program Unit := do
    Program.err s!"{c.name}: {msg}\nTry '{c.name} --help' for more information.\n"
    Program.exitWith 1
  match parseOptions spec c.args with
  | .error f => c.optionFault f
  | .ok (opts, files) =>
    let modes := ['b', 'c', 'f'].filter (hasOpt opts)
    match modes with
    | [] => fault "you must specify a list of bytes, characters, or fields"
    | _ :: _ :: _ => fault "only one type of list may be specified"
    | [mode] =>
      match readCutList ((optArg? opts mode).getD "") with
      | .error e => fault e
      | .ok ranges =>
        let delim := (optArg? opts 'd').getD "\t"
        if delim.length != 1 then fault "the delimiter must be a single character"
        else if mode != 'f' ∧ (hasOpt opts 'd' ∨ hasOpt opts 's') then
          fault (if hasOpt opts 'd' then "an input delimiter may be specified only when operating on fields"
            else "suppressing non-delimited lines makes sense\n\tonly when operating on fields")
        else
          let d := delim.toList.headD '\t'
          let complement := hasOpt opts 'C'
          let pick (k : Nat) : Bool := inCutRanges ranges k != complement
          let outDelim := (optArg? opts 'O').getD delim
          for f in operandsOrInput files do
            match ← c.readOperand f with
            | .error e => Program.warn c s!"{f}: {e}"
            | .ok text =>
              for line in linesOf text do
                let body := chomp line
                if mode = 'f' then
                  if !body.contains d then
                    if !hasOpt opts 's' then Program.out (body ++ "\n")
                  else
                    let fields := body.splitOn delim
                    let chosen := (List.range fields.length).filter (fun k => pick (k + 1))
                    Program.out (outDelim.intercalate (chosen.map (fun k => fields.getD k "")) ++ "\n")
                else
                  let cs := body.toList
                  let chosen := (List.range cs.length).filter (fun k => pick (k + 1))
                  Program.out (String.ofList (chosen.map (fun k => cs.getD k ' ')) ++ "\n")

end Tools

end JobFlow.Shell
