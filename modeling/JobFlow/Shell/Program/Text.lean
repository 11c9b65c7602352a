import JobFlow.Shell.Program

/-!
# Filters of text

The programs that read files or standard input and write what they make of it: `cat` (with
numbered lines and visible ends, tabs and control bytes), `head` and `tail` (by lines or
bytes, from the end or from the start), `wc` (lines, words, bytes, each count as wide as the
widest a total could need), `tr` (translating, deleting and squeezing bytes of sets with
ranges, classes and repeats), `sort`, `uniq`, `cut`, `rev`, `tac`, `basename`, `dirname`,
`seq` and `yes`.
-/

namespace JobFlow.Shell

namespace Tools

/-- The files a filter reads: its operands, or standard input when there are none. -/
def operandsOrInput (files : List String) : List String := if files.isEmpty then ["-"] else files

/-- A byte made visible as `cat -v` shows it. -/
def visibleByte (c : Char) : String :=
  let n := c.toNat
  let (high, n) := if n ≥ 128 then ("M-", n - 128) else ("", n)
  if n < 32 then high ++ "^" ++ (Char.ofNat (n + 64)).toString
  else if n = 127 then high ++ "^?"
  else high ++ (Char.ofNat n).toString

/-- How `cat` shows lines. -/
structure CatStyle where
  number : Bool := false
  nonblank : Bool := false
  squeeze : Bool := false
  ends : Bool := false
  tabs : Bool := false
  visible : Bool := false
  deriving Inhabited

/-- What `cat` carries from one file to the next: the last number given, whether the last
line written was blank, whether the one before it was, and whether a line is open. -/
structure CatState where
  count : Nat := 0
  blank : Bool := false
  open_ : Bool := false
  deriving Inhabited

/-- Writes text as `cat` with a style does, carrying its state. -/
def catText (st : CatStyle) (s : CatState) (text : String) : String × CatState :=
  let shown (c : Char) : String :=
    if c = '\t' then (if st.tabs then "^I" else "\t")
    else if st.visible ∧ c ≠ '\n' then visibleByte c
    else c.toString
  (linesOf text).foldl (fun (acc, s) line =>
    let body := chomp line
    let newline := line.endsWith "\n"
    let isBlank := body.isEmpty ∧ newline ∧ !s.open_
    if st.squeeze ∧ isBlank ∧ s.blank then (acc, s)
    else
      let (numText, count) :=
        if s.open_ then ("", s.count)
        else if st.nonblank then (if body.isEmpty then ("", s.count) else
            let k := s.count + 1
            (String.ofList (List.replicate (6 - (toString k).length) ' ') ++ toString k ++ "\t", k))
        else if st.number then
            let k := s.count + 1
            (String.ofList (List.replicate (6 - (toString k).length) ' ') ++ toString k ++ "\t", k)
        else ("", s.count)
      let text := numText ++ String.join (body.toList.map shown) ++
        (if newline then (if st.ends then "$\n" else "\n") else "")
      (acc ++ text, { count := count, blank := isBlank, open_ := !newline })) ("", s)

/-- `cat`: the files one after the other. -/
def cat (c : Call) : Program Unit := do
  let spec : OptionSpec :=
    { flags := "AbeEnstTuv".toList,
      long := [("number", 'n', false), ("show-all", 'A', false), ("number-nonblank", 'b', false),
      ("squeeze-blank", 's', false), ("show-ends", 'E', false), ("show-tabs", 'T', false),
      ("show-nonprinting", 'v', false)] }
  match parseOptions spec c.args with
  | .error f => c.optionFault f
  | .ok (opts, files) =>
    let has := hasOpt opts
    let st : CatStyle :=
      { number := has 'n', nonblank := has 'b', squeeze := has 's',
        ends := has 'E' || has 'A' || has 'e', tabs := has 'T' || has 'A' || has 't',
        visible := has 'v' || has 'A' || has 'e' || has 't' }
    let plain := !(st.number || st.nonblank || st.squeeze || st.ends || st.tabs || st.visible)
    let mut state : CatState := {}
    for f in operandsOrInput files do
      match ← c.readOperand f with
      | .error e => Program.warn c s!"{f}: {e}"
      | .ok text =>
        if plain then Program.out text
        else
          let (o, s') := catText st state text
          state := s'
          Program.out o

/-- Reads a count of lines or bytes: its value and whether it counts from the other end
(`-` for `head`, `+` for `tail`). -/
def readCount (s : String) (sign : Char) : Option (Nat × Bool) :=
  let (marked, body) := match s.toList with
    | c :: rest => if c = sign then (true, rest) else if c = '+' ∨ c = '-' then (false, rest) else (false, s.toList)
    | [] => (false, [])
  if body.isEmpty ∨ !body.all Char.isDigit then none
  else some (body.foldl (fun acc d => acc * 10 + (d.toNat - 48)) 0, marked)

/-- The header of a file when `head` or `tail` reads several. -/
def fileHeader (first : Bool) (f : String) : String :=
  (if first then "" else "\n") ++ "==> " ++ (if f = "-" then "standard input" else f) ++ " <==\n"

/-- Splits the old form `-5` or `+5` off the front of the arguments of `head` or `tail`. -/
def oldCount (args : List String) : Option (String × List String) :=
  match args with
  | a :: rest =>
    match a.toList with
    | c :: ds => if (c = '-' ∨ c = '+') ∧ !ds.isEmpty ∧ ds.all Char.isDigit then some (a, rest) else none
    | [] => none
  | [] => none

/-- `head` and `tail`: the first or last lines or bytes of each file. -/
def headTail (c : Call) (isHead : Bool) : Program Unit := do
  let (old, args) := match oldCount c.args with
    | some (a, rest) => (some a, rest)
    | none => (none, c.args)
  let spec : OptionSpec :=
    { withArg := ['n', 'c'], flags := ['q', 'v', 'f', 'F'],
      long := [("lines", 'n', true), ("bytes", 'c', true), ("quiet", 'q', false), ("silent", 'q', false),
      ("verbose", 'v', false), ("follow", 'f', false)] }
  match parseOptions spec args with
  | .error f => c.optionFault f
  | .ok (opts, files) =>
    let lastCount := (opts.filter (fun o => o.1 = 'n' ∨ o.1 = 'c')).getLast?
    let (bytes, countText) : Bool × String := match lastCount with
      | some ('c', v) => (true, v)
      | some (_, v) => (false, v)
      | none => match old with
        | some a =>
          if isHead then (false, a) else (false, if a.startsWith "+" then a else String.ofList (a.toList.drop 1))
        | none => (false, "10")
    let countText := if old.isSome ∧ isHead ∧ lastCount.isNone then String.ofList (countText.toList.drop 1) else countText
    match readCount countText (if isHead then '-' else '+') with
    | none =>
      Program.err (c.name ++ ": invalid number of " ++ (if bytes then "bytes" else "lines") ++ ": " ++ quoteName countText ++ "\n")
      Program.exitWith 1
    | some (n, fromOther) =>
      let files := operandsOrInput files
      let headers := (files.length > 1 ∨ hasOpt opts 'v') ∧ !hasOpt opts 'q'
      let mut first := true
      for f in files do
        match ← c.readOperand f with
        | .error e =>
          Program.err s!"{c.name}: cannot open {quoteName f} for reading: {e}\n"
          Program.exitWith 1
        | .ok text =>
          if headers then Program.out (fileHeader first f)
          first := false
          let part :=
            if bytes then
              let cs := text.toList
              if isHead then
                if fromOther then cs.take (cs.length - n) else cs.take n
              else if fromOther then cs.drop (n - 1) else cs.drop (cs.length - n)
            else
              let ls := linesOf text
              let chosen :=
                if isHead then
                  if fromOther then ls.take (ls.length - n) else ls.take n
                else if fromOther then ls.drop (n - 1) else ls.drop (ls.length - n)
              (String.join chosen).toList
          Program.out (String.ofList part)

/-- Whether a byte counts as a blank between words. -/
def isSpaceByte (c : Char) : Bool := c = ' ' ∨ (c.toNat ≥ 9 ∧ c.toNat ≤ 13)

/-- The counts of `wc` for a text: lines, words, bytes and the longest line. -/
def counts (text : String) : Nat × Nat × Nat × Nat :=
  let cs := text.toList
  let lines := cs.count '\n'
  let (words, _) := cs.foldl (fun (n, inWord) ch =>
    if isSpaceByte ch then (n, false) else if inWord then (n, true) else (n + 1, true)) (0, false)
  let longest := ((linesOf text).map (fun l => (chomp l).toList.foldl (fun w ch =>
    if ch = '\t' then w + 8 - w % 8 else w + 1) 0)).foldl max 0
  (lines, words, cs.length, longest)

/-- A number right-aligned to a width. -/
def padLeft (w : Nat) (s : String) : String :=
  String.ofList (List.replicate (w - s.length) ' ') ++ s

/-- `wc`: counts of lines, words and bytes of each file, and their total. -/
def wc (c : Call) : Program Unit := do
  let spec : OptionSpec :=
    { flags := "clmwL".toList,
      long := [("bytes", 'c', false), ("chars", 'm', false), ("lines", 'l', false), ("words", 'w', false),
      ("max-line-length", 'L', false)] }
  match parseOptions spec c.args with
  | .error f => c.optionFault f
  | .ok (opts, files) =>
    let has := hasOpt opts
    let any := has 'c' || has 'm' || has 'l' || has 'w' || has 'L'
    let (l, w, m, b, len) := if any then (has 'l', has 'w', has 'm', has 'c', has 'L') else (true, true, false, true, false)
    let named := !files.isEmpty
    let files := operandsOrInput files
    -- read everything first: the width depends on all of it
    let mut results : List (String × Option (Nat × Nat × Nat × Nat)) := []
    let mut regularTotal := 0
    let mut other := false
    let wd ← Program.world
    for f in files do
      match ← c.readOperand f with
      | .error e =>
        Program.warn c s!"{f}: {e}"
        results := results ++ [(f, none)]
      | .ok text =>
        if f = "-" then other := true
        else if kindAt wd (c.locate f) = some .file then regularTotal := regularTotal + text.length
        else other := true
        results := results ++ [(f, some (counts text))]
    let shownCount := [l, w, m, b, len].count true
    let width :=
      if shownCount = 1 ∧ files.length = 1 then 1
      else max (if other then 7 else 1) (toString regularTotal).length
    let line (cs : Nat × Nat × Nat × Nat) (name : Option String) : String :=
      let (nl, nw, nb, nlen) := cs
      let parts := (if l then [nl] else []) ++ (if w then [nw] else []) ++ (if m then [nb] else []) ++
        (if b then [nb] else []) ++ (if len then [nlen] else [])
      " ".intercalate (parts.map (fun n => padLeft width (toString n))) ++
        (match name with | some n => " " ++ n | none => "") ++ "\n"
    let good := results.filterMap (·.2)
    for (f, r) in results do
      match r with
      | some cs => Program.out (line cs (if named then some f else none))
      | none => pure ()
    if files.length > 1 then
      let total := good.foldl (fun (a1, a2, a3, a4) (x1, x2, x3, x4) => (a1 + x1, a2 + x2, a3 + x3, max a4 x4)) (0, 0, 0, 0)
      Program.out (line total (some "total"))

/-- The bytes of a class of `tr`. -/
def classBytes (name : String) : Option (List Char) :=
  let all := (List.range 256).map Char.ofNat
  let n := Char.toNat
  let sel (p : Char → Bool) := some (all.filter p)
  if name = "alpha" then sel (fun c => (65 ≤ n c ∧ n c ≤ 90) ∨ (97 ≤ n c ∧ n c ≤ 122))
  else if name = "upper" then sel (fun c => 65 ≤ n c ∧ n c ≤ 90)
  else if name = "lower" then sel (fun c => 97 ≤ n c ∧ n c ≤ 122)
  else if name = "digit" then sel (fun c => 48 ≤ n c ∧ n c ≤ 57)
  else if name = "alnum" then sel (fun c => (65 ≤ n c ∧ n c ≤ 90) ∨ (97 ≤ n c ∧ n c ≤ 122) ∨ (48 ≤ n c ∧ n c ≤ 57))
  else if name = "space" then sel (fun c => n c = 32 ∨ (9 ≤ n c ∧ n c ≤ 13))
  else if name = "blank" then sel (fun c => n c = 32 ∨ n c = 9)
  else if name = "punct" then sel (fun c => 33 ≤ n c ∧ n c ≤ 126 ∧ ¬((65 ≤ n c ∧ n c ≤ 90) ∨ (97 ≤ n c ∧ n c ≤ 122) ∨ (48 ≤ n c ∧ n c ≤ 57)))
  else if name = "print" then sel (fun c => 32 ≤ n c ∧ n c ≤ 126)
  else if name = "graph" then sel (fun c => 33 ≤ n c ∧ n c ≤ 126)
  else if name = "cntrl" then sel (fun c => n c < 32 ∨ n c = 127)
  else if name = "xdigit" then sel (fun c => (48 ≤ n c ∧ n c ≤ 57) ∨ (65 ≤ n c ∧ n c ≤ 70) ∨ (97 ≤ n c ∧ n c ≤ 102))
  else none

/-- One byte of a `tr` set with its escapes read, and the rest. -/
def setByte (cs : List Char) : Option (Char × List Char) :=
  match cs with
  | '\\' :: rest =>
    match rest with
    | [] => some ('\\', [])
    | d :: more =>
      if '0' ≤ d ∧ d ≤ '7' then
        let ds := (rest.takeWhile (fun x => '0' ≤ x ∧ x ≤ '7')).take 3
        let v := ds.foldl (fun acc x => acc * 8 + (x.toNat - 48)) 0
        let (ds, v) := if v > 255 then (ds.take 2, (ds.take 2).foldl (fun acc x => acc * 8 + (x.toNat - 48)) 0) else (ds, v)
        some (Char.ofNat v, rest.drop ds.length)
      else
        let e := if d = 'n' then '\n' else if d = 't' then '\t' else if d = 'r' then '\r'
          else if d = 'a' then Char.ofNat 7 else if d = 'b' then Char.ofNat 8
          else if d = 'f' then Char.ofNat 12 else if d = 'v' then Char.ofNat 11 else d
        some (e, more)
  | c :: rest => some (c, rest)
  | [] => none

/-- A piece of a `tr` set: bytes, or a byte repeated to fill the set (`[c*]`). -/
inductive SetPiece where
  | bytes (cs : List Char)
  | fill (c : Char)
  deriving Inhabited

/-- Reads a `tr` set: its pieces, or the fault's message. -/
def readSet (s : String) : Except String (List SetPiece) :=
  let rec go : Nat → List Char → List SetPiece → Except String (List SetPiece)
    | 0, _, acc => .ok acc.reverse
    | _ + 1, [], acc => .ok acc.reverse
    | n + 1, cs, acc =>
      match cs with
      | '[' :: ':' :: rest =>
        let name := rest.takeWhile (· ≠ ':')
        match rest.drop name.length with
        | ':' :: ']' :: after =>
          match classBytes (String.ofList name) with
          | some bs => go n after (.bytes bs :: acc)
          | none => .error s!"invalid character class {quoteName (String.ofList name)}"
        | _ => go n (cs.drop 1) (.bytes ['['] :: acc)
      | '[' :: '=' :: x :: '=' :: ']' :: rest => go n rest (.bytes [x] :: acc)
      | '[' :: rest =>
        match setByte rest with
        | some (x, '*' :: after) =>
          let ds := after.takeWhile Char.isDigit
          match after.drop ds.length with
          | ']' :: more =>
            let count := ds.foldl (fun a d => a * 10 + (d.toNat - 48)) 0
            if ds.isEmpty ∨ count = 0 then go n more (.fill x :: acc)
            else go n more (.bytes (List.replicate count x) :: acc)
          | _ => go n rest (.bytes ['['] :: acc)
        | _ => go n rest (.bytes ['['] :: acc)
      | _ =>
        match setByte cs with
        | some (lo, '-' :: more) =>
          match setByte more with
          | some (hi, after) =>
            if hi.toNat < lo.toNat then
              .error s!"range-endpoints of '{lo}-{hi}' are in reverse collating sequence order"
            else go n after (.bytes ((List.range (hi.toNat - lo.toNat + 1)).map (fun k => Char.ofNat (lo.toNat + k))) :: acc)
          | none => go n [] (.bytes [lo, '-'] :: acc)
        | some (x, rest) => go n rest (.bytes [x] :: acc)
        | none => .ok acc.reverse
  go (s.length + 1) s.toList []

/-- The bytes of a set, a fill piece filling it up to `len` bytes. -/
def setBytes (ps : List SetPiece) (len : Nat) : List Char :=
  let fixed := ps.foldl (fun n p => match p with | .bytes cs => n + cs.length | .fill _ => n) 0
  ps.flatMap (fun p => match p with
    | .bytes cs => cs
    | .fill x => List.replicate (len - fixed) x)

/-- `tr`: translates, deletes or squeezes bytes of standard input. -/
def tr (c : Call) : Program Unit := do
  let spec : OptionSpec :=
    { flags := "cCdst".toList,
      long := [("complement", 'c', false), ("delete", 'd', false), ("squeeze-repeats", 's', false),
      ("truncate-set1", 't', false)] }
  match parseOptions spec c.args with
  | .error f => c.optionFault f
  | .ok (opts, sets) =>
    let has := hasOpt opts
    let complement := has 'c' || has 'C'
    let delete := has 'd'
    let squeeze := has 's'
    let usage (msg : String) : Program Unit := do
      Program.err s!"{c.name}: {msg}\nTry '{c.name} --help' for more information.\n"
      Program.exitWith 1
    match sets with
    | [] => usage "missing operand"
    | s1 :: rest =>
      let needTwo := !delete ∧ !squeeze
      if needTwo ∧ rest.isEmpty then
        usage s!"missing operand after {quoteName s1}\nTwo strings must be given when translating."
      else if delete ∧ !squeeze ∧ !rest.isEmpty then
        usage ("extra operand " ++ quoteName (rest.headD "") ++ "\nOnly one string may be given when deleting without squeezing repeats.")
      else if rest.length > 1 then usage ("extra operand " ++ quoteName (rest.getD 1 ""))
      else
        match readSet s1, (rest.head?.map readSet).getD (.ok []) with
        | .error e, _ | _, .error e => do
          Program.err s!"{c.name}: {e}\n"
          Program.exitWith 1
        | .ok p1, .ok p2 =>
          let b1 := setBytes p1 0
          let b1 := if complement then ((List.range 256).map Char.ofNat).filter (fun x => !b1.contains x) else b1
          let input ← Program.readInput
          let cs := input.toList
          if delete then
            let kept := cs.filter (fun x => !b1.contains x)
            let sq := setBytes p2 0
            let kept := if squeeze then
                (kept.foldl (fun (acc : List Char) x => match acc with
                  | y :: _ => if x = y ∧ sq.contains x then acc else x :: acc
                  | [] => [x]) []).reverse
              else kept
            Program.out (String.ofList kept)
          else if rest.isEmpty then
            let squeezed := (cs.foldl (fun (acc : List Char) x => match acc with
              | y :: _ => if x = y ∧ b1.contains x then acc else x :: acc
              | [] => [x]) []).reverse
            Program.out (String.ofList squeezed)
          else
            let b2 := setBytes p2 b1.length
            let b1 := if has 't' then b1.take b2.length else b1
            let b2 := match b2.getLast? with
              | some last => b2 ++ List.replicate (b1.length - b2.length) last
              | none => b2
            let table := (b1.zip b2).reverse
            let mapped := cs.map (fun x => match table.lookup x with | some y => y | none => x)
            let mapped := if squeeze then
                (mapped.foldl (fun (acc : List Char) x => match acc with
                  | y :: _ => if x = y ∧ b2.contains x then acc else x :: acc
                  | [] => [x]) []).reverse
              else mapped
            Program.out (String.ofList mapped)

/-- `rev`: each line with its bytes reversed. -/
def rev (c : Call) : Program Unit := do
  for f in operandsOrInput c.args do
    match ← c.readOperand f with
    | .error e => Program.warn c s!"cannot open {f}: {e}"
    | .ok text =>
      for line in linesOf text do
        let body := chomp line
        Program.out (String.ofList body.toList.reverse ++ (if line.endsWith "\n" then "\n" else ""))

/-- `tac`: the lines of each file in reverse order. -/
def tac (c : Call) : Program Unit := do
  for f in operandsOrInput c.args do
    match ← c.readOperand f with
    | .error e => Program.warn c s!"failed to open {quoteName f} for reading: {e}"
    | .ok text =>
      let ls := linesOf text
      let ls := match ls.getLast? with
        | some l => if l.endsWith "\n" then ls else ls.dropLast ++ [l]
        | none => ls
      Program.out (String.join ls.reverse)

/-- The last part of a path, without a suffix, as `basename` gives it. -/
def baseName (p : String) (suffix : String) : String :=
  let cs := p.toList.reverse.dropWhile (· = '/')
  if cs.isEmpty then (if p.isEmpty then "" else "/")
  else
    let name := String.ofList (cs.takeWhile (· ≠ '/')).reverse
    if !suffix.isEmpty ∧ name.endsWith suffix ∧ name != suffix then
      String.ofList (name.toList.take (name.length - suffix.length))
    else name

/-- The directory part of a path, as `dirname` gives it. -/
def dirName (p : String) : String :=
  let cs := p.toList.reverse.dropWhile (· = '/')
  if cs.isEmpty then (if p.startsWith "/" then "/" else ".")
  else
    let rest := cs.dropWhile (· ≠ '/')
    if rest.isEmpty then "."
    else
      let d := rest.dropWhile (· = '/')
      if d.isEmpty then "/" else String.ofList d.reverse

/-- `basename`: the last part of a path. -/
def basename (c : Call) : Program Unit := do
  match parseOptions { withArg := ['s'], flags := ['a', 'z'], long := [("suffix", 's', true), ("multiple", 'a', false)] } c.args with
  | .error f => c.optionFault f
  | .ok (opts, ops) =>
    let multiple := hasOpt opts 'a' || hasOpt opts 's'
    let suffix := (optArg? opts 's').getD ""
    match ops with
    | [] =>
      Program.err s!"{c.name}: missing operand\nTry '{c.name} --help' for more information.\n"
      Program.exitWith 1
    | [p] => Program.out (baseName p suffix ++ "\n")
    | [p, s] =>
      if multiple then
        for q in ops do Program.out (baseName q suffix ++ "\n")
      else Program.out (baseName p s ++ "\n")
    | _ =>
      if multiple then
        for q in ops do Program.out (baseName q suffix ++ "\n")
      else
        Program.err (c.name ++ ": extra operand " ++ quoteName (ops.getD 2 "") ++ "\nTry '" ++ c.name ++ " --help' for more information.\n")
        Program.exitWith 1

/-- `dirname`: the directory part of each path. -/
def dirname (c : Call) : Program Unit := do
  match parseOptions { flags := ['z'] } c.args with
  | .error f => c.optionFault f
  | .ok (_, ops) =>
    if ops.isEmpty then
      Program.err s!"{c.name}: missing operand\nTry '{c.name} --help' for more information.\n"
      Program.exitWith 1
    else for p in ops do Program.out (dirName p ++ "\n")

/-- A decimal number of `seq`: its digits as a whole number, its places after the point, and
its sign. -/
def readDecimal (s : String) : Option (Int × Nat) :=
  let (neg, body) := match s.toList with
    | '-' :: rest => (true, rest)
    | '+' :: rest => (false, rest)
    | cs => (false, cs)
  let whole := body.takeWhile Char.isDigit
  let after := body.drop whole.length
  let (frac, ok) := match after with
    | '.' :: more => (more.takeWhile Char.isDigit, (more.dropWhile Char.isDigit).isEmpty)
    | [] => ([], true)
    | _ => ([], false)
  if !ok ∨ (whole.isEmpty ∧ frac.isEmpty) then none
  else
    let v : Nat := (whole ++ frac).foldl (fun a d => a * 10 + (d.toNat - 48)) 0
    some (if neg then -(v : Int) else v, frac.length)

/-- A scaled decimal as text with a number of places. -/
def decimalText (v : Int) (places : Nat) : String :=
  let digits := toString v.natAbs
  let digits := String.ofList (List.replicate (places + 1 - digits.length) '0') ++ digits
  let cut := digits.length - places
  (if v < 0 then "-" else "") ++ String.ofList (digits.toList.take cut) ++
    (if places > 0 then "." ++ String.ofList (digits.toList.drop cut) else "")

/-- `seq`: numbers from a first to a last by an increment. -/
def seq (c : Call) : Program Unit := do
  -- negative numbers are operands, not options
  let isNum := fun (a : String) => (readDecimal a).isSome
  let rec split : List String → List String → Bool × String × List String
    | [], ops => (false, "\n", ops.reverse)
    | a :: rest, ops =>
      if a = "-w" then let (_, s, o) := split rest ops; (true, s, o)
      else if a.startsWith "-s" ∧ a.length > 2 then let (w, _, o) := split rest ops; (w, String.ofList (a.toList.drop 2), o)
      else if a = "-s" then
        match rest with
        | s :: more => let (w, _, o) := split more ops; (w, s, o)
        | [] => (false, "\n", ops.reverse)
      else split rest (a :: ops)
  let (equal, sep, ops) := split c.args []
  let bad := ops.find? (fun a => !isNum a)
  match bad with
  | some a =>
    Program.err s!"{c.name}: invalid floating point argument: {quoteName a}\nTry '{c.name} --help' for more information.\n"
    Program.exitWith 1
  | none =>
    let nums := ops.filterMap readDecimal
    let (first, step, last) := match nums with
      | [l] => ((1, 0), (1, 0), l)
      | [f, l] => (f, (1, 0), l)
      | [f, s, l] => (f, s, l)
      | _ => ((1, 0), (1, 0), (0, 0))
    if nums.isEmpty ∨ nums.length > 3 then
      Program.err s!"{c.name}: missing operand\nTry '{c.name} --help' for more information.\n"
      Program.exitWith 1
    else if step.1 = 0 then
      Program.err (c.name ++ ": invalid Zero increment value: " ++ quoteName (ops.getD 1 "") ++ "\nTry '" ++ c.name ++ " --help' for more information.\n")
      Program.exitWith 1
    else
      let places := max first.2 step.2
      let scale (x : Int × Nat) : Int := x.1 * (Nat.pow 10 (places - x.2) : Nat)
      let lastScaled : Int := last.1 * (Nat.pow 10 places : Nat) / (Nat.pow 10 last.2 : Nat)
      let f := scale first
      let s := scale step
      let count : Nat := if s > 0 then (if lastScaled < f then 0 else ((lastScaled - f) / s).toNat + 1)
        else (if lastScaled > f then 0 else ((f - lastScaled) / (-s)).toNat + 1)
      let values := (List.range count).map (fun k => decimalText (f + s * Int.ofNat k) places)
      let width := (values.map String.length).foldl max 0
      let values := if equal then values.map (fun v =>
          if v.startsWith "-" then "-" ++ String.ofList (List.replicate (width - v.length) '0') ++ String.ofList (v.toList.drop 1)
          else String.ofList (List.replicate (width - v.length) '0') ++ v) else values
      if !values.isEmpty then Program.out (sep.intercalate values ++ "\n")

/-- `yes`: its arguments, or `y`, on line after line, as much as a pipe holds. -/
def yes (c : Call) : Program Unit := do
  let line := (if c.args.isEmpty then "y" else " ".intercalate c.args) ++ "\n"
  let count := 65536 / line.length + 1
  Program.out (String.join (List.replicate count line))

end Tools

end JobFlow.Shell
