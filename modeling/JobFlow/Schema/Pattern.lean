/-!
# Patterns

The regular expressions of a schema's `pattern`, `patternProperties` and `regex` format.
-/

namespace JobFlow

namespace Pattern

/-- What an assertion checks at a position. -/
inductive Anchor where
  | textStart
  | textEnd
  | lineStart
  | lineEnd
  | boundary
  | notBoundary
  | wordStart
  | wordEnd
  deriving Inhabited, Repr, DecidableEq

/-- One member of a character class. -/
inductive ClassItem where
  | single (c : Char)
  | range (lo hi : Char)
  | digit (neg : Bool)
  | word (neg : Bool)
  | space (neg : Bool)
  | named (name : String) (neg : Bool)
  | nested (items : List ClassItem) (neg : Bool)
  deriving Inhabited, Repr

/-- A parsed pattern. -/
inductive Node where
  | empty
  | char (c : Char) (fold : Bool)
  | any (dotAll : Bool)
  | cls (items : List ClassItem) (neg fold : Bool)
  | anchor (a : Anchor)
  | seq (a b : Node)
  | alt (a b : Node)
  | rep (n : Node) (min : Nat) (max : Option Nat) (greedy : Bool)
  | group (index : Nat) (n : Node)
  | backref (index : Nat)
  | look (n : Node) (behind neg : Bool)
  | atomic (n : Node)
  deriving Inhabited, Repr

/-- An ASCII word character. -/
def isWord (c : Char) : Bool := c.isAlphanum || c == '_'

/-- A blank in the sense of ECMA-262. -/
def isSpace (c : Char) : Bool :=
  c == ' ' || c == '\t' || c == '\n' || c == '\r' || c.toNat == 11 || c.toNat == 12 ||
    c.toNat == 0xA0 || c.toNat == 0x1680 || (0x2000 ≤ c.toNat && c.toNat ≤ 0x200A) ||
    c.toNat == 0x2028 || c.toNat == 0x2029 || c.toNat == 0x202F || c.toNat == 0x205F ||
    c.toNat == 0x3000 || c.toNat == 0xFEFF

/-- A letter beyond ASCII, by the blocks of the common scripts. -/
def isWideLetter (c : Char) : Bool :=
  let n := c.toNat
  (0xC0 ≤ n && n ≤ 0x24F && n != 0xD7 && n != 0xF7) || (0x370 ≤ n && n ≤ 0x3FF && n != 0x37E && n != 0x387) ||
    (0x400 ≤ n && n ≤ 0x52F) || (0x5D0 ≤ n && n ≤ 0x5EA) || (0x620 ≤ n && n ≤ 0x64A) ||
    (0x3041 ≤ n && n ≤ 0x30FF) || (0x4E00 ≤ n && n ≤ 0x9FFF) || (0xAC00 ≤ n && n ≤ 0xD7A3)

/-- Whether a character is in a named class: a POSIX class or a Unicode category. -/
def namedTakes (name : String) (c : Char) : Bool :=
  let n := c.toNat
  match name with
  | "alnum" => c.isAlphanum
  | "alpha" => c.isAlpha
  | "ascii" => n < 0x80
  | "blank" => c == ' ' || c == '\t'
  | "cntrl" => n < 0x20 || n == 0x7F
  | "digit" => c.isDigit
  | "graph" => 0x21 ≤ n && n ≤ 0x7E
  | "lower" => c.isLower
  | "print" => 0x20 ≤ n && n ≤ 0x7E
  | "punct" => 0x21 ≤ n && n ≤ 0x7E && !c.isAlphanum
  | "space" => c == ' ' || (9 ≤ n && n ≤ 13)
  | "upper" => c.isUpper
  | "word" => isWord c
  | "xdigit" => c.isDigit || ('a' ≤ c && c ≤ 'f') || ('A' ≤ c && c ≤ 'F')
  | "L" => c.isAlpha || isWideLetter c
  | "Lu" => c.isUpper || (0xC0 ≤ n && n ≤ 0xDE && n != 0xD7)
  | "Ll" => c.isLower || (0xDF ≤ n && n ≤ 0xFF && n != 0xF7)
  | "N" => c.isDigit || n == 0xB2 || n == 0xB3 || n == 0xB9 || (0xBC ≤ n && n ≤ 0xBE)
  | "Nd" => c.isDigit
  | "P" => (0x21 ≤ n && n ≤ 0x7E && !c.isAlphanum && "$+<=>^`|~".toList.all (· != c)) || n == 0xA1 || n == 0xA7 || n == 0xAB || n == 0xB6 || n == 0xB7 || n == 0xBB || n == 0xBF
  | "S" => "$+<=>^`|~".toList.any (· == c) || n == 0xA2 || n == 0xA3 || n == 0xA4 || n == 0xA5 || n == 0xA6 || n == 0xA8 || n == 0xA9 || n == 0xAC || n == 0xAE || n == 0xAF || n == 0xB0 || n == 0xB1 || n == 0xB4 || n == 0xB8 || n == 0xD7 || n == 0xF7
  | "Z" => n == 0x20 || n == 0xA0 || n == 0x1680 || (0x2000 ≤ n && n ≤ 0x200A) || n == 0x2028 || n == 0x2029 || n == 0x202F || n == 0x205F || n == 0x3000
  | "Zs" => n == 0x20 || n == 0xA0 || n == 0x1680 || (0x2000 ≤ n && n ≤ 0x200A) || n == 0x202F || n == 0x205F || n == 0x3000
  | "Any" => true
  | "White_Space" => (9 ≤ n && n ≤ 13) || n == 0x20 || n == 0x85 || n == 0xA0 || n == 0x1680 || (0x2000 ≤ n && n ≤ 0x200A) || n == 0x2028 || n == 0x2029 || n == 0x202F || n == 0x205F || n == 0x3000
  | _ => false

/-- The category a Unicode class name stands for, if it is one this reader knows. -/
def unicodeName (name : String) : Option String :=
  match name with
  | "L" | "Letter" | "Alphabetic" | "Alpha" => some "L"
  | "Lu" | "Uppercase_Letter" | "Uppercase" | "Upper" => some "Lu"
  | "Ll" | "Lowercase_Letter" | "Lowercase" | "Lower" => some "Ll"
  | "N" | "Number" => some "N"
  | "Nd" | "Decimal_Number" | "Digit" => some "Nd"
  | "P" | "Punctuation" | "punct" => some "P"
  | "S" | "Symbol" => some "S"
  | "Z" | "Separator" => some "Z"
  | "Zs" | "Space_Separator" => some "Zs"
  | "Any" => some "Any"
  | "ASCII" => some "ascii"
  | "White_Space" | "Whitespace" | "WSpace" | "space" => some "White_Space"
  | _ => none

/-- The POSIX class names. -/
def posixNames : List String :=
  ["alnum", "alpha", "ascii", "blank", "cntrl", "digit", "graph", "lower", "print", "punct", "space",
    "upper", "word", "xdigit"]

mutual
/-- Whether a class member takes a character. -/
def ClassItem.takes (c : Char) : ClassItem → Bool
  | .single d => c == d
  | .range lo hi => lo ≤ c && c ≤ hi
  | .digit neg => c.isDigit != neg
  | .word neg => isWord c != neg
  | .space neg => isSpace c != neg
  | .named name neg => namedTakes name c != neg
  | .nested items neg => takesAny c items != neg
/-- Whether some member of a list takes a character. -/
def takesAny (c : Char) : List ClassItem → Bool
  | [] => false
  | i :: rest => i.takes c || takesAny c rest
end

/-- Whether a class takes a character, with case folded when `fold`. -/
def classHas (fold : Bool) (items : List ClassItem) (neg : Bool) (c : Char) : Bool :=
  (takesAny c items || (fold && (takesAny c.toLower items || takesAny c.toUpper items))) != neg

/-- Whether two characters are equal, with case folded when `fold`. -/
def charEq (fold : Bool) (a b : Char) : Bool := a == b || (fold && a.toLower == b.toLower)

/-- The flags of a pattern: case folded, `^` and `$` at lines, `.` taking a newline,
repetition lazy unless marked, blanks and comments skipped. -/
structure Flags where
  fold : Bool := false
  multiLine : Bool := false
  dotAll : Bool := false
  swapGreed : Bool := false
  verbose : Bool := false
  deriving Inhabited, Repr

/-- The text being read, as characters. -/
abbrev Input := Array Char

/-- The pattern text left to read. -/
abbrev Reader := List Char

/-- What is read while parsing: the text left, the groups opened so far and their names. -/
structure Scan where
  rest : Reader
  groups : Nat := 0
  names : List String := []
  deriving Inhabited

/-- The value of a hexadecimal digit. -/
def hexDigit (c : Char) : Option Nat :=
  if c.isDigit then some (c.toNat - 48)
  else if 'a' ≤ c ∧ c ≤ 'f' then some (c.toNat - 87)
  else if 'A' ≤ c ∧ c ≤ 'F' then some (c.toNat - 55)
  else none

/-- The value of hexadecimal digits. -/
def hexValue (cs : List Char) : Option Nat :=
  cs.foldl (fun acc c => acc.bind fun v => (hexDigit c).map (v * 16 + ·)) (some 0)

/-- The character of a code point, if it is a scalar value. -/
def scalar (v : Nat) : Option Char :=
  if v ≤ 0x10FFFF ∧ ¬(0xD800 ≤ v ∧ v ≤ 0xDFFF) then some (Char.ofNat v) else none

/-- A code point written as `{hex}` or as exactly `n` hexadecimal digits. -/
def hexCode (n : Nat) : Reader → Option (Char × Reader)
  | '{' :: r =>
    let ds := r.takeWhile (· != '}')
    match r.dropWhile (· != '}') with
    | '}' :: rest =>
      if ds.isEmpty || ds.length > 8 then none else (hexValue ds).bind scalar |>.map (·, rest)
    | _ => none
  | r =>
    let ds := r.take n
    if ds.length < n then none else (hexValue ds).bind scalar |>.map (·, r.drop n)

/-- What an escape stands for. -/
inductive Escaped where
  | char (c : Char)
  | item (i : ClassItem)
  | anchor (a : Anchor)
  | backref (n : Nat)
  deriving Inhabited

/-- Whether an ASCII character may be escaped to stand for itself. -/
def escapable (c : Char) : Bool := c.toNat < 0x80 && !c.isAlphanum && c != '<' && c != '>'

/-- A Unicode class after `\p` or `\P`: one letter or a name in braces. -/
def unicodeClass (neg : Bool) : Reader → Option (Escaped × Reader)
  | '{' :: r =>
    let name := r.takeWhile (· != '}')
    match r.dropWhile (· != '}') with
    | '}' :: rest =>
      let name := String.ofList name
      let (name, neg) := if name.startsWith "^" then (String.ofList (name.toList.drop 1), !neg) else (name, neg)
      (unicodeName name).map fun n => (.item (.named n neg), rest)
    | _ => none
  | c :: rest => (unicodeName (String.singleton c)).map fun n => (.item (.named n neg), rest)
  | [] => none

/-- An escape after a backslash, inside a class or not, and what is left. -/
def escape (inClass : Bool) : Reader → Option (Escaped × Reader)
  | 'd' :: r => some (.item (.digit false), r)
  | 'D' :: r => some (.item (.digit true), r)
  | 'w' :: r => some (.item (.word false), r)
  | 'W' :: r => some (.item (.word true), r)
  | 's' :: r => some (.item (.space false), r)
  | 'S' :: r => some (.item (.space true), r)
  | 'p' :: r => unicodeClass false r
  | 'P' :: r => unicodeClass true r
  | 'n' :: r => some (.char '\n', r)
  | 't' :: r => some (.char '\t', r)
  | 'r' :: r => some (.char '\r', r)
  | 'f' :: r => some (.char (Char.ofNat 12), r)
  | 'v' :: r => some (.char (Char.ofNat 11), r)
  | 'a' :: r => some (.char (Char.ofNat 7), r)
  | 'x' :: r => (hexCode 2 r).map fun (c, rest) => (.char c, rest)
  | 'u' :: r => (hexCode 4 r).map fun (c, rest) => (.char c, rest)
  | 'U' :: r => (hexCode 8 r).map fun (c, rest) => (.char c, rest)
  | 'c' :: x :: r => if x.isAlpha then some (.char (Char.ofNat (x.toNat % 32)), r) else none
  | 'b' :: r => if inClass then none else some (.anchor .boundary, r)
  | 'B' :: r => if inClass then none else some (.anchor .notBoundary, r)
  | 'A' :: r => if inClass then none else some (.anchor .textStart, r)
  | 'z' :: r => if inClass then none else some (.anchor .textEnd, r)
  | '<' :: r => if inClass then none else some (.anchor .wordStart, r)
  | '>' :: r => if inClass then none else some (.anchor .wordEnd, r)
  | c :: r =>
    if c.isDigit then
      if inClass then none
      else
        let ds := (c :: r).takeWhile Char.isDigit
        some (.backref (ds.foldl (fun n d => n * 10 + (d.toNat - 48)) 0), (c :: r).drop ds.length)
    else if escapable c then some (.char c, r)
    else none
  | [] => none

/-- Skips blanks and `#` comments, as the verbose flag asks. -/
def skipBlank (verbose : Bool) (cs : Reader) : Reader :=
  if !verbose then cs
  else
    let rec go : Nat → Reader → Reader
      | 0, cs => cs
      | fuel + 1, c :: rest =>
        if c.isWhitespace then go fuel rest
        else if c == '#' then go fuel (rest.dropWhile (· != '\n'))
        else c :: rest
      | _, [] => []
    go cs.length cs

/-- One member of a class that may end a range: a character, or a class shorthand. -/
def classPrimitive (r : Reader) : Option (Sum ClassItem Char × Reader) :=
  match r with
  | '\\' :: rest =>
    match escape true rest with
    | some (.char c, rest) => some (.inr c, rest)
    | some (.item i, rest) => some (.inl i, rest)
    | _ => none
  | c :: rest => some (.inr c, rest)
  | [] => none

/-- A POSIX class `[:name:]` or `[:^name:]` after its `[:`, if the name is one. -/
def posixClass (r : Reader) : Option (ClassItem × Reader) :=
  let (neg, r) := match r with
    | '^' :: r => (true, r)
    | r => (false, r)
  let name := String.ofList (r.takeWhile Char.isAlpha)
  match r.dropWhile Char.isAlpha with
  | ':' :: ']' :: rest => if posixNames.contains name then some (.named name neg, rest) else none
  | _ => none

mutual
/-- A class after its `[`: an optional `^`, members, and the closing `]`. -/
def classOpen (fuel : Nat) (r : Reader) : Option (ClassItem × Reader) :=
  match fuel with
  | 0 => none
  | fuel + 1 =>
    let (neg, r) := match r with
      | '^' :: r => (true, r)
      | r => (false, r)
    let (first, r) := match r with
      | ']' :: r => ([ClassItem.single ']'], r)
      | r => ([], r)
    match classItems fuel first r with
    | some (items, rest) => some (.nested items neg, rest)
    | none => none
/-- The members of a class up to its closing `]`, after `acc`. -/
def classItems (fuel : Nat) (acc : List ClassItem) (r : Reader) : Option (List ClassItem × Reader) :=
  match fuel with
  | 0 => none
  | fuel + 1 =>
    match r with
    | [] => none
    | ']' :: rest => some (acc.reverse, rest)
    | '[' :: rest =>
      let posix := match rest with
        | ':' :: more => posixClass more
        | _ => none
      match posix with
      | some (item, rest) => classItems fuel (item :: acc) rest
      | none =>
        match classOpen fuel rest with
        | some (item, rest) => classItems fuel (item :: acc) rest
        | none => none
    | _ =>
      match classPrimitive r with
      | none => none
      | some (.inl item, rest) =>
        match rest with
        | '-' :: c :: _ =>
          if c == ']' || c == '-' then classItems fuel (item :: acc) rest else none
        | _ => classItems fuel (item :: acc) rest
      | some (.inr lo, rest) =>
        match rest with
        | '-' :: c :: more =>
          if c == ']' || c == '-' then classItems fuel (.single lo :: acc) rest
          else
            match classPrimitive (c :: more) with
            | some (.inr hi, rest) => if lo ≤ hi then classItems fuel (.range lo hi :: acc) rest else none
            | _ => none
        | _ => classItems fuel (.single lo :: acc) rest
end

/-- Decimal digits at the front, with their value. -/
def number (r : Reader) : Option (Nat × Reader) :=
  let ds := r.takeWhile Char.isDigit
  if ds.isEmpty then none else some (ds.foldl (fun n c => n * 10 + (c.toNat - 48)) 0, r.drop ds.length)

/-- A counted repetition `{n}`, `{n,}` or `{n,m}` after its `{`. -/
def counted (r : Reader) : Option ((Nat × Option Nat) × Reader) := do
  let (lo, r) ← number r
  match r with
  | '}' :: r => some ((lo, some lo), r)
  | ',' :: '}' :: r => some ((lo, none), r)
  | ',' :: r =>
    let (hi, r) ← number r
    match r with
    | '}' :: r => if lo ≤ hi then some ((lo, some hi), r) else none
    | _ => none
  | _ => none

/-- Whether a text starts with a repetition operator. -/
def startsRepeat : Reader → Bool
  | c :: _ => c == '*' || c == '+' || c == '?' || c == '{'
  | [] => false

/-- The repetitions written after an atom. -/
def quantifiers (fl : Flags) (atom : Node) : Nat → Reader → Option (Node × Reader)
  | 0, r => some (atom, r)
  | fuel + 1, r =>
    let r := skipBlank fl.verbose r
    let q : Option ((Nat × Option Nat) × Reader) := match r with
      | '*' :: rest => some ((0, none), rest)
      | '+' :: rest => some ((1, none), rest)
      | '?' :: rest => some ((0, some 1), rest)
      | '{' :: rest => counted rest
      | _ => none
    match q with
    | none => if startsRepeat r then none else some (atom, r)
    | some ((lo, hi), rest) =>
      let (lazy, rest) := match rest with
        | '?' :: more => (true, more)
        | _ => (false, rest)
      quantifiers fl (.rep atom lo hi (lazy == fl.swapGreed)) fuel rest

/-- The flags `(?flags)` or `(?flags:` sets, read up to its `)` or `:`; answers the flags and
whether a group follows. -/
def readFlags (fl : Flags) : Reader → Option (Flags × Bool × Reader) :=
  let rec go (fl : Flags) (neg : Bool) (seen : List Char) (any : Bool) : Reader → Option (Flags × Bool × Reader)
    | [] => none
    | ')' :: rest => if !any || (neg && seen.getLast? == some '-') then none else some (fl, false, rest)
    | ':' :: rest => if neg && seen.getLast? == some '-' then none else some (fl, true, rest)
    | '-' :: rest => if neg then none else go fl true (seen ++ ['-']) any rest
    | c :: rest =>
      if seen.contains c then none
      else
        let on := !neg
        let next : Option Flags := match c with
          | 'i' => some { fl with fold := on }
          | 'm' => some { fl with multiLine := on }
          | 's' => some { fl with dotAll := on }
          | 'U' => some { fl with swapGreed := on }
          | 'x' => some { fl with verbose := on }
          | 'u' | 'R' => some fl
          | _ => none
        match next with
        | some fl => go fl neg (seen ++ [c]) true rest
        | none => none
  go fl false [] false

/-- Whether a character may begin a group name. -/
def nameStart (c : Char) : Bool := c.isAlpha || c == '_' || c.toNat ≥ 0x80

/-- Whether a character may continue a group name. -/
def nameChar (c : Char) : Bool := c.isAlphanum || c == '_' || c == '.' || c == '[' || c == ']' || c.toNat ≥ 0x80

/-- A group name and the text after its `>`. -/
def groupName (r : Reader) : Option (String × Reader) :=
  let name := r.takeWhile nameChar
  match name, r.drop name.length with
  | c :: _, '>' :: rest => if nameStart c then some (String.ofList name, rest) else none
  | _, _ => none

/-- An atom joined to what is before it. -/
def joinSeq (acc a : Node) : Node :=
  match acc with
  | .empty => a
  | _ => .seq acc a

mutual
/-- Alternatives separated by `|`, up to a `)` or the end; flags set in one carry to the next. -/
def alternatives (fuel : Nat) (fl : Flags) (st : Scan) : Option (Node × Flags × Scan) :=
  match fuel with
  | 0 => none
  | fuel + 1 => do
    let (first, fl, st) ← sequence fuel fl .empty st
    match st.rest with
    | '|' :: rest =>
      let (others, fl, st) ← alternatives fuel fl { st with rest := rest }
      some (.alt first others, fl, st)
    | _ => some (first, fl, st)
/-- Atoms one after another, up to a `|`, a `)` or the end. -/
def sequence (fuel : Nat) (fl : Flags) (acc : Node) (st : Scan) : Option (Node × Flags × Scan) :=
  match fuel with
  | 0 => none
  | fuel + 1 =>
    let st := { st with rest := skipBlank fl.verbose st.rest }
    match st.rest with
    | [] => some (acc, fl, st)
    | '|' :: _ => some (acc, fl, st)
    | ')' :: _ => some (acc, fl, st)
    | _ => do
      let (a, fl', st) ← atom fuel fl st
      match a with
      | none =>
        if startsRepeat (skipBlank fl'.verbose st.rest) then none else sequence fuel fl' acc st
      | some a =>
        let (a, rest) ← quantifiers fl' a (st.rest.length + 1) st.rest
        sequence fuel fl' (joinSeq acc a) { st with rest := rest }
/-- A group's body and its `)`, with the flags restored after it. -/
def groupBody (fuel : Nat) (fl : Flags) (st : Scan) : Option (Node × Scan) :=
  match fuel with
  | 0 => none
  | fuel + 1 => do
    let (n, _, st) ← alternatives fuel fl st
    match st.rest with
    | ')' :: rest => some (n, { st with rest := rest })
    | _ => none
/-- One atom: a group, a class, an anchor, an escape or a character; a group that only sets
flags is no atom, and answers the new flags. -/
def atom (fuel : Nat) (fl : Flags) (st : Scan) : Option (Option Node × Flags × Scan) :=
  match fuel with
  | 0 => none
  | fuel + 1 =>
    let at_ (r : Reader) : Scan := { st with rest := r }
    let wrap (r : Reader) (f : Node → Node) : Option (Option Node × Flags × Scan) := do
      let (n, st) ← groupBody fuel fl (at_ r)
      some (some (f n), fl, st)
    match st.rest with
    | '(' :: '?' :: r =>
      match r with
      | ':' :: r => wrap r id
      | '=' :: r => wrap r (fun n => .look n false false)
      | '!' :: r => wrap r (fun n => .look n false true)
      | '<' :: '=' :: r => wrap r (fun n => .look n true false)
      | '<' :: '!' :: r => wrap r (fun n => .look n true true)
      | '>' :: r => wrap r .atomic
      | 'P' :: '<' :: r | '<' :: r => do
        let (name, r) ← groupName r
        if st.names.contains name then none
        let index := st.groups + 1
        let (n, st') ← groupBody fuel fl { rest := r, groups := index, names := name :: st.names }
        some (some (.group index n), fl, st')
      | r => do
        let (fl', group, r) ← readFlags fl r
        if group then
          let (n, st') ← groupBody fuel fl' (at_ r)
          some (some n, fl, st')
        else some (none, fl', at_ r)
    | '(' :: r => do
      let index := st.groups + 1
      let (n, st') ← groupBody fuel fl { st with rest := r, groups := index }
      some (some (.group index n), fl, st')
    | '[' :: r => do
      let (item, rest) ← classOpen (r.length + 1) r
      match item with
      | .nested items neg => some (some (.cls items neg fl.fold), fl, at_ rest)
      | _ => none
    | '.' :: r => some (some (.any fl.dotAll), fl, at_ r)
    | '^' :: r => some (some (.anchor (if fl.multiLine then .lineStart else .textStart)), fl, at_ r)
    | '$' :: r => some (some (.anchor (if fl.multiLine then .lineEnd else .textEnd)), fl, at_ r)
    | '\\' :: r => do
      let (e, rest) ← escape false r
      let n : Node := match e with
        | .char c => .char c fl.fold
        | .item i => .cls [i] false fl.fold
        | .anchor a => .anchor a
        | .backref k => .backref k
      some (some n, fl, at_ rest)
    | c :: r =>
      if c == '*' || c == '+' || c == '?' || c == '{' || c == ')' then none
      else some (some (.char c fl.fold), fl, at_ r)
    | [] => none
end

/-- The number of characters a node always matches, if it is fixed. -/
def Node.width : Node → Option Nat
  | .empty | .anchor _ | .look _ _ _ => some 0
  | .char _ _ | .any _ | .cls _ _ _ => some 1
  | .seq a b => do pure ((← a.width) + (← b.width))
  | .alt a b => do
    let x ← a.width
    let y ← b.width
    if x == y then some x else none
  | .rep a lo hi _ => do
    let w ← a.width
    if hi == some lo then some (w * lo) else none
  | .group _ a | .atomic a => a.width
  | .backref _ => none

/-- Whether every back-reference names a group of the pattern and every lookbehind has a
fixed width. -/
def Node.wellFormed (groups : Nat) : Node → Bool
  | .backref k => 1 ≤ k && k ≤ groups
  | .seq a b | .alt a b => a.wellFormed groups && b.wellFormed groups
  | .rep a _ _ _ | .group _ a | .atomic a => a.wellFormed groups
  | .look a behind _ => a.wellFormed groups && (!behind || a.width.isSome)
  | _ => true

/-- A pattern read from its text, if it is well formed. -/
def parse (text : String) : Option Node :=
  match alternatives (4 * text.length + 8) {} { rest := text.toList } with
  | some (n, _, st) => if st.rest.isEmpty && n.wellFormed st.groups then some n else none
  | none => none

/-- Whether the characters on both sides of a position are word characters. -/
def sides (s : Input) (i : Nat) : Bool × Bool :=
  (i > 0 && isWord (s.getD (i - 1) ' '), i < s.size && isWord (s.getD i ' '))

/-- Whether an assertion holds at a position. -/
def holds (s : Input) (i : Nat) : Anchor → Bool
  | .textStart => i == 0
  | .textEnd => i == s.size
  | .lineStart => i == 0 || s.getD (i - 1) ' ' == '\n'
  | .lineEnd => i == s.size || s.getD i ' ' == '\n'
  | .boundary => (sides s i).1 != (sides s i).2
  | .notBoundary => (sides s i).1 == (sides s i).2
  | .wordStart => !(sides s i).1 && (sides s i).2
  | .wordEnd => (sides s i).1 && !(sides s i).2

/-- The groups captured so far: index, start and end, the latest first. -/
abbrev Captures := List (Nat × Nat × Nat)

/-- Whether the text at `i` repeats the text from `a` to `b`. -/
def repeats (s : Input) (a b i : Nat) : Bool :=
  i + (b - a) ≤ s.size && (List.range (b - a)).all (fun t => s.getD (a + t) ' ' == s.getD (i + t) ' ')

/-- Matches `n` at `i` with the captures `caps`, and hands where it stops to the
continuation `k`; answers the first answer of `k`, trying alternatives in order. -/
def run {α : Type} (s : Input) : Nat → Node → Nat → Captures → (Nat → Captures → Option α) → Option α
  | 0, _, _, _, _ => none
  | fuel + 1, n, i, caps, k =>
    match n with
    | .empty => k i caps
    | .char c fold => if i < s.size && charEq fold (s.getD i ' ') c then k (i + 1) caps else none
    | .any dotAll => if i < s.size && (dotAll || s.getD i ' ' != '\n') then k (i + 1) caps else none
    | .cls items neg fold => if i < s.size && classHas fold items neg (s.getD i ' ') then k (i + 1) caps else none
    | .anchor a => if holds s i a then k i caps else none
    | .seq a b => run s fuel a i caps (fun j c => run s fuel b j c k)
    | .alt a b => (run s fuel a i caps k).orElse (fun _ => run s fuel b i caps k)
    | .group index a => run s fuel a i caps (fun j c => k j ((index, i, j) :: c))
    | .backref index =>
      match caps.find? (·.1 == index) with
      | some (_, a, b) => if repeats s a b i then k (i + (b - a)) caps else none
      | none => none
    | .look a behind neg =>
      let found : Option Captures :=
        if behind then
          match a.width with
          | some w => if w ≤ i then run s fuel a (i - w) caps (fun j c => if j == i then some c else none) else none
          | none => none
        else run s fuel a i caps (fun _ c => some c)
      if neg then (if found.isSome then none else k i caps)
      else match found with
        | some c => k i c
        | none => none
    | .atomic a =>
      match run s fuel a i caps (fun j c => some (j, c)) with
      | some (j, c) => k j c
      | none => none
    | .rep a lo hi greedy =>
      if lo > 0 then run s fuel a i caps (fun j c => run s fuel (.rep a (lo - 1) (hi.map (· - 1)) greedy) j c k)
      else if hi == some 0 then k i caps
      else
        let more := fun (_ : Unit) =>
          run s fuel a i caps (fun j c => if j == i then none else run s fuel (.rep a 0 (hi.map (· - 1)) greedy) j c k)
        if greedy then (more ()).orElse (fun _ => k i caps) else (k i caps).orElse more

/-- The size of a pattern, for the fuel of a match. -/
def Node.size : Node → Nat
  | .seq a b | .alt a b => a.size + b.size + 1
  | .rep a lo _ _ => a.size * (lo + 1) + 1
  | .look a _ _ | .group _ a | .atomic a => a.size + 1
  | _ => 1

/-- Whether a pattern matches some part of a text. -/
def Node.search (n : Node) (text : String) : Bool :=
  let s := text.toList.toArray
  let fuel := (s.size + 2) * (n.size + 2) * 8
  (List.range (s.size + 1)).any (fun i => (run s fuel n i [] (fun _ _ => some ())).isSome)

end Pattern

end JobFlow
