/-!
# Shell patterns

A pattern of `case`, of the trimming expansions `${x%p}` and `${x#p}`, and of pathname
expansion matches a whole text.
-/

namespace JobFlow.Shell

/-- A pattern in escaped form. -/
abbrev Pattern := List Char

namespace Pattern

/-- The escaped form of a piece of text: quoted text has every character made plain. -/
def ofText (quoted : Bool) (s : String) : Pattern :=
  if quoted then s.toList.flatMap (fun c => ['\\', c]) else s.toList

/-- A character class of a bracket expression, by its name. -/
def classTest (name : String) : Option (Char → Bool) :=
  let n : Char → Nat := Char.toNat
  let upper := fun c => 65 ≤ n c ∧ n c ≤ 90
  let lower := fun c => 97 ≤ n c ∧ n c ≤ 122
  let digit := fun c => 48 ≤ n c ∧ n c ≤ 57
  let alpha := fun c => upper c ∨ lower c
  let graph := fun c => 33 ≤ n c ∧ n c ≤ 126
  if name = "alnum" then some (fun c => alpha c ∨ digit c)
  else if name = "alpha" then some alpha
  else if name = "digit" then some digit
  else if name = "lower" then some lower
  else if name = "upper" then some upper
  else if name = "space" then some (fun c => n c = 32 ∨ (9 ≤ n c ∧ n c ≤ 13))
  else if name = "blank" then some (fun c => n c = 32 ∨ n c = 9)
  else if name = "cntrl" then some (fun c => n c < 32 ∨ n c = 127)
  else if name = "print" then some (fun c => 32 ≤ n c ∧ n c ≤ 126)
  else if name = "graph" then some graph
  else if name = "punct" then some (fun c => graph c ∧ ¬ alpha c ∧ ¬ digit c)
  else if name = "xdigit" then
    some (fun c => digit c ∨ (65 ≤ n c ∧ n c ≤ 70) ∨ (97 ≤ n c ∧ n c ≤ 102))
  else none

/-- A class name written `:name:]` at the head of the text after a `[`, its test and the text
after it. -/
def classAt (p : List Char) : Option ((Char → Bool) × List Char) :=
  match p with
  | ':' :: rest =>
    let name := rest.takeWhile (fun c => c ≠ ':' ∧ c ≠ ']')
    match rest.drop name.length with
    | ':' :: ']' :: after =>
      (classTest (String.ofList name)).map (fun t => (t, after))
    | _ => none
  | _ => none

/-- Reads the members of a bracket expression after its first character `c`, with the rest of
the pattern `p`: whether the character `x` is a member, and the pattern after the closing `]`;
`none` when no `]` closes it. -/
def setMembers (x : Char) : Nat → Char → List Char → Option (Bool × List Char)
  | 0, _, _ => none
  | fuel + 1, c, p =>
    -- the member that starts with `c`, and what follows it
    let member : Option (Bool × List Char) :=
      if c = '[' then
        match classAt p with
        | some (test, after) => some (test x, after)
        | none => none
      else none
    let member : Option (Bool × List Char) :=
      match member with
      | some m => some m
      | none =>
        let (lo, p) : Option Char × List Char :=
          if c = '\\' then
            match p with
            | d :: rest => (some d, rest)
            | [] => (none, [])
          else (some c, p)
        match lo with
        | none => none
        | some lo =>
          match p with
          | '-' :: d :: rest =>
            if d = ']' then some (x = lo, p)
            else
              let (hi, rest) := if d = '\\' then (rest.head?, rest.drop 1) else (some d, rest)
              match hi with
              | some hi => some (lo.toNat ≤ x.toNat ∧ x.toNat ≤ hi.toNat, rest)
              | none => none
          | _ => some (x = lo, p)
    match member with
    | none => none
    | some (hit, p) =>
      match p with
      | [] => none
      | ']' :: after => some (hit, after)
      | c :: rest =>
        match setMembers x fuel c rest with
        | some (more, after) => some (hit || more, after)
        | none => none

/-- Whether the character `x` matches the bracket expression whose text follows a `[`, and
the pattern after it; `none` when the `[` is a plain character. -/
def bracket (x : Char) (p : List Char) : Option (Bool × List Char) :=
  let (negated, p) := match p with
    | '!' :: rest => (true, rest)
    | _ => (false, p)
  match p with
  | [] => none
  | c :: rest =>
    match setMembers x (p.length + 1) c rest with
    | some (hit, after) => some (hit != negated, after)
    | none => none

/-- Whether a pattern matches a whole text. -/
def acceptsFrom : Nat → Pattern → List Char → Bool
  | 0, _, _ => false
  | _ + 1, [], s => s.isEmpty
  | fuel + 1, '*' :: p, s =>
    let p := p.dropWhile (· = '*')
    if p.isEmpty then true
    else
      let rec tryFrom : List Char → Nat → Bool
        | s, 0 => acceptsFrom fuel p s
        | s, k + 1 =>
          acceptsFrom fuel p s ||
            match s with
            | [] => false
            | _ :: rest => tryFrom rest k
      tryFrom s s.length
  | fuel + 1, '?' :: p, s =>
    match s with
    | [] => false
    | _ :: rest => acceptsFrom fuel p rest
  | fuel + 1, '[' :: p, s =>
    match s with
    | [] => false
    | x :: rest =>
      match bracket x p with
      | some (hit, after) => hit && acceptsFrom fuel after rest
      | none => x = '[' && acceptsFrom fuel p rest
  | fuel + 1, '\\' :: p, s =>
    let (c, p) := match p with
      | c :: rest => (c, rest)
      | [] => ('\\', [])
    match s with
    | x :: rest => x = c && acceptsFrom fuel p rest
    | [] => false
  | fuel + 1, c :: p, s =>
    match s with
    | x :: rest => x = c && acceptsFrom fuel p rest
    | [] => false

/-- Whether a pattern matches a whole text. -/
def accepts (p : Pattern) (s : String) : Bool := acceptsFrom (p.length + 1) p s.toList

/-- Whether a pattern has a character that matches other than itself: an unescaped `*` or
`?`, or a `[` that a `]` closes before the next `/`. -/
def hasMagic : Pattern → Bool
  | [] => false
  | '\\' :: _ :: rest => hasMagic rest
  | '*' :: _ | '?' :: _ => true
  | '[' :: rest =>
    let body := match rest with
      | '!' :: more => more
      | _ => rest
    let rec closes : List Char → Bool
      | [] => false
      | '/' :: _ => false
      | '\\' :: '/' :: _ => false
      | '\\' :: _ :: more => match more with
        | ']' :: _ => true
        | _ => closes more
      | _ :: more => match more with
        | ']' :: _ => true
        | _ => closes more
    closes body || hasMagic rest
  | _ :: rest => hasMagic rest

/-- The text a pattern stands for when taken literally: every escape removed. -/
def literal : Pattern → List Char
  | [] => []
  | '\\' :: c :: rest => c :: literal rest
  | c :: rest => c :: literal rest

/-- The text without its shortest or longest prefix that the pattern matches. -/
def trimPrefix (p : Pattern) (longest : Bool) (s : String) : String :=
  let cs := s.toList
  let cuts := List.range (cs.length + 1)
  let cuts := if longest then cuts.reverse else cuts
  match cuts.find? (fun i => acceptsFrom (p.length + 1) p (cs.take i)) with
  | some i => String.ofList (cs.drop i)
  | none => s

/-- The text without its shortest or longest suffix that the pattern matches. -/
def trimSuffix (p : Pattern) (longest : Bool) (s : String) : String :=
  let cs := s.toList
  let cuts := List.range (cs.length + 1)
  let cuts := if longest then cuts else cuts.reverse
  match cuts.find? (fun i => acceptsFrom (p.length + 1) p (cs.drop i)) with
  | some i => String.ofList (cs.take i)
  | none => s

end Pattern

end JobFlow.Shell
