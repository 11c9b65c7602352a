/-!
# File paths

Paths are texts of `/`-separated parts.
-/

namespace JobFlow

namespace Path

/-- One part of a path. -/
inductive Part where
  | root
  | current
  | parent
  | normal (name : String)
  deriving DecidableEq, Inhabited, Repr

/-- `b` below `a`; an absolute `b` stands alone. -/
def join (a b : String) : String :=
  if b.startsWith "/" then b
  else if a.isEmpty then b
  else if a.endsWith "/" then a ++ b
  else a ++ "/" ++ b

/-- The parts of a path. -/
def parts (p : String) : List Part :=
  let segs := (p.toList.splitOn '/').map String.ofList
  let lead : List Part := if p.startsWith "/" then [.root] else []
  let body := segs.filter (fun s => !s.isEmpty)
  let first? : Option Part :=
    match segs with
    | s :: _ => if s = "." then some .current else none
    | [] => none
  let named := body.filter (· != ".") |>.map (fun s => if s = ".." then Part.parent else Part.normal s)
  lead ++ (match first? with | some c => [c] | none => []) ++ named

/-- The names of the parts of a path that are plain names, in order. -/
def names (p : String) : List String :=
  (parts p).filterMap (fun | .normal n => some n | _ => none)

/-- The last part of a path, if it is a plain name. -/
def fileName? (p : String) : Option String :=
  match (parts p).getLast? with
  | some (.normal n) => some n
  | _ => none

/-- Drops from the end of a path text the separators and `.` names after its last part,
keeping a leading `/` and a leading `.`. -/
def trimEnd (cs : List Char) : Nat → List Char
  | 0 => cs
  | fuel + 1 =>
    match cs.reverse with
    | '/' :: rest => if rest.isEmpty then cs else trimEnd rest.reverse fuel
    | '.' :: '/' :: rest => trimEnd ('/' :: rest).reverse fuel
    | _ => cs

/-- The path a path is in: the text before its last part, with the separators and `.`
names before that part dropped; none for the root or an empty path. -/
def parent? (p : String) : Option String :=
  let t := trimEnd p.toList (p.length + 1)
  if t.isEmpty ∨ t = ['/'] then none
  else
    let rest := (t.reverse.dropWhile (· ≠ '/')).reverse
    some (String.ofList (trimEnd rest (rest.length + 1)))

end Path

end JobFlow
