/-!
# Name patterns

Jobs are listed by shell-style patterns on their names: `*` matches any run of characters,
`?` any one character, and `[...]` one character of a set, which may hold ranges `a-z`, may
be inverted by a leading `^`, and takes a `]` right after its opening as a member.
-/

namespace JobFlow

namespace Glob

/-- Reads a set's members against one character `c`, up to the closing `]`: answers whether
`c` is among them and the pattern after the `]`, or `none` when the set is never closed. -/
def setHas (c : Char) (prior : Option Char) (seen : Bool) : List Char → Option (Bool × List Char)
  | [] => none
  | ']' :: rest => some (seen, rest)
  | '-' :: ']' :: rest => some (seen || c == '-', rest)
  | '-' :: tail@(hi :: rest) =>
    match prior with
    | some lo => setHas c none (seen || (decide (lo ≤ c) && decide (c ≤ hi))) rest
    | none => setHas c (some '-') (seen || c == '-') tail
  | d :: rest => setHas c (some d) (seen || c == d) rest

/-- Whether a set matches a character: after an optional `^` that inverts it, a `]` first
is a member; answers the pattern after the set, or `none` when it fails or is never
closed. -/
def setMatch (c : Char) (body : List Char) : Option (List Char) :=
  let (invert, body) := match body with
    | '^' :: body => (true, body)
    | body => (false, body)
  let (seen, body) := match body with
    | ']' :: body => (c == ']', body)
    | body => (false, body)
  match setHas c none seen body with
  | some (seen, after) => if seen != invert then some after else none
  | none => none

/-- Whether a name matches a pattern, within `fuel` steps; every step consumes a part of
the pattern or of the name, so their total length plus one is enough. -/
def matchesWithin : Nat → List Char → List Char → Bool
  | 0, _, _ => false
  | _ + 1, [], name => name.isEmpty
  | fuel + 1, '*' :: ps, name =>
    matchesWithin fuel ps name ||
      (match name with
       | [] => false
       | _ :: rest => matchesWithin fuel ('*' :: ps) rest)
  | fuel + 1, '?' :: ps, name =>
    match name with
    | [] => false
    | _ :: rest => matchesWithin fuel ps rest
  | fuel + 1, '[' :: ps, name =>
    match name with
    | [] => false
    | c :: rest =>
      match setMatch c ps with
      | none => false
      | some after => matchesWithin fuel after rest
  | fuel + 1, p :: ps, name =>
    match name with
    | [] => false
    | c :: rest => c == p && matchesWithin fuel ps rest

/-- Whether a name matches a pattern. -/
def accepts (pattern name : String) : Bool :=
  matchesWithin (pattern.length + name.length + 1) pattern.toList name.toList

end Glob

end JobFlow
