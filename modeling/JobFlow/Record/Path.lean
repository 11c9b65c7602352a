import JobFlow.Error

/-!
# Paths inside a job record

A record is a tree addressed by `/`-separated paths; the root is the empty path.
-/

namespace JobFlow

namespace RecordPath

/-- The layout version of records written now. -/
def formatVersion : String := "1.0"

/-- The parts of a path between its `/`s, empty ones included. -/
def parts (p : String) : List String := (p.toList.splitOn '/').map String.ofList

/-- Checks one segment of a record path. -/
def validateSegment (s : String) : Outcome Unit :=
  if s.isEmpty ∨ s = "." ∨ s = ".." ∨ s.contains '/' then
    throw (.configuration s!"invalid record path segment '{s}'")
  else pure ()

/-- The normal form of a record path: its non-empty segments, each checked, joined by `/`. -/
def normalize (p : String) : Outcome String := do
  let segs := (parts p).filter (fun s => !s.isEmpty)
  for s in segs do validateSegment s
  pure ("/".intercalate segs)

/-- `name` below `parent`; below the root a name stands alone. -/
def join (parent name : String) : String :=
  if parent.isEmpty then name else parent ++ "/" ++ name

/-- The parent path and the last segment, split at the last `/`; `none` for the root. -/
def split? (p : String) : Option (String × String) :=
  if p.isEmpty then none
  else
    let cs := p.toList
    match (cs.reverse.span (· ≠ '/')) with
    | (lastRev, []) => some ("", String.ofList lastRev.reverse)
    | (lastRev, _ :: parentRev) => some (String.ofList parentRev.reverse, String.ofList lastRev.reverse)

/-- The major part of a version: the text before the first `.`. -/
def major (v : String) : String := (v.splitOn ".").headD v

/-- Whether records of format `v` can be read. -/
def compatible (v : String) : Bool := major v == major formatVersion

end RecordPath

/-- The members of a JSON object seen as a tree: members holding objects are groups, all
others are nodes, each list in key order. -/
def Json.partition (fields : List (String × Json)) : List String × List String :=
  (fields.filter (fun kv => !kv.2.isObj) |>.map (·.1), fields.filter (fun kv => kv.2.isObj) |>.map (·.1))

/-- The member `name` of a JSON object seen as a tree. -/
def Json.child (fields : List (String × Json)) (name : String) : Outcome Json :=
  match fields.lookup name with
  | some v => pure v
  | none => throw (.notFound s!"no entry '{name}'")

end JobFlow
