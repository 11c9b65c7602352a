import JobFlow.Status
import JobFlow.Doc.Read

/-!
# The status of a master job

A master's status follows its children.
-/

namespace JobFlow

/-- How aborted children affect their master. -/
inductive AggregatePolicy where
  | failFast
  | collectAll
  deriving DecidableEq, Inhabited, Repr

namespace AggregatePolicy

/-- The written name of a policy. -/
def name : AggregatePolicy → String
  | .failFast => "fail_fast"
  | .collectAll => "collect_all"

/-- Reads a policy written as its name. -/
def read (path : String) (d : Doc) : DocRead AggregatePolicy := do
  let i ← Doc.readVariant ["fail_fast", "collect_all"] path d
  pure (if i = 0 then .failFast else .collectAll)

end AggregatePolicy

/-- The status a master should have given its children's statuses. -/
def aggregateStatus (p : AggregatePolicy) (children : List Status) : Status :=
  let anyAborted := children.contains .aborted
  if p = .failFast ∧ anyAborted then .aborted
  else if children.any (fun s => !s.isTerminal) then .running
  else if anyAborted then .notConverged
  else .finished

/-- Children of a master grouped by outcome. -/
structure ChildrenReport where
  finished : List Nat := []
  notConverged : List Nat := []
  aborted : List Nat := []
  pending : List Nat := []
  timedOut : Bool := false
  deriving DecidableEq, Inhabited, Repr

namespace ChildrenReport

/-- The report of children given as id and status, in order. -/
def ofRows (rows : List (Nat × Status)) : ChildrenReport :=
  rows.foldl (fun r row =>
    match row.2 with
    | .finished => { r with finished := r.finished ++ [row.1] }
    | .notConverged => { r with notConverged := r.notConverged ++ [row.1] }
    | .aborted => { r with aborted := r.aborted ++ [row.1] }
    | _ => { r with pending := r.pending ++ [row.1] }) {}

/-- Every child ended. -/
def isComplete (r : ChildrenReport) : Bool := r.pending.isEmpty

/-- The number of children. -/
def total (r : ChildrenReport) : Nat :=
  r.finished.length + r.notConverged.length + r.aborted.length + r.pending.length

/-- The report as a JSON object. -/
def toJson (r : ChildrenReport) : Json :=
  let ids (xs : List Nat) : Json := .arr (xs.map Json.ofNat)
  Json.mkObj [("finished", ids r.finished), ("not_converged", ids r.notConverged),
    ("aborted", ids r.aborted), ("pending", ids r.pending), ("timed_out", .bool r.timedOut),
    ("complete", .bool r.isComplete), ("total", .ofNat r.total)]

end ChildrenReport

end JobFlow
