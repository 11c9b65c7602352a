/-!
# Job status

The eleven statuses a job moves through and the graph of allowed moves.
-/

namespace JobFlow

/-- The status of a job, kept in its record and in the index. -/
inductive Status where
  | initialized
  | created
  | submitted
  | running
  | collect
  | finished
  | aborted
  | notConverged
  | suspended
  | refresh
  | busy
  deriving DecidableEq, Inhabited, Repr

namespace Status

/-- Every status, in declaration order. -/
def all : List Status :=
  [.initialized, .created, .submitted, .running, .collect, .finished, .aborted, .notConverged,
    .suspended, .refresh, .busy]

/-- The name of a status as it is written and stored. -/
def name : Status → String
  | .initialized => "initialized"
  | .created => "created"
  | .submitted => "submitted"
  | .running => "running"
  | .collect => "collect"
  | .finished => "finished"
  | .aborted => "aborted"
  | .notConverged => "not_converged"
  | .suspended => "suspended"
  | .refresh => "refresh"
  | .busy => "busy"

instance : ToString Status := ⟨name⟩

/-- The status of a name, exactly as written. -/
def ofName? (s : String) : Option Status := all.find? (fun st => st.name == s)

/-- No transition leaves an end status. -/
def isTerminal : Status → Bool
  | .finished | .aborted | .notConverged => true
  | _ => false

/-- Ended and successful from a master's point of view. -/
def isSuccess : Status → Bool
  | .finished | .notConverged => true
  | _ => false

/-- The job owns its working directory and must not be submitted again. -/
def isActive : Status → Bool
  | .submitted | .running | .busy | .collect | .refresh => true
  | _ => false

/-- A process may claim the job from this status. -/
def isResumable : Status → Bool
  | .submitted | .refresh => true
  | _ => false

/-- The statuses a job may move to next. -/
def successors : Status → List Status
  | .initialized => [.created, .aborted]
  | .created => [.submitted, .suspended, .aborted]
  | .submitted => [.busy, .running, .suspended, .aborted]
  | .running => [.busy, .collect, .suspended, .aborted]
  | .busy => [.running, .aborted]
  | .collect => [.finished, .notConverged, .aborted]
  | .suspended => [.refresh, .aborted]
  | .refresh => [.busy, .submitted, .aborted]
  | .finished | .aborted | .notConverged => []

/-- Whether a job may move from `s` to `t`. -/
def canMove (s t : Status) : Bool := s.successors.contains t

end Status

end JobFlow
