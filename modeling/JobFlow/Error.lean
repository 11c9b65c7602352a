import JobFlow.Status
import JobFlow.Failure
import JobFlow.Json.Read

/-!
# Errors

Every way an operation of the library fails, each a cause with its own data, and the one
place where each is worded.
-/

/-! ### Durations

A span of time as whole seconds and nanoseconds below one second, and its short text: the
largest unit among seconds, milliseconds, microseconds and nanoseconds that the span reaches,
with the rest as decimal places and no trailing zeros.
-/

namespace JobFlow

/-- A span of time; `nanos` is below one second. -/
structure Duration where
  secs : Nat
  nanos : Nat
  deriving DecidableEq, Inhabited, Repr

namespace Duration

/-- The span of `secs` seconds and `nanos` nanoseconds, whole seconds of `nanos` carried. -/
def make (secs nanos : Nat) : Duration := ⟨secs + nanos / 1000000000, nanos % 1000000000⟩

/-- A span of milliseconds. -/
def ofMillis (ms : Nat) : Duration := make (ms / 1000) (ms % 1000 * 1000000)

/-- A span of whole seconds. -/
def ofSecs (s : Nat) : Duration := ⟨s, 0⟩

/-- The span in nanoseconds. -/
def toNanos (d : Duration) : Nat := d.secs * 1000000000 + d.nanos

/-- Whether the span is empty. -/
def isZero (d : Duration) : Bool := d.secs = 0 ∧ d.nanos = 0

instance : LE Duration := ⟨fun a b => a.toNanos ≤ b.toNanos⟩
instance (a b : Duration) : Decidable (a ≤ b) := inferInstanceAs (Decidable (a.toNanos ≤ b.toNanos))

/-- `whole` and the decimal places of `frac` out of `unit` (a power of ten), trailing zeros
dropped. -/
def decimal (whole frac unit : Nat) (suffix : String) : String :=
  if frac = 0 then toString whole ++ suffix
  else
    let digits := (toString (unit + frac)).toList.drop 1
    let kept := (digits.reverse.dropWhile (· = '0')).reverse
    toString whole ++ "." ++ String.ofList kept ++ suffix

/-- The short text of a span, as in `1.5s`, `123.456789ms`, `999.999µs` or `0ns`. -/
def text (d : Duration) : String :=
  if d.secs > 0 then decimal d.secs d.nanos 1000000000 "s"
  else if d.nanos ≥ 1000000 then decimal (d.nanos / 1000000) (d.nanos % 1000000) 1000000 "ms"
  else if d.nanos ≥ 1000 then decimal (d.nanos / 1000) (d.nanos % 1000) 1000 "µs"
  else toString d.nanos ++ "ns"

end Duration

end JobFlow


namespace JobFlow

/-- A fault of the key-value database under a job record. -/
inductive StorageFault where
  | unsupported (msg : String)
  | io (msg : String)
  deriving DecidableEq, Inhabited, Repr

/-- The text of a database fault. -/
def StorageFault.text : StorageFault → String
  | .unsupported m => "Unsupported: " ++ m
  | .io m => "IO error: " ++ m

/-- A fault of the relational job index. -/
inductive IndexFault where
  | protocol (msg : String)
  | rowNotFound
  | database (code : Nat) (msg : String)
  deriving DecidableEq, Inhabited, Repr

/-- The text of an index fault. -/
def IndexFault.text : IndexFault → String
  | .protocol m => "encountered unexpected or invalid data: " ++ m
  | .rowNotFound => "no rows returned by a query that expected to return at least one row"
  | .database c m => s!"error returned from database: (code: {c}) {m}"

/-- Why an operation failed. -/
inductive JobError where
  | configuration (msg : String)
  | conflict (msg : String)
  | notFound (msg : String)
  | execution (jobId : Nat) (failure : Failure)
  | invalidTransition (job : String) (src dst : Status)
  | timeout (operation : String) (waited : Duration)
  | cancelled (msg : String)
  | storage (fault : StorageFault)
  | index (fault : IndexFault)
  | json (err : ReadError)
  | yaml (text : String)
  | io (msg : String)
  | queue (msg : String)
  | internal (msg : String)
  | other (msg : String)
  deriving Inhabited

/-- The five coarse kinds of errors. -/
inductive ErrorKind where
  | configuration
  | conflict
  | notFound
  | execution
  | infrastructure
  deriving DecidableEq, Inhabited, Repr

/-- The name of an error kind. -/
def ErrorKind.name : ErrorKind → String
  | .configuration => "Configuration"
  | .conflict => "Conflict"
  | .notFound => "NotFound"
  | .execution => "Execution"
  | .infrastructure => "Infrastructure"

namespace JobError

/-- The text of an error, with the time waited written by `waited`. -/
def textWith (waited : Duration → String) : JobError → String
  | .configuration m => "Configuration error: " ++ m
  | .conflict m => "Conflict: " ++ m
  | .notFound m => "Not found: " ++ m
  | .execution id f => s!"Job {id} failed: {f.text}"
  | .invalidTransition job s t => s!"Invalid status transition for job {job}: {s} -> {t}"
  | .timeout op d => s!"Timed out after {waited d} waiting for {op}"
  | .cancelled m => "Operation cancelled: " ++ m
  | .storage f => "Storage error: " ++ f.text
  | .index f => "Index error: " ++ f.text
  | .json e => "JSON error: " ++ e.text
  | .yaml t => "YAML error: " ++ t
  | .io m => "IO error: " ++ m
  | .queue m => "Queue adapter error: " ++ m
  | .internal m => "Internal error: " ++ m
  | .other m => m

/-- The text of an error. -/
def text (e : JobError) : String := e.textWith Duration.text

/-- The name of the error's cause. -/
def variant : JobError → String
  | .configuration _ => "Configuration"
  | .conflict _ => "Conflict"
  | .notFound _ => "NotFound"
  | .execution _ _ => "Execution"
  | .invalidTransition _ _ _ => "InvalidTransition"
  | .timeout _ _ => "Timeout"
  | .cancelled _ => "Cancelled"
  | .storage _ => "Storage"
  | .index _ => "Index"
  | .json _ => "Json"
  | .yaml _ => "Yaml"
  | .io _ => "Io"
  | .queue _ => "Queue"
  | .internal _ => "Internal"
  | .other _ => "Other"

/-- The coarse kind of an error. -/
def kind : JobError → ErrorKind
  | .configuration _ | .yaml _ => .configuration
  | .conflict _ | .invalidTransition _ _ _ => .conflict
  | .notFound _ => .notFound
  | .execution _ _ | .cancelled _ => .execution
  | _ => .infrastructure

/-- Whether a caller could sensibly retry. -/
def isRetryable : JobError → Bool
  | .conflict _ | .timeout _ _ | .storage _ | .index _ | .io _ | .queue _ => true
  | _ => false

/-- The recorded failure of an execution error. -/
def failure? : JobError → Option Failure
  | .execution _ f => some f
  | _ => none

end JobError

/-- The outcome of an operation of the library. -/
abbrev Outcome (α : Type) := Except JobError α

end JobFlow
