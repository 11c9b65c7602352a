import JobFlow.Doc.Read

/-!
# Failures

What is recorded when a job is aborted: a reason, a message, and for a command the exit code
and the tail of what it wrote to its error stream.
-/

namespace JobFlow

/-- Why a job was aborted. -/
inductive FailureReason where
  | nonZeroExit
  | functionError
  | panicked
  | writeInputFailed
  | collectOutputFailed
  | spawnFailed
  | cancelled
  | queueSubmitFailed
  | childrenFailed
  | lost
  | internal
  deriving DecidableEq, Inhabited, Repr

namespace FailureReason

/-- Every reason, in declaration order. -/
def all : List FailureReason :=
  [.nonZeroExit, .functionError, .panicked, .writeInputFailed, .collectOutputFailed, .spawnFailed,
    .cancelled, .queueSubmitFailed, .childrenFailed, .lost, .internal]

/-- The written name of a reason. -/
def name : FailureReason → String
  | .nonZeroExit => "non_zero_exit"
  | .functionError => "function_error"
  | .panicked => "panicked"
  | .writeInputFailed => "write_input_failed"
  | .collectOutputFailed => "collect_output_failed"
  | .spawnFailed => "spawn_failed"
  | .cancelled => "cancelled"
  | .queueSubmitFailed => "queue_submit_failed"
  | .childrenFailed => "children_failed"
  | .lost => "lost"
  | .internal => "internal"

/-- The reason of a written name. -/
def ofName? (s : String) : Option FailureReason := all.find? (fun r => r.name == s)

end FailureReason

/-- The diagnostics of an aborted job. -/
structure Failure where
  reason : FailureReason
  message : String
  exitCode : Option Int := none
  stderrTail : Option String := none
  deriving DecidableEq, Inhabited, Repr

namespace Failure

/-- The failure recorded for a cancelled job. -/
def cancelled : Failure := ⟨.cancelled, "cancelled", none, none⟩

/-- The reason and the message. -/
def text (f : Failure) : String := f.reason.name ++ ": " ++ f.message

/-- The longest prefix of `s` of at most `n` bytes that ends at a character boundary. -/
def cutBytes (s : String) (n : Nat) : String :=
  let rec go (used : Nat) (acc : List Char) : List Char → List Char
    | [] => acc.reverse
    | c :: rest =>
      if used + c.utf8Size ≤ n then go (used + c.utf8Size) (c :: acc) rest else acc.reverse
  String.ofList (go 0 [] s.toList)

/-- The largest character boundary of `s` at or below byte `cut`, searched by stepping down one
byte at a time; the start of the text is a boundary, so the search stops there at the latest. -/
def boundaryAtOrBelow (s : String) : Nat → Nat
  | 0 => 0
  | cut + 1 => if (String.Pos.Raw.mk (cut + 1)).isValid s then cut + 1 else boundaryAtOrBelow s cut

/-- The text kept in the index: `text`, cut back to the last character boundary at or below
200 bytes when it is longer. -/
def summary (f : Failure) : String :=
  if f.text.utf8ByteSize > 200 then cutBytes f.text (boundaryAtOrBelow f.text 200) else f.text

/-- The failure as a JSON object. -/
def toJson (f : Failure) : Json :=
  Json.mkObj [("reason", .str f.reason.name), ("message", .str f.message),
    ("exit_code", match f.exitCode with | some c => .ofInt c | none => .null),
    ("stderr_tail", .ofOptString f.stderrTail)]

/-- Reads a failure; the reason and the message must be present. -/
def read (path : String) (d : Doc) : DocRead Failure := do
  let fields := ["reason", "message", "exit_code", "stderr_tail"]
  if let .positional items ← Doc.members "Failure" path d then
    if items.length < 2 then
      Doc.fail path d s!"invalid length {items.length}, expected struct Failure with 4 elements"
  let init : Option FailureReason × Option String × Option (Option Int) × Option (Option String) :=
    (none, none, none, none)
  let (r, m, e, t) ← Doc.readStruct "Failure" fields init (fun acc k p v =>
    match k with
    | "reason" => do
      let i ← Doc.readVariant (FailureReason.all.map FailureReason.name) p v
      pure ((FailureReason.all[i]?), acc.2)
    | "message" => return (acc.1, some (← Doc.readString p v), acc.2.2)
    | "exit_code" => return (acc.1, acc.2.1, some (← Doc.readOption Doc.readI32 p v), acc.2.2.2)
    | "stderr_tail" => return (acc.1, acc.2.1, acc.2.2.1, some (← Doc.readOption Doc.readString p v))
    | _ => pure acc) path d
  let reason ← match r with
    | some r => pure r
    | none => Doc.fail path d "missing field `reason`"
  let message ← match m with
    | some m => pure m
    | none => Doc.fail path d "missing field `message`"
  pure ⟨reason, message, e.getD none, t.getD none⟩

end Failure

end JobFlow
