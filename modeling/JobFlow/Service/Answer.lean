import JobFlow.Error

/-!
# Answers to requests

A request is answered with a value or with an error object naming the cause and its text.
-/

namespace JobFlow.Service

/-- Why a request or one of its steps got no value. -/
inductive Fault where
  | job (e : JobError)
  | badInput (msg : String)
  | chain (msg : String)
  | args (kind : String) (msg : String)
  | timeout (msg : String)
  deriving Inhabited

/-- The outcome of a request or step. -/
abbrev Answer (α : Type) := Except Fault α

/-- Lifts a library outcome into an answer. -/
def lift {α : Type} (o : Outcome α) : Answer α := o.mapError .job

/-- Fails with a malformed-request fault. -/
def bad {α : Type} (msg : String) : Answer α := throw (.badInput msg)

namespace Fault

/-- The error object of a fault. -/
def toJson : Fault → Json
  | .job e =>
    let base := [("error", Json.str e.variant), ("message", .str (e.textWith (fun _ => "<elapsed>")))]
    match e with
    | .execution _ f => Json.mkObj (base ++ [("failure", f.toJson)])
    | _ => Json.mkObj base
  | .badInput m => Json.mkObj [("error", .str "BadInput"), ("message", .str m)]
  | .chain m => Json.mkObj [("error", .str "Anyhow"), ("message", .str m)]
  | .args k m => Json.mkObj [("error", .str "Clap"), ("kind", .str k), ("message", .str m)]
  | .timeout m => Json.mkObj [("error", .str "DriverTimeout"), ("message", .str m)]

end Fault

/-- The JSON of an answer: `{"ok": v}` or the error object. -/
def answerJson (a : Answer Json) : Json :=
  match a with
  | .ok v => Json.mkObj [("ok", v)]
  | .error f => f.toJson

/-- The JSON of one step's answer: the value itself or the error object. -/
def stepJson (a : Answer Json) : Json :=
  match a with
  | .ok v => v
  | .error f => f.toJson

/-- A request: a JSON object. -/
abbrev Request := Json

namespace Request

/-- A member of the request, if present. -/
def get? (r : Request) (k : String) : Option Json := r.field? k

/-- A member that must be present. -/
def need (r : Request) (k : String) : Answer Json :=
  match r.field? k with
  | some v => pure v
  | none => bad s!"missing field {k}"

/-- A string member that must be present. -/
def str (r : Request) (k : String) : Answer String := do
  match ← r.need k with
  | .str s => pure s
  | _ => bad s!"field {k} must be a string"

/-- A string member with a default. -/
def strD (r : Request) (k : String) (d : String) : Answer String :=
  match r.field? k with
  | none | some .null => pure d
  | some (.str s) => pure s
  | some _ => bad s!"field {k} must be a string"

/-- An optional string member. -/
def str? (r : Request) (k : String) : Answer (Option String) :=
  match r.field? k with
  | none | some .null => pure none
  | some (.str s) => pure (some s)
  | some _ => bad s!"field {k} must be a string"

/-- A non-negative integer member that must be present. -/
def nat (r : Request) (k : String) : Answer Nat := do
  match ← r.need k with
  | .num (.nat n) => pure n
  | _ => bad s!"field {k} must be a non-negative integer"

/-- An optional non-negative integer member. -/
def nat? (r : Request) (k : String) : Answer (Option Nat) :=
  match r.field? k with
  | none | some .null => pure none
  | some (.num (.nat n)) => pure (some n)
  | some _ => bad s!"field {k} must be a non-negative integer"

/-- A boolean member with a default. -/
def boolD (r : Request) (k : String) (d : Bool) : Answer Bool :=
  match r.field? k with
  | none | some .null => pure d
  | some (.bool b) => pure b
  | some _ => bad s!"field {k} must be a boolean"

/-- An array member that must be present. -/
def list (r : Request) (k : String) : Answer (List Json) := do
  match ← r.need k with
  | .arr xs => pure xs
  | _ => bad s!"field {k} must be an array"

/-- An optional array member, empty when absent. -/
def listD (r : Request) (k : String) : Answer (List Json) :=
  match r.field? k with
  | none | some .null => pure []
  | some (.arr xs) => pure xs
  | some _ => bad s!"field {k} must be an array"

end Request

/-- Runs each step, collecting its value or error object; a failed step never stops the
next. -/
def runSteps {σ : Type} (step : σ → Json → σ × Answer Json) (st : σ) (steps : List Json) : σ × List Json :=
  steps.foldl (fun (acc : σ × List Json) s =>
    let (st', a) := step acc.1 s
    (st', acc.2 ++ [stepJson a])) (st, [])

end JobFlow.Service
