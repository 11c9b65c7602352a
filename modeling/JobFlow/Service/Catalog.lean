import JobFlow.Jobs.Registry
import JobFlow.Json.Write

/-!
# The catalog of job types

The job types a service system is built with, all registered under one module path.
-/

namespace JobFlow.Service

/-- The module path of every type of the catalog. -/
def catalogModule : String := "oracle::types"

/-- An integer member that fits in 64 signed bits. -/
def signed64 (v : Json) : Option Int :=
  match v with
  | .num (.nat n) => if n < Nat.pow 2 63 then some n else none
  | .num (.neg n) => if n ≥ -(Nat.pow 2 63) then some n else none
  | _ => none

/-- A sum of 64-bit integers that wraps around. -/
def wrappingAdd (a b : Int) : Int := (a + b + Nat.pow 2 63) % (Nat.pow 2 64) - Nat.pow 2 63

/-- `a + b` of the input's members. -/
def adder (input : List (String × Json)) : Except BodyFault Json := do
  let some a := (input.lookup "a").bind signed64 | throw (.error "missing a")
  let some b := (input.lookup "b").bind signed64 | throw (.error "missing b")
  pure (Json.ofInt (wrappingAdd a b))

/-- The input's `value`, or the whole input. -/
def echo (input : List (String × Json)) : Except BodyFault Json :=
  pure ((input.lookup "value").getD (.obj input))

/-- Text with blanks cut from both ends. -/
def trimBlank (s : String) : String :=
  String.ofList ((((s.toList.dropWhile isBlankChar).reverse).dropWhile isBlankChar).reverse)

/-- The trimmed text of `out.txt`. -/
def scalarCollector (d : Disk) (wd : String) : Except String Json := do
  let text ← ScriptJob.readText d (Path.join wd "out.txt")
  pure (.str (trimBlank text))

/-- The schema of the sum's input. -/
def adderSchema : Json :=
  Json.mkObj [("type", .str "object"), ("required", .arr [.str "a", .str "b"]),
    ("properties", Json.mkObj [("a", Json.mkObj [("type", .str "integer")]),
      ("b", Json.mkObj [("type", .str "integer")])])]

/-- A command type. -/
def script (template : String) : Runnable := .executable { template }

/-- The types of the catalog by class name. -/
def catalogTypes : List (String × Runnable) :=
  [("Adder", (Runnable.function adder).withInputSchema adderSchema),
   ("Echo", .function echo),
   ("Unconverged", .function (fun _ =>
      pure (Json.mkObj [("energy", .ofNat 1), ("converged", .bool false)]))),
   ("Fails", .function (fun _ => throw (.error "computing ratio: division by zero"))),
   ("Panics", .function (fun _ => throw (.panic "boom"))),
   ("PanicsFmt", .function (fun input => throw (.panic ("bad input " ++ (Json.obj input).compact)))),
   ("Versioned", { (Runnable.function (fun input => pure (Json.mkObj [("seen", .obj input)]))).withDefaultInput
        (Json.mkObj [("steps", .ofNat 10), ("opts", Json.mkObj [("tol", .num (.float 0.5))])])
      with version := "2.3.1" }),
   ("Failing", script "echo boom >&2; exit 1"),
   ("Energy", (script "cat in.txt; printf '\x7b\"energy\": -1.5, \"cores\": %s\x7d' \"$JOBRACK_CORES\" > output.json").withDefaultInput
      (Json.mkObj [("files_to_create", Json.mkObj [("in.txt", .str "structure\n")])])),
   ("Exit3", script "echo partial >&2; exit 3"),
   ("Killed", script "kill -9 $$"),
   ("Empty", script "   "),
   ("Shell", script "sh ./run.sh"),
   ("Template", script "echo \x7bcores\x7d \x7bthreads\x7d \x7bgpus\x7d > args.txt; printf '\x7b\"args\": \"%s\"\x7d' \"$(cat args.txt)\" > output.json"),
   ("NoCollect", .executable { template := "true", collector := some (fun _ _ => throw "no output here") }),
   ("ScalarCollect", .executable { template := "echo 42 > out.txt", collector := some scalarCollector }),
   ("Master", Runnable.master)]

/-- The registry of the catalog. -/
def catalog : Registry :=
  catalogTypes.foldl (fun r kv =>
    match r.register catalogModule kv.1 kv.2 false with
    | .ok r' => r'
    | .error _ => r) {}

end JobFlow.Service
