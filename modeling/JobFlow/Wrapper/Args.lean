import JobFlow.Json.Value

/-!
# The wrapper's command line

The wrapper process is started with a working directory and a job ID:
-/

namespace JobFlow

namespace Wrapper

/-- The options of the command line. -/
inductive Opt where
  | workingDirectory
  | jobId
  | config
  | debug
  | help
  | version
  deriving DecidableEq, Inhabited, Repr

namespace Opt

/-- Every option, in the order of the help. -/
def all : List Opt := [.workingDirectory, .jobId, .config, .debug, .help, .version]

/-- The long name. -/
def long : Opt → String
  | .workingDirectory => "working-directory"
  | .jobId => "job-id"
  | .config => "config"
  | .debug => "debug"
  | .help => "help"
  | .version => "version"

/-- The short name, if any. -/
def short : Opt → Option Char
  | .workingDirectory => some 'p'
  | .jobId => some 'j'
  | .help => some 'h'
  | .version => some 'V'
  | _ => none

/-- The name of the value an option takes, if it takes one. -/
def valueName : Opt → Option String
  | .workingDirectory => some "DIR"
  | .jobId => some "ID"
  | .config => some "PATH"
  | _ => none

/-- Whether the option must be given. -/
def required : Opt → Bool
  | .workingDirectory | .jobId => true
  | _ => false

/-- The one-line help. -/
def helpText : Opt → String
  | .workingDirectory => "Working directory of the job, as handed to the queuing system"
  | .jobId => "Index ID of the job"
  | .config => "YAML configuration file. Defaults apply when omitted"
  | .debug => "Log at debug level"
  | .help => "Print help"
  | .version => "Print version"

/-- The option as messages name it: `--long <VALUE>` or `--long`. -/
def shown (o : Opt) : String :=
  "--" ++ o.long ++ (match o.valueName with
    | some v => " <" ++ v ++ ">"
    | none => "")

/-- The option with a long name. -/
def ofLong (name : String) : Option Opt := all.find? (·.long == name)

/-- The option with a short name. -/
def ofShort (c : Char) : Option Opt := all.find? (·.short == some c)

end Opt

/-- What a successful parse gives. -/
structure WrapperArgs where
  workingDirectory : String
  jobId : Nat
  config : Option String
  debug : Bool
  deriving Inhabited

/-- The kinds of failure, and the help and version requests. -/
inductive CliFault where
  | unknownArgument
  | invalidValue
  | valueValidation
  | missingRequiredArgument
  | tooManyValues
  | argumentConflict
  | displayHelp
  | displayVersion
  deriving DecidableEq, Inhabited, Repr

/-- The name of a kind of failure. -/
def CliFault.name : CliFault → String
  | .unknownArgument => "UnknownArgument"
  | .invalidValue => "InvalidValue"
  | .valueValidation => "ValueValidation"
  | .missingRequiredArgument => "MissingRequiredArgument"
  | .tooManyValues => "TooManyValues"
  | .argumentConflict => "ArgumentConflict"
  | .displayHelp => "DisplayHelp"
  | .displayVersion => "DisplayVersion"

/-- A failure: its kind and its rendered text. -/
structure CliError where
  kind : CliFault
  message : String
  deriving Inhabited

/-- The program's name and version. -/
def programName : String := "jobrack-wrapper"

/-- The version. -/
def programVersion : String := "0.1.0"

/-- What the program is for, first in the help. -/
def about : String := "Reload a submitted job by ID and run it."

/-- The required options, in order. -/
def requiredOpts : List Opt := Opt.all.filter Opt.required

/-- The usage line after `Usage: `: the name, `[OPTIONS]` when nothing was used, the required
options, then the used ones not already listed. -/
def usageLine (bin : String) (used : List Opt) : String :=
  let listed := requiredOpts ++ (used.filter (fun o => !o.required)).eraseDups
  let parts := [bin] ++ (if used.isEmpty then ["[OPTIONS]"] else []) ++ listed.map Opt.shown
  " ".intercalate parts

/-- The options every set of arguments is a group of, written as one alternative:
`<--working-directory <DIR>|...|--debug>`. -/
def groupShown : String :=
  "<" ++ "|".intercalate ((Opt.all.filter (fun o => o != .help && o != .version)).map Opt.shown) ++ ">"

/-- A rendered failure: the message, then the extra paragraphs, the usage line if any, and
the pointer to the help. -/
def render (message : String) (extra : List String) (usage : Option String) : String :=
  let tip := String.join (extra.map (fun t => "\n\n" ++ t))
  let use := match usage with
    | some u => "\n\nUsage: " ++ u
    | none => ""
  "error: " ++ message ++ tip ++ use ++ "\n\nFor more information, try '--help'.\n"

/-- The help text. -/
def helpText (bin : String) : String :=
  let spec (o : Opt) : String :=
    (match o.short with
      | some c => "-" ++ c.toString ++ ", "
      | none => "    ") ++ o.shown
  let width := Opt.all.foldl (fun w o => max w o.shown.length) 0
  let line (o : Opt) : String :=
    let s := spec o
    "  " ++ s ++ String.ofList (List.replicate (width + 4 + 2 - s.length) ' ') ++ o.helpText
  about ++ "\n\nUsage: " ++ usageLine bin [] ++ "\n\nOptions:\n" ++ "\n".intercalate (Opt.all.map line) ++ "\n"

/-- The name a path ends in, as the program's name is taken from its first word. -/
def fileName (path : String) : Option String :=
  let parts := (path.splitOn "/").filter (fun p => !p.isEmpty && p != ".")
  match parts.getLast? with
  | some ".." => none
  | some p => if path.endsWith "/.." then none else some p
  | none => none

/-- The text a decimal that does not fit or is not a number gives. -/
def parseU64 (text : String) : Except String Nat :=
  let digits := match text.toList with
    | '+' :: rest => rest
    | cs => cs
  if text.isEmpty then .error "cannot parse integer from empty string"
  else if digits.isEmpty || !digits.all Char.isDigit then .error "invalid digit found in string"
  else
    let n := digits.foldl (fun n c => n * 10 + (c.toNat - 48)) 0
    if n < Nat.pow 2 64 then .ok n else .error "number too large to fit in target type"

/-- The state of parsing: the options given with their values, in the order given, and the
option whose value is waiting to be checked. -/
structure ParseState where
  given : List (Opt × String) := []
  pending : Option (Opt × List String) := none
  /-- Whether the last option met still needs a value from the next word. -/
  awaiting : Option Opt := none

/-- The outcome of a step of parsing. -/
abbrev Step := Except CliError ParseState

/-- An option with its values taken in: a missing value, an option given twice and a value
that does not parse are refused here. -/
def take (bin : String) (st : ParseState) (o : Opt) (values : List String) : Step := do
  if o.valueName.isSome && values.isEmpty then
    throw ⟨.invalidValue, render s!"a value is required for '{o.shown}' but none was supplied" [] none⟩
  if st.given.any (·.1 == o) then
    throw ⟨.argumentConflict,
      render s!"the argument '{o.shown}' cannot be used multiple times" [] (some (usageLine bin []))⟩
  let v := values.headD "true"
  match o with
  | .workingDirectory | .config =>
    if v.isEmpty then
      throw ⟨.invalidValue, render s!"a value is required for '{o.shown}' but none was supplied" [] none⟩
  | .jobId =>
    match parseU64 v with
    | .error e => throw ⟨.valueValidation, render s!"invalid value '{v}' for '{o.shown}': {e}" [] none⟩
    | .ok _ => pure ()
  | _ => pure ()
  pure { st with given := st.given ++ [(o, v)] }

/-- Checks the option whose values were waiting. -/
def settle (bin : String) (st : ParseState) : Step :=
  match st.pending with
  | none => pure st
  | some (o, values) => take bin { st with pending := none, awaiting := none } o values

/-- The state after trying to settle, keeping what was settled but not the failure, as when
another failure is about to be reported. -/
def settleQuietly (bin : String) (st : ParseState) : ParseState :=
  match settle bin st with
  | .ok st' => st'
  | .error _ => { st with pending := none, awaiting := none }

/-- The options given so far, in order. -/
def ParseState.used (st : ParseState) : List Opt := st.given.map (·.1)

/-- An option met with an attached value or none: a flag takes effect now, an option takes its
attached value now or waits for the next word. -/
def meet (bin : String) (st : ParseState) (o : Opt) (attached : Option String) : Step := do
  match o.valueName with
  | some _ =>
    let st ← settle bin st
    match attached with
    | some v => take bin st o [v]
    | none => pure { st with pending := some (o, []), awaiting := some o }
  | none =>
    let st ← settle bin st
    match o with
    | .help => throw ⟨.displayHelp, helpText bin⟩
    | .version => throw ⟨.displayVersion, programName ++ " " ++ programVersion ++ "\n"⟩
    | _ => take bin st o []

/-- The similarity of two names, from 0 (nothing shared) to 1 (equal), counting the
characters they share near the same place and how many of those are out of order. -/
def jaro (a b : String) : Float :=
  let xs := a.toList.toArray
  let ys := b.toList.toArray
  if xs.size == 0 && ys.size == 0 then 1.0
  else if xs.size == 0 || ys.size == 0 then 0.0
  else
    let range := max xs.size ys.size / 2 - 1
    let (xFlags, yFlags, hits) := (List.range xs.size).foldl (fun (acc : Array Bool × Array Bool × Nat) i =>
      let (xf, yf, m) := acc
      let lo := i - range
      let hi := min ys.size (i + range + 1)
      match (List.range hi).find? (fun j => lo ≤ j && xs[i]! == ys[j]! && !yf[j]!) with
      | some j => (xf.set! i true, yf.set! j true, m + 1)
      | none => acc) (Array.replicate xs.size false, Array.replicate ys.size false, 0)
    if hits == 0 then 0.0
    else
      let xm := (List.range xs.size).filter (xFlags[·]!) |>.map (xs[·]!)
      let ym := (List.range ys.size).filter (yFlags[·]!) |>.map (ys[·]!)
      let trans := ((xm.zip ym).filter (fun p => p.1 != p.2)).length / 2
      let m := hits.toFloat
      (m / xs.size.toFloat + m / ys.size.toFloat + (m - trans.toFloat) / m) / 3.0

/-- The long name most like an unknown one, if any is alike enough; of equally alike names
the later one. -/
def suggestion (name : String) : Option Opt :=
  Opt.all.foldl (fun (best : Option (Opt × Float)) o =>
    let score := jaro name o.long
    if score > 0.7 then
      match best with
      | some (_, s) => if score >= s then some (o, score) else best
      | none => some (o, score)
    else best) none |>.map (·.1)

/-- An unknown long option. -/
def unknownLong (bin : String) (st : ParseState) (name : String) : CliError :=
  let st := settleQuietly bin st
  match suggestion name with
  | some o =>
    ⟨.unknownArgument, render s!"unexpected argument '--{name}' found"
      [s!"  tip: a similar argument exists: '--{o.long}'"] (some (usageLine bin (st.used ++ [o])))⟩
  | none =>
    ⟨.unknownArgument, render s!"unexpected argument '--{name}' found" [] (some (usageLine bin st.used))⟩

/-- A word that is no option where no value is wanted. -/
def unknownWord (bin : String) (word : String) : CliError :=
  ⟨.unknownArgument, render s!"unexpected argument '{word}' found" [] (some (usageLine bin []))⟩

/-- Reads the characters after a single `-`: a flag takes effect and the next character is
read, an option takes the rest as its value (after an optional `=`), an unknown character
stops with an error. -/
def shortCluster (bin : String) (st : ParseState) : List Char → Step
  | [] => pure st
  | c :: rest =>
    match Opt.ofShort c with
    | none => throw (unknownWord bin s!"-{c}")
    | some o =>
      match o.valueName with
      | none => do
        let st ← meet bin st o none
        shortCluster bin st rest
      | some _ =>
        let v := match rest with
          | '=' :: more => some (String.ofList more)
          | [] => none
          | _ => some (String.ofList rest)
        meet bin st o v

/-- Reads one word. -/
def word (bin : String) (st : ParseState) (escaped : Bool) (w : String) : Except CliError (ParseState × Bool) := do
  if escaped then
    throw (unknownWord bin w)
  if w == "--" then return (st, true)
  if w.startsWith "--" then
    let body := String.ofList (w.toList.drop 2)
    let name := String.ofList (body.toList.takeWhile (· != '='))
    let attached := if body.contains '=' then some (String.ofList ((body.toList.dropWhile (· != '=')).drop 1)) else none
    match Opt.ofLong name with
    | none => throw (unknownLong bin st name)
    | some o =>
      match o.valueName, attached with
      | none, some v =>
        -- An option already in effect puts the whole group in the usage; one whose value
        -- still waits to be checked does not.
        let usage :=
          if st.given.isEmpty then
            let st := settleQuietly bin st
            usageLine bin (st.used.filter (fun u => !u.required) ++ [o])
          else bin ++ " " ++ groupShown
        throw ⟨.tooManyValues, render s!"unexpected value '{v}' for '{o.shown}' found; no more were expected" []
          (some usage)⟩
      | _, _ => return (← meet bin st o attached, false)
  if w.startsWith "-" && w.length > 1 then
    return (← shortCluster bin st (w.toList.drop 1), false)
  match st.awaiting with
  | some o =>
    match st.pending with
    | some (p, vals) => return ({ st with pending := some (p, vals ++ [w]), awaiting := none }, false)
    | none => return ({ st with pending := some (o, [w]), awaiting := none }, false)
  | none =>
    let _ := settleQuietly bin st
    throw (unknownWord bin w)

/-- Reads every word, then checks what is waiting and that every required option is there. -/
def parse (argv : List String) : Except CliError WrapperArgs := do
  let bin := match argv.head? with
    | some first => (fileName first).getD programName
    | none => programName
  let words := argv.drop 1
  let (st, _) ← words.foldlM (fun (acc : ParseState × Bool) w => word bin acc.1 acc.2 w) ({}, false)
  let st ← settle bin st
  let missing := requiredOpts.filter (fun o => !(st.used.contains o))
  if !missing.isEmpty then
    let listed := String.join (missing.map (fun o => "\n  " ++ o.shown))
    throw ⟨.missingRequiredArgument,
      render ("the following required arguments were not provided:" ++ listed) [] (some (usageLine bin (st.used ++ missing)))⟩
  let value (o : Opt) : Option String := st.given.lookup o
  pure { workingDirectory := (value .workingDirectory).getD "",
         jobId := ((value .jobId).bind fun v => (parseU64 v).toOption).getD 0,
         config := value .config,
         debug := (value .debug).isSome }

/-- The parsed arguments as JSON. -/
def WrapperArgs.toJson (a : WrapperArgs) : Json :=
  Json.mkObj [("working_directory", .str a.workingDirectory), ("job_id", Json.ofNat a.jobId),
    ("config", Json.ofOptString a.config), ("debug", .bool a.debug)]

end Wrapper

end JobFlow
