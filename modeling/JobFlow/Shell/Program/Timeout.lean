import JobFlow.Shell.Signal
import JobFlow.Shell.Floating
import JobFlow.Shell.Program

/-!
# Commands with a time limit

`timeout` runs a command and, when a duration has passed, sends it a signal (`TERM` unless
`-s` names another).
-/

namespace JobFlow.Shell

/-- A length of time in seconds: `m * 2 ^ e`, or forever. -/
inductive Span where
  | finite (m : Nat) (e : Int)
  | forever
  deriving Inhabited

namespace Span

/-- Two finite lengths over one power of two. -/
def common (m : Nat) (e : Int) (m' : Nat) (e' : Int) : Nat × Nat × Int :=
  let k := min e e'
  (m * Nat.pow 2 (e - k).toNat, m' * Nat.pow 2 (e' - k).toNat, k)

/-- Whether one length is shorter than another. -/
def shorter : Span → Span → Bool
  | .finite m e, .finite m' e' =>
    let (a, b, _) := common m e m' e'
    decide (a < b)
  | .finite _ _, .forever => true
  | .forever, _ => false

/-- Two lengths one after the other. -/
def add : Span → Span → Span
  | .finite m e, .finite m' e' =>
    let (a, b, k) := common m e m' e'
    .finite (a + b) k
  | _, _ => .forever

/-- Whether a length is none at all. -/
def isZero : Span → Bool
  | .finite m _ => m == 0
  | .forever => false

/-- A length in nanoseconds, rounded down; forever is a thousand years. -/
def nanos : Span → Nat
  | .finite m e =>
    if 0 ≤ e then m * Nat.pow 2 e.toNat * 1000000000
    else m * 1000000000 / Nat.pow 2 (-e).toNat
  | .forever => 1000 * 366 * 86400 * 1000000000

end Span

/-- The length of a time interval, as `sleep` and `timeout` read one; `none` for a word that is
not an interval (no number, a negative one, not a number, or another unit). -/
def intervalSpan (s : String) : Option Span :=
  let cs := s.toList
  let (d, len, _) := Double.read cs
  let factor : Option Nat := match cs.drop len with
    | [] => some 1
    | ['s'] => some 1
    | ['m'] => some 60
    | ['h'] => some 3600
    | ['d'] => some 86400
    | _ => none
  match factor, d with
  | some f, .finite neg m e => if len > 0 ∧ (!neg ∨ m = 0) then some (.finite (m * f) e) else none
  | some _, .infinite false => if len > 0 then some .forever else none
  | _, _ => none

/-- How long `sleep` sleeps with these arguments, in nanoseconds. -/
def sleepNanos (args : List String) : Nat :=
  (args.filterMap intervalSpan).foldl (fun t d => t + d.nanos) 0

/-- What `timeout` was asked to do. -/
structure TimeLimit where
  signal : Nat := 15
  preserve : Bool := false
  foreground : Bool := false
  verbose : Bool := false
  limit : Span := .finite 0 0
  command : String := ""
  args : List String := []
  deriving Inhabited

/-- A signal as `timeout` names one: a number, or a name with or without `SIG` in any case. -/
def limitSignal (s : String) : Option Nat :=
  let up := s.toUpper
  let bare := if up.startsWith "SIG" then (up.drop 3).toString else up
  if !s.isEmpty ∧ s.all Char.isDigit then signalOf s 0
  else if bare.isEmpty ∨ bare.all Char.isDigit then none
  else signalOf bare 1

/-- Reads the arguments of `timeout`: options up to the first operand, then the duration, the
command and its arguments. -/
def timeLimitArgs (name : String) (args : List String) : Except String TimeLimit :=
  let interval (s : String) : Except String Span :=
    match intervalSpan s with
    | some d => .ok d
    | none => .error (name ++ ": invalid time interval " ++ quoteName s ++ "\n")
  let signal (s : String) : Except String Nat :=
    match limitSignal s with
    | some k => .ok k
    | none => .error (name ++ ": " ++ quoteName s ++ ": invalid signal\n")
  let rec cluster : List Char → List String → TimeLimit → Except String (TimeLimit × List String)
    | [], rest, t => .ok (t, rest)
    | c :: more, rest, t =>
      if c = 'v' then cluster more rest { t with verbose := true }
      else if c = 's' ∨ c = 'k' then
        let given : Option (String × List String) :=
          if !more.isEmpty then some (String.ofList more, rest)
          else match rest with
            | a :: rest' => some (a, rest')
            | [] => none
        match given with
        | none => .error (name ++ ": option requires an argument -- '" ++ c.toString ++ "'\n")
        | some (v, rest') =>
          if c = 's' then (signal v).map (fun k => ({ t with signal := k }, rest'))
          else (interval v).map (fun _ => (t, rest'))
      else .error (name ++ ": invalid option -- '" ++ c.toString ++ "'\n")
  let rec go : Nat → List String → TimeLimit → Except String (TimeLimit × List String)
    | 0, rest, t => .ok (t, rest)
    | _ + 1, [], t => .ok (t, [])
    | n + 1, a :: rest, t =>
      if a = "--" then .ok (t, rest)
      else if a = "--verbose" then go n rest { t with verbose := true }
      else if a = "--preserve-status" then go n rest { t with preserve := true }
      else if a = "--foreground" then go n rest { t with foreground := true }
      else if a.startsWith "--signal=" then
        (signal (a.drop 9).toString).bind (fun k => go n rest { t with signal := k })
      else if a.startsWith "--kill-after=" then
        (interval (a.drop 13).toString).bind (fun _ => go n rest t)
      else if a = "--signal" ∨ a = "--kill-after" then
        match rest with
        | v :: rest' =>
          if a = "--signal" then (signal v).bind (fun k => go n rest' { t with signal := k })
          else (interval v).bind (fun _ => go n rest' t)
        | [] => .error (name ++ ": option '" ++ a ++ "' requires an argument\n")
      else if a.startsWith "--" then .error (name ++ ": unrecognized option '" ++ a ++ "'\n")
      else if a.startsWith "-" ∧ a.length > 1 then
        (cluster (a.toList.drop 1) rest t).bind (fun (t, rest) => go n rest t)
      else .ok (t, a :: rest)
  match go (args.length + 1) args {} with
  | .error e => .error e
  | .ok (t, ops) =>
    match ops with
    | d :: cmd :: rest => (interval d).map (fun s => { t with limit := s, command := cmd, args := rest })
    | _ => .error ""

/-- Whether a `sleep` with these arguments outlasts the limit: every argument is an interval,
and together they are at least as long as a limit that is not zero (a sleep as long as the
limit has also started later, so the limit comes first). -/
def TimeLimit.outlasts (t : TimeLimit) (sleepArgs : List String) : Bool :=
  let spans := sleepArgs.filterMap intervalSpan
  !sleepArgs.isEmpty && spans.length == sleepArgs.length && !t.limit.isZero &&
    !(spans.foldl Span.add (.finite 0 0)).shorter t.limit

end JobFlow.Shell
