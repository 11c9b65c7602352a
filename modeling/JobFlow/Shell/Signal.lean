import JobFlow.Shell.State
import JobFlow.Shell.Test

/-!
# Signals

Signals have numbers from 1 to 64 and names: `HUP` to `SYS` for 1 to 31, `RTMIN`, `RTMIN+1`,
..., `RTMAX-1`, `RTMAX` for 34 to 64; 32 and 33 go by their numbers.
-/

namespace JobFlow.Shell

/-- The signals 1 to 31 by name. -/
def signalNames : List (String × Nat) :=
  [("HUP", 1), ("INT", 2), ("QUIT", 3), ("ILL", 4), ("TRAP", 5), ("ABRT", 6), ("BUS", 7),
   ("FPE", 8), ("KILL", 9), ("USR1", 10), ("SEGV", 11), ("USR2", 12), ("PIPE", 13), ("ALRM", 14),
   ("TERM", 15), ("STKFLT", 16), ("CHLD", 17), ("CONT", 18), ("STOP", 19), ("TSTP", 20),
   ("TTIN", 21), ("TTOU", 22), ("URG", 23), ("XCPU", 24), ("XFSZ", 25), ("VTALRM", 26),
   ("PROF", 27), ("WINCH", 28), ("IO", 29), ("PWR", 30), ("SYS", 31)]

/-- The name of a signal from 0 to 64, as `kill -l` and `trap` show it. -/
def signalName (n : Nat) : String :=
  if n = 0 then "EXIT"
  else if n ≤ 31 then ((signalNames.find? (·.2 = n)).map (·.1)).getD (toString n)
  else if n < 34 then toString n
  else if n = 34 then "RTMIN"
  else if n ≤ 49 then s!"RTMIN+{n - 34}"
  else if n < 64 then s!"RTMAX-{64 - n}"
  else "RTMAX"

/-- The system's description of a signal, as a shell reports a command it killed. -/
def signalText (sig : Nat) : String :=
  let texts : List String :=
    ["Hangup", "Interrupt", "Quit", "Illegal instruction", "Trace/breakpoint trap", "Aborted",
     "Bus error", "Floating point exception", "Killed", "User defined signal 1",
     "Segmentation fault", "User defined signal 2", "Broken pipe", "Alarm clock", "Terminated",
     "Stack fault", "Child exited", "Continued", "Stopped (signal)", "Stopped",
     "Stopped (tty input)", "Stopped (tty output)", "Urgent I/O condition",
     "CPU time limit exceeded", "File size limit exceeded", "Virtual timer expired",
     "Profiling timer expired", "Window changed", "I/O possible", "Power failure",
     "Bad system call"]
  if sig ≥ 1 ∧ sig ≤ 31 then texts.getD (sig - 1) ""
  else if sig < 34 then s!"Unknown signal {sig}"
  else s!"Real-time signal {sig - 34}"

/-- Whether a signal leaves a process alone unless it is caught. -/
def ignoredByDefault (sig : Nat) : Bool := sig = 0 ∨ sig = 17 ∨ sig = 18 ∨ sig = 23 ∨ sig = 28

/-- Whether a signal stops a process rather than ending it. -/
def stopsProcess (sig : Nat) : Bool := sig = 19 ∨ sig = 20 ∨ sig = 21 ∨ sig = 22

/-- The number of a signal written as a number below 65 or as a name in any case, from `least`
on (0 admits `EXIT`). -/
def signalOf (s : String) (least : Nat) : Option Nat :=
  if !s.isEmpty ∧ s.all Char.isDigit then
    let n := s.toNat?.getD 1000
    if n < 65 then some n else none
  else (List.range 65).find? (fun k => k ≥ least ∧ (signalName k).toUpper = s.toUpper)

/-- Reads a number as the shell's commands read counts: decimal, optionally signed, blanks
around it allowed, and within `0 ≤ n < 2^31`. -/
def shellNumber (s : String) : Except String Nat :=
  match testNumber s with
  | .ok x => if x < 0 ∨ x ≥ (Nat.pow 2 31 : Nat) then .error s!"Illegal number: {s}" else .ok x.toNat
  | .error e => .error e

/-- The text of `kill -l`: every signal's name, with 0 first. -/
def signalListing : String :=
  "0\n" ++ String.join ((List.range 64).map (fun k => signalName (k + 1) ++ "\n"))

namespace Sh

/-- The processes a signal to process group 0 reaches: the running process and the shells it
descends from (id 0 is the starter of the first shell, outside the group). -/
def groupOf (p : Proc) : List Nat := (p.pid :: p.ancestry).filter (· != 0)

/-- Sends a signal to a process: to a running shell it waits until that shell looks for it; a
background command that has not run yet dies of it unless it is one that is ignored. -/
def sendSignal (pid sig : Nat) : Sh Bool := do
  let p ← proc
  let m ← get
  if groupOf p |>.contains pid then
    if sig != 0 then
      modifyWorld fun w => { w with pending := w.pending ++ [(pid, sig)] }
    return true
  else match m.jobs.find? (·.pid = pid) with
    | some j =>
      if j.reaped then return false
      if sig != 0 ∧ j.ending.isNone ∧ !ignoredByDefault sig ∧ !stopsProcess sig then
        set { m with jobs := m.jobs.map (fun (k : Job) => if k.pid = pid then { k with ending := some (.killed sig) } else k) }
      return true
    | none => return false

/-- Sends a signal to every process of the group: the running process, those it descends from,
and the background commands of all of them. -/
def signalGroup (sig : Nat) : Sh Unit := do
  let group := groupOf (← proc)
  for pid in group do
    let _ ← sendSignal pid sig
  let m ← get
  for j in m.jobs do
    if j.ending.isNone then
      let _ ← sendSignal j.pid sig

/-- `kill`: sends a signal (`TERM` unless one is given as `-s name`, `-name` or `-number`) to
processes, or with `-l` lists the signals or names the one an exit status stands for. -/
def killBuiltin (args : List String) : Sh (Nat × String) := do
  let usage : Sh (Nat × String) := do
    complain "Usage: kill [-s sigspec | -signum | -sigspec] [pid | job]... or\nkill -l [exitstatus]"
    return (2, "")
  let fault (msg : String) : Sh (Nat × String) := do
    complain msg
    return (2, "")
  match args with
  | [] => usage
  | first :: rest =>
    -- the signal and whether signals are listed, with the operands
    let parsed : Except String (Option Nat × Bool × List String) :=
      if first.startsWith "-" ∧ first.length > 1 then
        match signalOf (first.drop 1).toString 1 with
        | some k => .ok (some k, false, rest)
        | none =>
          if first = "-l" then .ok (none, true, rest)
          else if first = "-s" then
            match rest with
            | name :: more =>
              match signalOf name 1 with
              | some k => .ok (some k, false, more)
              | none => .error s!"invalid signal number or name: {name}"
            | [] => .error "No arg for -s option"
          else if first.startsWith "-s" then
            let name := (first.drop 2).toString
            match signalOf name 1 with
            | some k => .ok (some k, false, rest)
            | none => .error s!"invalid signal number or name: {name}"
          else if first.startsWith "-l" then .error s!"Illegal option -{(first.drop 2).toString.take 1}"
          else .error s!"Illegal option -{(first.drop 1).toString.take 1}"
      else .ok (none, false, args)
    match parsed with
    | .error e => fault e
    | .ok (sig, list, operands) =>
      if list then
        match operands with
        | [] => return (0, signalListing)
        | a :: _ =>
          match shellNumber a with
          | .error e => fault e
          | .ok k =>
            let k := if k > 128 then k - 128 else k
            if 0 < k ∧ k < 65 then return (0, signalName k ++ "\n")
            else fault s!"invalid signal number or exit status: {a}"
      else if operands.isEmpty then usage
      else
        let sig := sig.getD 15
        let mut status := 0
        for a in operands do
          let negative := a.startsWith "-"
          match shellNumber (if negative then (a.drop 1).toString else a) with
          | .error e => return ← fault e
          | .ok pid =>
            if pid = 0 then
              if negative then
                complain "No such process\n"
                status := 1
              else signalGroup sig
            else if negative then
              if (groupOf (← proc)).getLast? = some pid then signalGroup sig
              else
                complain "No such process\n"
                status := 1
            else if !(← sendSignal pid sig) then
              complain "No such process\n"
              status := 1
        return (status, "")

end Sh

end JobFlow.Shell
