import JobFlow.Config
import JobFlow.Jobs.Registry
import JobFlow.Jobs.Layout
import JobFlow.Record.Store
import JobFlow.Index.Table
import JobFlow.Queue.Request

/-!
# A job system

A job system is the configuration, the registry of job types, the disk that holds projects,
job records and working directories, the index of jobs, and optionally a queuing system.
-/

namespace JobFlow

/-- A queuing system that keeps every submission: ids count up from 1001 in submission
order, a new job is pending, and a cancelled one failed. -/
structure Scheduler where
  refusing : Bool := false
  submitted : List SubmitRequest := []
  states : List (String × QueueState) := []
  cancelled : List String := []
  deriving Inhabited

namespace Scheduler

/-- Sets the state of a queue job. -/
def setState (q : Scheduler) (id : String) (s : QueueState) : Scheduler :=
  { q with states := (q.states.filter (·.1 != id)) ++ [(id, s)] }

/-- Submits a job and answers its queue id. -/
def submit (q : Scheduler) (r : SubmitRequest) : Outcome (Scheduler × String) :=
  if q.refusing then throw (.queue "scheduler unreachable")
  else
    let id := toString (1000 + q.submitted.length + 1)
    pure ({ q with submitted := q.submitted ++ [r] }.setState id .pending, id)

/-- The state of a queue job. -/
def poll (q : Scheduler) (id : String) : Outcome QueueState :=
  match q.states.lookup id with
  | some s => pure s
  | none => throw (.notFound s!"queue job {id}")

/-- Cancels a queue job. -/
def cancel (q : Scheduler) (id : String) : Scheduler :=
  { q with cancelled := q.cancelled ++ [id] }.setState id .failed

end Scheduler

/-- The state of a job system. -/
structure JobSystem where
  config : JobsConfig
  registry : Registry
  disk : Disk
  index : JobIndex := {}
  fault : Option Status := none
  scheduler : Option Scheduler := some {}
  claims : Nat := 0
  deriving Inhabited

/-- Why an action of a job system ended without a value: a library error, or a wait that
never ends. -/
inductive Stop where
  | fault (e : JobError)
  | stall (what : String)
  deriving Inhabited

/-- An action of a job system. -/
abbrev Sys := ExceptT Stop (StateM JobSystem)

namespace Sys

/-- Fails with a library error. -/
def fail {α : Type} (e : JobError) : Sys α := throw (.fault e)

/-- A wait that never ends. -/
def stall {α : Type} (what : String) : Sys α := throw (.stall what)

/-- The value of a library outcome. -/
def ofOutcome {α : Type} (o : Outcome α) : Sys α :=
  match o with
  | .ok a => pure a
  | .error e => fail e

/-- Handles a library error; a stall goes on. -/
def recover {α : Type} (x : Sys α) (h : JobError → Sys α) : Sys α :=
  tryCatch x (fun
    | .fault e => h e
    | s => throw s)

/-- The outcome of an action, its library error as a value; a stall goes on. -/
def attempt {α : Type} (x : Sys α) : Sys (Except JobError α) :=
  recover (.ok <$> x) (fun e => pure (.error e))

/-- The configuration. -/
def config : Sys JobsConfig := do return (← get).config

/-- The disk. -/
def disk : Sys Disk := do return (← get).disk

/-- Replaces the disk. -/
def setDisk (d : Disk) : Sys Unit := modify fun s => { s with disk := d }

/-- Runs an operation of the disk, a fault of the system an I/O error. -/
def onDisk {α : Type} (f : Disk → Except OsError (Disk × α)) : Sys α := do
  match f (← disk) with
  | .ok (d, a) =>
    setDisk d
    pure a
  | .error e => fail (.io e.text)

/-- Makes a directory and its parents. -/
def createDirAll (p : String) : Sys Unit :=
  onDisk (fun d => (d.createDirAll (Disk.locate p)).map (·, ()))

/-- Whether a path is a directory. -/
def isDir (p : String) : Sys Bool := do return (← disk).isDir (Disk.locate p)

/-- Whether a path exists. -/
def pathExists (p : String) : Sys Bool := do return (← disk).exists? (Disk.locate p)

/-- The names of the directories right below a directory, sorted. -/
def subdirectories (p : String) : Sys (List String) := do
  let d ← disk
  let at_ := Disk.locate p
  match d.lookup at_ with
  | .ok (some n) =>
    if n.isDir then pure ((d.children at_).filter (fun c => d.isDir (at_ ++ [c])))
    else fail (.io OsError.notDirectory.text)
  | .ok none => fail (.io OsError.noEntry.text)
  | .error e => fail (.io e.text)

/-- The store of job records. -/
def records : Sys RecordStore := do return ⟨(← config).storage⟩

/-- Opens the database at a path, which stays a database even when it turns out to hold
no job record. -/
def openDb (p : String) : Sys Record := do
  let (d, r) ← ofOutcome ((← records).record (← disk) p)
  setDisk d
  pure r

/-- Opens an existing job record. -/
def openRecord (p : String) : Sys Record := do
  if !(← disk).exists? (Disk.locate p) then fail (.notFound s!"job record {p} does not exist")
  let r ← openDb p
  ofOutcome r.checkFormat
  pure r

/-- Opens a job record, making it with root tags when it has none. -/
def createRecord (p typeName name version : String) : Sys Record := do
  let r ← openDb p
  match ← ofOutcome r.rootMeta with
  | some _ =>
    ofOutcome r.checkFormat
    pure r
  | none =>
    let tags : GroupMeta := ⟨typeName, name, some version, some RecordPath.formatVersion⟩
    let r := { r with pairs := r.pairs.insert (RecordKey.group "") tags.bytes }
    setDisk (RecordStore.save (← disk) r)
    pure r

/-- Stores a record back. -/
def saveRecord (r : Record) : Sys Unit := do setDisk (RecordStore.save (← disk) r)

/-- Writes a value into a record and stores it. -/
def writeRecord (r : Record) (p : String) (v : Json) : Sys Record := do
  let r ← ofOutcome (r.write p v)
  saveRecord r
  pure r

/-- Runs writes in a scope over a whole record and stores it. -/
def writeScoped (r : Record) (writes : List (String × Json)) : Sys Record := do
  let (r, _) ← ofOutcome (r.withScoped (fun s => do
    let s ← writes.foldlM (fun s kv => s.write r.config r.pairs kv.1 kv.2) s
    pure (s, ())))
  saveRecord r
  pure r

/-- Reads a typed value out of a record. -/
def readAs {α : Type} (r : Record) (p : String) (reader : String → Doc → DocRead α) : Sys α :=
  ofOutcome (do readValue reader (← r.read p))

/-- The status a record holds. -/
def storedStatus (r : Record) : Sys Status := readAs r Layout.status Status.read

/-- Deletes a record that is not open; a missing one is no fault. -/
def removeRecord (p : String) : Sys Unit := do setDisk (← ofOutcome (RecordStore.remove (← disk) p false))

/-- The index. -/
def index : Sys JobIndex := do return (← get).index

/-- Replaces the index. -/
def setIndex (ix : JobIndex) : Sys Unit := modify fun s => { s with index := ix }

/-- The row of an id. -/
def row? (id : Nat) : Sys (Option IndexRow) := do return (← index).get? id

/-- The row of an id, which must be there. -/
def row (id : Nat) : Sys IndexRow := do
  match ← row? id with
  | some r => pure r
  | none => fail (.notFound s!"job {id} in index")

/-- The row of a job name in a project. -/
def findByName (project name : String) : Sys (Option IndexRow) := do
  return (← index).find? project name

/-- The rows a filter admits. -/
def query (f : JobFilter) : Sys (List IndexRow) := do return (← index).query f

/-- Moves a row from `old` to `new`, failing as told for an injected fault. -/
def updateStatus (id : Nat) (old new : Status) : Sys Bool := do
  if (← get).fault = some new then
    fail (.internal s!"injected index fault on {old} -> {new}")
  let (ix, moved) := (← index).updateStatus id old new
  setIndex ix
  pure moved

/-- Sets a row's status whatever it was. -/
def forceStatus (id : Nat) (s : Status) : Sys Unit := do
  setIndex (← ofOutcome ((← index).forceStatus id s))

/-- Applies an update to a row. -/
def updateRow (id : Nat) (u : IndexUpdate) : Sys Unit := do
  setIndex (← ofOutcome ((← index).update id u))

/-- Adds a row and answers its id. -/
def insertRow (n : NewRow) : Sys Nat := do
  let (ix, id) ← ofOutcome ((← index).insert n)
  setIndex ix
  pure id

/-- Adds a row with a known id. -/
def restoreRow (r : IndexRow) : Sys Unit := do
  setIndex (← ofOutcome ((← index).restore r))

/-- Deletes a row; answers whether there was one. -/
def deleteRow (id : Nat) : Sys Bool := do
  let (ix, had) := (← index).delete id
  setIndex ix
  pure had

/-- Marks a row as asked to cancel. -/
def requestCancel (id : Nat) : Sys Bool := do
  let (ix, had) := (← index).requestCancel id
  setIndex ix
  pure had

/-- A fresh claim token. -/
def newToken : Sys String := do
  let s ← get
  set { s with claims := s.claims + 1 }
  pure s!"claim-{s.claims + 1}"

/-- Moves a row from `expected` to `busy` for a claimant. -/
def claimRow (id : Nat) (expected : Status) (token : String) : Sys Bool := do
  let (ix, won) := (← index).claim id expected token
  setIndex ix
  pure won

/-- The queuing system, if there is one. -/
def scheduler? : Sys (Option Scheduler) := do return (← get).scheduler

/-- Replaces the queuing system's state. -/
def setScheduler (q : Scheduler) : Sys Unit := modify fun s => { s with scheduler := some q }

/-- Cancels a queue job, if there is a queuing system. -/
def cancelInQueue (queueId : String) : Sys Unit := do
  if let some q ← scheduler? then setScheduler (q.cancel queueId)

end Sys

end JobFlow
