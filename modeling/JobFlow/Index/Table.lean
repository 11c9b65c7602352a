import JobFlow.Index.Stamp
import JobFlow.Index.Glob
import JobFlow.Status
import JobFlow.Error
import JobFlow.Json.Write

/-!
# The job index

The index has one row per job, for listing and filtering jobs and for the status changes
that decide between processes working on the same job.
-/

namespace JobFlow

/-- One row of the index. -/
structure IndexRow where
  id : Nat
  project : String
  jobName : String
  jobType : String
  status : Status
  workingDirectory : String
  storagePath : String
  masterId : Option Nat := none
  queueId : Option String := none
  reason : Option String := none
  cancelRequested : Bool := false
  claimToken : Option String := none
  createdAt : Stamp := .now
  updatedAt : Stamp := .now
  startedAt : Option Stamp := none
  finishedAt : Option Stamp := none
  deriving DecidableEq, Inhabited, Repr

/-- A row to add; the index gives it its id. -/
structure NewRow where
  project : String
  jobName : String
  jobType : String
  status : Status
  workingDirectory : String
  storagePath : String
  masterId : Option Nat := none
  deriving DecidableEq, Inhabited, Repr

/-- A change of the columns besides the status: `none` leaves a column alone, `some none`
clears it. -/
structure IndexUpdate where
  masterId : Option (Option Nat) := none
  queueId : Option (Option String) := none
  reason : Option (Option String) := none
  deriving DecidableEq, Inhabited, Repr

/-- Whether an update changes nothing. -/
def IndexUpdate.isEmpty (u : IndexUpdate) : Bool :=
  u.masterId.isNone ∧ u.queueId.isNone ∧ u.reason.isNone

/-- Which rows to list; a field left unset matches every row. -/
structure JobFilter where
  project : Option String := none
  recursive : Bool := false
  statuses : List Status := []
  namePattern : Option String := none
  jobType : Option String := none
  masterId : Option Nat := none
  createdBefore : Option Stamp := none
  createdAfter : Option Stamp := none
  limit : Option Nat := none
  deriving DecidableEq, Inhabited, Repr

namespace JobFilter

/-- The children of a master. -/
def childrenOf (master : Nat) : JobFilter := { masterId := some master }

/-- The jobs of a project, and of its sub-projects when recursive. -/
def ofProject (p : String) (recursive : Bool := false) : JobFilter := { project := some p, recursive := recursive }

/-- Whether a row's project is the filter's, or lies below it when recursive. -/
def projectMatches (project : String) (recursive : Bool) (rowProject : String) : Bool :=
  if rowProject = project then true
  else if recursive then
    let trimmed := String.ofList ((project.toList.reverse.dropWhile (· = '/')).reverse)
    (trimmed ++ "/").isPrefixOf rowProject
  else false

/-- Whether a row passes the filter, its limit aside. -/
def admits (f : JobFilter) (r : IndexRow) : Bool :=
  (match f.project with
   | some p => projectMatches p f.recursive r.project
   | none => true) &&
  (f.statuses.isEmpty || f.statuses.contains r.status) &&
  (match f.namePattern with
   | some pat => Glob.accepts pat r.jobName
   | none => true) &&
  (match f.jobType with
   | some t => r.jobType == t
   | none => true) &&
  (match f.masterId with
   | some m => r.masterId == some m
   | none => true) &&
  (match f.createdBefore with
   | some t => r.createdAt.before t
   | none => true) &&
  (match f.createdAfter with
   | some t => t.before r.createdAt
   | none => true)

end JobFilter

/-- The signed key an id is kept under: ids from 2^63 on are negative. -/
def IndexRow.keyOf (id : Nat) : Int :=
  if id < Nat.pow 2 63 then id else (id : Int) - (Nat.pow 2 64 : Int)

/-- The signed key of a row. -/
def IndexRow.key (r : IndexRow) : Int := IndexRow.keyOf r.id

/-- The index: its rows in key order, and the largest id ever given. -/
structure JobIndex where
  rows : List IndexRow := []
  lastId : Nat := 0
  deriving Inhabited

namespace JobIndex

/-- The largest id a row may have. -/
def maxId : Nat := Nat.pow 2 63 - 1

/-- The stamps a move to a status sets: start for `running`, end for a status that ends. -/
def lifecycle (r : IndexRow) (s : Status) : IndexRow :=
  let r := if s = .running ∧ r.startedAt.isNone then { r with startedAt := some .now } else r
  if s.isTerminal then { r with finishedAt := some .now } else r

/-- The index with a row added in key order; a positive key counts as given. -/
def place (ix : JobIndex) (row : IndexRow) : JobIndex :=
  let (lo, hi) := ix.rows.partition (·.key < row.key)
  { ix with rows := lo ++ [row] ++ hi, lastId := max ix.lastId row.key.toNat }

/-- Whether a project already has a job of a name. -/
def taken (ix : JobIndex) (project name : String) : Bool :=
  ix.rows.any (fun r => r.project = project ∧ r.jobName = name)

/-- Adds a row and answers its new id. -/
def insert (ix : JobIndex) (n : NewRow) : Outcome (JobIndex × Nat) := do
  if ix.taken n.project n.jobName then
    throw (.conflict s!"a job named '{n.jobName}' already exists in {n.project}")
  let full := JobError.index (.database 13 "database or disk is full")
  let next ← match (ix.rows.map IndexRow.key).max? with
    | none => pure (1 : Int)
    | some k => if k ≥ maxId then throw full else pure (k + 1)
  if ix.lastId ≥ maxId then throw full
  let id := (max next (ix.lastId + 1 : Nat)).toNat
  let row : IndexRow :=
    { id := id
      project := n.project
      jobName := n.jobName
      jobType := n.jobType
      status := n.status
      workingDirectory := n.workingDirectory
      storagePath := n.storagePath
      masterId := n.masterId }
  pure (ix.place row, id)

/-- Adds a row with a known id. -/
def restore (ix : JobIndex) (row : IndexRow) : Outcome JobIndex := do
  if ix.rows.any (·.id = row.id) ∨ ix.taken row.project row.jobName then
    throw (.conflict s!"job {row.id} ({row.jobName}) is already indexed")
  pure (ix.place row)

/-- The row of an id. -/
def get? (ix : JobIndex) (id : Nat) : Option IndexRow := ix.rows.find? (·.id = id)

/-- The row of a job name in a project. -/
def find? (ix : JobIndex) (project name : String) : Option IndexRow :=
  ix.rows.find? (fun r => r.project = project ∧ r.jobName = name)

/-- The index with the row of an id changed. -/
def modify (ix : JobIndex) (id : Nat) (f : IndexRow → IndexRow) : JobIndex :=
  { ix with rows := ix.rows.map (fun r => if r.id = id then f r else r) }

/-- Moves a row from `old` to `new`; answers whether it had `old`. -/
def updateStatus (ix : JobIndex) (id : Nat) (old new : Status) : JobIndex × Bool :=
  match ix.get? id with
  | some r =>
    if r.status = old then
      (ix.modify id (fun r => lifecycle { r with status := new, updatedAt := .now } new), true)
    else (ix, false)
  | none => (ix, false)

/-- Sets a row's status whatever it was. -/
def forceStatus (ix : JobIndex) (id : Nat) (s : Status) : Outcome JobIndex :=
  match ix.get? id with
  | some _ => pure (ix.modify id (fun r => lifecycle { r with status := s, updatedAt := .now } s))
  | none => throw (.notFound s!"job {id} in index")

/-- Moves a row from `expected` to `busy` for a claimant; answers whether it had `expected`. -/
def claim (ix : JobIndex) (id : Nat) (expected : Status) (token : String) : JobIndex × Bool :=
  match ix.get? id with
  | some r =>
    if r.status = expected then
      (ix.modify id (fun r => { r with status := .busy, claimToken := some token, updatedAt := .now }), true)
    else (ix, false)
  | none => (ix, false)

/-- Applies an update; an empty one does nothing, even for a missing row. -/
def update (ix : JobIndex) (id : Nat) (u : IndexUpdate) : Outcome JobIndex :=
  if u.isEmpty then pure ix
  else
    match ix.get? id with
    | none => throw (.notFound s!"job {id} in index")
    | some _ =>
      pure (ix.modify id (fun r =>
        let r := { r with updatedAt := .now }
        let r := match u.masterId with
          | some m => { r with masterId := m }
          | none => r
        let r := match u.queueId with
          | some q => { r with queueId := q }
          | none => r
        match u.reason with
        | some m => { r with reason := m }
        | none => r))

/-- Marks a row as asked to cancel; answers whether there is a row. -/
def requestCancel (ix : JobIndex) (id : Nat) : JobIndex × Bool :=
  match ix.get? id with
  | some _ => (ix.modify id (fun r => { r with cancelRequested := true, updatedAt := .now }), true)
  | none => (ix, false)

/-- The rows a filter admits, in key order, at most its limit. -/
def query (ix : JobIndex) (f : JobFilter) : List IndexRow :=
  let rows := ix.rows.filter f.admits
  match f.limit with
  | some n => rows.take n
  | none => rows

/-- A row as read back: each of its times must read as RFC 3339, in column order. -/
def readBack (r : IndexRow) : Outcome IndexRow := do
  for t in [some r.createdAt, some r.updatedAt, r.startedAt, r.finishedAt] do
    match t with
    | some (.at text) =>
      match Stamp.check (.at text) with
      | .error f => throw (.internal s!"invalid timestamp '{text}' in index: {f.message}")
      | .ok () => pure ()
    | _ => pure ()
  pure r

/-- The row of an id, read back. -/
def read? (ix : JobIndex) (id : Nat) : Outcome (Option IndexRow) :=
  (ix.get? id).mapM readBack

/-- The row of a job name in a project, read back. -/
def readNamed? (ix : JobIndex) (project name : String) : Outcome (Option IndexRow) :=
  (ix.find? project name).mapM readBack

/-- The rows a filter admits, read back. -/
def list (ix : JobIndex) (f : JobFilter) : Outcome (List IndexRow) :=
  (ix.query f).mapM readBack

/-- Deletes a row; answers whether there was one. -/
def delete (ix : JobIndex) (id : Nat) : JobIndex × Bool :=
  ({ ix with rows := ix.rows.filter (·.id != id) }, (ix.get? id).isSome)

end JobIndex

namespace IndexRow

/-- A row as JSON, its claim token shown by `token`. -/
def toJsonWith (token : Option String → Json) (r : IndexRow) : Json :=
  let stamp (s : Option Stamp) : Json := match s with
    | some t => .str t.text
    | none => .null
  Json.mkObj [("id", .ofNat r.id), ("project", .str r.project), ("job_name", .str r.jobName),
    ("job_type", .str r.jobType), ("status", .str r.status.name),
    ("working_directory", .str r.workingDirectory), ("storage_path", .str r.storagePath),
    ("master_id", .ofOptNat r.masterId), ("queue_id", .ofOptString r.queueId),
    ("reason", .ofOptString r.reason), ("cancel_requested", .bool r.cancelRequested),
    ("claim_token", token r.claimToken), ("created_at", stamp (some r.createdAt)),
    ("updated_at", stamp (some r.updatedAt)), ("started_at", stamp r.startedAt),
    ("finished_at", stamp r.finishedAt)]

/-- The short form of a row: id, name and status. -/
def brief (r : IndexRow) : Json := .arr [.ofNat r.id, .str r.jobName, .str r.status.name]

end IndexRow

end JobFlow
