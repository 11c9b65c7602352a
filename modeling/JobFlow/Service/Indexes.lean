import JobFlow.Service.Basic
import JobFlow.Index.Table

/-!
# Requests on the job index

An `index` request runs steps on a fresh, empty index.
-/

namespace JobFlow.Service

/-- Reads a time written as text, leniently. -/
def readStamp (path : String) (d : Doc) : DocRead Stamp :=
  match d with
  | .scalar (.json (.str s)) _ =>
    match Stamp.parseLoose s with
    | .ok t => pure t
    | .error m => Doc.fail path d m.message
  | _ => Doc.invalidType path d "an RFC 3339 formatted date and time string"

/-- Reads a path written as text. -/
def readPathText (path : String) (d : Doc) : DocRead String :=
  match d with
  | .scalar (.json (.str s)) _ => pure s
  | _ => Doc.invalidType path d "path string"

/-- The names of the columns of a row. -/
def rowFields : List String :=
  ["id", "project", "job_name", "job_type", "status", "working_directory", "storage_path", "master_id",
    "queue_id", "reason", "cancel_requested", "claim_token", "created_at", "updated_at", "started_at",
    "finished_at"]

/-- Reads a row over `base`, each column given replacing the base's. -/
def readRow (base : IndexRow) (path : String) (d : Doc) : DocRead IndexRow :=
  Doc.readStruct "IndexRecord" rowFields base (fun r k p v =>
    match k with
    | "id" => return { r with id := ← Doc.readU64 p v }
    | "project" => return { r with project := ← readPathText p v }
    | "job_name" => return { r with jobName := ← Doc.readString p v }
    | "job_type" => return { r with jobType := ← Doc.readString p v }
    | "status" => return { r with status := ← Status.read p v }
    | "working_directory" => return { r with workingDirectory := ← readPathText p v }
    | "storage_path" => return { r with storagePath := ← readPathText p v }
    | "master_id" => return { r with masterId := ← Doc.readOption Doc.readU64 p v }
    | "queue_id" => return { r with queueId := ← Doc.readOption Doc.readString p v }
    | "reason" => return { r with reason := ← Doc.readOption Doc.readString p v }
    | "cancel_requested" => return { r with cancelRequested := ← Doc.readBool p v }
    | "claim_token" => return { r with claimToken := ← Doc.readOption Doc.readString p v }
    | "created_at" => return { r with createdAt := ← readStamp p v }
    | "updated_at" => return { r with updatedAt := ← readStamp p v }
    | "started_at" => return { r with startedAt := ← Doc.readOption readStamp p v }
    | "finished_at" => return { r with finishedAt := ← Doc.readOption readStamp p v }
    | _ => pure r) path d

/-- The row a `restore` step starts from. -/
def defaultRow : IndexRow :=
  { id := 1, project := "/p", jobName := "toy", jobType := "tests::Toy", status := .created,
    workingDirectory := "/p/toy_files", storagePath := "/p/toy.jrk",
    createdAt := .at "2001-01-01T00:00:00.000000Z", updatedAt := .at "2001-01-01T00:00:00.000000Z" }

/-- A row with its claim token as given. -/
def rowJson (r : IndexRow) : Json := r.toJsonWith Json.ofOptString

/-- An optional row as JSON. -/
def optRowJson (r : Option IndexRow) : Json := (r.map rowJson).getD .null

/-- A time a filter gives: RFC 3339 text as written. -/
def stampOf (v : Option Json) : Answer (Option Stamp) :=
  match v with
  | some (.str s) =>
    match Stamp.parse s with
    | .ok t => pure (some t)
    | .error m => bad m.message
  | _ => pure none

/-- The filter a request gives. -/
def filterOf (f : Request) : Answer JobFilter := do
  let given := match f.get? "statuses" with
    | some (.arr xs) => xs.filterMap Json.str?
    | _ => []
  let statuses ← given.mapM (fun s => lift (parseStatus s))
  let before ← stampOf (f.get? "created_before")
  let after ← stampOf (f.get? "created_after")
  pure
    { project := (f.get? "project").bind Json.str?
      recursive := ((f.get? "recursive").bind Json.bool?).getD false
      statuses := statuses
      namePattern := (f.get? "name_pattern").bind Json.str?
      jobType := (f.get? "job_type").bind Json.str?
      masterId := (f.get? "master_id").bind Json.nat?
      createdBefore := before
      createdAfter := after
      limit := ((f.get? "limit").bind Json.nat?).map (· % Nat.pow 2 32) }

/-- An optional member that may be given as `null` to clear: absent, cleared or set. -/
def clearable {α : Type} (r : Request) (k : String) (read : Json → Answer α) : Answer (Option (Option α)) :=
  match r.get? k with
  | none => pure none
  | some .null => pure (some none)
  | some v => do pure (some (some (← read v)))

/-- An update a request gives. -/
def updateOf (s : Request) : Answer IndexUpdate := do
  let natOf (v : Json) : Answer Nat := match v with
    | .num (.nat n) => pure n
    | _ => bad "ids must be non-negative integers"
  let strOf (v : Json) : Answer String := match v with
    | .str t => pure t
    | _ => bad "texts must be strings"
  pure
    { masterId := ← clearable s "master_id" natOf, queueId := ← clearable s "queue_id" strOf,
      reason := ← clearable s "reason" strOf }

/-- One step on an index. -/
def indexStep (ix : JobIndex) (s : Request) : JobIndex × Answer Json :=
  let run : Answer (JobIndex × Json) := do
    match ← s.str "do" with
    | "insert" =>
      let project ← s.strD "project" "/p"
      let name ← s.str "job_name"
      let status ← lift (parseStatus (← s.strD "status" "initialized"))
      let row : NewRow :=
        { project := project, jobName := name, jobType := ← s.strD "job_type" "tests::Toy", status := status,
          workingDirectory := Path.join project (name ++ "_files"),
          storagePath := Path.join project (name ++ ".jrk"), masterId := ← s.nat? "master_id" }
      let (ix, id) ← lift (ix.insert row)
      pure (ix, .ofNat id)
    | "restore" =>
      let row ← readJson (readRow defaultRow) (← s.need "row")
      pure (← lift (ix.restore row), .str "ok")
    | "get" => pure (ix, optRowJson (← lift (ix.read? (← s.nat "id"))))
    | "find" => pure (ix, optRowJson (← lift (ix.readNamed? (← s.strD "project" "/p") (← s.str "job_name"))))
    | "update_status" =>
      let old ← lift (parseStatus (← s.str "old"))
      let new ← lift (parseStatus (← s.str "new"))
      let (ix, ok) := ix.updateStatus (← s.nat "id") old new
      pure (ix, .bool ok)
    | "force_status" =>
      let st ← lift (parseStatus (← s.str "status"))
      pure (← lift (ix.forceStatus (← s.nat "id") st), .str "ok")
    | "claim" =>
      let expected ← lift (parseStatus (← s.str "expected"))
      let (ix, ok) := ix.claim (← s.nat "id") expected (← s.str "token")
      pure (ix, .bool ok)
    | "update" =>
      let u ← updateOf s
      let ix ← lift (ix.update (← s.nat "id") u)
      pure (ix, Json.mkObj [("ok", .bool true), ("empty", .bool u.isEmpty)])
    | "request_cancel" =>
      let (ix, ok) := ix.requestCancel (← s.nat "id")
      pure (ix, .bool ok)
    | "delete" =>
      let (ix, ok) := ix.delete (← s.nat "id")
      pure (ix, .bool ok)
    | "query" =>
      let f ← filterOf (← s.need "filter")
      pure (ix, .arr ((← lift (ix.list f)).map IndexRow.brief))
    | other => bad s!"unknown step {other}"
  match run with
  | .ok (ix', v) => (ix', .ok v)
  | .error e => (ix, .error e)

/-- `index`: steps on a fresh index. -/
def indexOp (r : Request) : Answer Json := do
  pure (.arr (runSteps indexStep {} (← r.list "steps")).2)

end JobFlow.Service
