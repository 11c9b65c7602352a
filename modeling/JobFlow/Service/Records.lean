import JobFlow.Service.Basic
import JobFlow.Service.Files
import JobFlow.Record.Store
import JobFlow.Config.Read

/-!
# Requests on job records

A `record` request runs steps on record databases below the request's root.
-/

namespace JobFlow.Service

/-- The state of a `record` request: the disk, the store, and the records with a handle. -/
structure RecordBench where
  disk : Disk := rootDisk
  store : RecordStore
  handles : List (List String) := []
  deriving Inhabited

/-- Reads tags given as JSON. -/
def readGroupMeta (path : String) (d : Doc) : DocRead GroupMeta := do
  let init : Option String × Option String × Option (Option String) × Option (Option String) :=
    (none, none, none, none)
  let (t, n, v, f) ← Doc.readStruct "GroupMeta" ["type_name", "name", "version", "format_version"] init
    (fun acc k p v =>
      match k with
      | "type_name" => return (some (← Doc.readString p v), acc.2)
      | "name" => return (acc.1, some (← Doc.readString p v), acc.2.2)
      | "version" => return (acc.1, acc.2.1, some (← Doc.readOption Doc.readString p v), acc.2.2.2)
      | "format_version" => return (acc.1, acc.2.1, acc.2.2.1, some (← Doc.readOption Doc.readString p v))
      | _ => pure acc) path d
  let some typeName := t | Doc.fail path d "missing field `type_name`"
  let some name := n | Doc.fail path d "missing field `name`"
  pure ⟨typeName, name, v.getD none, f.getD none⟩

/-- The pair of name lists of a group as JSON. -/
def namesJson (l : List String × List String) : Json := .arr [.ofStrings l.1, .ofStrings l.2]

/-- The storage settings of a `record` request: few, quick open retries, then the request's
overrides merged in. -/
def benchStorage (r : Request) : Answer StorageConfig := do
  let base : StorageConfig := { openRetries := 2, openRetryInterval := Duration.ofMillis 5 }
  match r.get? "storage" with
  | none => pure base
  | some patch => readJson (ConfigRead.storage {}) (Json.merge (JobsConfig.storageJson base) patch)

namespace RecordBench

/-- The record a step names, below the root. -/
def target (s : Request) : Answer String := do
  pure (Path.join root (← s.strD "record" "rec.jrk"))

/-- Whether the record at a path has a handle. -/
def held (b : RecordBench) (p : String) : Bool := b.handles.contains (Disk.locate p)

/-- The bench with a handle kept for a record. -/
def keep (b : RecordBench) (p : String) : RecordBench :=
  if b.held p then b else { b with handles := b.handles ++ [Disk.locate p] }

/-- The open record at a path, which needs a handle. -/
def opened (b : RecordBench) (p : String) : Answer Record :=
  if b.held p then pure ⟨p, (RecordStore.pairsAt b.disk p).getD [], b.store.config⟩
  else bad "record not open"

/-- The bench with a record's pairs stored. -/
def saved (b : RecordBench) (r : Record) : RecordBench := { b with disk := RecordStore.save b.disk r }

/-- One operation inside a scope. -/
def scopeOp (r : Record) (sc : Scope) (op : Request) : Answer (Scope × Json) := do
  match ← op.str "do" with
  | "write" => pure (← lift (sc.write r.config r.pairs (← op.str "path") (← op.need "value")), .str "ok")
  | "remove" => pure (← lift (sc.remove r.pairs (← op.str "path")), .str "ok")
  | "create_group" =>
    let tags ← readJson readGroupMeta (← op.need "meta")
    pure (← lift (sc.createGroup r.pairs (← op.str "path") tags), .str "ok")
  | "read_opt" => pure (sc, (← lift (sc.readOpt r.pairs (← op.str "path"))).getD .null)
  | "pending_ops" => pure (sc, .ofNat sc.pendingOps)
  | other => bad s!"unknown scoped op {other}"

/-- Runs scope operations until one fails. -/
def scopeOps (r : Record) : Scope → List Json → List Json × Option Scope
  | sc, [] => ([], some sc)
  | sc, op :: rest =>
    match scopeOp r sc op with
    | .ok (sc, v) =>
      let (vs, last) := scopeOps r sc rest
      (v :: vs, last)
    | .error f => ([f.toJson], none)

/-- What a step on a group answers about one of its children. -/
def childJson (r : Record) (g name : String) : List (String × Json) :=
  let child : Answer Json := do
    lift (RecordPath.validateSegment name)
    let p := RecordPath.join g name
    if ← lift (r.isGroup p) then pure (Json.mkObj [("group", .str p)])
    else pure (Json.mkObj [("value", ← lift (r.read p))])
  let contains : Answer Json := do
    let (nodes, groups) ← lift (r.list g)
    pure (.bool (nodes.contains name || groups.contains name))
  let read : Answer Json := lift (r.read (RecordPath.join g name))
  [("child", stepJson child), ("contains", stepJson contains), ("read", stepJson read)]

/-- One step of a `record` request. -/
def step (b : RecordBench) (s : Request) : RecordBench × Answer Json :=
  let run : Answer (RecordBench × Json) := do
    let p ← target s
    match ← s.str "do" with
    | "create" =>
      let (disk, r) ← lift (b.store.create b.disk p (← s.strD "type_name" "tests::Toy")
        (← s.strD "name" "toy") (← s.strD "version" "0.1.0"))
      let b := { b with disk := disk }.keep p
      let tags ← lift r.rootMeta
      pure (b, (tags.map GroupMeta.toJson).getD .null)
    | "open" =>
      let (disk, _) ← lift (b.store.open b.disk p)
      pure ({ b with disk := disk }.keep p, .str "ok")
    | "close" =>
      pure ({ b with handles := b.handles.filter (· != Disk.locate p) }, .bool (b.held p))
    | "is_open" => pure (b, .bool (b.held p))
    | "exists_record" => pure (b, .bool (RecordStore.exists b.disk p))
    | "remove_record" =>
      let disk ← lift (RecordStore.remove b.disk p (b.held p))
      pure ({ b with disk := disk }, .str "ok")
    | "mkdir" =>
      match b.disk.createDirAll (Disk.locate p) with
      | .ok disk => pure ({ b with disk := disk }, .str "ok")
      | .error e => bad s!"cannot make {p}: {e.text}"
    | "forge" =>
      let b := { b with handles := [] }
      let (disk, pairs) ← lift (RecordStore.openDb b.disk p)
      let key := (if (← s.str "kind") = "group" then RecordKey.group else RecordKey.leaf) (← s.str "path")
      let bytes ← match s.get? "hex" with
        | some v => contentBytes (Json.mkObj [("hex", v)])
        | none => pure ((← s.need "json").compact.toUTF8)
      let disk := disk.put (Disk.locate p) (.records (pairs.insert key bytes))
      pure ({ b with disk := disk }, .str "ok")
    | "read" => pure (b, ← lift ((← b.opened p).read (← s.str "path")))
    | "read_opt" => pure (b, (← lift ((← b.opened p).readOpt (← s.str "path"))).getD .null)
    | "exists" => pure (b, .bool (← lift ((← b.opened p).exists (← s.str "path"))))
    | "is_group" => pure (b, .bool (← lift ((← b.opened p).isGroup (← s.str "path"))))
    | "list" => pure (b, namesJson (← lift ((← b.opened p).list (← s.str "path"))))
    | "group_meta" =>
      let tags ← lift ((← b.opened p).groupMeta (← s.str "path"))
      pure (b, (tags.map GroupMeta.toJson).getD .null)
    | "write" =>
      let r ← lift ((← b.opened p).write (← s.str "path") (← s.need "value"))
      pure (b.saved r, .str "ok")
    | "remove" =>
      let r ← lift ((← b.opened p).remove (← s.str "path"))
      pure (b.saved r, .str "ok")
    | "sync" | "flush" =>
      let _ ← b.opened p
      pure (b, .str "ok")
    | "group" =>
      let r ← b.opened p
      let g ← lift (r.group (← s.str "path"))
      let tags ← lift (r.groupMeta g)
      let all ← lift (r.list g)
      let base := [("path", Json.str g), ("meta", (tags.map GroupMeta.toJson).getD .null), ("all", namesJson all)]
      match ← s.str? "child" with
      | some name => pure (b, Json.mkObj (base ++ childJson r g name))
      | none => pure (b, Json.mkObj base)
    | "scoped" =>
      let r ← b.opened p
      let sc ← lift (r.scope (← s.strD "group" ""))
      let (results, last) := scopeOps r sc (← s.list "ops")
      let commit ← s.boolD "commit" true
      match last with
      | some sc =>
        if commit then
          pure (b.saved (r.commit sc), Json.mkObj [("results", .arr results), ("committed", .bool true)])
        else pure (b, Json.mkObj [("results", .arr results), ("committed", .bool false)])
      | none => pure (b, Json.mkObj [("results", .arr results), ("committed", .bool false)])
    | other => bad s!"unknown step {other}"
  match run with
  | .ok (b', v) => (b', .ok v)
  | .error e => (b, .error e)

end RecordBench

/-- `record`: steps on record databases. -/
def recordOp (r : Request) : Answer Json := do
  let bench : RecordBench := { store := ⟨← benchStorage r⟩ }
  pure (.arr (runSteps RecordBench.step bench (← r.list "steps")).2)

end JobFlow.Service
