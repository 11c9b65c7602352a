import JobFlow.Record.Path
import JobFlow.Json.Struct
import JobFlow.Config
import JobFlow.Disk
import JobFlow.Zstd

/-!
# Job records

A job record is a tree stored flat in a key-value database: the group at path `p` is the
key `g` followed by `p` and holds the group's tags, and the value at `p` is the key `v`
followed by `p` and holds one encoding byte and the value's JSON, packed in a zstd frame
when the JSON is longer than the compression threshold.
-/

namespace JobFlow

/-- The tags stored with every group. -/
structure GroupMeta where
  typeName : String
  name : String
  version : Option String := none
  formatVersion : Option String := none
  deriving DecidableEq, Inhabited, Repr

namespace GroupMeta

/-- The tags of a group made for a member of a written object. -/
def plain (name : String) : GroupMeta := ⟨"group", name, none, none⟩

/-- The tags as a JSON object. -/
def toJson (m : GroupMeta) : Json :=
  Json.mkObj [("type_name", .str m.typeName), ("name", .str m.name),
    ("version", .ofOptString m.version), ("format_version", .ofOptString m.formatVersion)]

/-- The stored text of the tags, members in their order of declaration. -/
def text (m : GroupMeta) : String :=
  let opt (v : Option String) : String := match v with
    | some s => Json.quote s
    | none => "null"
  "\x7b\"type_name\":" ++ Json.quote m.typeName ++ ",\"name\":" ++ Json.quote m.name ++
    ",\"version\":" ++ opt m.version ++ ",\"format_version\":" ++ opt m.formatVersion ++ "\x7d"

/-- The stored bytes of the tags. -/
def bytes (m : GroupMeta) : ByteArray := m.text.toUTF8

/-- The members of the tags. -/
def fields : List Json.Reader.TextField :=
  [⟨"type_name", false⟩, ⟨"name", false⟩, ⟨"version", true⟩, ⟨"format_version", true⟩]

/-- Reads tags from their stored bytes. -/
def ofBytes (b : ByteArray) : Except ReadError GroupMeta := do
  match ← Json.Reader.textStruct "GroupMeta" fields b with
  | [some t, some n, v, f] => pure ⟨t, n, v, f⟩
  | _ => throw ⟨"missing field `type_name`", none⟩

end GroupMeta

/-- The content of a record database: values by key, in key order. -/
abbrev Pairs := List (String × ByteArray)

namespace Pairs

/-- The value of a key. -/
def get? (ps : Pairs) (k : String) : Option ByteArray := ps.lookup k

/-- Whether a key is present. -/
def contains (ps : Pairs) (k : String) : Bool := (ps.get? k).isSome

/-- The pairs with `k` set to `v`, kept in key order. -/
def insert (ps : Pairs) (k : String) (v : ByteArray) : Pairs :=
  match ps with
  | [] => [(k, v)]
  | (k', v') :: rest =>
    if k < k' then (k, v) :: (k', v') :: rest
    else if k = k' then (k, v) :: rest
    else (k', v') :: insert rest k v

/-- The pairs without the key `k`. -/
def erase (ps : Pairs) (k : String) : Pairs := ps.filter (·.1 != k)

/-- The keys that start with `pre`, in order. -/
def keysWith (ps : Pairs) (pre : String) : List String :=
  (ps.filter (fun kv => kv.1.startsWith pre)).map (·.1)

end Pairs

namespace RecordKey

/-- The key of the value at a path. -/
def leaf (p : String) : String := "v" ++ p

/-- The key of the group at a path. -/
def group (p : String) : String := "g" ++ p

/-- The start of the keys of a kind below a path. -/
def childPrefix (kind : String) (parent : String) : String :=
  if parent.isEmpty then kind else kind ++ parent ++ "/"

/-- The path of a key below `parent` relative to it, the kind dropped. -/
def relative (key parent : String) : String :=
  let skip := if parent.isEmpty then 1 else parent.length + 2
  String.ofList (key.toList.drop skip)

/-- Adds a key to keys held in increasing order, in its place and only once. -/
def insertSorted (k : String) : List String → List String
  | [] => [k]
  | k' :: rest =>
    if k < k' then k :: k' :: rest
    else if k = k' then k' :: rest
    else k' :: insertSorted k rest

end RecordKey

namespace Leaf

/-- The stored bytes of a value: `0` and its JSON, or `1` and its JSON in a zstd frame when
the JSON is longer than the threshold. -/
def encode (cfg : StorageConfig) (v : Json) : ByteArray :=
  let json := v.compact.toUTF8
  if json.size > cfg.compressionThreshold then ByteArray.mk ((1 :: Zstd.compress json.toList).toArray)
  else ByteArray.mk ((0 :: json.toList).toArray)

/-- Reads JSON from bytes, a fault worded as a JSON error. -/
def parseJson (b : ByteArray) : Outcome Json :=
  match Json.ofBytes b with
  | .ok v => pure v
  | .error e => throw (.json e)

/-- The value of stored bytes. -/
def decode (bytes : ByteArray) : Outcome Json :=
  match bytes.toList with
  | [] => throw (.internal "empty leaf value")
  | 0 :: rest => parseJson (ByteArray.mk rest.toArray)
  | 1 :: rest =>
    match Zstd.decodeAll (ByteArray.mk rest.toArray) with
    | .error f => throw (.io f.text)
    | .ok b => parseJson b
  | b :: _ => throw (.internal s!"unknown leaf encoding {b}")

end Leaf

namespace RecordTree

/-- Puts an entry at a relative path into an object: a value, or an empty group unless one is
there. -/
def insertAt (rel : String) : List (String × Json) → List String → Option Json → Outcome (List (String × Json))
  | m, [], _ => pure m
  | m, [last], leaf =>
    match leaf with
    | some v => pure (Json.insertField last v m)
    | none => pure (if (m.lookup last).isSome then m else Json.insertField last (.obj []) m)
  | m, seg :: rest, leaf =>
    match (m.lookup seg).getD (.obj []) with
    | .obj inner => do
      let inner ← insertAt rel inner rest leaf
      pure (Json.insertField seg (.obj inner) m)
    | _ => throw (.internal s!"corrupt record: '{rel}' is not a group")

/-- The object of the groups and values below a group: groups first, then values, each in
key order. -/
def subtree (ps : Pairs) (path : String) : Outcome Json := do
  let groups := ps.keysWith (RecordKey.childPrefix "g" path)
  let root ← groups.foldlM (fun root key =>
    let rel := RecordKey.relative key path
    if rel.isEmpty then pure root else insertAt rel root (RecordPath.parts rel) none) []
  let leaves := ps.filter (fun kv => kv.1.startsWith (RecordKey.childPrefix "v" path))
  let root ← leaves.foldlM (fun root kv => do
    let rel := RecordKey.relative kv.1 path
    if rel.isEmpty then pure root
    else
      let v ← Leaf.decode kv.2
      insertAt rel root (RecordPath.parts rel) (some v)) root
  pure (.obj root)

/-- The value or group at a normalized path, `none` when there is neither. -/
def readOpt (ps : Pairs) (path : String) : Outcome (Option Json) := do
  match ps.get? (RecordKey.leaf path) with
  | some bytes => some <$> Leaf.decode bytes
  | none =>
    if ps.contains (RecordKey.group path) then some <$> subtree ps path else pure none

/-- The names right below a group of one kind, sorted and without repeats. -/
def childNames (ps : Pairs) (kind : String) (parent : String) : List String :=
  let pre := RecordKey.childPrefix kind parent
  let names := (ps.keysWith pre).filterMap (fun k =>
    let rest := String.ofList (k.toList.drop pre.length)
    if rest.isEmpty ∨ rest.contains '/' then none else some rest)
  (names.mergeSort (fun a b => decide (a ≤ b))).eraseDups

end RecordTree

/-- Writes collected for one group of a record: for each key its new value, or `none` when
it is to be removed. -/
structure Scope where
  base : String
  pending : List (String × Option ByteArray) := []
  deriving Inhabited

namespace Scope

/-- The scope with a key staged. -/
def stage (s : Scope) (k : String) (v : Option ByteArray) : Scope :=
  { s with pending := (s.pending.filter (·.1 != k)) ++ [(k, v)] }

/-- The database as it will be once the scope is applied. -/
def merged (s : Scope) (db : Pairs) : Pairs :=
  s.pending.foldl (fun ps kv =>
    match kv.2 with
    | some v => ps.insert kv.1 v
    | none => ps.erase kv.1) db

/-- A path relative to the scope's group, normalized and made absolute. -/
def absolute (s : Scope) (p : String) : Outcome String := do
  let p ← RecordPath.normalize p
  pure (if s.base.isEmpty then p else if p.isEmpty then s.base else s.base ++ "/" ++ p)

/-- The number of keys staged. -/
def pendingOps (s : Scope) : Nat := s.pending.length

mutual
/-- Stages a value at a path: an object as a plain group with its members, anything else as
a stored value. -/
def put (cfg : StorageConfig) (path : String) : Json → Scope → Outcome Scope
  | .obj fields, s => do
    let name := match RecordPath.split? path with
      | some (_, n) => n
      | none => ""
    putFields cfg path fields (s.stage (RecordKey.group path) (some (GroupMeta.plain name).bytes))
  | v, s => pure (s.stage (RecordKey.leaf path) (some (Leaf.encode cfg v)))
/-- Stages the members of an object below a path, each name a valid segment. -/
def putFields (cfg : StorageConfig) (path : String) : List (String × Json) → Scope → Outcome Scope
  | [], s => pure s
  | (k, v) :: rest, s => do
    RecordPath.validateSegment k
    let s ← put cfg (RecordPath.join path k) v s
    putFields cfg path rest s
end

/-- Stages a plain group for every missing group above a path; a value above it is a
conflict. -/
def ensureParents (db : Pairs) (s : Scope) (path : String) : Outcome Scope := do
  let segs := RecordPath.parts path
  let (_, s) ← (segs.dropLast).foldlM (fun (acc : String × Scope) seg => do
    let current := RecordPath.join acc.1 seg
    let view := acc.2.merged db
    if view.contains (RecordKey.leaf current) then
      throw (.conflict s!"'{current}' holds a value, not a group")
    if view.contains (RecordKey.group current) then pure (current, acc.2)
    else pure (current, acc.2.stage (RecordKey.group current) (some (GroupMeta.plain seg).bytes))) ("", s)
  pure s

/-- Stages the removal of everything below a path; the keys of the root itself stay. -/
def clearChildren (db : Pairs) (s : Scope) (path : String) : Scope :=
  ["v", "g"].foldl (fun s kind =>
    ((s.merged db).keysWith (RecordKey.childPrefix kind path)).foldl (fun s key =>
      if key.length > 1 then s.stage key none else s) s) s

/-- Stages the removal of the value or group at a path and everything below it. -/
def removeSubtree (db : Pairs) (s : Scope) (path : String) : Scope :=
  let s := [RecordKey.leaf path, RecordKey.group path].foldl (fun s key =>
    if (s.merged db).contains key then s.stage key none else s) s
  clearChildren db s path

/-- Stages a write of a value at a path relative to the scope's group. -/
def write (cfg : StorageConfig) (db : Pairs) (s : Scope) (p : String) (v : Json) : Outcome Scope := do
  let path ← s.absolute p
  if path.isEmpty then
    match v with
    | .obj fields => putFields cfg "" fields (clearChildren db s "")
    | _ => throw (.conflict "the record root can only hold a group")
  else
    let s ← ensureParents db s path
    put cfg path v (removeSubtree db s path)

/-- Stages an empty group with the given tags at a path relative to the scope's group. -/
def createGroup (db : Pairs) (s : Scope) (p : String) (tags : GroupMeta) : Outcome Scope := do
  let path ← s.absolute p
  if path.isEmpty then throw (.conflict "the record root already exists")
  let s ← ensureParents db s path
  pure ((removeSubtree db s path).stage (RecordKey.group path) (some tags.bytes))

/-- Stages the removal of what is at a path relative to the scope's group. -/
def remove (db : Pairs) (s : Scope) (p : String) : Outcome Scope := do
  let path ← s.absolute p
  if path.isEmpty then pure (clearChildren db s "") else pure (removeSubtree db s path)

/-- The staged writes in key order, as the scope's sorted map holds them. -/
def inKeyOrder (s : Scope) : List (String × Option ByteArray) :=
  s.pending.mergeSort (fun a b => decide (a.1 ≤ b.1))

/-- The bytes of a key as the scope sees them: its last staged write when it has one, where a
removal hides the key, and the database's value otherwise. -/
def get (db : Pairs) (s : Scope) (k : String) : Option ByteArray :=
  match s.pending.reverse.lookup k with
  | some v => v
  | none => db.get? k

/-- Whether a key is there as the scope sees it. -/
def contains (db : Pairs) (s : Scope) (k : String) : Bool := (s.get db k).isSome

/-- The keys that start with `pre` as the scope sees them, in increasing order: the keys the
database holds there, and then the staged writes from `pre` on, in key order and for as long
as their keys start with `pre`, each adding its key or removing it. -/
def keysWithPrefix (db : Pairs) (s : Scope) (pre : String) : List String :=
  let staged := (s.inKeyOrder.dropWhile (fun kv => decide (kv.1 < pre))).takeWhile (·.1.startsWith pre)
  staged.foldl (fun keys kv =>
    match kv.2 with
    | some _ => RecordKey.insertSorted kv.1 keys
    | none => keys.erase kv.1) (db.keysWith pre)

/-- Reads what is at a path relative to the scope's group as it will be once applied: the
value the scope sees there, or the group built from the keys the scope sees below it,
groups first, so nothing is applied to the database. -/
def readOpt (db : Pairs) (s : Scope) (p : String) : Outcome (Option Json) := do
  let path ← s.absolute p
  match s.get db (RecordKey.leaf path) with
  | some bytes => some <$> Leaf.decode bytes
  | none =>
    if s.contains db (RecordKey.group path) then
      let root ← (s.keysWithPrefix db (RecordKey.childPrefix "g" path)).foldlM (fun root key =>
        let rel := RecordKey.relative key path
        if rel.isEmpty then pure root else RecordTree.insertAt rel root (RecordPath.parts rel) none) []
      let root ← (s.keysWithPrefix db (RecordKey.childPrefix "v" path)).foldlM (fun root key =>
        let rel := RecordKey.relative key path
        if rel.isEmpty then pure root
        else
          match s.get db key with
          | some bytes => do RecordTree.insertAt rel root (RecordPath.parts rel) (some (← Leaf.decode bytes))
          | none => pure root) root
      pure (some (.obj root))
    else pure none

end Scope

/-- An open record: where it is, what it holds, and how it stores values. -/
structure Record where
  path : String
  pairs : Pairs
  config : StorageConfig
  deriving Inhabited

namespace Record

/-- The tags of the group at a path, if there is one. -/
def groupMeta (r : Record) (p : String) : Outcome (Option GroupMeta) := do
  let p ← RecordPath.normalize p
  match r.pairs.get? (RecordKey.group p) with
  | some bytes =>
    match GroupMeta.ofBytes bytes with
    | .ok m => pure (some m)
    | .error e => throw (.json e)
  | none => pure none

/-- The tags of the root group. -/
def rootMeta (r : Record) : Outcome (Option GroupMeta) := r.groupMeta ""

/-- Checks that the record has a root group of a compatible format; a root without a format
version is of format `0.0`. -/
def checkFormat (r : Record) : Outcome Unit := do
  let some tags ← r.rootMeta | throw (.notFound s!"{r.path} is not a job record")
  let version := tags.formatVersion.getD "0.0"
  if !RecordPath.compatible version then
    throw (.configuration s!"record {r.path} has format version {version}, expected {RecordPath.formatVersion}")

/-- The value or group at a path, `none` when there is neither. -/
def readOpt (r : Record) (p : String) : Outcome (Option Json) := do
  RecordTree.readOpt r.pairs (← RecordPath.normalize p)

/-- The value or group at a path, which must be there. -/
def read (r : Record) (p : String) : Outcome Json := do
  match ← r.readOpt p with
  | some v => pure v
  | none => throw (.notFound s!"path '{p}' in record {r.path}")

/-- Whether there is a value or a group at a path. -/
def «exists» (r : Record) (p : String) : Outcome Bool := do
  let p ← RecordPath.normalize p
  pure (r.pairs.contains (RecordKey.leaf p) || r.pairs.contains (RecordKey.group p))

/-- Whether there is a group at a path. -/
def isGroup (r : Record) (p : String) : Outcome Bool := do
  let p ← RecordPath.normalize p
  pure (r.pairs.contains (RecordKey.group p))

/-- The names of the values and of the groups right below a group. -/
def list (r : Record) (p : String) : Outcome (List String × List String) := do
  let p ← RecordPath.normalize p
  if !r.pairs.contains (RecordKey.group p) then
    throw (.notFound s!"group '{p}' in record {r.path}")
  pure (RecordTree.childNames r.pairs "v" p, RecordTree.childNames r.pairs "g" p)

/-- The normalized path of a group, which must be there. -/
def group (r : Record) (p : String) : Outcome String := do
  let p ← RecordPath.normalize p
  if !r.pairs.contains (RecordKey.group p) then throw (.notFound s!"group '{p}'")
  pure p

/-- A scope on a group of the record. -/
def scope (_ : Record) (g : String) : Outcome Scope := do
  pure { base := ← RecordPath.normalize g }

/-- The record with a scope's writes applied. -/
def commit (r : Record) (s : Scope) : Record := { r with pairs := s.merged r.pairs }

/-- Runs writes in a scope on the whole record, applying them only when all succeed. -/
def withScoped {α : Type} (r : Record) (f : Scope → Outcome (Scope × α)) : Outcome (Record × α) := do
  let s ← r.scope ""
  let (s, a) ← f s
  pure (r.commit s, a)

/-- Writes a value at a path. -/
def write (r : Record) (p : String) (v : Json) : Outcome Record := do
  let (r, _) ← r.withScoped (fun s => do pure (← s.write r.config r.pairs p v, ()))
  pure r

/-- Removes what is at a path. -/
def remove (r : Record) (p : String) : Outcome Record := do
  let (r, _) ← r.withScoped (fun s => do pure (← s.remove r.pairs p, ()))
  pure r

end Record

/-- Where record databases live and how they are stored. -/
structure RecordStore where
  config : StorageConfig
  deriving Inhabited

namespace RecordStore

/-- The stored pairs of the database at a path, if it is one. -/
def pairsAt (d : Disk) (p : String) : Option Pairs :=
  match d.node? (Disk.locate p) with
  | some (.records ps) => some ps
  | _ => none

/-- Opens the database at a path, making its directory and everything above it when
missing. -/
def openDb (d : Disk) (p : String) : Outcome (Disk × Pairs) := do
  let at_ := Disk.locate p
  let fault (e : OsError) : JobError := .storage (.io e.text)
  match d.lookup at_ with
  | .error e => throw (fault e)
  | .ok (some (.records ps)) => pure (d, ps)
  | .ok (some .dir) => pure (d.put at_ (.records []), [])
  | .ok (some (.file _)) => throw (fault .notDirectory)
  | .ok none =>
    match d.createDirAll at_ with
    | .ok d => pure (d.put at_ (.records []), [])
    | .error e => throw (fault e)

/-- Stores a record's pairs back into its database. -/
def save (d : Disk) (r : Record) : Disk :=
  d.put (Disk.locate r.path) (.records r.pairs)

/-- The open record at a path. -/
def record (s : RecordStore) (d : Disk) (p : String) : Outcome (Disk × Record) := do
  let (d, ps) ← openDb d p
  pure (d, ⟨p, ps, s.config⟩)

/-- Opens an existing record. -/
def «open» (s : RecordStore) (d : Disk) (p : String) : Outcome (Disk × Record) := do
  if !d.exists? (Disk.locate p) then throw (.notFound s!"job record {p} does not exist")
  let (d, r) ← s.record d p
  r.checkFormat
  pure (d, r)

/-- Opens a record, making it with the given root tags when it has none. -/
def create (s : RecordStore) (d : Disk) (p typeName name version : String) : Outcome (Disk × Record) := do
  let (d, r) ← s.record d p
  match ← r.rootMeta with
  | some _ =>
    r.checkFormat
    pure (d, r)
  | none =>
    let tags : GroupMeta := ⟨typeName, name, some version, some RecordPath.formatVersion⟩
    let r := { r with pairs := r.pairs.insert (RecordKey.group "") tags.bytes }
    pure (save d r, r)

/-- Whether a record exists: its path is a directory. -/
def «exists» (d : Disk) (p : String) : Bool := d.isDir (Disk.locate p)

/-- Deletes a record that is not open; a missing record is no fault. -/
def remove (d : Disk) (p : String) (isOpen : Bool) : Outcome Disk := do
  if isOpen then throw (.conflict s!"job record {p} is still open")
  match d.removeDirAll (Disk.locate p) with
  | .ok d => pure d
  | .error .noEntry => pure d
  | .error e => throw (.io e.text)

end RecordStore

end JobFlow
