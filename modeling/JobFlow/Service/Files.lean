import JobFlow.Disk
import JobFlow.Service.Answer
import JobFlow.Json.Write

/-!
# File contents and listings in requests

Requests give file contents as text, as `{"hex": digits}`, or as any other JSON value, which
stands for its compact text.
-/

namespace JobFlow.Service

/-- The value of a hexadecimal digit. -/
def hexDigitValue (c : Char) : Option Nat :=
  if '0' ≤ c ∧ c ≤ '9' then some (c.toNat - '0'.toNat)
  else if 'a' ≤ c ∧ c ≤ 'f' then some (c.toNat - 'a'.toNat + 10)
  else if 'A' ≤ c ∧ c ≤ 'F' then some (c.toNat - 'A'.toNat + 10)
  else none

/-- The bytes of pairs of hexadecimal digits. -/
def hexBytes : List Char → Option (List UInt8)
  | [] => some []
  | [_] => none
  | a :: b :: rest => do
    let x ← hexDigitValue a
    let y ← hexDigitValue b
    let tail ← hexBytes rest
    pure ((x * 16 + y).toUInt8 :: tail)

/-- Lowercase hexadecimal digits of some bytes. -/
def hexText (data : ByteArray) : String :=
  String.join (data.toList.map (fun b => String.ofList [Json.hexDigit (b.toNat / 16), Json.hexDigit (b.toNat % 16)]))

/-- The bytes a request gives as a file content. -/
def contentBytes (v : Json) : Answer ByteArray :=
  match v with
  | .str s => pure s.toUTF8
  | .obj [("hex", .str h)] =>
    match hexBytes h.toList with
    | some bs => pure (ByteArray.mk bs.toArray)
    | none => bad s!"bad hex content {h}"
  | other => pure other.compact.toUTF8

/-- A file content as an answer shows it. -/
def contentJson (data : ByteArray) : Json :=
  match String.fromUTF8? data with
  | some s => .str s
  | none => Json.mkObj [("hex", .str (hexText data))]

/-- The listing entries of one entry below a listed directory. -/
def listEntry (rel : List String) (n : Node) : Option (String × Json) :=
  let name := "/".intercalate rel
  match n with
  | .dir => some (name ++ "/", .null)
  | .records _ => some (name, .str "<record>")
  | .file data =>
    if name.endsWith ".zst" then some (name, Json.mkObj [("bytes", .bool (data.size > 0))])
    else some (name, contentJson data)

/-- Whether a relative entry lies inside a record database of the listing. -/
def insideRecords (entries : List (List String × Node)) (rel : List String) : Bool :=
  entries.any (fun e =>
    match e.2 with
    | .records _ => e.1.isPrefixOf rel ∧ e.1.length < rel.length
    | _ => false)

/-- The listing of a directory, or `null` when it is not one. -/
def listing (d : Disk) (p : String) : Json :=
  let at_ := Disk.locate p
  if !d.isDir at_ then .null
  else
    match d.node? at_ with
    | some (.records _) => .obj []
    | _ =>
      let entries := d.under at_
      Json.mkObj (entries.filterMap (fun e =>
        if insideRecords entries e.1 then none else listEntry e.1 e.2))

/-- Writes files given as relative path to content below a directory, making parents. -/
def writeFiles (d : Disk) (base : String) (files : List (String × Json)) : Answer Disk :=
  files.foldlM (fun (d : Disk) kv => do
    let data ← contentBytes kv.2
    let target := Disk.locate (Path.join base kv.1)
    let d ← match d.createDirAll target.dropLast with
      | .ok d => pure d
      | .error e => bad s!"cannot write {kv.1}: {e.text}"
    match d.writeFile target data with
    | .ok d => pure d
    | .error e => bad s!"cannot write {kv.1}: {e.text}") d

/-- A fresh disk holding only the request's root directory. -/
def rootDisk : Disk := { nodes := [(["$ROOT"], .dir)] }

/-- The request's root directory. -/
def root : String := "$ROOT"

end JobFlow.Service
