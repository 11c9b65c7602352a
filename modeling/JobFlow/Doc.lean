import JobFlow.Json.Write

/-!
# Documents read into typed values

A document is the tree that typed values are read from: either a JSON value or a parsed YAML
document.
-/

namespace JobFlow

/-- A position in a text: zero-based line and column, and the character index. -/
structure Mark where
  line : Nat
  column : Nat
  index : Nat := 0
  deriving DecidableEq, Inhabited, Repr

/-- An error found while reading a typed value out of a document: the message, the path of
the node (`.` for the root) and its position. -/
structure DocError where
  message : String
  path : String := "."
  mark : Option Mark := none
  unplaced : Bool := false
  deriving Inhabited

/-- How a YAML scalar was written: plain, quoted, or as a literal (`|`) or folded (`>`)
block. -/
inductive Written where
  | plain
  | quoted
  | literal
  | folded
  deriving DecidableEq, Inhabited, Repr

/-- A scalar of a document: a JSON scalar value, or YAML text with how it was written and its
resolved tag (`!!int` is `tag:yaml.org,2002:int`, a local `!x` stays `!x`). -/
inductive Scalar where
  | json (v : Json)
  | yaml (text : String) (written : Written) (tag : Option String)
  deriving Inhabited

/-- A node of a document with the position it starts at (`none` for JSON values); a YAML
collection keeps its resolved tag too. -/
inductive Doc where
  | scalar (s : Scalar) (mark : Option Mark)
  | seq (items : List Doc) (mark : Option Mark) (tag : Option String)
  | map (entries : List (Doc × Doc)) (mark : Option Mark) (tag : Option String)
  | broken (fault : DocError)
  deriving Inhabited

namespace DocError

/-- The text of an error read from YAML: the path unless it is the root, the message, and
the position unless it is the very start. -/
def yamlText (e : DocError) : String :=
  let lead := if e.path = "." then "" else e.path ++ ": "
  let pos := match e.mark with
    | some m => if m.line = 0 ∧ m.column = 0 then "" else s!" at line {m.line + 1} column {m.column + 1}"
    | none => ""
  lead ++ e.message ++ pos

end DocError

/-- The outcome of reading a typed value. -/
abbrev DocRead (α : Type) := Except DocError α

namespace Doc

mutual
/-- A JSON value as a document. -/
def ofJson : Json → Doc
  | .arr items => .seq (ofJsonItems items) none none
  | .obj fields => .map (ofJsonFields fields) none none
  | v => .scalar (.json v) none
/-- The items of a JSON array as documents. -/
def ofJsonItems : List Json → List Doc
  | [] => []
  | x :: xs => ofJson x :: ofJsonItems xs
/-- The members of a JSON object as pairs of documents. -/
def ofJsonFields : List (String × Json) → List (Doc × Doc)
  | [] => []
  | (k, v) :: rest => (.scalar (.json (.str k)) none, ofJson v) :: ofJsonFields rest
end

/-- The position of a node. -/
def mark : Doc → Option Mark
  | .scalar _ m | .seq _ m _ | .map _ m _ => m
  | .broken _ => none

/-- Whether the node came from YAML. -/
def isYaml : Doc → Bool
  | .scalar (.yaml _ _ _) _ => true
  | .scalar (.json _) _ => false
  | .broken _ => true
  | d => d.mark.isSome

/-- The path of a member `key` below `path`. -/
def childPath (path key : String) : String := if path = "." then key else path ++ "." ++ key

/-- The path of item `i` below `path`; an item of the root is `.[i]`. -/
def itemPath (path : String) (i : Nat) : String := s!"{path}[{i}]"

end Doc

/-- What was found instead of the expected value, as a reader names it. -/
inductive Found where
  | bool (b : Bool)
  | unsigned (n : Nat)
  | signed (i : Int)
  | wide (i : Int)
  | float (f : Float)
  | str (s : String)
  | unit
  | seq
  | map

namespace Found

/-- A character as a debug-quoted string shows it. -/
def debugChar (c : Char) : String :=
  if c = '"' then "\\\""
  else if c = '\\' then "\\\\"
  else if c = '\n' then "\\n"
  else if c = '\r' then "\\r"
  else if c = '\t' then "\\t"
  else if c.toNat = 0 then "\\0"
  else if c.toNat < 32 ∨ c.toNat = 127 then
    "\\u\x7b" ++ String.ofList (Nat.toDigits 16 c.toNat) ++ "\x7d"
  else c.toString

/-- A string in double quotes with debug escapes. -/
def debugQuote (s : String) : String := s.foldl (fun acc c => acc ++ debugChar c) "\"" ++ "\""

/-- Positional text of a double with a `.0` when integral, as a general-purpose printer writes
it. -/
def plainFloat (f : Float) : String :=
  if f.isNaN then "NaN"
  else if f.isInf then (if f < 0 then "-inf" else "inf")
  else
    let bits := f.toBits.toNat
    let neg := bits ≥ Nat.pow 2 63
    let expField := bits / Nat.pow 2 52 % 2048
    let mantField := bits % Nat.pow 2 52
    let sign := if neg then "-" else ""
    if expField = 0 ∧ mantField = 0 then sign ++ "0.0"
    else
      let (c, t) := Shortest.digits (Shortest.exactOf expField mantField)
      let ds := toString c
      if t ≥ 0 then sign ++ ds ++ String.ofList (List.replicate t.toNat '0') ++ ".0"
      else
        let k := (-t).toNat
        if ds.length > k then
          sign ++ String.ofList (ds.toList.take (ds.length - k)) ++ "." ++ String.ofList (ds.toList.drop (ds.length - k))
        else sign ++ "0." ++ String.ofList (List.replicate (k - ds.length) '0') ++ ds

/-- The name of what was found; `forJson` picks the JSON reader's words for null and
doubles. -/
def text (forJson : Bool) : Found → String
  | .bool b => s!"boolean `{b}`"
  | .unsigned n => s!"integer `{n}`"
  | .signed i => s!"integer `{i}`"
  | .wide i => s!"integer `{i}` as " ++ (if i < 0 then "i128" else "u128")
  | .float f => "floating point `" ++ (if forJson then Json.floatText f else plainFloat f) ++ "`"
  | .str s => "string " ++ debugQuote s
  | .unit => if forJson then "null" else "unit value"
  | .seq => "sequence"
  | .map => "map"

end Found

end JobFlow
