import JobFlow.Doc
import JobFlow.Json.Read

/-!
# Reading typed values out of documents

Readers for the value types the library stores in documents: unsigned and signed integers of
a given width, doubles, booleans, strings, optional values, lists, string-keyed maps, enums
written as their names, and structs.
-/

namespace JobFlow

namespace Doc

/-- An error about the node `d` at `path`; at a broken node it is the fault of the text
instead, since the node is not there to be read. -/
def fail {α : Type} (path : String) (d : Doc) (msg : String) : DocRead α :=
  match d with
  | .broken e => throw e
  | _ => throw { message := msg, path := path, mark := d.mark }

/-- The digits of `s` in base `radix`, if it is a non-empty string of such digits with at most
one leading `+`. -/
def parseRadix (s : String) (radix : Nat) : Option Nat :=
  let cs := match s.toList with
    | '+' :: rest => rest
    | cs => cs
  if cs.isEmpty then none
  else cs.foldl (fun acc c =>
    acc.bind fun n =>
      let d? : Option Nat :=
        if '0' ≤ c ∧ c ≤ '9' then some (c.toNat - 48)
        else if 'a' ≤ c ∧ c ≤ 'z' then some (c.toNat - 87)
        else if 'A' ≤ c ∧ c ≤ 'Z' then some (c.toNat - 55)
        else none
      d?.bind fun d => if d < radix then some (n * radix + d) else none) (some 0)

/-- Whether a text is digits with a leading zero (after an optional sign), which YAML reads
as text. -/
def leadingZeroDigits (s : String) : Bool :=
  let cs := match s.toList with
    | '+' :: rest | '-' :: rest => rest
    | cs => cs
  cs.length > 1 && cs.head? == some '0' && cs.all Char.isDigit

/-- A prefixed or decimal unsigned integer in YAML's notation, below `bound`. -/
def unsignedBelow (bound : Nat) (s : String) : Option Nat :=
  let u := match s.toList with
    | '+' :: rest => String.ofList rest
    | _ => s
  let pre (p : String) : Option String :=
    if u.startsWith p then some (String.ofList (u.toList.drop p.length)) else none
  let radixForm (p : String) (r : Nat) : Option Nat :=
    (pre p).bind fun rest =>
      if rest.startsWith "+" ∨ rest.startsWith "-" then none else parseRadix rest r
  match radixForm "0x" 16 with
  | some n => if n < bound then some n else none
  | none => match radixForm "0o" 8 with
    | some n => if n < bound then some n else none
    | none => match radixForm "0b" 2 with
      | some n => if n < bound then some n else none
      | none =>
        if u.startsWith "+" ∨ u.startsWith "-" ∨ leadingZeroDigits s then none
        else (parseRadix u 10).bind fun n => if n < bound then some n else none

/-- A negative integer in YAML's notation, down to `-bound`. -/
def negativeDownTo (bound : Nat) (s : String) : Option Int :=
  match s.toList with
  | '-' :: rest =>
    let r := String.ofList rest
    let radixForm (r : Nat) : Option Nat :=
      let ds := String.ofList (rest.drop 2)
      if ds.startsWith "+" ∨ ds.startsWith "-" then none else parseRadix ds r
    let mag : Option Nat :=
      if r.startsWith "0x" then radixForm 16
      else if r.startsWith "0o" then radixForm 8
      else if r.startsWith "0b" then radixForm 2
      else if r.startsWith "+" ∨ r.startsWith "-" ∨ leadingZeroDigits s then none
      else parseRadix r 10
    mag.bind fun n => if n ≤ bound then some (-(n : Int)) else none
  | _ => none

/-- A prefixed or decimal unsigned 64-bit integer in YAML's notation. -/
def yamlUnsigned? (s : String) : Option Nat := unsignedBelow (Nat.pow 2 64) s

/-- A negative integer in YAML's notation, down to `-2^63`. -/
def yamlNegative? (s : String) : Option Int := negativeDownTo (Nat.pow 2 63) s

/-- A signed integer in YAML's notation. -/
def yamlSigned? (s : String) : Option Int :=
  match yamlNegative? s with
  | some i => some i
  | none => (yamlUnsigned? s).bind fun n => if n < Nat.pow 2 63 then some (n : Int) else none

/-- An integer in YAML's notation as a reader of any value meets it: unsigned or negative
within 64 bits, or failing that within 128 bits. -/
def yamlInteger? (s : String) : Option Found :=
  match yamlUnsigned? s with
  | some n => some (.unsigned n)
  | none => match yamlNegative? s with
    | some i => some (.signed i)
    | none => match unsignedBelow (Nat.pow 2 128) s with
      | some n => some (.wide n)
      | none => (negativeDownTo (Nat.pow 2 127) s).map Found.wide

/-- A decimal number: optional sign, digits with an optional point, an optional exponent. -/
def decimal? (s : String) : Option Float :=
  let (neg, cs) := match s.toList with
    | '-' :: rest => (true, rest)
    | '+' :: rest => (false, rest)
    | cs => (false, cs)
  let intDs := cs.takeWhile Char.isDigit
  let rest := cs.dropWhile Char.isDigit
  let (fracDs, rest) := match rest with
    | '.' :: r => (r.takeWhile Char.isDigit, r.dropWhile Char.isDigit)
    | r => ([], r)
  if intDs.isEmpty ∧ fracDs.isEmpty then none
  else
    let expPart : Option Int := match rest with
      | [] => some 0
      | c :: r =>
        if c = 'e' ∨ c = 'E' then
          let (eneg, ds) := match r with
            | '-' :: ds => (true, ds)
            | '+' :: ds => (false, ds)
            | ds => (false, ds)
          if ds.isEmpty ∨ ¬ ds.all Char.isDigit then none
          else
            let v : Nat := ds.foldl (fun n c => n * 10 + (c.toNat - 48)) 0
            some (if eneg then -(v : Int) else v)
        else none
    expPart.bind fun e =>
      let m := (intDs ++ fracDs).foldl (fun n c => n * 10 + (c.toNat - 48)) 0
      let ex := e - (fracDs.length : Int)
      let f := Nearest.ofDecimal m ex
      some (if neg then -f else f)

/-- A double in YAML's notation: a finite decimal number or one of the spellings of the
infinities and NaN. -/
def yamlFloat? (s : String) : Option Float :=
  let u := match s.toList with
    | '+' :: rest => String.ofList rest
    | _ => s
  if (s.startsWith "+") && (u.startsWith "+" || u.startsWith "-") then none
  else if u = ".inf" ∨ u = ".Inf" ∨ u = ".INF" then some (1.0 / 0.0)
  else if s = "-.inf" ∨ s = "-.Inf" ∨ s = "-.INF" then some (-1.0 / 0.0)
  else if s = ".nan" ∨ s = ".NaN" ∨ s = ".NAN" then some (0.0 / 0.0)
  else (decimal? u).bind fun f => if f.isInf ∨ f.isNaN then none else some f

/-- Whether a text is one of the words for null: `~`, `null`, `Null` or `NULL`. -/
def nullWord (s : String) : Bool := s = "~" ∨ s = "null" ∨ s = "Null" ∨ s = "NULL"

/-- Whether an untagged plain YAML scalar is null: a word for null or the empty text. -/
def yamlNull (s : String) : Bool := s = "" ∨ nullWord s

/-- A plain YAML scalar read as a boolean. -/
def yamlBool? (s : String) : Option Bool :=
  if s = "true" ∨ s = "True" ∨ s = "TRUE" then some true
  else if s = "false" ∨ s = "False" ∨ s = "FALSE" then some false
  else none

/-- What an untagged plain YAML scalar is when no type is wanted. -/
def yamlFound (s : String) : Found :=
  if yamlNull s then .unit
  else match yamlBool? s with
    | some b => .bool b
    | none => match yamlInteger? s with
      | some f => f
      | none =>
        match (if leadingZeroDigits s then none else yamlFloat? s) with
        | some f => .float f
        | none => .str s

/-- The resolved tag of one of YAML's core types, `!!name`. -/
def coreTag (name : String) : String := "tag:yaml.org,2002:" ++ name

/-- The refusal of a text that is not what `expected` describes. -/
def refusal (text expected : String) : String :=
  s!"invalid value: {(Found.str text).text false}, expected {expected}"

/-- A YAML scalar's text read as its core tag says: `none` when the tag is not bool, int,
float or null; otherwise what the text is under that tag, or the refusal of a text the tag
does not allow. -/
def underTag (tag text : String) : Option (Except String Found) :=
  let under {β : Type} (v : Option β) (f : β → Found) (expected : String) : Option (Except String Found) :=
    match v with
    | some b => some (.ok (f b))
    | none => some (.error (refusal text expected))
  if tag = coreTag "bool" then under (yamlBool? text) Found.bool "a boolean"
  else if tag = coreTag "int" then under (yamlInteger? text) id "an integer"
  else if tag = coreTag "float" then under (yamlFloat? text) Found.float "a float"
  else if tag = coreTag "null" then under (if nullWord text then some () else none) (fun _ => Found.unit) "null"
  else none

/-- What a node is, as errors name it. -/
def found : Doc → Except String Found
  | .broken _ => .ok .unit
  | .seq _ _ _ => .ok .seq
  | .map _ _ _ => .ok .map
  | .scalar (.yaml t w tag) _ =>
    match tag with
    | some tg =>
      match underTag tg t with
      | some r => r
      | none => .ok (if w = .plain ∧ tg.startsWith "!" then yamlFound t else .str t)
    | none => .ok (if w = .plain then yamlFound t else .str t)
  | .scalar (.json v) _ =>
    .ok (match v with
      | .bool b => .bool b
      | .num (.nat n) => .unsigned n
      | .num (.neg i) => .signed i
      | .num (.float f) => .float f
      | .str s => .str s
      | _ => .unit)

/-- The error for a node of the wrong type. -/
def invalidType {α : Type} (path : String) (d : Doc) (expected : String) : DocRead α :=
  match d.found with
  | .ok f => fail path d s!"invalid type: {f.text (!d.isYaml)}, expected {expected}"
  | .error refused => fail path d refused

/-- The error for a value of the right type out of range. -/
def invalidValue {α : Type} (path : String) (d : Doc) (what : Found) (expected : String) : DocRead α :=
  fail path d s!"invalid value: {what.text (!d.isYaml)}, expected {expected}"

/-- The text a reader of a number or boolean parses out of a YAML node: a plain scalar's,
whatever its tag, or a literal block's that carries the reader's own core tag `name`. -/
def parsable (name : String) : Doc → Option String
  | .scalar (.yaml t .plain _) _ => some t
  | .scalar (.yaml t .literal (some tg)) _ => if tg = coreTag name then some t else none
  | _ => none

/-- A non-negative integer below `bound`, named `expected` in errors. -/
def readUnsigned (bound : Nat) (expected : String) (path : String) (d : Doc) : DocRead Nat :=
  match d with
  | .scalar (.json (.num (.nat n))) _ =>
    if n < bound then pure n else invalidValue path d (.unsigned n) expected
  | .scalar (.json (.num (.neg i))) _ => invalidValue path d (.signed i) expected
  | _ =>
    match (parsable "int" d).bind yamlUnsigned? with
    | some n => if n < bound then pure n else invalidValue path d (.unsigned n) expected
    | none => invalidType path d expected

/-- An unsigned 32-bit integer. -/
def readU32 : String → Doc → DocRead Nat := readUnsigned (Nat.pow 2 32) "u32"

/-- An unsigned 64-bit integer. -/
def readU64 : String → Doc → DocRead Nat := readUnsigned (Nat.pow 2 64) "u64"

/-- A size, an unsigned 64-bit integer. -/
def readUsize : String → Doc → DocRead Nat := readUnsigned (Nat.pow 2 64) "usize"

/-- A signed integer in `[lo, hi]`, named `expected` in errors. -/
def readSigned (lo hi : Int) (expected : String) (path : String) (d : Doc) : DocRead Int :=
  let check (i : Int) (what : Found) : DocRead Int :=
    if lo ≤ i ∧ i ≤ hi then pure i else invalidValue path d what expected
  match d with
  | .scalar (.json (.num (.nat n))) _ => check n (.unsigned n)
  | .scalar (.json (.num (.neg i))) _ => check i (.signed i)
  | _ =>
    match (parsable "int" d).bind yamlSigned? with
    | some i => check i (if i < 0 then .signed i else .unsigned i.toNat)
    | none => invalidType path d expected

/-- A signed 32-bit integer. -/
def readI32 : String → Doc → DocRead Int := readSigned (-(Nat.pow 2 31)) (Nat.pow 2 31 - 1) "i32"

/-- A double; integers are read as doubles too. -/
def readF64 (path : String) (d : Doc) : DocRead Float :=
  match d with
  | .scalar (.json (.num n)) _ => pure n.toFloat
  | _ =>
    match (parsable "float" d).bind yamlFloat? with
    | some f => pure f
    | none => invalidType path d "f64"

/-- A boolean. -/
def readBool (path : String) (d : Doc) : DocRead Bool :=
  match d with
  | .scalar (.json (.bool b)) _ => pure b
  | _ =>
    match (parsable "bool" d).bind yamlBool? with
    | some b => pure b
    | none => invalidType path d "a boolean"

/-- A string; any YAML scalar reads as its text. -/
def readString (path : String) (d : Doc) : DocRead String :=
  match d with
  | .scalar (.json (.str s)) _ => pure s
  | .scalar (.yaml t _ _) _ => pure t
  | _ => invalidType path d "a string"

/-- An optional value: null is absent, anything else is read by `r`. -/
def readOption {α : Type} (r : String → Doc → DocRead α) (path : String) (d : Doc) : DocRead (Option α) :=
  match d with
  | .scalar (.json .null) _ => pure none
  | .scalar (.yaml t .plain none) _ => if yamlNull t then pure none else some <$> r path d
  | .scalar (.yaml t .plain (some tg)) _ =>
    if tg = coreTag "null" then
      if nullWord t then pure none else throw { message := refusal t "null", unplaced := true }
    else some <$> r path d
  | _ => some <$> r path d

/-- Whether a node is an empty plain YAML scalar, which reads as an empty collection. -/
def isBlank : Doc → Bool
  | .scalar (.yaml "" .plain _) _ => true
  | _ => false

/-- A read inside the collection `d` at `path`, which gives an unplaced error its own path
and position. -/
def within {α : Type} (path : String) (d : Doc) (r : DocRead α) : DocRead α :=
  match r with
  | .error e => .error (if e.unplaced then { e with path := path, mark := d.mark, unplaced := false } else e)
  | .ok v => .ok v

/-- A list, each item read by `r`. -/
def readList {α : Type} (r : String → Doc → DocRead α) (path : String) (d : Doc) : DocRead (List α) :=
  match d with
  | .seq items _ _ =>
    let rec go (i : Nat) : List Doc → DocRead (List α)
      | [] => pure []
      | x :: xs => do
        let v ← within path d (r (itemPath path i) x)
        let vs ← go (i + 1) xs
        pure (v :: vs)
    go 0 items
  | _ => if d.isBlank then pure [] else invalidType path d "a sequence"

/-- The text of a key node. -/
def keyText? : Doc → Option String
  | .scalar (.json (.str s)) _ => some s
  | .scalar (.yaml t _ _) _ => some t
  | _ => none

/-- The text of a key of the node at `path`; a key that is not text is refused as not being
`expected`. -/
def keyName (expected : String) (path : String) (k : Doc) : DocRead String :=
  match keyText? k with
  | some t => pure t
  | none => invalidType path k expected

/-- A map from strings, each value read by `r`; of two equal keys the later wins. -/
def readMap {α : Type} (r : String → Doc → DocRead α) (path : String) (d : Doc) :
    DocRead (List (String × α)) :=
  match d with
  | .map entries _ _ =>
    entries.foldlM (fun acc kv => do
      let k ← keyName "a string" path kv.1
      let v ← within path d (r (childPath path k) kv.2)
      pure (acc.filter (·.1 != k) ++ [(k, v)])) []
  | _ => if d.isBlank then pure [] else invalidType path d "a map"

mutual
/-- Walks a node that is skipped, as a reader passes over what it does not want: only a
broken node inside it stops the walk. -/
def skipNode : Doc → DocRead Unit
  | .broken e => throw e
  | .scalar _ _ => pure ()
  | .seq items _ _ => skipItems items
  | .map entries _ _ => skipEntries entries
/-- Walks the items of a skipped sequence. -/
def skipItems : List Doc → DocRead Unit
  | [] => pure ()
  | x :: xs => do skipNode x; skipItems xs
/-- Walks the entries of a skipped mapping, each key before its value. -/
def skipEntries : List (Doc × Doc) → DocRead Unit
  | [] => pure ()
  | (k, v) :: rest => do skipNode k; skipNode v; skipEntries rest
end

/-- The expected list of an unknown name: `a`, `a` or `b`, or one of `a`, `b`, `c`. -/
def expectedOneOf (names : List String) : String :=
  let q := names.map (fun n => "`" ++ n ++ "`")
  match q with
  | [] => "there are no variants"
  | [a] => "expected " ++ a
  | [a, b] => "expected " ++ a ++ " or " ++ b
  | _ => "expected one of " ++ ", ".intercalate q

/-- The variant a YAML tag names: `!name` names `name`, the bare `!` names `!`, and a tag
that is not local names none. -/
def localTag? : Option String → Option String
  | some t =>
    match t.toList with
    | ['!'] => some "!"
    | '!' :: rest => some (String.ofList rest)
    | _ => none
  | none => none

/-- The content of a variant named by a tag, which must stand for nothing: an empty or null
plain scalar. -/
def unitContent (path : String) (d : Doc) : DocRead Unit :=
  match d with
  | .scalar (.yaml t w _) _ => if w = .plain ∧ yamlNull t then pure () else fail path d (refusal t "null")
  | _ => invalidType path d "unit"

/-- An enum written as one of `names`, read as its position among them. -/
def readVariant (names : List String) (path : String) (d : Doc) : DocRead Nat :=
  let pick (v : String) : DocRead Nat :=
    match names.idxOf? v with
    | some i => pure i
    | none => fail path d s!"unknown variant `{v}`, {expectedOneOf names}"
  let tagged (v : String) : DocRead Nat := do
    let i ← pick v
    unitContent path d
    pure i
  match d with
  | .scalar (.json (.str s)) _ => pick s
  | .scalar (.yaml t _ tag) _ =>
    match localTag? tag with
    | some v => tagged v
    | none => pick t
  | .map _ (some _) tag | .seq _ (some _) tag =>
    match localTag? tag with
    | some v => tagged v
    | none => invalidType path d "a YAML tag starting with '!'"
  | .map [(k, _)] _ _ =>
    match keyText? k with
    | some v => pick v
    | none => invalidType path d "string or map"
  | .map _ _ _ => invalidValue path d .map "map with a single key"
  | _ => invalidType path d "string or map"

/-- The members of a struct node in document order, keys still as nodes so that each is read
just before its value; a YAML blank is an empty struct. -/
inductive Members where
  | named (entries : List (Doc × Doc))
  | positional (items : List Doc)

/-- The members of a node read as the struct `name`. -/
def members (name : String) (path : String) (d : Doc) : DocRead Members :=
  match d with
  | .map entries _ _ => pure (.named entries)
  | .seq items _ _ => if d.isYaml then invalidType path d s!"struct {name}" else pure (.positional items)
  | _ => if d.isBlank then pure (.named []) else invalidType path d s!"struct {name}"

/-- Reads a struct whose members all have defaults: `step` folds each known member (by name)
into the value, unknown members are skipped, a repeated member is refused, and positional
items go to the members in `fields` order. -/
def readStruct {α : Type} (name : String) (fields : List String) (init : α)
    (step : α → String → String → Doc → DocRead α) (path : String) (d : Doc) : DocRead α := do
  match ← members name path d with
  | .named entries =>
    let (acc, _) ← entries.foldlM (fun (st : α × List String) kv => do
      let (acc, seen) := st
      let k ← keyName "field identifier" path kv.1
      if fields.contains k then
        if seen.contains k then fail path d s!"duplicate field `{k}`"
        else do
          let acc ← within path d (step acc k (childPath path k) kv.2)
          pure (acc, k :: seen)
      else do
        skipNode kv.2
        pure (acc, seen)) (init, [])
    pure acc
  | .positional items =>
    if items.length > fields.length then
      fail path d s!"invalid length {items.length}, expected fewer elements in array"
    else
      ((fields.zip items).zipIdx).foldlM (fun acc fvi =>
        within path d (step acc fvi.1.1 (itemPath path fvi.2) fvi.1.2)) init

end Doc

end JobFlow
