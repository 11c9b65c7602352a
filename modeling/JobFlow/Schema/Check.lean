import JobFlow.Doc
import JobFlow.Schema.Format

/-!
# Checking a JSON value against a schema

A schema is a JSON value read by the rules of a draft: `true` takes everything, `false`
nothing, and an object is a set of keywords, each a constraint on the value.
-/

namespace JobFlow

namespace Schema

/-- The documents a check resolves references in, by URI. -/
abbrev Documents := List (String × Json)

/-- Where a check is: the draft, the documents, the URI of the current one, and the URIs
entered on the way, innermost first. -/
structure Scope where
  draft : Draft := .v2020
  docs : Documents
  base : String
  entered : List String
  deriving Inhabited

/-- A value as a message shows it. -/
def shown (j : Json) : String := j.compact

/-- Whether a number has no fractional part. -/
def isIntegral : Number → Bool
  | .nat _ | .neg _ => true
  | .float f => f.floor == f && !f.isInf

/-- Values equal as a schema compares them: numbers by value, the rest by structure. -/
def same : Json → Json → Bool
  | .num a, .num b =>
    match a, b with
    | .nat x, .nat y => x == y
    | .neg x, .neg y => x == y
    | .nat _, .neg _ | .neg _, .nat _ => false
    | _, _ => a.toFloat == b.toFloat
  | .null, .null => true
  | .bool a, .bool b => a == b
  | .str a, .str b => a == b
  | .arr xs, .arr ys => xs.length == ys.length && sameItems xs ys
  | .obj xs, .obj ys => xs.length == ys.length && sameFields xs ys
  | _, _ => false
where
  /-- Items equal pairwise. -/
  sameItems : List Json → List Json → Bool
    | x :: xs, y :: ys => same x y && sameItems xs ys
    | _, _ => true
  /-- Members equal pairwise (objects keep their keys sorted). -/
  sameFields : List (String × Json) → List (String × Json) → Bool
    | (k, x) :: xs, (l, y) :: ys => k == l && same x y && sameFields xs ys
    | _, _ => true

/-- Whether two numbers compare `lt` (strictly below), as exactly as their kinds allow. -/
def below (a b : Number) : Bool :=
  match a, b with
  | .nat x, .nat y => x < y
  | .neg x, .neg y => x < y
  | .neg _, .nat _ => true
  | .nat _, .neg _ => false
  | _, _ => a.toFloat < b.toFloat

/-- The type names a value has: every number is a `number`, and an integral one an `integer`
as well; draft 4 takes only numbers written without a fraction as integers. -/
def hasType (draft : Draft) (j : Json) (t : String) : Bool :=
  match t, j with
  | "null", .null => true
  | "boolean", .bool _ => true
  | "object", .obj _ => true
  | "array", .arr _ => true
  | "string", .str _ => true
  | "number", .num _ => true
  | "integer", .num (.float f) => draft != .v4 && isIntegral (.float f)
  | "integer", .num _ => true
  | _, _ => false

/-- The type names in the order a message lists them. -/
def typeOrder : List String := ["array", "boolean", "integer", "null", "number", "object", "string"]

/-- `s` when the count is not one. -/
def plural (n : Nat) (one many : String) : String := if n == 1 then one else many

/-- The part of a URI before its last `/`, with the `/`. -/
def directory (uri : String) : String :=
  let cs := uri.toList
  match cs.reverse.dropWhile (· != '/') with
  | [] => ""
  | rest => String.ofList rest.reverse

/-- A URI reference resolved against a base. -/
def resolveUri (base ref : String) : String :=
  if ref.isEmpty then base
  else if ref.contains ':' then ref
  else directory base ++ ref

/-- A JSON pointer token with its escapes undone. -/
def unescapeToken (t : String) : String :=
  (t.replace "~1" "/").replace "~0" "~"

/-- A JSON pointer token as an index of an array: decimal digits, a plus sign allowed before. -/
def indexToken (t : String) : Option Nat :=
  let digits := if t.startsWith "+" then (t.drop 1).toString else t
  if !digits.isEmpty && digits.all Char.isDigit then digits.toNat? else none

/-- The node a JSON pointer names, or why it names none: a token of an array that is no index,
or a place that does not exist. -/
def pointerAt (doc : Json) (frag : String) : Except String Json :=
  let nowhere := "Pointer '" ++ frag ++ "' does not exist"
  ((frag.splitOn "/").drop 1).foldlM (fun (j : Json) (t : String) =>
    match j with
    | .obj _ =>
      match j.field? (unescapeToken t) with
      | some v => .ok v
      | none => .error nowhere
    | .arr items =>
      match indexToken (unescapeToken t) with
      | some i =>
        match items[i]? with
        | some v => .ok v
        | none => .error nowhere
      | none => .error ("Failed to parse array index '" ++ unescapeToken t ++ "' in pointer '" ++ frag ++ "'")
    | _ => .error nowhere) doc

/-- The node a JSON pointer names. -/
def pointer (doc : Json) (frag : String) : Option Json := (pointerAt doc frag).toOption

/-- Whether a schema object names an anchor: by `$dynamicAnchor` when `dynamic`, else as the
draft writes a plain name: `$anchor` (or `$dynamicAnchor`) from 2019-09 on, an `$id` of `#`
and the name before (`id` in draft 4). -/
def namesAnchor (draft : Draft) (name : String) (dynamic : Bool) (j : Json) : Bool :=
  if dynamic then j.field? "$dynamicAnchor" == some (.str name)
  else if draft.since .v2019 then
    j.field? "$anchor" == some (.str name) || j.field? "$dynamicAnchor" == some (.str name)
  else j.field? (if draft == .v4 then "id" else "$id") == some (.str ("#" ++ name))

mutual
/-- The first node of a document that names an anchor (see `namesAnchor`). -/
def findAnchor (draft : Draft) (name : String) (dynamic : Bool) (fuel : Nat) (j : Json) : Option Json :=
  match fuel with
  | 0 => none
  | fuel + 1 =>
    match j with
    | .obj fields =>
      if namesAnchor draft name dynamic j then some j else findAnchorFields draft name dynamic fuel fields
    | .arr items => findAnchorItems draft name dynamic fuel items
    | _ => none
/-- The first anchored node among members. -/
def findAnchorFields (draft : Draft) (name : String) (dynamic : Bool) (fuel : Nat) : List (String × Json) → Option Json
  | [] => none
  | (_, v) :: rest =>
    match findAnchor draft name dynamic fuel v with
    | some j => some j
    | none => findAnchorFields draft name dynamic fuel rest
/-- The first anchored node among items. -/
def findAnchorItems (draft : Draft) (name : String) (dynamic : Bool) (fuel : Nat) : List Json → Option Json
  | [] => none
  | v :: rest =>
    match findAnchor draft name dynamic fuel v with
    | some j => some j
    | none => findAnchorItems draft name dynamic fuel rest
end

/-- Splits a reference at its first `#`. -/
def splitFragment (ref : String) : String × String :=
  let cs := ref.toList
  (String.ofList (cs.takeWhile (· != '#')), String.ofList ((cs.dropWhile (· != '#')).drop 1))

/-- The scope and schema a reference leads to. -/
def resolve (sc : Scope) (ref : String) : Option (Scope × Json) := do
  let (uri, frag) := splitFragment ref
  let base := resolveUri sc.base uri
  let doc ← sc.docs.lookup base
  let node ← if frag.isEmpty then some doc
    else if frag.startsWith "/" then pointer doc frag
    else findAnchor sc.draft frag false 64 doc
  some ({ sc with base := base, entered := base :: sc.entered }, node)

/-- The scope and schema a dynamic reference leads to: the outermost document entered that has
the dynamic anchor, or the plain reference when the target has none. -/
def resolveDynamic (sc : Scope) (ref : String) : Option (Scope × Json) := do
  let (sc', node) ← resolve sc ref
  let (_, frag) := splitFragment ref
  if frag.isEmpty || frag.startsWith "/" || node.field? "$dynamicAnchor" != some (.str frag) then
    some (sc', node)
  else
    let outer := sc.entered.reverse.find? (fun uri =>
      match sc.docs.lookup uri with
      | some doc => (findAnchor sc.draft frag true 64 doc).isSome
      | none => false)
    match outer with
    | some uri => do
      let doc ← sc.docs.lookup uri
      let target ← findAnchor sc.draft frag true 64 doc
      some ({ sc with base := uri, entered := uri :: sc.entered }, target)
    | none => some (sc', node)

/-- The scope and schema a recursive reference leads to: when its target sets
`$recursiveAnchor`, the outermost document entered that sets it too. -/
def resolveRecursive (sc : Scope) (ref : String) : Option (Scope × Json) := do
  let (sc', node) ← resolve sc ref
  if node.field? "$recursiveAnchor" != some (.bool true) then some (sc', node)
  else
    let outer := sc.entered.reverse.find? (fun uri =>
      match sc.docs.lookup uri with
      | some doc => doc.field? "$recursiveAnchor" == some (.bool true)
      | none => false)
    match outer with
    | some uri => do
      let doc ← sc.docs.lookup uri
      some ({ sc with base := uri, entered := uri :: sc.entered }, doc)
    | none => some (sc', node)

/-- Whether a pattern matches a name; a pattern that does not parse matches nothing. -/
def patternMatches (pattern name : String) : Bool :=
  match Pattern.parse pattern with
  | some n => n.search name
  | none => false

/-- The first failure of a list of checks. -/
def firstOf {α : Type} (xs : List α) (f : α → Option String) : Option String :=
  xs.foldl (fun acc x => acc.orElse (fun _ => f x)) none

/-- The end of a message on unexpected things: each quoted, and `was` or `were`. -/
def unexpected (things : List String) : String :=
  ", ".intercalate (things.map (fun n => "'" ++ n ++ "'")) ++
    " " ++ (if things.length == 1 then "was" else "were") ++ " unexpected)"

/-- The message of members that no schema allows. -/
def additionalMessage (names : List String) : String :=
  "Additional properties are not allowed (" ++ unexpected names

/-- The members of `names` that are among `inst`'s. -/
def present (inst : Json) (names : List String) : List String :=
  names.filter (fun n => (inst.field? n).isSome)

/-- Joins two lists without repeating members of the first. -/
def union {α : Type} [BEq α] (a b : List α) : List α := a ++ b.filter (fun x => !a.contains x)

/-- The first name of `names` that `inst` lacks, as a required property. -/
def requiredFault (inst : Json) (names : List Json) : Option String :=
  firstOf names (fun n =>
    match n with
    | .str name => if (inst.field? name).isSome then none else some s!"{shown n} is a required property"
    | _ => none)

/-- The unevaluated members of an object value: those not evaluated whose value `takes`
refuses. -/
def unevaluatedMembers (members : List (String × Json)) (done : List String) (takes : Json → Bool) : List String :=
  (members.filter (fun (n, v) => !done.contains n && !takes v)).map (·.1)

mutual
/-- The first constraint `schema` puts on `inst` that `inst` breaks, as its message. -/
def check (sc : Scope) : Nat → Json → Json → Option String
  | 0, _, _ => none
  | fuel + 1, schema, inst =>
    let sub (sc : Scope) (s : Json) (v : Json) : Option String := check sc fuel s v
    let valid (s : Json) (v : Json) : Bool := (check sc fuel s v).isNone
    match schema with
    | .bool true => none
    | .bool false => some s!"False schema does not allow {shown inst}"
    | .obj fields =>
      let fields :=
        if sc.draft.refHidesSiblings && (schema.field? "$ref").isSome then fields.filter (·.1 == "$ref")
        else fields.filter (fun kv => sc.draft.knows kv.1)
      let addl := schema.field? "additionalProperties"
      let props := (schema.field? "properties").map Json.fields |>.getD []
      let pats := (schema.field? "patternProperties").map Json.fields |>.getD []
      let combined := match addl with
        | some (.bool false) | some (.obj _) => true
        | _ => false
      let keyword (kv : String × Json) : Option String :=
        let (k, v) := kv
        match k with
        | "$ref" =>
          match v with
          | .str r => (resolve sc r).bind fun (sc', target) => sub sc' target inst
          | _ => none
        | "$dynamicRef" =>
          match v with
          | .str r => (resolveDynamic sc r).bind fun (sc', target) => sub sc' target inst
          | _ => none
        | "$recursiveRef" =>
          match v with
          | .str r => (resolveRecursive sc r).bind fun (sc', target) => sub sc' target inst
          | _ => none
        | "additionalProperties" =>
          match inst, v with
          | .obj members, .bool false =>
            if props.isEmpty && (schema.field? "patternProperties").isNone then
              match members with
              | [] => none
              | (_, first) :: _ => some s!"False schema does not allow {shown first}"
            else
              firstOf members (fun (name, value) =>
                let own := (props.lookup name).bind (fun s => sub sc s value)
                let matched := pats.filter (fun p => patternMatches p.1 name)
                match own.orElse (fun _ => firstOf matched (fun p => sub sc p.2 value)) with
                | some e => some e
                | none =>
                  if (props.lookup name).isNone && matched.isEmpty then some (additionalMessage [name])
                  else none)
          | .obj members, .obj _ =>
            firstOf members (fun (name, value) =>
              let own := (props.lookup name).bind (fun s => sub sc s value)
              let matched := pats.filter (fun p => patternMatches p.1 name)
              own.orElse (fun _ =>
                (firstOf matched (fun p => sub sc p.2 value)).orElse (fun _ =>
                  if (props.lookup name).isNone && matched.isEmpty then sub sc v value else none)))
          | _, _ => none
        | "properties" =>
          if combined then none
          else match inst with
            | .obj _ => firstOf props (fun (name, s) => (inst.field? name).bind (fun value => sub sc s value))
            | _ => none
        | "patternProperties" =>
          if combined then none
          else match inst with
            | .obj members =>
              firstOf pats (fun (p, s) =>
                firstOf members (fun (name, value) => if patternMatches p name then sub sc s value else none))
            | _ => none
        | "unevaluatedProperties" =>
          match inst with
          | .obj members =>
            let others := Json.obj (fields.filter (·.1 != "unevaluatedProperties"))
            let done := (evaluated sc fuel others inst).1
            let left := unevaluatedMembers members done (fun value => valid v value)
            if left.isEmpty then none else some ("Unevaluated properties are not allowed (" ++ unexpected left)
          | _ => none
        | "unevaluatedItems" =>
          match inst with
          | .arr items =>
            let others := Json.obj (fields.filter (·.1 != "unevaluatedItems"))
            let done := (evaluated sc fuel others inst).2
            let left := ((List.range items.length).zip items).filter (fun (i, item) => !done.contains i && !valid v item)
            if left.isEmpty then none
            else some ("Unevaluated items are not allowed (" ++ unexpected (left.map (fun p => shown p.2)))
          | _ => none
        | "allOf" =>
          match v with
          | .arr subs => firstOf subs (fun s => sub sc s inst)
          | _ => none
        | "anyOf" =>
          match v with
          | .arr subs =>
            if subs.any (fun s => valid s inst) then none
            else some s!"{shown inst} is not valid under any of the schemas listed in the 'anyOf' keyword"
          | _ => none
        | "oneOf" =>
          match v with
          | .arr subs =>
            let n := (subs.filter (fun s => valid s inst)).length
            if n == 1 then none
            else if n == 0 then
              some s!"{shown inst} is not valid under any of the schemas listed in the 'oneOf' keyword"
            else some s!"{shown inst} is valid under more than one of the schemas listed in the 'oneOf' keyword"
          | _ => none
        | "not" => if valid v inst then some s!"{shown v} is not allowed for {shown inst}" else none
        | "if" =>
          if valid v inst then (schema.field? "then").bind (fun s => sub sc s inst)
          else (schema.field? "else").bind (fun s => sub sc s inst)
        | "const" => if same v inst then none else some s!"{shown v} was expected"
        | "enum" =>
          match v with
          | .arr options =>
            if options.any (same · inst) then none else some s!"{shown inst} is not one of {shown v}"
          | _ => none
        | "type" =>
          match v with
          | .str t => if hasType sc.draft inst t then none else some s!"{shown inst} is not of type \"{t}\""
          | .arr [.str t] => if hasType sc.draft inst t then none else some s!"{shown inst} is not of type \"{t}\""
          | .arr ts =>
            let names := ts.filterMap Json.str?
            if names.any (hasType sc.draft inst) then none
            else
              let listed := typeOrder.filter (names.contains ·)
              some (s!"{shown inst} is not of types " ++ ", ".intercalate (listed.map (fun t => "\"" ++ t ++ "\"")))
          | _ => none
        | "format" =>
          match inst, v with
          | .str text, .str name =>
            if !sc.draft.checksFormats then none
            else match Format.holds sc.draft name text with
              | some false => some s!"{shown inst} is not a \"{name}\""
              | _ => none
          | _, _ => none
        | "items" =>
          match inst, v with
          | .arr items, .arr tuple => firstOf (items.zip tuple) (fun (item, s) => sub sc s item)
          | .arr items, _ =>
            let skip := match schema.field? "prefixItems" with
              | some (.arr pre) => if sc.draft == .v2020 then pre.length else 0
              | _ => 0
            firstOf (items.drop skip) (fun item => sub sc v item)
          | _, _ => none
        | "additionalItems" =>
          match inst, schema.field? "items" with
          | .arr items, some (.arr tuple) =>
            let extra := items.drop tuple.length
            match v with
            | .bool false =>
              if extra.isEmpty then none
              else some ("Additional items are not allowed (" ++ ", ".intercalate (extra.map shown) ++
                " " ++ (if extra.length == 1 then "was" else "were") ++ " unexpected)")
            | .obj _ => firstOf extra (fun item => sub sc v item)
            | _ => none
          | _, _ => none
        | "prefixItems" =>
          match inst, v with
          | .arr items, .arr pre => firstOf (items.zip pre) (fun (item, s) => sub sc s item)
          | _, _ => none
        | "contains" =>
          match inst with
          | .arr items =>
            let n := (items.filter (fun item => valid v item)).length
            let bounded := sc.draft.since .v2019
            let lo := if bounded then ((schema.field? "minContains").bind Json.nat?).getD 1 else 1
            let hi := if bounded then (schema.field? "maxContains").bind Json.nat? else none
            if n < lo || (match hi with
                | some h => n > h
                | none => false) then
              some s!"None of {shown inst} are valid under the given schema"
            else none
          | _ => none
        | "maximum" =>
          match inst, v with
          | .num a, .num b =>
            if sc.draft == .v4 && schema.field? "exclusiveMaximum" == some (.bool true) then
              if below a b then none else some s!"{shown inst} is greater than or equal to the maximum of {shown v}"
            else if below b a then some s!"{shown inst} is greater than the maximum of {shown v}" else none
          | _, _ => none
        | "minimum" =>
          match inst, v with
          | .num a, .num b =>
            if sc.draft == .v4 && schema.field? "exclusiveMinimum" == some (.bool true) then
              if below b a then none else some s!"{shown inst} is less than or equal to the minimum of {shown v}"
            else if below a b then some s!"{shown inst} is less than the minimum of {shown v}" else none
          | _, _ => none
        | "exclusiveMaximum" =>
          match inst, v with
          | .num a, .num b =>
            if below a b then none else some s!"{shown inst} is greater than or equal to the maximum of {shown v}"
          | _, _ => none
        | "exclusiveMinimum" =>
          match inst, v with
          | .num a, .num b =>
            if below b a then none else some s!"{shown inst} is less than or equal to the minimum of {shown v}"
          | _, _ => none
        | "multipleOf" =>
          match inst, v with
          | .num a, .num b =>
            let x := a.toFloat
            let m := b.toFloat
            let trunc (f : Float) : Float := if f < 0 then f.ceil else f.floor
            let ok := if m.floor == m then x.floor == x && (x - m * trunc (x / m)) == 0
              else
                let q := x / m
                (q - trunc q) < 2.220446049250313e-16
            let text := Found.plainFloat m
            let factor := if text.endsWith ".0" then String.ofList (text.toList.take (text.length - 2)) else text
            if ok then none else some s!"{shown inst} is not a multiple of {factor}"
          | _, _ => none
        | "maxLength" =>
          match inst, v with
          | .str s, .num n =>
            let lim := n.toFloat.toUInt64.toNat
            let noun := plural lim "character" "characters"
            if s.length > lim then some s!"{shown inst} is longer than {lim} {noun}" else none
          | _, _ => none
        | "minLength" =>
          match inst, v with
          | .str s, .num n =>
            let lim := n.toFloat.toUInt64.toNat
            let noun := plural lim "character" "characters"
            if s.length < lim then some s!"{shown inst} is shorter than {lim} {noun}" else none
          | _, _ => none
        | "pattern" =>
          match inst, v with
          | .str s, .str p => if patternMatches p s then none else some s!"{shown inst} does not match \"{p}\""
          | _, _ => none
        | "maxItems" =>
          match inst, v with
          | .arr items, .num n =>
            let lim := n.toFloat.toUInt64.toNat
            let noun := plural lim "item" "items"
            if items.length > lim then some s!"{shown inst} has more than {lim} {noun}" else none
          | _, _ => none
        | "minItems" =>
          match inst, v with
          | .arr items, .num n =>
            let lim := n.toFloat.toUInt64.toNat
            let noun := plural lim "item" "items"
            if items.length < lim then some s!"{shown inst} has less than {lim} {noun}" else none
          | _, _ => none
        | "uniqueItems" =>
          match inst, v with
          | .arr items, .bool true =>
            let rec dup : List Json → Bool
              | [] => false
              | x :: rest => rest.any (same x) || dup rest
            if dup items then some s!"{shown inst} has non-unique elements" else none
          | _, _ => none
        | "maxProperties" =>
          match inst, v with
          | .obj members, .num n =>
            let lim := n.toFloat.toUInt64.toNat
            let noun := plural lim "property" "properties"
            if members.length > lim then
              some s!"{shown inst} has more than {lim} {noun}"
            else none
          | _, _ => none
        | "minProperties" =>
          match inst, v with
          | .obj members, .num n =>
            let lim := n.toFloat.toUInt64.toNat
            let noun := plural lim "property" "properties"
            if members.length < lim then
              some s!"{shown inst} has less than {lim} {noun}"
            else none
          | _, _ => none
        | "required" =>
          match inst, v with
          | .obj _, .arr names => requiredFault inst names
          | _, _ => none
        | "dependentRequired" =>
          match inst, v with
          | .obj _, .obj deps =>
            firstOf deps (fun (name, needs) =>
              if (inst.field? name).isNone then none
              else match needs with
                | .arr names => requiredFault inst names
                | _ => none)
          | _, _ => none
        | "dependencies" =>
          match inst, v with
          | .obj _, .obj deps =>
            firstOf deps (fun (name, dep) =>
              if (inst.field? name).isNone then none
              else match dep with
                | .arr names => requiredFault inst names
                | _ => sub sc dep inst)
          | _, _ => none
        | "dependentSchemas" =>
          match inst, v with
          | .obj _, .obj deps =>
            firstOf deps (fun (name, s) => if (inst.field? name).isNone then none else sub sc s inst)
          | _, _ => none
        | "propertyNames" =>
          match inst with
          | .obj members => firstOf members (fun (name, _) => sub sc v (.str name))
          | _ => none
        | _ => none
      firstOf fields keyword
    | _ => none
/-- The member names and item indices of `inst` that `schema` evaluates, through the
subschemas of it that hold. -/
def evaluated (sc : Scope) : Nat → Json → Json → List String × List Nat
  | 0, _, _ => ([], [])
  | fuel + 1, schema, inst =>
    let valid (s : Json) : Bool := (check sc fuel s inst).isNone
    let names := (inst.fields.map (·.1))
    let count := match inst with
      | .arr items => items.length
      | _ => 0
    let join (a b : List String × List Nat) : List String × List Nat := (union a.1 b.1, union a.2 b.2)
    let inner (s : Json) : List String × List Nat := evaluated sc fuel s inst
    let through (r : Option (Scope × Json)) : List String × List Nat :=
      match r with
      | some (sc', target) => evaluated sc' fuel target inst
      | none => ([], [])
    match schema with
    | .obj fields =>
      fields.foldl (fun acc (k, v) =>
        let own : List String × List Nat := match k with
          | "properties" => (present inst (v.fields.map (·.1)), [])
          | "patternProperties" =>
            (names.filter (fun n => v.fields.any (fun p => patternMatches p.1 n)), [])
          | "additionalProperties" | "unevaluatedProperties" => (names, [])
          | "prefixItems" => ([], List.range (min count ((v.arr?.map List.length).getD 0)))
          | "items" =>
            match v with
            | .arr tuple => ([], List.range (min count tuple.length))
            | _ => ([], List.range count)
          | "additionalItems" =>
            match schema.field? "items" with
            | some (.arr _) => ([], List.range count)
            | _ => ([], [])
          | "unevaluatedItems" => ([], List.range count)
          | "contains" =>
            match inst with
            | .arr items =>
              ([], ((List.range count).zip items).filterMap (fun (i, item) =>
                if (check sc fuel v item).isNone then some i else none))
            | _ => ([], [])
          | "allOf" => (v.arr?.getD []).foldl (fun a s => join a (inner s)) ([], [])
          | "anyOf" | "oneOf" =>
            (v.arr?.getD []).foldl (fun a s => if valid s then join a (inner s) else a) ([], [])
          | "if" =>
            if valid v then join (inner v) (((schema.field? "then").map inner).getD ([], []))
            else ((schema.field? "else").map inner).getD ([], [])
          | "dependentSchemas" =>
            v.fields.foldl (fun a (n, s) => if (inst.field? n).isSome then join a (inner s) else a) ([], [])
          | "$ref" => match v with
            | .str r => through (resolve sc r)
            | _ => ([], [])
          | "$dynamicRef" => match v with
            | .str r => through (resolveDynamic sc r)
            | _ => ([], [])
          | "$recursiveRef" => match v with
            | .str r => through (resolveRecursive sc r)
            | _ => ([], [])
          | _ => ([], [])
        join acc own) ([], [])
    | _ => ([], [])
end

/-- Why a reference leads nowhere in the scope, if it does: a pointer to no place, an anchor
no node names, or one that no node could name (a name with `/`). -/
def referenceTarget (sc : Scope) (ref : String) : Except String (Option (Scope × Json)) :=
  let (uri, frag) := splitFragment ref
  let base := resolveUri sc.base uri
  match sc.docs.lookup base with
  | none => .ok none
  | some doc =>
    let sc' := { sc with base := base, entered := base :: sc.entered }
    if frag.isEmpty then .ok (some (sc', doc))
    else if frag.startsWith "/" then (pointerAt doc frag).map (fun j => some (sc', j))
    else match findAnchor sc.draft frag false 64 doc with
      | some j => .ok (some (sc', j))
      | none =>
        if frag.contains '/' then .error ("Anchor '" ++ frag ++ "' is invalid")
        else .error ("Anchor '" ++ frag ++ "' does not exist")

/-- The first reference of a schema that leads nowhere, as its fault. -/
def referenceFault (sc : Scope) : Nat → Json → List String → Except String (List String)
  | 0, _, seen => .ok seen
  | fuel + 1, schema, seen =>
    match schema with
    | .obj fields =>
      let fields :=
        if sc.draft.refHidesSiblings && (schema.field? "$ref").isSome then fields.filter (·.1 == "$ref")
        else fields.filter (fun kv => sc.draft.knows kv.1)
      let combined := match schema.field? "additionalProperties" with
        | some (.bool false) | some (.obj _) => true
        | _ => false
      let members (k : String) : List Json := ((schema.field? k).map Json.fields |>.getD []).map (·.2)
      let under (seen : List String) (xs : List Json) : Except String (List String) :=
        xs.foldlM (fun seen s => referenceFault sc fuel s seen) seen
      fields.foldlM (fun seen (k, v) =>
        match k, v with
        | "$ref", .str r =>
          let (uri, frag) := splitFragment r
          let key := resolveUri sc.base uri ++ "#" ++ frag
          if seen.contains key then .ok seen
          else match referenceTarget sc r with
            | .error e => .error e
            | .ok none => .ok seen
            | .ok (some (sc', target)) => referenceFault sc' fuel target (key :: seen)
        | "properties", _ | "patternProperties", _ => if combined then .ok seen else under seen (members k)
        | "additionalProperties", _ =>
          under seen (if combined then members "patternProperties" ++ members "properties" ++ [v] else [v])
        | "dependentSchemas", _ | "dependencies", _ => under seen (members k)
        | "items", .arr xs | "prefixItems", .arr xs | "allOf", .arr xs | "anyOf", .arr xs
        | "oneOf", .arr xs => under seen xs
        | "items", _ | "contains", _ | "not", _ | "propertyNames", _ | "unevaluatedItems", _
        | "unevaluatedProperties", _ => under seen [v]
        | "additionalItems", _ =>
          match schema.field? "items" with
          | some (.arr _) => under seen [v]
          | _ => .ok seen
        | "if", _ => under seen (v :: ((schema.field? "then").toList ++ (schema.field? "else").toList))
        | _, _ => .ok seen) seen
    | _ => .ok seen

end Schema

end JobFlow
