import JobFlow.Json.Value

/-!
# Drafts of JSON Schema

A schema is read by the rules of one draft: 4, 6, 7, 2019-09 or 2020-12.
-/

namespace JobFlow

namespace Schema

/-- A draft of JSON Schema. -/
inductive Draft where
  | v4
  | v6
  | v7
  | v2019
  | v2020
  deriving DecidableEq, Inhabited, Repr

namespace Draft

/-- The order of the drafts. -/
def rank : Draft → Nat
  | .v4 => 4
  | .v6 => 6
  | .v7 => 7
  | .v2019 => 8
  | .v2020 => 9

/-- Whether a draft is `e` or later. -/
def since (d e : Draft) : Bool := e.rank ≤ d.rank

/-- The URI that names a draft. -/
def uri : Draft → String
  | .v4 => "http://json-schema.org/draft-04/schema"
  | .v6 => "http://json-schema.org/draft-06/schema"
  | .v7 => "http://json-schema.org/draft-07/schema"
  | .v2019 => "https://json-schema.org/draft/2019-09/schema"
  | .v2020 => "https://json-schema.org/draft/2020-12/schema"

/-- Every draft. -/
def all : List Draft := [.v4, .v6, .v7, .v2019, .v2020]

/-- A text without the `#` characters it ends with. -/
def trimHashes (s : String) : String :=
  String.ofList (s.toList.reverse.dropWhile (· = '#')).reverse

/-- The draft a schema is read by, or why none. -/
def detect (schema : Json) : Except String Draft :=
  match schema.field? "$schema" with
  | some (.str s) =>
    let named := trimHashes s
    match all.find? (·.uri == named) with
    | some d => .ok d
    | none => .error s!"Unknown specification: {named}"
  | _ => .ok .v2020

/-- Whether a draft checks formats. -/
def checksFormats (d : Draft) : Bool := !d.since .v2019

/-- Whether a draft lets `$ref` hide the keywords beside it. -/
def refHidesSiblings (d : Draft) : Bool := !d.since .v2019

/-- Whether a draft applies a keyword. -/
def knows (d : Draft) (keyword : String) : Bool :=
  match keyword with
  | "const" | "contains" | "propertyNames" => d.since .v6
  | "if" => d.since .v7
  | "dependentRequired" | "dependentSchemas" | "unevaluatedItems" | "unevaluatedProperties" => d.since .v2019
  | "$recursiveRef" => d == .v2019
  | "$dynamicRef" | "prefixItems" => d == .v2020
  | "exclusiveMaximum" | "exclusiveMinimum" => d != .v4
  | _ => true

end Draft

end Schema

end JobFlow
