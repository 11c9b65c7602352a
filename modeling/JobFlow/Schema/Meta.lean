import JobFlow.Schema.Meta.Earlier

/-!
# The draft 2020-12 meta-schema

A schema is itself checked before it is used, against the meta-schema of its draft.
-/

namespace JobFlow

namespace Schema

/-- The dynamic reference to the whole meta-schema. -/
def metaRef : Json := o [("$dynamicRef", .str "#meta")]

/-- Objects or booleans: what every vocabulary accepts as a schema. -/
def schemaType : Json := .arr [.str "object", .str "boolean"]

/-- The URI the meta-schema documents live under. -/
def metaBase : String := "https://json-schema.org/draft/2020-12/"

/-- A vocabulary document: its URI, its properties and its definitions. -/
def vocabulary (name : String) (props : List (String × Json)) (defs : List (String × Json)) : String × Json :=
  (metaBase ++ "meta/" ++ name,
    o ([("$id", .str (metaBase ++ "meta/" ++ name)), ("$dynamicAnchor", .str "meta"), ("type", schemaType),
      ("properties", o props)] ++ (if defs.isEmpty then [] else [("$defs", o defs)])))

/-- The core vocabulary: identifiers, references, anchors and definitions. -/
def core : String × Json :=
  vocabulary "core" [
    ("$id", o [("$ref", .str "#/$defs/uriReferenceString"), ("pattern", .str "^[^#]*#?$")]),
    ("$schema", ref "#/$defs/uriString"),
    ("$ref", ref "#/$defs/uriReferenceString"),
    ("$anchor", ref "#/$defs/anchorString"),
    ("$dynamicRef", ref "#/$defs/uriReferenceString"),
    ("$dynamicAnchor", ref "#/$defs/anchorString"),
    ("$vocabulary", o [("type", .str "object"), ("propertyNames", ref "#/$defs/uriString"),
      ("additionalProperties", typed "boolean")]),
    ("$comment", typed "string"),
    ("$defs", o [("type", .str "object"), ("additionalProperties", metaRef)])]
  [ ("anchorString", o [("type", .str "string"), ("pattern", .str "^[A-Za-z_][-A-Za-z0-9._]*$")]),
    ("uriString", typed "string"),
    ("uriReferenceString", typed "string")]

/-- The applicator vocabulary: the keywords holding subschemas. -/
def applicator : String × Json :=
  let schemaMap := o [("type", .str "object"), ("additionalProperties", metaRef)]
  vocabulary "applicator" [
    ("prefixItems", ref "#/$defs/schemaArray"),
    ("items", metaRef),
    ("contains", metaRef),
    ("additionalProperties", metaRef),
    ("properties", schemaMap),
    ("patternProperties", schemaMap),
    ("dependentSchemas", schemaMap),
    ("propertyNames", metaRef),
    ("if", metaRef),
    ("then", metaRef),
    ("else", metaRef),
    ("allOf", ref "#/$defs/schemaArray"),
    ("anyOf", ref "#/$defs/schemaArray"),
    ("oneOf", ref "#/$defs/schemaArray"),
    ("not", metaRef)]
  [("schemaArray", o [("type", .str "array"), ("minItems", .num (.nat 1)), ("items", metaRef)])]

/-- The unevaluated vocabulary. -/
def unevaluated : String × Json :=
  vocabulary "unevaluated" [("unevaluatedItems", metaRef), ("unevaluatedProperties", metaRef)] []

/-- The validation vocabulary: the keywords that constrain values directly. -/
def validation : String × Json :=
  vocabulary "validation" [
    ("type", o [("anyOf", .arr [ref "#/$defs/simpleTypes",
      o [("type", .str "array"), ("items", ref "#/$defs/simpleTypes"), ("minItems", .num (.nat 1)),
        ("uniqueItems", .bool true)]])]),
    ("const", .bool true),
    ("enum", o [("type", .str "array"), ("items", .bool true)]),
    ("multipleOf", o [("type", .str "number"), ("exclusiveMinimum", .num (.nat 0))]),
    ("maximum", typed "number"),
    ("exclusiveMaximum", typed "number"),
    ("minimum", typed "number"),
    ("exclusiveMinimum", typed "number"),
    ("maxLength", ref "#/$defs/nonNegativeInteger"),
    ("minLength", ref "#/$defs/nonNegativeIntegerDefault0"),
    ("pattern", typed "string"),
    ("maxItems", ref "#/$defs/nonNegativeInteger"),
    ("minItems", ref "#/$defs/nonNegativeIntegerDefault0"),
    ("uniqueItems", typed "boolean"),
    ("maxContains", ref "#/$defs/nonNegativeInteger"),
    ("minContains", ref "#/$defs/nonNegativeInteger"),
    ("maxProperties", ref "#/$defs/nonNegativeInteger"),
    ("minProperties", ref "#/$defs/nonNegativeIntegerDefault0"),
    ("required", ref "#/$defs/stringArray"),
    ("dependentRequired", o [("type", .str "object"), ("additionalProperties", ref "#/$defs/stringArray")])]
  [ ("nonNegativeInteger", o [("type", .str "integer"), ("minimum", .num (.nat 0))]),
    ("nonNegativeIntegerDefault0", ref "#/$defs/nonNegativeInteger"),
    ("simpleTypes", o [("enum", .arr (typeOrder.map .str))]),
    ("stringArray", o [("type", .str "array"), ("items", typed "string"), ("uniqueItems", .bool true)])]

/-- The meta-data vocabulary. -/
def metaData : String × Json :=
  vocabulary "meta-data" [
    ("title", typed "string"),
    ("description", typed "string"),
    ("default", .bool true),
    ("deprecated", typed "boolean"),
    ("readOnly", typed "boolean"),
    ("writeOnly", typed "boolean"),
    ("examples", o [("type", .str "array"), ("items", .bool true)])] []

/-- The format annotation vocabulary. -/
def formatAnnotation : String × Json := vocabulary "format-annotation" [("format", typed "string")] []

/-- The content vocabulary. -/
def content : String × Json :=
  vocabulary "content" [("contentEncoding", typed "string"), ("contentMediaType", typed "string"),
    ("contentSchema", metaRef)] []

/-- The whole meta-schema: every vocabulary, objects or booleans, and the keywords of earlier
drafts still held to their old shapes. -/
def whole : String × Json :=
  (metaBase ++ "schema",
    o [("$id", .str (metaBase ++ "schema")), ("$dynamicAnchor", .str "meta"),
      ("allOf", .arr ([core, applicator, unevaluated, validation, metaData, formatAnnotation, content].map
        (fun d => ref d.1))),
      ("type", schemaType),
      ("properties", o [
        ("definitions", o [("type", .str "object"), ("additionalProperties", metaRef)]),
        ("dependencies", o [("type", .str "object"), ("additionalProperties",
          o [("anyOf", .arr [metaRef, ref "meta/validation#/$defs/stringArray"])])]),
        ("$recursiveAnchor", ref "meta/core#/$defs/anchorString"),
        ("$recursiveRef", ref "meta/core#/$defs/uriReferenceString")])])

/-- The meta-schema documents by URI. -/
def metaDocuments : Documents :=
  [whole, core, applicator, unevaluated, validation, metaData, formatAnnotation, content]

/-- The URI a schema of its own lives under. -/
def rootUri : String := "json-schema:///"

/-- A budget of nested checks far above what any schema here needs. -/
def depth : Nat := 100000

/-- The meta-schema documents of a draft, the URI of the whole first. -/
def metaOf : Draft → Documents
  | .v4 => [draft4]
  | .v6 => [draft6]
  | .v7 => [draft7]
  | .v2019 => documents2019
  | .v2020 => metaDocuments

/-- The first way a schema breaks its draft's meta-schema, checked by that draft's rules. -/
def metaFault (draft : Draft) (schema : Json) : Option String :=
  match schema, metaOf draft with
  | .bool _, _ => none
  | _, (uri, whole) :: rest =>
    check { draft := draft, docs := (uri, whole) :: rest, base := uri, entered := [uri] } depth whole schema
  | _, [] => none

/-- The first pattern of a schema that does not parse, named as a value that is not a regex. -/
def patternFault : Nat → Json → Option String
  | 0, _ => none
  | fuel + 1, .obj fields =>
    firstOf fields (fun (k, v) =>
      match k, v with
      | "pattern", .str p =>
        if (Pattern.parse p).isNone then some s!"{shown v} is not a \"regex\"" else patternFault fuel v
      | "patternProperties", .obj pats =>
        firstOf pats (fun (p, s) =>
          if (Pattern.parse p).isNone then some s!"{shown (.str p)} is not a \"regex\"" else patternFault fuel s)
      | _, _ => patternFault fuel v)
  | fuel + 1, .arr items => firstOf items (patternFault fuel)
  | _, _ => none

/-- Why a schema cannot be used: it names no draft this reader knows, breaks its draft's
meta-schema, holds a pattern that does not parse, or a reference that leads nowhere. -/
def compileFault (schema : Json) : Option String :=
  match Draft.detect schema with
  | .error e => some e
  | .ok draft =>
    (metaFault draft schema).orElse (fun _ => (patternFault 64 schema).orElse (fun _ =>
      match referenceFault { draft := draft, docs := [(rootUri, schema)], base := rootUri, entered := [rootUri] } 64 schema [] with
      | .error e => some e
      | .ok _ => none))

/-- The first constraint of a usable schema that a value breaks, by the rules of its draft. -/
def firstFault (schema : Json) (value : Json) : Option String :=
  let draft := match Draft.detect schema with
    | .ok d => d
    | .error _ => .v2020
  check { draft := draft, docs := [(rootUri, schema)], base := rootUri, entered := [rootUri] } depth schema value

end Schema

end JobFlow
