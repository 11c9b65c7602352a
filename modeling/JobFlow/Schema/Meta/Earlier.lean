import JobFlow.Schema.Check

/-!
# The meta-schemas of drafts 4, 6, 7 and 2019-09

A schema that names an earlier draft is checked against that draft's meta-schema, by that
draft's rules.
-/

namespace JobFlow

namespace Schema

/-- An object from its members. -/
def o (fields : List (String × Json)) : Json := Json.mkObj fields

/-- A schema asking for one type. -/
def typed (t : String) : Json := o [("type", .str t)]

/-- A reference. -/
def ref (r : String) : Json := o [("$ref", .str r)]

/-- A reference to the root of the current document. -/
def rootRef : Json := ref "#"

/-- A natural number as a value. -/
def natJson (n : Nat) : Json := .num (.nat n)

/-- The simple type names as an enumeration. -/
def simpleTypes : Json := o [("enum", .arr ((["array", "boolean", "integer", "null", "number", "object", "string"]).map .str))]

/-- The `type` keyword's own schema: a simple type, or a non-empty array of distinct ones. -/
def typeKeyword (defs : String) : Json :=
  o [("anyOf", .arr [ref s!"#/{defs}/simpleTypes",
    o [("type", .str "array"), ("items", ref s!"#/{defs}/simpleTypes"), ("minItems", natJson 1),
      ("uniqueItems", .bool true)]])]

/-- A map from names to schemas, given the schema of a member. -/
def schemaMap (member : Json) : Json := o [("type", .str "object"), ("additionalProperties", member)]

/-- A string of a format. -/
def formatted (f : String) : Json := o [("type", .str "string"), ("format", .str f)]

/-- The meta-schema of draft 4. -/
def draft4 : String × Json :=
  let posInt := ref "#/definitions/positiveInteger"
  let posInt0 := ref "#/definitions/positiveIntegerDefault0"
  let boolOrSchema := o [("anyOf", .arr [typed "boolean", rootRef])]
  (Draft.v4.uri,
    o [("definitions", o [
        ("schemaArray", o [("type", .str "array"), ("minItems", natJson 1), ("items", rootRef)]),
        ("positiveInteger", o [("type", .str "integer"), ("minimum", natJson 0)]),
        ("positiveIntegerDefault0", o [("allOf", .arr [posInt, o []])]),
        ("simpleTypes", simpleTypes),
        ("stringArray", o [("type", .str "array"), ("items", typed "string"), ("minItems", natJson 1),
          ("uniqueItems", .bool true)])]),
      ("type", .str "object"),
      ("properties", o [
        ("id", typed "string"),
        ("$schema", typed "string"),
        ("title", typed "string"),
        ("description", typed "string"),
        ("multipleOf", o [("type", .str "number"), ("minimum", natJson 0), ("exclusiveMinimum", .bool true)]),
        ("maximum", typed "number"),
        ("exclusiveMaximum", typed "boolean"),
        ("minimum", typed "number"),
        ("exclusiveMinimum", typed "boolean"),
        ("maxLength", posInt),
        ("minLength", posInt0),
        ("pattern", formatted "regex"),
        ("additionalItems", boolOrSchema),
        ("items", o [("anyOf", .arr [rootRef, ref "#/definitions/schemaArray"])]),
        ("maxItems", posInt),
        ("minItems", posInt0),
        ("uniqueItems", typed "boolean"),
        ("maxProperties", posInt),
        ("minProperties", posInt0),
        ("required", ref "#/definitions/stringArray"),
        ("additionalProperties", boolOrSchema),
        ("definitions", schemaMap rootRef),
        ("properties", schemaMap rootRef),
        ("patternProperties", schemaMap rootRef),
        ("dependencies", schemaMap (o [("anyOf", .arr [rootRef, ref "#/definitions/stringArray"])])),
        ("enum", o [("type", .str "array"), ("minItems", natJson 1), ("uniqueItems", .bool true)]),
        ("type", typeKeyword "definitions"),
        ("format", typed "string"),
        ("allOf", ref "#/definitions/schemaArray"),
        ("anyOf", ref "#/definitions/schemaArray"),
        ("oneOf", ref "#/definitions/schemaArray"),
        ("not", rootRef)]),
      ("dependencies", o [("exclusiveMaximum", .arr [.str "maximum"]),
        ("exclusiveMinimum", .arr [.str "minimum"])])])

/-- The members of the meta-schemas of drafts 6 and 7 that they share. -/
def draft6Members : List (String × Json) :=
  let nonNeg := ref "#/definitions/nonNegativeInteger"
  let nonNeg0 := ref "#/definitions/nonNegativeIntegerDefault0"
  [ ("$id", formatted "uri-reference"),
    ("$schema", formatted "uri"),
    ("$ref", formatted "uri-reference"),
    ("title", typed "string"),
    ("description", typed "string"),
    ("multipleOf", o [("type", .str "number"), ("exclusiveMinimum", natJson 0)]),
    ("maximum", typed "number"),
    ("exclusiveMaximum", typed "number"),
    ("minimum", typed "number"),
    ("exclusiveMinimum", typed "number"),
    ("maxLength", nonNeg),
    ("minLength", nonNeg0),
    ("pattern", formatted "regex"),
    ("additionalItems", rootRef),
    ("items", o [("anyOf", .arr [rootRef, ref "#/definitions/schemaArray"])]),
    ("maxItems", nonNeg),
    ("minItems", nonNeg0),
    ("uniqueItems", typed "boolean"),
    ("contains", rootRef),
    ("maxProperties", nonNeg),
    ("minProperties", nonNeg0),
    ("required", ref "#/definitions/stringArray"),
    ("additionalProperties", rootRef),
    ("definitions", schemaMap rootRef),
    ("properties", schemaMap rootRef),
    ("dependencies", schemaMap (o [("anyOf", .arr [rootRef, ref "#/definitions/stringArray"])])),
    ("propertyNames", rootRef),
    ("type", typeKeyword "definitions"),
    ("format", typed "string"),
    ("allOf", ref "#/definitions/schemaArray"),
    ("anyOf", ref "#/definitions/schemaArray"),
    ("oneOf", ref "#/definitions/schemaArray"),
    ("not", rootRef)]

/-- The definitions of the meta-schemas of drafts 6 and 7. -/
def draft6Definitions : Json :=
  o [("schemaArray", o [("type", .str "array"), ("minItems", natJson 1), ("items", rootRef)]),
    ("nonNegativeInteger", o [("type", .str "integer"), ("minimum", natJson 0)]),
    ("nonNegativeIntegerDefault0", o [("allOf", .arr [ref "#/definitions/nonNegativeInteger", o []])]),
    ("simpleTypes", simpleTypes),
    ("stringArray", o [("type", .str "array"), ("items", typed "string"), ("uniqueItems", .bool true)])]

/-- The meta-schema of draft 6. -/
def draft6 : String × Json :=
  (Draft.v6.uri,
    o [("definitions", draft6Definitions),
      ("type", .arr [.str "object", .str "boolean"]),
      ("properties", o (draft6Members ++ [
        ("examples", o [("type", .str "array")]),
        ("patternProperties", schemaMap rootRef),
        ("enum", o [("type", .str "array"), ("minItems", natJson 1), ("uniqueItems", .bool true)])]))])

/-- The meta-schema of draft 7. -/
def draft7 : String × Json :=
  (Draft.v7.uri,
    o [("definitions", draft6Definitions),
      ("type", .arr [.str "object", .str "boolean"]),
      ("properties", o (draft6Members ++ [
        ("$comment", typed "string"),
        ("readOnly", typed "boolean"),
        ("writeOnly", typed "boolean"),
        ("examples", o [("type", .str "array")]),
        ("patternProperties", o [("type", .str "object"), ("additionalProperties", rootRef),
          ("propertyNames", o [("format", .str "regex")])]),
        ("enum", typed "array"),
        ("contentMediaType", typed "string"),
        ("contentEncoding", typed "string"),
        ("if", rootRef),
        ("then", rootRef),
        ("else", rootRef)]))])

/-- The URI the draft 2019-09 documents live under. -/
def base2019 : String := "https://json-schema.org/draft/2019-09/"

/-- The recursive reference to the whole 2019-09 meta-schema. -/
def recursiveRef : Json := o [("$recursiveRef", .str "#")]

/-- A draft 2019-09 vocabulary document: its URI, its properties and its definitions. -/
def vocabulary2019 (name : String) (props : List (String × Json)) (defs : List (String × Json)) : String × Json :=
  (base2019 ++ "meta/" ++ name,
    o ([("$id", .str (base2019 ++ "meta/" ++ name)), ("$recursiveAnchor", .bool true),
      ("type", .arr [.str "object", .str "boolean"]), ("properties", o props)] ++
      (if defs.isEmpty then [] else [("$defs", o defs)])))

/-- The 2019-09 core vocabulary. -/
def core2019 : String × Json :=
  vocabulary2019 "core" [
    ("$id", o [("type", .str "string"), ("pattern", .str "^[^#]*#?$")]),
    ("$schema", typed "string"),
    ("$anchor", o [("type", .str "string"), ("pattern", .str "^[A-Za-z][-A-Za-z0-9.:_]*$")]),
    ("$ref", typed "string"),
    ("$recursiveRef", typed "string"),
    ("$recursiveAnchor", typed "boolean"),
    ("$vocabulary", o [("type", .str "object"), ("propertyNames", typed "string"),
      ("additionalProperties", typed "boolean")]),
    ("$comment", typed "string"),
    ("$defs", schemaMap recursiveRef)] []

/-- The 2019-09 applicator vocabulary. -/
def applicator2019 : String × Json :=
  vocabulary2019 "applicator" [
    ("additionalItems", recursiveRef),
    ("unevaluatedItems", recursiveRef),
    ("items", o [("anyOf", .arr [recursiveRef, ref "#/$defs/schemaArray"])]),
    ("contains", recursiveRef),
    ("additionalProperties", recursiveRef),
    ("unevaluatedProperties", recursiveRef),
    ("properties", schemaMap recursiveRef),
    ("patternProperties", schemaMap recursiveRef),
    ("dependentSchemas", schemaMap recursiveRef),
    ("propertyNames", recursiveRef),
    ("if", recursiveRef),
    ("then", recursiveRef),
    ("else", recursiveRef),
    ("allOf", ref "#/$defs/schemaArray"),
    ("anyOf", ref "#/$defs/schemaArray"),
    ("oneOf", ref "#/$defs/schemaArray"),
    ("not", recursiveRef)]
  [("schemaArray", o [("type", .str "array"), ("minItems", natJson 1), ("items", recursiveRef)])]

/-- The 2019-09 validation vocabulary. -/
def validation2019 : String × Json :=
  vocabulary2019 "validation" [
    ("multipleOf", o [("type", .str "number"), ("exclusiveMinimum", natJson 0)]),
    ("maximum", typed "number"),
    ("exclusiveMaximum", typed "number"),
    ("minimum", typed "number"),
    ("exclusiveMinimum", typed "number"),
    ("maxLength", ref "#/$defs/nonNegativeInteger"),
    ("minLength", ref "#/$defs/nonNegativeIntegerDefault0"),
    ("pattern", typed "string"),
    ("maxItems", ref "#/$defs/nonNegativeInteger"),
    ("minItems", ref "#/$defs/nonNegativeIntegerDefault0"),
    ("uniqueItems", typed "boolean"),
    ("maxContains", ref "#/$defs/nonNegativeInteger"),
    ("minContains", ref "#/$defs/nonNegativeInteger"),
    ("maxProperties", ref "#/$defs/nonNegativeInteger"),
    ("minProperties", ref "#/$defs/nonNegativeIntegerDefault0"),
    ("required", ref "#/$defs/stringArray"),
    ("dependentRequired", schemaMap (ref "#/$defs/stringArray")),
    ("enum", typed "array"),
    ("type", typeKeyword "$defs")]
  [ ("nonNegativeInteger", o [("type", .str "integer"), ("minimum", natJson 0)]),
    ("nonNegativeIntegerDefault0", ref "#/$defs/nonNegativeInteger"),
    ("simpleTypes", simpleTypes),
    ("stringArray", o [("type", .str "array"), ("items", typed "string"), ("uniqueItems", .bool true)])]

/-- The 2019-09 meta-data vocabulary. -/
def metaData2019 : String × Json :=
  vocabulary2019 "meta-data" [
    ("title", typed "string"),
    ("description", typed "string"),
    ("deprecated", typed "boolean"),
    ("readOnly", typed "boolean"),
    ("writeOnly", typed "boolean"),
    ("examples", typed "array")] []

/-- The 2019-09 format vocabulary. -/
def format2019 : String × Json := vocabulary2019 "format" [("format", typed "string")] []

/-- The 2019-09 content vocabulary. -/
def content2019 : String × Json :=
  vocabulary2019 "content" [("contentMediaType", typed "string"), ("contentEncoding", typed "string"),
    ("contentSchema", recursiveRef)] []

/-- The whole 2019-09 meta-schema. -/
def whole2019 : String × Json :=
  (Draft.v2019.uri,
    o [("$id", .str Draft.v2019.uri), ("$recursiveAnchor", .bool true),
      ("allOf", .arr ([core2019, applicator2019, validation2019, metaData2019, format2019, content2019].map
        (fun d => ref d.1))),
      ("type", .arr [.str "object", .str "boolean"]),
      ("properties", o [
        ("definitions", schemaMap recursiveRef),
        ("dependencies", schemaMap (o [("anyOf", .arr [recursiveRef, ref "meta/validation#/$defs/stringArray"])]))])])

/-- The 2019-09 meta-schema documents by URI. -/
def documents2019 : Documents :=
  [whole2019, core2019, applicator2019, validation2019, metaData2019, format2019, content2019]

end Schema

end JobFlow
