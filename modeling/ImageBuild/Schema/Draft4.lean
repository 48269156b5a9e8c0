import ImageBuild.Json.Basic

/-!
# The schema of schemas

What a schema of draft 4 has to look like, as a schema itself.  A list of
allowed values may be empty here and may repeat values.
-/

namespace ImageBuild.Schema

/-- The URI of the schema of schemas. -/
def draft4Uri : String := "http://json-schema.org/draft-04/schema"

/-- A reference within a document. -/
def linkTo (pointer : String) : Json :=
  .ofPairs [("$ref", .string pointer)]

def ofType (name : String) : Json :=
  .ofPairs [("type", .string name)]

/-- An object whose members are schemas. -/
def schemasByName : Json :=
  .ofPairs [("type", .string "object"), ("additionalProperties", linkTo "#")]

/-- A schema, or a Boolean in place of one. -/
def schemaOrBool : Json :=
  .ofPairs [("anyOf", .array [ofType "boolean", linkTo "#"])]

def count : Json := linkTo "#/definitions/positiveInteger"

def countFromZero : Json := linkTo "#/definitions/positiveIntegerDefault0"

def schemas : Json := linkTo "#/definitions/schemaArray"

def draft4Definitions : Json :=
  .ofPairs
    [("schemaArray",
      .ofPairs [("type", .string "array"), ("minItems", .ofNat 1), ("items", linkTo "#")]),
    ("positiveInteger", .ofPairs [("type", .string "integer"), ("minimum", .ofNat 0)]),
    ("positiveIntegerDefault0",
      .ofPairs [("allOf", .array [count, .ofPairs [("default", .ofNat 0)]])]),
    ("simpleTypes",
      .ofPairs
        [("enum",
          .array
            (["array", "boolean", "integer", "null", "number", "object", "string"].map
              Json.string))]),
    ("stringArray",
      .ofPairs
        [("type", .string "array"), ("items", ofType "string"), ("minItems", .ofNat 1),
          ("uniqueItems", .bool true)])]

def draft4Properties : Json :=
  .ofPairs
    [("id", ofType "string"),
    ("$schema", ofType "string"),
    ("title", ofType "string"),
    ("description", ofType "string"),
    ("default", .ofPairs []),
    ("multipleOf",
      .ofPairs
        [("type", .string "number"), ("minimum", .ofNat 0), ("exclusiveMinimum", .bool true)]),
    ("maximum", ofType "number"),
    ("exclusiveMaximum", ofType "boolean"),
    ("minimum", ofType "number"),
    ("exclusiveMinimum", ofType "boolean"),
    ("maxLength", count),
    ("minLength", countFromZero),
    ("pattern", .ofPairs [("type", .string "string"), ("format", .string "regex")]),
    ("additionalItems", schemaOrBool),
    ("items", .ofPairs [("anyOf", .array [linkTo "#", schemas])]),
    ("maxItems", count),
    ("minItems", countFromZero),
    ("uniqueItems", ofType "boolean"),
    ("maxProperties", count),
    ("minProperties", countFromZero),
    ("required", linkTo "#/definitions/stringArray"),
    ("additionalProperties", schemaOrBool),
    ("definitions", schemasByName),
    ("properties", schemasByName),
    ("patternProperties", schemasByName),
    ("dependencies",
      .ofPairs
        [("type", .string "object"),
          ("additionalProperties",
            .ofPairs
              [("anyOf", .array [linkTo "#", linkTo "#/definitions/stringArray"])])]),
    ("enum", ofType "array"),
    ("type",
      .ofPairs
        [("anyOf",
          .array
            [linkTo "#/definitions/simpleTypes",
              .ofPairs
                [("type", .string "array"), ("items", linkTo "#/definitions/simpleTypes"),
                  ("minItems", .ofNat 1), ("uniqueItems", .bool true)]])]),
    ("format", ofType "string"),
    ("allOf", schemas),
    ("anyOf", schemas),
    ("oneOf", schemas),
    ("not", linkTo "#")]

/-- The schema of schemas. -/
def draft4 : Json :=
  .ofPairs
    [("id", .string (draft4Uri ++ "#")),
    ("$schema", .string (draft4Uri ++ "#")),
    ("description", .string "Core schema meta-schema"),
    ("definitions", draft4Definitions),
    ("type", .string "object"),
    ("properties", draft4Properties),
    ("dependencies",
      .ofPairs
        [("exclusiveMaximum", .array [.string "maximum"]),
          ("exclusiveMinimum", .array [.string "minimum"])]),
    ("default", .ofPairs [])]

end ImageBuild.Schema
