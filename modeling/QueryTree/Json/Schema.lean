import QueryTree.Json.Basic
/-!
# Schemas — the shape of JSON values, described in JSON

The pieces that the schemas of this library are put together from. A
piece is a list of members, so that a description or a default can be put
in front of it.
-/

namespace QueryTree

/-- **A piece of a schema.** -/
abbrev Schema := List (String × Json)

namespace Schema

/-- A schema as JSON. -/
def toJson (schema : Schema) : Json := .object schema

/-- Values of one type. -/
def ofType (type : String) : Schema := [("type", .string type)]

/-- Values of one type, or `null`. -/
def nullable (type : String) : Schema := [("type", .array [.string type, .string "null"])]

/-- Natural numbers of a width, with a schema for their type. -/
def natural (format : String) (type : Schema) : Schema :=
  type ++ [("format", .string format), ("minimum", .number (.float (.zero false)))]

/-- The schema of a name. -/
def ref (name : String) : Schema := [("$ref", .string ("#/definitions/" ++ name))]

/-- Values of one of several schemas. -/
def anyOf (schemas : List Schema) : Schema := [("anyOf", .array (schemas.map toJson))]

/-- Values of a schema of a name, or `null`. -/
def nullableRef (name : String) : Schema := anyOf [ref name, ofType "null"]

/-- Lists, given a schema for their type, of values of a schema. -/
def listOf (type : Schema) (items : Schema) : Schema := type ++ [("items", toJson items)]

/-- Records: their required fields and the schemas of all fields. -/
def record (required : List String) (fields : List (String × Json)) : Schema :=
  ofType "object" ++
    (if required.isEmpty then [] else [("required", .array (required.map .string))]) ++
    [("properties", .object fields), ("additionalProperties", .bool false)]

/-- A schema with a description. -/
def describe (description : String) (schema : Schema) : Schema :=
  ("description", .string description) :: schema

/-- **A whole schema** with its title and the schemas it refers to. -/
def document (title : String) (schema : Schema) (definitions : List (String × Json)) : Json :=
  toJson (("$schema", .string "http://json-schema.org/draft-07/schema#") ::
    ("title", .string title) :: schema ++ [("definitions", .object definitions)])

end Schema

end QueryTree
