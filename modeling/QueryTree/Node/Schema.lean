import QueryTree.Json.Schema
/-!
# The schema of a query
-/

namespace QueryTree

namespace Schema

/-- Texts that may be missing. -/
def nullableText : Schema := nullable "string"

/-- Columns that may be missing. -/
def nullableColumns : Schema := listOf (nullable "array") (ref "Column")

/-- Numbers of rows that may be missing. -/
def nullableCount : Schema := natural "uint64" (nullable "integer")

/-- A query. -/
def query : Schema :=
  describe ("A query description. Used at the top level, and as the table of another query " ++
    "or join.") <|
  record [] [
    ("action", toJson <|
      describe "One of `query`, `subquery` or `temporary_table`." nullableText),
    ("alias", toJson <|
      describe "Alias given to this query when it is used as a derived table." nullableText),
    ("columns", toJson <| describe "Defaults to `*`." nullableColumns),
    ("distinct", toJson <| nullableRef "Distinct"),
    ("filter", toJson <| nullableRef "Filter"),
    ("group_by", toJson <| describe "Aliases are ignored here." nullableColumns),
    ("having", toJson <| nullableRef "Filter"),
    ("join", toJson <| nullableRef "SingleOrList_for_Join"),
    ("limit", toJson nullableCount),
    ("offset", toJson nullableCount),
    ("order_by", toJson <| listOf (nullable "array") (ref "OrderByElement")),
    ("table", toJson <|
      describe ("The table to select from: a table name, or a query selected from as a " ++
        "derived table.") (nullableRef "Table"))]

/-- The schemas that the schema of a query refers to. -/
def queryDefinitions : List (String × Json) := [
  ("AndFilter", toJson <|
    record ["and"] [("and", toJson <| listOf (ofType "array") (ref "Filter"))]),
  ("Column", toJson <|
    describe ("A column in a select list, a function parameter, or any other place an " ++
      "expression is expected. The variant is chosen by the fields present.") <|
    anyOf [ref "NamedColumn", ref "FunctionColumn", ref "ValueColumn"]),
  ("ColumnRef", toJson <|
    describe "Places that take a column accept either a bare name or a full column node." <|
    anyOf [ofType "string", ref "Column"]),
  ("ComparisonFilter", toJson <|
    describe "`column operator value` or `column operator rightColumn`." <|
    record ["column", "operator"] [
      ("column", toJson <| ref "ColumnRef"),
      ("operator", toJson <| ofType "string"),
      ("rightColumn", toJson <| nullableRef "Column"),
      ("value", toJson <|
        describe ("Absent when comparing against `rightColumn`. A JSON `null` is " ++
          "`Some(Value::Null)`.") [])]),
  ("Distinct", toJson <|
    describe "`DISTINCT cols` or `DISTINCT ON (on) cols`." <|
    record ["columns"] [
      ("columns", toJson <| listOf (ofType "array") (ref "Column")),
      ("on", toJson <| nullableRef "Column")]),
  ("Filter", toJson <|
    describe "A boolean predicate. The variant is chosen by the fields present." <|
    anyOf [ref "ComparisonFilter", ref "InFilter", ref "LikeFilter", ref "IsNullFilter",
      ref "AndFilter", ref "OrFilter", ref "NotFilter"]),
  ("FunctionColumn", toJson <|
    describe "A function call over other columns, e.g. `COUNT(id)`." <|
    record ["function"] [
      ("alias", toJson nullableText),
      ("function", toJson <| ofType "string"),
      ("parameters", toJson <|
        ("default", .array []) :: listOf (ofType "array") (ref "Column"))]),
  ("InFilter", toJson <|
    describe "`column IN (values...)`" <|
    record ["column", "in"] [
      ("column", toJson <| ref "ColumnRef"),
      ("in", toJson <| ofType "array" ++ [("items", .bool true)])]),
  ("IsNullFilter", toJson <|
    describe "`column IS NULL` when `isNull` is true, `column IS NOT NULL` otherwise." <|
    record ["column", "isNull"] [
      ("column", toJson <| ref "ColumnRef"),
      ("isNull", toJson <| ofType "boolean")]),
  ("Join", toJson <|
    describe "A join against a table or a derived table." <|
    record ["type"] [
      ("alias", toJson nullableText),
      ("on", toJson <|
        describe "The join predicate. Required for every join type except `cross`." <|
        nullableRef "Filter"),
      ("table", toJson <| nullableRef "Table"),
      ("type", toJson <|
        describe "One of `inner`, `left`, `right`, `full` or `cross`." (ofType "string"))]),
  ("LikeFilter", toJson <|
    describe "`column LIKE pattern`" <|
    record ["column", "like"] [
      ("column", toJson <| ref "ColumnRef"),
      ("like", .bool true)]),
  ("NamedColumn", toJson <|
    describe "A column referenced by name, e.g. `id`, `users.id` or `*`." <|
    record ["column"] [
      ("alias", toJson nullableText),
      ("column", toJson <| ofType "string"),
      ("type", toJson <|
        describe "Cast the column to this type, rendered as `column::type`." nullableText)]),
  ("NotFilter", toJson <| record ["not"] [("not", toJson <| ref "Filter")]),
  ("OrFilter", toJson <|
    record ["or"] [("or", toJson <| listOf (ofType "array") (ref "Filter"))]),
  ("OrderByElement", toJson <|
    describe "A single element of an ORDER BY clause." <|
    record ["column"] [
      ("column", toJson <| ref "ColumnRef"),
      ("direction", toJson <|
        describe "`asc` or `desc`, defaults to `asc`." nullableText)]),
  ("Query", toJson query),
  ("SingleOrList_for_Join", toJson <|
    describe ("Type that accept both a single value and a list of values. Allows for a " ++
      "simpler format when a single value is the common case.") <|
    anyOf [ref "Join", listOf (ofType "array") (ref "Join")]),
  ("Table", toJson <|
    describe "The source of rows for a query or a join." <|
    anyOf [ofType "string", ref "Query"]),
  ("ValueColumn", toJson <|
    describe "A literal value, bound as a parameter." <|
    record ["value"] [
      ("alias", toJson nullableText),
      ("type", toJson nullableText),
      ("value", .bool true)])]

end Schema

/-- **The schema of a query,** as it is published. -/
def Query.schema : Json := Schema.document "Query" Schema.query Schema.queryDefinitions

end QueryTree
