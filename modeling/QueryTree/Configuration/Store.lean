import QueryTree.Configuration.Basic
import QueryTree.Json.Printer
import QueryTree.Json.Schema
/-!
# Storing a configuration

A configuration is written together with its schema, which editors read
from beside it.
-/

namespace QueryTree

namespace Schema

/-- A dialect by its name, with what sets it apart. -/
def dialectCase (description : String) (dialect : Dialect) : Json :=
  toJson <| describe description (ofType "string" ++ [("enum", .array [.string dialect.name])])

/-- A dialect. -/
def dialect : Schema :=
  describe "Controls identifier quoting and placeholder syntax." [("oneOf", .array [
    dialectCase "Backtick identifiers, `?` placeholders." .sqlite,
    dialectCase "Backtick identifiers, `?` placeholders." .mysql,
    dialectCase "Double quoted identifiers, `$1`, `$2`, ... placeholders." .postgres])]

/-- A configuration. -/
def configuration : Schema :=
  describe "The configuration as it is stored on disk." <|
  record ["version"] [
    ("dialect", toJson <|
      describe "The SQL dialect to render queries in" [
        ("default", .string Configuration.initial.dialect.name),
        ("allOf", .array [toJson <| ref "Dialect"])]),
    ("version", toJson <|
      describe "Which version of the configuration format are we using" <|
      natural "uint32" (ofType "integer"))]

end Schema

namespace Configuration

/-- **The schema of a configuration,** as it is written. -/
def schema : Json :=
  Schema.document "ParsedConfiguration" Schema.configuration
    [("Dialect", Schema.toJson Schema.dialect)]

variable {m : Type → Type} [Monad m]

/-- **Write a configuration and its schema** into a directory, which is
made if it is missing. -/
def store (files : FileSystem m) (directory : String) (configuration : Configuration) :
    m (Except ConfigurationError Unit) := do
  match ← files.makeDirectories directory with
  | .error error => pure (.error (.unwritable error))
  | .ok () =>
    match ← files.write (joinPath directory fileName) (configuration.toJson.pretty ++ "\n") with
    | .error error => pure (.error (.unwritable error))
    | .ok () =>
      match ← files.write (joinPath directory schemaFileName) (schema.pretty ++ "\n") with
      | .error error => pure (.error (.unwritable error))
      | .ok () => pure (.ok ())

end Configuration

end QueryTree
