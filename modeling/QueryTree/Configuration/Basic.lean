import QueryTree.Files.Basic
import QueryTree.Json.Cases
import QueryTree.Json.Record
import QueryTree.Sql.Dialect
/-!
# Configuration — which dialect to write

A directory may hold a configuration file that names the dialect, and a
variable of the environment overrides it. Without either the dialect is
that of SQLite.
-/

namespace QueryTree

/-! ## The file -/

/-- **What a configuration file says.** -/
structure Configuration where
  /-- The version of the format of the file. -/
  version : UInt32 := 1
  dialect : Dialect := .sqlite
deriving DecidableEq, Repr

namespace Configuration

/-- The version of the format that is read and written. -/
def currentVersion : UInt32 := 1

/-- The configuration where no file says otherwise. -/
def initial : Configuration := ⟨currentVersion, .sqlite⟩

/-- The name of the configuration file in its directory. -/
def fileName : String := "configuration.json"

/-- The name of the file with the schema of the configuration. -/
def schemaFileName : String := "schema.json"

/-- The variable that overrides the dialect. -/
def dialectVariable : String := "PARCELQL_DIALECT"

/-- The fields of a configuration file. -/
def record : Record Configuration where
  name := "ParsedConfiguration"
  blank := initial
  fields := [
    .required "version" .uint32 fun v c => { c with version := v },
    .defaulted "dialect" (.oneOf (Dialect.all.map fun dialect => (dialect.name, dialect)))
      fun v c => { c with dialect := v }]

/-- A configuration as JSON. -/
def toJson (configuration : Configuration) : Json :=
  .object [
    ("version", .number (.int configuration.version.toNat)),
    ("dialect", .string configuration.dialect.name)]

end Configuration

/-- **What is wrong with a configuration.** -/
inductive ConfigurationError where
  /-- The file is not a configuration. -/
  | invalid (path : String) (refusal : Refusal)
  | unsupportedVersion (version : UInt32)
  /-- The file cannot be read. -/
  | unreadable (path : String) (error : FileError)
  /-- The file cannot be written. -/
  | unwritable (error : FileError)
  /-- A variable names a dialect that there is not. -/
  | invalidDialect (name : String) (spelling : String)
  /-- A variable is not text. -/
  | undecodableVariable (name : String)

namespace ConfigurationError

/-- The words for an error. -/
def message : ConfigurationError → String
  | invalid path refusal =>
    let position := refusal.position.getD ⟨0, 0⟩
    s!"parse error on {path}:{position.line}:{position.column}: {refusal.message}"
  | unsupportedVersion version =>
    s!"unsupported configuration version {version.toNat}, " ++
      s!"expected {Configuration.currentVersion.toNat}"
  | unreadable path error => s!"I/O error: {path}: {error.message}"
  | unwritable error => s!"I/O error: {error.message}"
  | invalidDialect name spelling =>
    s!"invalid dialect in environment variable {name}: {Dialect.unknownMessage spelling}"
  | undecodableVariable name => s!"the environment variable {name} is not valid unicode"

end ConfigurationError

/-! ## Reading -/

/-- **The variables of the environment,** by their names. -/
abbrev Environment := List (String × List UInt8)

namespace Configuration

/-- The configuration that the text of a file gives. -/
def ofText (path text : String) : Except ConfigurationError Configuration :=
  match record.decoder.decodeText text with
  | .error refusal => .error (.invalid path refusal)
  | .ok configuration =>
    if configuration.version = currentVersion then .ok configuration
    else .error (.unsupportedVersion configuration.version)

/-- **The configuration in a directory.** Without a file it is the initial
one. -/
def load {m : Type → Type} [Monad m] (files : FileSystem m) (directory : String) :
    m (Except ConfigurationError Configuration) := do
  let path := joinPath directory fileName
  match ← files.readText path with
  | .ok text => pure (ofText path text)
  -- a file that is missing is no error
  | .error .notFound => pure (.ok initial)
  | .error error => pure (.error (.unreadable path error))

/-- **The dialect to write:** that of the environment, or else that of the
configuration. -/
def dialectIn (environment : Environment) (configuration : Configuration) :
    Except ConfigurationError Dialect :=
  match environment.lookup dialectVariable with
  | none => .ok configuration.dialect
  | some bytes =>
    match Text.decodeUtf8 bytes with
    | .error _ => .error (.undecodableVariable dialectVariable)
    | .ok spelling =>
      match Dialect.ofSpelling? spelling with
      | none => .error (.invalidDialect dialectVariable spelling)
      | some dialect => .ok dialect

end Configuration

end QueryTree
