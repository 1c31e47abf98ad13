import QueryTree.Compile.Query
import QueryTree.Configuration.Store
import QueryTree.Node.Decode
import QueryTree.Node.Schema
import QueryTree.Sql.Layout
/-!
# Commands — what the program does

A command works in a file system and an environment and gives what is to
be printed, or an error. Which command it is, and in which directory the
configuration lies, are read off the arguments of the program.
-/

namespace QueryTree

/-- **A command.** -/
inductive Command where
  /-- Write the statement of a query, which is read from a file or, without
  one, from the standard input. -/
  | translate (pretty : Bool) (file : Option String)
  /-- Write an initial configuration. -/
  | setUp
  /-- Write the schema of a query. -/
  | showSchema
deriving DecidableEq, Repr

/-- **Why a command failed.** -/
inductive CommandError where
  | configuration (error : ConfigurationError)
  /-- There is a configuration already. -/
  | configurationExists (path : String)
  /-- The input is not a query. -/
  | invalidQuery (refusal : Refusal)
  | file (error : FileError)
  | compile (error : CompileError)

/-- The words for a failure. -/
def CommandError.message : CommandError → String
  | configuration error => error.message
  | configurationExists path => s!"a configuration already exists at {path}"
  | invalidQuery refusal => s!"invalid query: {refusal.message}"
  | file error => error.message
  | compile error => error.message

/-- **What a command works with.** -/
structure Context (m : Type → Type) where
  files : FileSystem m
  environment : Environment
  /-- The bytes of the standard input. -/
  input : m (Except FileError (List UInt8))
  /-- The directory of the configuration. -/
  directory : String

namespace Command

variable {m : Type → Type} [Monad m]

/-- The statement of the text of a query, as it is printed. -/
def statementText (pretty : Bool) (dialect : Dialect) (text : String) :
    Except CommandError String :=
  match Query.decoder.decodeText text with
  | .error refusal => .error (.invalidQuery refusal)
  | .ok query =>
    match query.toStatement dialect with
    | .error error => .error (.compile error)
    | .ok statement =>
      .ok (if pretty then statement.pretty else statement.toJson.pretty ++ "\n")

/-- The text of the query: that of a file, or the standard input. -/
def inputText (context : Context m) (file : Option String) : m (Except FileError String) := do
  match file with
  | some path => context.files.readText path
  | none =>
    match ← context.input with
    | .error error => pure (.error error)
    | .ok bytes =>
      match Text.decodeUtf8 bytes with
      | .ok text => pure (.ok text)
      | .error fault => pure (.error (.undecodable fault))

/-- The dialect that the configuration and the environment name. -/
def dialect (context : Context m) : m (Except ConfigurationError Dialect) := do
  match ← Configuration.load context.files context.directory with
  | .error error => pure (.error error)
  | .ok configuration => pure (configuration.dialectIn context.environment)

/-- Write the statement of a query. The configuration is read before the
query is. -/
def runTranslate (context : Context m) (pretty : Bool) (file : Option String) :
    m (Except CommandError String) := do
  match ← dialect context with
  | .error error => pure (.error (.configuration error))
  | .ok dialect =>
    match ← inputText context file with
    | .error error => pure (.error (.file error))
    | .ok text => pure (statementText pretty dialect text)

/-- Write an initial configuration where there is none. -/
def runSetUp (context : Context m) : m (Except CommandError String) := do
  let path := joinPath context.directory Configuration.fileName
  match ← context.files.isPresent path with
  | .error error => pure (.error (.file error))
  | .ok true => pure (.error (.configurationExists path))
  | .ok false =>
    match ← Configuration.store context.files context.directory .initial with
    | .error error => pure (.error (.configuration error))
    | .ok () => pure (.ok "")

/-- **Run a command:** what it prints, or why it failed. -/
def run (context : Context m) : Command → m (Except CommandError String)
  | translate pretty file => runTranslate context pretty file
  | setUp => runSetUp context
  | showSchema => pure (.ok (Query.schema.pretty ++ "\n"))

end Command

/-! ## Arguments -/

/-- **What the arguments say,** as far as they have been read. -/
structure Arguments where
  command : Option Command := none
  pretty : Bool := false
  file : Option String := none
  directory : Option String := none

namespace Arguments

/-- The variable that names the directory of the configuration where the
arguments do not. -/
def directoryVariable : String := "PARCELQL_CONFIGURATION"

/-- The option that names the directory of the configuration. -/
def directoryOption : String := "--configuration"

/-- An argument that is no option: the command, then a file. -/
def operand (arguments : Arguments) (argument : String) : Option Arguments :=
  match arguments.command with
  | none =>
    match argument with
    | "translate" => some { arguments with command := some (.translate false none) }
    | "initialize" => some { arguments with command := some .setUp }
    | "print-schema" => some { arguments with command := some .showSchema }
    | _ => none
  | some (.translate _ _) =>
    match arguments.file with
    | none => some { arguments with file := some argument }
    | some _ => none
  | some _ => none

/-- Read the arguments that come after an end of the options. -/
def readOperands (arguments : Arguments) : List String → Option Arguments
  | [] => some arguments
  | argument :: rest => (arguments.operand argument).bind fun next => next.readOperands rest

/-- Read the arguments, or none where they make no sense. -/
def read (arguments : Arguments) : List String → Option Arguments
  | [] => some arguments
  | "--" :: rest => arguments.readOperands rest
  | "--configuration" :: directory :: rest =>
    { arguments with directory := some directory }.read rest
  | argument :: rest =>
    match argument.dropPrefix? (directoryOption ++ "=") with
    | some directory => { arguments with directory := some directory.toString }.read rest
    | none =>
      if argument = "--pretty" then
        match arguments.command with
        | some (.translate _ _) => { arguments with pretty := true }.read rest
        | _ => none
      -- a dash alone is a file like any other
      else if argument.startsWith "-" && argument ≠ "-" then none
      else (arguments.operand argument).bind fun next => next.read rest

/-- The command that the arguments name. -/
def toCommand (arguments : Arguments) : Option Command :=
  arguments.command.map fun
    | .translate _ _ => .translate arguments.pretty arguments.file
    | command => command

/-- The directory of the configuration: that of the arguments, or that of
the environment, or the current one. -/
def directoryIn (environment : Environment) (arguments : Arguments) : String :=
  match arguments.directory with
  | some directory => directory
  | none =>
    match environment.lookup directoryVariable with
    | some bytes => Text.decodeUtf8Lossy bytes
    | none => "."

end Arguments

/-- **What a run of the program leaves behind.** -/
structure ExitReport where
  code : Nat
  output : String
  errors : String
deriving DecidableEq, Repr

namespace ExitReport

/-- The report of a command. -/
def ofResult : Except CommandError String → ExitReport
  | .ok output => ⟨0, output, ""⟩
  | .error error => ⟨1, "", error.message ++ "\n"⟩

/-- The report where the arguments make no sense. -/
def usage : ExitReport :=
  ⟨2, "", "Usage: parcelql [--configuration <DIRECTORY>] <COMMAND>\n"⟩

end ExitReport

/-- **Run the program** on its arguments. -/
def runProgram {m : Type → Type} [Monad m] (files : FileSystem m) (environment : Environment)
    (input : m (Except FileError (List UInt8))) (arguments : List String) : m ExitReport := do
  match Arguments.read {} arguments with
  | none => pure .usage
  | some arguments =>
    match arguments.toCommand with
    | none => pure .usage
    | some command =>
      let directory := arguments.directoryIn environment
      .ofResult <$> command.run { files, environment, input, directory }

end QueryTree
