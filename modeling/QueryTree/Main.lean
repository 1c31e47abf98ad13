import QueryTree.Command
/-!
# The program

The only module that touches the machine: its files, its environment and
its streams.
-/

namespace QueryTree

/-- What a failure of the machine means. The number of a failure comes
with either sign. -/
def FileError.ofMachine : IO.Error → FileError
  | .noFileOrDirectory .. => .notFound
  | .alreadyExists .. => .alreadyExists
  | .inappropriateType _ code details =>
    if code = 20 ∨ code = -20 then .notADirectory
    else if code = 21 ∨ code = -21 then .isADirectory
    else .other details
  | .invalidArgument _ code details =>
    if code = 36 ∨ code = -36 then .nameTooLong else .other details
  | error => .other (toString error)

/-- Run an action on the machine. -/
def attempt {α : Type} (action : IO α) : IO (Except FileError α) := do
  match ← action.toBaseIO with
  | .ok a => pure (.ok a)
  | .error error => pure (.error (.ofMachine error))

/-- The file system of the machine. -/
def machineFiles : FileSystem IO where
  read path := attempt do
    let bytes ← IO.FS.readBinFile path
    pure bytes.toList
  isPresent path := do
    match ← attempt (IO.FS.Handle.mk path .read) with
    | .ok _ => pure (.ok true)
    | .error .notFound => pure (.ok false)
    | .error error => pure (.error error)
  makeDirectory path := do
    match ← attempt (IO.FS.createDir path) with
    | .error .alreadyExists => attempt (IO.FS.createDirAll path)
    | result => pure result
  write path text := attempt (IO.FS.writeFile path text)

/-- The variables of the machine's environment that the program asks
for. -/
def machineEnvironment : IO Environment := do
  let mut environment : Environment := []
  for name in [Configuration.dialectVariable, Arguments.directoryVariable] do
    if let some value ← IO.getEnv name then
      environment := (name, value.toUTF8.toList) :: environment
  pure environment

/-- The bytes of a stream up to its end, after those that are read. -/
partial def readToEnd (stream : IO.FS.Stream) (read : ByteArray) : IO ByteArray := do
  let bytes ← stream.read 4096
  if bytes.isEmpty then pure read else readToEnd stream (read ++ bytes)

/-- The bytes of the standard input. -/
def machineInput : IO (Except FileError (List UInt8)) := attempt do
  let bytes ← readToEnd (← IO.getStdin) .empty
  pure bytes.toList

end QueryTree

open QueryTree in
/-- Run the program on its arguments. -/
def main (arguments : List String) : IO UInt32 := do
  let report ← runProgram machineFiles (← machineEnvironment) machineInput arguments
  IO.print report.output
  IO.eprint report.errors
  pure (UInt32.ofNat report.code)
