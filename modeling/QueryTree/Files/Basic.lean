import QueryTree.Text.Utf8
/-!
# Files — what a command asks of a file system

A command reads, writes and looks for files by their paths. It works with
any file system that offers these operations in a monad: that of the
machine, or a tree held in memory.
-/

namespace QueryTree

/-- **Why a file operation failed.** -/
inductive FileError where
  | notFound
  | alreadyExists
  | notADirectory
  | isADirectory
  /-- A path, or a name in it, has too many bytes. -/
  | nameTooLong
  /-- A path has a character that ends a name for the machine. -/
  | nulInName
  /-- A file that should be text is not. -/
  | notText
  /-- A stream that should be text is not. -/
  | undecodable (fault : Text.Utf8Fault)
  /-- Any other failure, in the words of the machine. -/
  | other (message : String)
deriving DecidableEq, Repr

/-- The words for a failure. -/
def FileError.message : FileError → String
  | notFound => "No such file or directory (os error 2)"
  | alreadyExists => "File exists (os error 17)"
  | notADirectory => "Not a directory (os error 20)"
  | isADirectory => "Is a directory (os error 21)"
  | nameTooLong => "File name too long (os error 36)"
  | nulInName => "file name contained an unexpected NUL byte"
  | notText => "stream did not contain valid UTF-8"
  | undecodable fault => fault.message
  | other message => message

/-- **A file system** whose operations run in `m`. -/
structure FileSystem (m : Type → Type) where
  /-- The bytes of a file. -/
  read : String → m (Except FileError (List UInt8))
  /-- Whether there is a file or directory. -/
  isPresent : String → m (Except FileError Bool)
  /-- Make a directory in one that is there. One that is there already
  stays. -/
  makeDirectory : String → m (Except FileError Unit)
  /-- Write a file, in the place of one that is there. -/
  write : String → String → m (Except FileError Unit)

/-- The text of a file. -/
def FileSystem.readText {m : Type → Type} [Monad m] (files : FileSystem m) (path : String) :
    m (Except FileError String) := do
  match ← files.read path with
  | .error error => pure (.error error)
  | .ok bytes =>
    match Text.decodeUtf8 bytes with
    | .ok text => pure (.ok text)
    | .error _ => pure (.error .notText)

/-! ## Paths -/

/-- The names in a path. -/
def pathNames (path : String) : List String := go path.toList []
where
  /-- The names in a text, the first one after the characters `read`, the
  last one first. -/
  go : List Char → List Char → List String
    | [], read => [String.ofList read.reverse]
    | c :: text, read =>
      if c = '/' then String.ofList read.reverse :: go text [] else go text (c :: read)

/-- The directories that the end of a path is in, from the innermost on.
Names that lead nowhere do not count, so that `a/b/.` is in `a`. -/
def parentPaths (path : String) : List String :=
  let root := if path.startsWith "/" then "/" else ""
  let names := (pathNames path).filter fun name => !name.isEmpty && name ≠ "."
  (List.range (names.length - 1)).reverse.map fun before =>
    root ++ "/".intercalate (names.take (before + 1))

/-- The path of a file in a directory. -/
def joinPath (directory name : String) : String :=
  if directory.isEmpty || directory.endsWith "/" then directory ++ name
  else directory ++ "/" ++ name

/-! ## Missing directories -/

namespace FileSystem

variable {m : Type → Type} [Monad m]

/-- Make a directory, and first the one it is in where that is missing. The
paths of those it is in start with the innermost. -/
def makeMissing (files : FileSystem m) (path : String) : List String → m (Except FileError Unit)
  | [] => files.makeDirectory path
  | parent :: parents => do
    match ← files.makeDirectory path with
    | .error .notFound =>
      match ← files.makeMissing parent parents with
      | .ok () => files.makeDirectory path
      | .error error => pure (.error error)
    | result => pure result

/-- **Make a directory and those it is in,** as far as they are missing.
An empty path asks for nothing. -/
def makeDirectories (files : FileSystem m) (path : String) : m (Except FileError Unit) :=
  if path.isEmpty then pure (.ok ()) else files.makeMissing path (parentPaths path)

end FileSystem

end QueryTree
