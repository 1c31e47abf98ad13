import QueryTree.Files.Basic
/-!
# File trees — a file system in memory

A tree holds files and directories by the names on the way to them from
the directory where relative paths start. The way up from there has the
name `..`, and the way from the root of the machine starts with `/`. An
operation that fails leaves the tree as it was.
-/

namespace QueryTree

/-- What is at a place in a tree. -/
inductive FileEntry where
  | file (bytes : List UInt8)
  | directory
deriving DecidableEq, Repr

/-- **A file system in memory:** what is at each place. -/
structure FileTree where
  entries : List (List String × FileEntry)

namespace FileTree

/-- The tree without files. -/
def empty : FileTree := ⟨[]⟩

/-- Whether a place is where relative paths start, or above it, or the
root of the machine. These are directories in every tree. -/
def isOutermost (place : List String) : Bool := place.all fun name => name = ".." || name = "/"

/-- What is at a place. -/
def get? (tree : FileTree) (place : List String) : Option FileEntry :=
  if isOutermost place then some .directory else tree.entries.lookup place

/-- Put something at a place. -/
def set (tree : FileTree) (place : List String) (entry : FileEntry) : FileTree :=
  ⟨(place, entry) :: tree.entries.filter fun other => other.1 ≠ place⟩

theorem get?_set_self {place : List String} (h : isOutermost place = false) (tree : FileTree)
    (entry : FileEntry) : (tree.set place entry).get? place = some entry := by
  simp [get?, h, set]

/-- What is at other places stays. -/
theorem lookup_filter_of_ne {place other : List String} (h : other ≠ place)
    (entries : List (List String × FileEntry)) :
    (entries.filter fun kept => kept.1 ≠ place).lookup other = entries.lookup other := by
  induction entries with
  | nil => rfl
  | cons head entries ih =>
    obtain ⟨key, value⟩ := head
    by_cases hk : key = place
    · subst hk
      rw [List.filter_cons_of_neg (by simp), ih, List.lookup_cons, beq_false_of_ne h]
    · rw [List.filter_cons_of_pos (by simpa using hk), List.lookup_cons, List.lookup_cons, ih]

theorem get?_set_of_ne {place other : List String} (h : other ≠ place) (tree : FileTree)
    (entry : FileEntry) : (tree.set place entry).get? other = tree.get? other := by
  unfold get?
  split
  · rfl
  · rw [set, List.lookup_cons, beq_false_of_ne h]
    exact lookup_filter_of_ne h tree.entries

/-- The most bytes a name in a directory has. -/
def nameLimit : Nat := 255

/-- The most bytes a path has. -/
def pathLimit : Nat := 4095

/-- The directory that a place is in. Above where relative paths start
there is always another one, and none above the root of the machine. -/
def parent (place : List String) : List String :=
  match place.getLast? with
  | some "/" => place
  | some ".." | none => place ++ [".."]
  | some _ => place.dropLast

/-- The place that some names lead to from a place. Every name must be
looked up in a directory; the last one need not be there. -/
def follow (tree : FileTree) (place : List String) : List String → Except FileError (List String)
  | [] => .ok place
  | name :: names =>
    match tree.get? place with
    | none => .error .notFound
    | some (.file _) => .error .notADirectory
    | some .directory =>
      if name = "" ∨ name = "." then tree.follow place names
      else if name = ".." then tree.follow (parent place) names
      else if nameLimit < name.utf8ByteSize then .error .nameTooLong
      else tree.follow (place ++ [name]) names

/-- The place where a path starts and the names on its way. An empty path
leads nowhere. -/
def wayOf (path : String) : Except FileError (List String × List String) :=
  if path.contains (Char.ofNat 0) then .error .nulInName
  else if pathLimit < path.utf8ByteSize then .error .nameTooLong
  else if path.isEmpty then .error .notFound
  else .ok (if path.startsWith "/" then ["/"] else [], pathNames path)

/-- The place a path leads to. -/
def place? (tree : FileTree) (path : String) : Except FileError (List String) :=
  match wayOf path with
  | .error error => .error error
  | .ok (start, names) => tree.follow start names

/-- The bytes of a file. -/
def read (tree : FileTree) (path : String) : Except FileError (List UInt8) :=
  match tree.place? path with
  | .error error => .error error
  | .ok place =>
    match tree.get? place with
    | none => .error .notFound
    | some .directory => .error .isADirectory
    | some (.file bytes) => .ok bytes

/-- Whether there is a file or directory. -/
def isPresent (tree : FileTree) (path : String) : Except FileError Bool :=
  match tree.place? path with
  | .error .notFound => .ok false
  | .error error => .error error
  | .ok place => .ok (tree.get? place).isSome

/-- The tree with a file written. -/
def write (tree : FileTree) (path : String) (bytes : List UInt8) : Except FileError FileTree :=
  match tree.place? path with
  | .error error => .error error
  | .ok place =>
    match tree.get? (parent place), tree.get? place with
    | some .directory, some .directory => .error .isADirectory
    | some .directory, _ => .ok (tree.set place (.file bytes))
    | some (.file _), _ => .error .notADirectory
    | none, _ => .error .notFound

/-- The tree with a directory, in one that is there. One that is there
already stays; at the end of a path slashes count for nothing, while `.`
and `..` need the directory before them. -/
def makeDirectory (tree : FileTree) (path : String) : Except FileError FileTree :=
  match wayOf path with
  | .error error => .error error
  | .ok (start, names) =>
    let names := (names.reverse.dropWhile String.isEmpty).reverse
    let name := names.getLast?.getD "."
    match tree.follow start (names.dropLast ++ ["."]) with
    | .error error => .error error
    | .ok place =>
      if name = "." ∨ name = ".." then .ok tree
      else if nameLimit < name.utf8ByteSize then .error .nameTooLong
      else match tree.get? (place ++ [name]) with
        | none => .ok (tree.set (place ++ [name]) .directory)
        | some .directory => .ok tree
        | some (.file _) => .error .alreadyExists

/-- A change of the tree in a state. -/
def change (f : FileTree → Except FileError FileTree) : StateM FileTree (Except FileError Unit) :=
  fun tree =>
    match f tree with
    | .ok tree => (.ok (), tree)
    | .error error => (.error error, tree)

/-- **The file system of a tree.** -/
def fileSystem : FileSystem (StateM FileTree) where
  read path := fun tree => (tree.read path, tree)
  isPresent path := fun tree => (tree.isPresent path, tree)
  makeDirectory path := change fun tree => tree.makeDirectory path
  write path text := change fun tree => tree.write path text.toUTF8.toList

end FileTree

end QueryTree
