import QueryTree.Text.Shown
/-!
# Dialects — what differs between databases

Databases differ in the character that quotes a name, in how the place
of a parameter is marked, and in whether an offset may stand without a
limit. Inside a quoted name the quote character is written twice, so the
first quote character that stands alone is the end of the name.
-/

namespace QueryTree

/-! ## Quoted names -/

namespace Text

/-- A text with every quote character written twice. -/
def doubled (quote : Char) : List Char → List Char
  | [] => []
  | c :: text => if c = quote then c :: c :: doubled quote text else c :: doubled quote text

/-- **A name between quote characters.** -/
def quoted (quote : Char) (name : List Char) : List Char :=
  quote :: (doubled quote name ++ [quote])

/-- The parts of a text between its points. There is one more part than
there are points, and a part may be empty. -/
def pointParts : List Char → List (List Char)
  | [] => [[]]
  | c :: text =>
    if c = '.' then [] :: pointParts text
    else match pointParts text with
      | [] => [[c]]
      | part :: parts => (c :: part) :: parts

end Text

/-! ## Dialects -/

/-- **A dialect of SQL.** -/
inductive Dialect where
  | sqlite
  | mysql
  | postgres
deriving DecidableEq, Repr, Inhabited

namespace Dialect

/-- The name of a dialect. -/
def name : Dialect → String
  | sqlite => "sqlite"
  | mysql => "mysql"
  | postgres => "postgres"

/-- All dialects. -/
def all : List Dialect := [sqlite, mysql, postgres]

/-- The dialect of exactly this name. -/
def ofName? (name : String) : Option Dialect := all.find? fun dialect => dialect.name = name

/-- **The dialect a user means:** letters may be of either case, and two
dialects have further names. -/
def ofSpelling? (spelling : String) : Option Dialect :=
  match spelling.toLower with
  | "sqlite" | "sqlite3" => some sqlite
  | "mysql" => some mysql
  | "postgres" | "postgresql" | "pg" => some postgres
  | _ => none

/-- The words for a spelling that means no dialect. -/
def unknownMessage (spelling : String) : String :=
  s!"unknown SQL dialect {Text.shown spelling}, expected one of sqlite, mysql, postgres"

/-- The character that quotes names. -/
def quote : Dialect → Char
  | sqlite | mysql => '`'
  | postgres => '"'

/-- **A name as one quoted name.** -/
def quoteName (dialect : Dialect) (name : String) : String :=
  String.ofList (Text.quoted dialect.quote name.toList)

/-- **The mark for a parameter,** the first one having the number 1. -/
def placeholder (dialect : Dialect) (number : Nat) : String :=
  match dialect with
  | sqlite | mysql => "?"
  | postgres => s!"${number}"

/-- The limit to write where there is an offset and no limit, in dialects
that do not take an offset alone. -/
def unboundedLimit? : Dialect → Option UInt64
  | sqlite => some 9223372036854775807
  | mysql => some 18446744073709551615
  | postgres => none

end Dialect

end QueryTree
