import QueryTree.Sql.Dialect
import QueryTree.Sql.Fragment
/-!
# Statements — SQL in one dialect

A statement is text with the parameters for its placeholders, in order.
Rendering a fragment writes its parts one after the other, so what a part
gives depends on the parts before it only through the number of
parameters there.
-/

namespace QueryTree

/-- **A statement** and the parameters for its placeholders. -/
structure Statement where
  sql : String
  params : List Param
deriving DecidableEq, Repr

namespace Statement

/-- The statement without text. -/
def empty : Statement := ⟨"", []⟩

/-- Write text. -/
def appendText (statement : Statement) (text : String) : Statement :=
  { statement with sql := statement.sql ++ text }

/-- A name as it is written: quoted part by part, with a part that is `*`
as it is. -/
def identifierText (dialect : Dialect) (name : String) : String :=
  ".".intercalate <| (Text.pointParts name.toList).map fun part =>
    if part = ['*'] then "*" else dialect.quoteName (String.ofList part)

/-- Write a name. -/
def appendIdentifier (statement : Statement) (dialect : Dialect) (name : String) : Statement :=
  statement.appendText (identifierText dialect name)

/-- Write an alias, which is one name whatever it contains. -/
def appendAlias (statement : Statement) (dialect : Dialect) (name : String) : Statement :=
  statement.appendText (dialect.quoteName name)

/-- Write the placeholder of a parameter. -/
def appendParam (statement : Statement) (dialect : Dialect) (param : Param) : Statement :=
  ⟨statement.sql ++ dialect.placeholder (statement.params.length + 1), statement.params ++ [param]⟩

/-- Write a part of a fragment. -/
def appendPart (dialect : Dialect) (statement : Statement) : Part → Statement
  | .text text => statement.appendText text
  | .identifier name => statement.appendIdentifier dialect name
  | .aliasName name => statement.appendAlias dialect name
  | .param param => statement.appendParam dialect param

/-- A statement as JSON. -/
def toJson (statement : Statement) : Json :=
  .object [
    ("sql", .string statement.sql),
    ("params", .array (statement.params.map Param.toJson))]

end Statement

/-- **Render a fragment in a dialect.** -/
def Fragment.render (dialect : Dialect) (fragment : Fragment) : Statement :=
  fragment.parts.foldl (Statement.appendPart dialect) .empty

end QueryTree
