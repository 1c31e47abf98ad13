import QueryTree.Json.Basic
/-!
# Columns — the expressions of a query

A column is a name, a call of a function on other columns, or a literal
value. Where a place takes a column, a bare name may stand for it.
-/

namespace QueryTree

/-- **A column by name,** such as `id`, `users.id` or `*`. -/
structure NamedColumn where
  column : String := ""
  /-- The type the column is cast to. -/
  cast : Option String := none
  aliasName : Option String := none

/-- **A call of a function** on columns, such as `COUNT(id)`. -/
structure FunctionColumn (Column : Type) where
  function : String := ""
  parameters : List Column := []
  aliasName : Option String := none

/-- **A literal value,** bound as a parameter. -/
structure ValueColumn where
  value : Json := .null
  /-- The type the value is cast to. -/
  cast : Option String := none
  aliasName : Option String := none

/-- **A column** of a select list, a parameter of a function, or any other
expression. -/
inductive Column where
  | named (column : NamedColumn)
  | function (call : FunctionColumn Column)
  | value (literal : ValueColumn)

/-- **A column, or the bare name of one.** -/
inductive ColumnRef where
  | name (name : String)
  | column (column : Column)

namespace Column

/-- The column of a name, without cast or alias. -/
def ofName (name : String) : Column := .named { column := name }

/-- The column that stands for all columns. -/
def star : Column := ofName "*"

/-- The alias of a column, which only a select list shows. -/
def aliasName : Column → Option String
  | named column => column.aliasName
  | function call => call.aliasName
  | value literal => literal.aliasName

end Column

/-- The column a reference stands for. -/
def ColumnRef.toColumn : ColumnRef → Column
  | .name n => .ofName n
  | .column c => c

end QueryTree
