import QueryTree.Node.Column
/-!
# Filters — the conditions of a query

A filter compares, tests or combines. It is used for the rows of a query,
for its groups, and for the condition of a join.
-/

namespace QueryTree

/-- **A comparison** of a column with a value or with another column. A
value that is there may be `null`. -/
structure ComparisonFilter where
  column : ColumnRef := .name ""
  operator : String := ""
  value : Option Json := none
  rightColumn : Option Column := none

/-- **Membership** of a column in a list of values. -/
structure InFilter where
  column : ColumnRef := .name ""
  values : List Json := []

/-- **A match** of a column against a pattern. -/
structure LikeFilter where
  column : ColumnRef := .name ""
  pattern : Json := .null

/-- **A test** whether a column is null, or is not. -/
structure IsNullFilter where
  column : ColumnRef := .name ""
  isNull : Bool := false

/-- **A condition.** -/
inductive Filter where
  | comparison (comparison : ComparisonFilter)
  | membership (membership : InFilter)
  | like (pattern : LikeFilter)
  | isNull (test : IsNullFilter)
  | and (operands : List Filter)
  | or (operands : List Filter)
  | not (operand : Filter)

end QueryTree
