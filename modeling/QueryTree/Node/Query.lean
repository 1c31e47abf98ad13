import QueryTree.Node.Filter
/-!
# Queries — the description of a selection

A query selects from a table, which may be a query itself, and its
clauses may all be missing: which of them it must have is decided when
it is compiled.
-/

namespace QueryTree

/-- **The rows a query or a join reads:** those of a table, or those of a
query. -/
inductive Table (Query : Type) where
  | name (name : String)
  | query (query : Query)

/-- **A join** with a table. -/
structure Join (Query : Type) where
  /-- The kind of the join, such as `left`. -/
  kind : String := ""
  table : Option (Table Query) := none
  aliasName : Option String := none
  /-- The condition, which every join but a cross join needs. -/
  condition : Option Filter := none

/-- **One element of an ordering.** -/
structure OrderByElement where
  column : ColumnRef := .name ""
  /-- The direction, ascending where there is none. -/
  direction : Option String := none

/-- **Distinct rows,** by all of some columns or by one column. -/
structure Distinct where
  columns : List Column := []
  /-- The column whose values are distinct, where it is not all of them. -/
  key : Option Column := none

/-- **One value, or a list of them.** -/
inductive SingleOrList (α : Type) where
  | single (value : α)
  | list (values : List α)

/-- The values in their order. -/
def SingleOrList.toList {α : Type} : SingleOrList α → List α
  | single value => [value]
  | list values => values

/-- **A query.** -/
structure Query where
  /-- What the query is for, such as `query` or `subquery`. -/
  action : Option String := none
  table : Option (Table Query) := none
  /-- The alias of the query where it is a table. -/
  aliasName : Option String := none
  /-- The select list, all columns where there is none. -/
  columns : Option (List Column) := none
  filter : Option Filter := none
  join : Option (SingleOrList (Join Query)) := none
  groupBy : Option (List Column) := none
  having : Option Filter := none
  orderBy : Option (List OrderByElement) := none
  limit : Option UInt64 := none
  offset : Option UInt64 := none
  distinct : Option Distinct := none

namespace Query

/-- The joins of a query in their order. -/
def joins (query : Query) : List (Join Query) :=
  match query.join with
  | none => []
  | some joins => joins.toList

/-- Whether a query says nothing. -/
def isBlank (query : Query) : Bool :=
  query.action.isNone && query.table.isNone && query.aliasName.isNone &&
    query.columns.isNone && query.filter.isNone && query.join.isNone &&
    query.groupBy.isNone && query.having.isNone && query.orderBy.isNone &&
    query.limit.isNone && query.offset.isNone && query.distinct.isNone

end Query

end QueryTree
